import Kufibot.Lib.System
import Kufibot.Lib.Forest
import Kufibot.Lib.Multimap
import Kufibot.Lib.Float64
import Kufibot.Lib.Mirror
import Kufibot.Lib.AutoIncrement
import Kufibot.Lib.Binary32
import Kufibot.Lib.Outcome
import Kufibot.Lib.FillTable
import Kufibot.Lib.TwoRuns
import Kufibot.Lib.Json
import Kufibot.Lib.JsonWrite
import Kufibot.Lib.JsonWithout
import Kufibot.Lib.JsonText
import Kufibot.Lib.History
import Kufibot.Lib.Text
import Kufibot.Lib.Register
import Kufibot.Lib.FirstBest
import Kufibot.Lib.Counts
import Kufibot.Lib.Shell
import Kufibot.Lib.Scan
import Kufibot.Lib.DigitalLine
import Kufibot.Lib.Polling
import Kufibot.Messages
import Kufibot.Messages.Json
import Kufibot.Messages.CameraRecord
import Kufibot.Messages.Gestures
import Kufibot.Drivers.PCA9685
import Kufibot.Drivers.INA219
import Kufibot.Controllers.Controller
import Kufibot.Controllers.DCMotor
import Kufibot.Controllers.ServoMotor
import Kufibot.Controllers.SavedPose
import Kufibot.Controllers.Sensors
import Kufibot.StateMachine.Core
import Kufibot.StateMachine.Transition
import Kufibot.StateMachine.TransitionLaw
import Kufibot.StateMachine.Balance
import Kufibot.StateMachine.Loop
import Kufibot.StateMachine.LoopDelivery
import Kufibot.StateMachine.LoopWake
import Kufibot.StateMachine.Stop
import Kufibot.Services.RobotController
import Kufibot.Services.RobotRestart
import Kufibot.Services.Subscription
import Kufibot.Services.Lifecycle
import Kufibot.Services.SingleLoop
import Kufibot.Services.Restart
import Kufibot.Services.Rag
import Kufibot.Services.RagLookup
import Kufibot.Services.RemoteConnection
import Kufibot.Services.RemoteMailbox
import Kufibot.Services.RemoteReads
import Kufibot.Services.WifiCommand
import Kufibot.Services.Expression
import Kufibot.Services.ExpressionQueue
import Kufibot.Services.MotionSequence
import Kufibot.Services.VoiceAgent
import Kufibot.Services.InteractiveChat
import Kufibot.Services.ChatStall
import Kufibot.Services.ChatThread
import Kufibot.Services.ChatTurns
import Kufibot.Services.ChatReplies
import Kufibot.Services.RagReply
import Kufibot.Services.BestMatch
import Kufibot.Services.LandmarkTracker
import Kufibot.Services.LastKnownTarget
import Kufibot.Services.Perception
import Kufibot.Services.TuiConsole
import Kufibot.Services.RemoteStream
import Kufibot.Services.MessageFabric
import Kufibot.Services.OneMaster
import Kufibot.Services.ModeSwitch
import Kufibot.Services.ModeCalls
import Kufibot.Services.RemoteMode
import Kufibot.Operators.JsonParser
import Kufibot.Operators.Configuration
import Kufibot.Operators.MotionFile
import Kufibot.Operators.UnknownMotions
import Kufibot.Operators.UnknownNames
import Kufibot.Operators.LlamaOperator
import Kufibot.Operators.FaceGesture
import Kufibot.Operators.WebSocketOperator
import Kufibot.Robot.ControlMotion
import Kufibot.Robot.States
import Kufibot.Robot.Dispatch
import Kufibot.Robot.Run
import Kufibot.Robot.Arbitration
import Kufibot.Robot.Watchdog
import Kufibot.Robot.Rest
import Kufibot.Robot.Session
import Kufibot.Robot.Balance
import Kufibot.Robot.JointRange
import Kufibot.Robot.ActuatorRange
import Kufibot.Robot.Direction
import Kufibot.Robot.ServoRamp
import Kufibot.Robot.JointMapCommand
import Kufibot.Robot.MissingHardware
import Kufibot.Robot.HeadLimits
import Kufibot.Robot.HeadStep
import Kufibot.VoiceAgent.MessageTypes
import Kufibot.VoiceAgent.RequestReply
import Kufibot.VoiceAgent.Bridge
import Kufibot.VoiceAgent.Mimic
import Kufibot.VoiceAgent.Delivery
import Kufibot.VoiceAgent.Requests
import Kufibot.VoiceAgent.EchoSuppression
import Kufibot.VoiceAgent.Debounce
import Kufibot.VoiceAgent.Turn
import Kufibot.Logger
import Kufibot.Tui.GraphWindow
import Kufibot.Tui.MainWindow
import Kufibot.Services.TuiWindow
import Kufibot.Services.SensorValues
import Kufibot.Services.Recognition
import Kufibot.Services.Reactions
import Kufibot.Services.HeadTarget
