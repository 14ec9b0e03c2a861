import Kufibot.Robot.ControlMotion
import Kufibot.StateMachine.Core
import Kufibot.StateMachine.Transition

/-!
# `Robot.States` — the eight states of `Robot` and their callbacks

`MovingState` is the parent of the four states that execute commands; the other states are roots. All
callbacks work on one environment, `RobotEnv`. `stayOnThisState()` of the source returns an empty
optional, so a callback that ends with it hands the event on to the parent.

Two fields are ghosts: `motions` records the calls of `control_motion`, and `terminated` is set when an
exception escapes from one of them into the worker thread, which ends the process.
-/

namespace Kufibot

open Lib

/-- The state objects of `Robot`. -/
inductive RobotState where
  | idleState
  | movingState
  | criticalErrorState
  | initializeState
  | tuiControlState
  | remoteControlState
  | talkingState
  | trackingState
deriving DecidableEq, Repr

namespace RobotState

/-- `_parentState`. -/
def parent : RobotState → Option RobotState
  | .tuiControlState | .remoteControlState | .talkingState | .trackingState => some .movingState
  | .idleState | .movingState | .criticalErrorState | .initializeState => none

def depth : RobotState → Nat
  | .tuiControlState | .remoteControlState | .talkingState | .trackingState => 1
  | .idleState | .movingState | .criticalErrorState | .initializeState => 0

/-- `MovingState` or one of its children. -/
def InMotion (s : RobotState) : Prop := s = .movingState ∨ s.parent = some .movingState

instance (s : RobotState) : Decidable s.InMotion :=
  inferInstanceAs (Decidable (s = .movingState ∨ s.parent = some .movingState))

end RobotState

/-- The state objects as a forest. -/
def robotStates : Forest RobotState where
  parent := RobotState.parent
  depth := RobotState.depth
  depth_lt := by
    intro s p h
    cases s <;> cases h <;> decide

/-- What the callbacks read and write. -/
structure RobotEnv where
  core : Core ControlEvent
  controllers : Controllers
  trig : Trig
  /-- What `JsonParserOperator::getJointAngles` returns. -/
  jointAngles : Option JointPositionList
  jointPositionList : JointPositionList
  enableSensorContinuousReadings : Bool
  /-- `_lastEventTime` of each state. -/
  lastEventTime : RobotState → Time
  /-- `_timeoutMs` of each state. -/
  timeoutMs : RobotState → Int
  /-- `_entrySource` of `TalkingState`. -/
  entrySource : SourceService
  /-- Ghost: the arguments of all calls of `control_motion`. -/
  motions : List ControlData
  /-- Ghost: an exception has escaped. -/
  terminated : Bool

/-- `ControlEvent(EventType::timeout)`. -/
def timeoutEvent : ControlEvent := { type := .timeout }

namespace RobotEnv

/-! ## Members of `Robot` and `State` -/

/-- `Robot::initialize`. -/
def initializeRobot (env : RobotEnv) : Bool × RobotEnv :=
  (true,
    { env with
      controllers := {
        compass := env.controllers.compass.setEnable false
        distance := env.controllers.distance.setEnable false
        power := env.controllers.power.setEnable false
        servo := env.controllers.servo.setEnable false
        dcMotor := env.controllers.dcMotor.setEnable false }
      jointPositionList := env.jointAngles.getD env.jointPositionList })

/-- `Robot::setEnableSensorContinuousReadings`: the sensors, or the motors. -/
def setEnableSensorContinuousReadings (enable : Bool) (env : RobotEnv) : RobotEnv :=
  { env with
    controllers := {
      compass := env.controllers.compass.setEnable enable
      distance := env.controllers.distance.setEnable enable
      power := env.controllers.power.setEnable enable
      servo := env.controllers.servo.setEnable !enable
      dcMotor := env.controllers.dcMotor.setEnable !enable }
    enableSensorContinuousReadings := enable }

/-- The sensors and the servos, as the states that execute commands enable them on entry. -/
def enableSensorsAndServo (env : RobotEnv) : RobotEnv :=
  { env with
    controllers := { env.controllers with
      compass := env.controllers.compass.setEnable true
      distance := env.controllers.distance.setEnable true
      power := env.controllers.power.setEnable true
      servo := env.controllers.servo.setEnable true } }

/-- `Robot::control_motion`, on the members of `Robot`. -/
def controlMotion (data : ControlData) (env : RobotEnv) : RobotEnv :=
  match Kufibot.controlMotion env.trig env.jointPositionList data env.controllers with
  | some controllers => { env with controllers := controllers, motions := env.motions ++ [data] }
  | none => { env with motions := env.motions ++ [data], terminated := true }

/-- `State::addPostDelayedEvent`, called on `s`: both arguments are ignored. -/
def addPostDelayedEvent (s : RobotState) (env : RobotEnv) : RobotEnv :=
  { env with core := env.core.postDelayedEvent timeoutEvent (env.timeoutMs s) }

/-- `_parentState->_lastEventTime = steady_clock::now()`, in a child of `MovingState`. -/
def refreshLastEventTime (env : RobotEnv) : RobotEnv :=
  { env with
    core := env.core.tick
    lastEventTime := fun s => if s = .movingState then env.core.now else env.lastEventTime s }

/-- The members as the constructor of `Robot` leaves them. -/
def create (clock : SteadyClock) (reads : Nat) (controllers : Controllers) (trig : Trig)
    (jointAngles : Option JointPositionList) : RobotEnv where
  core := {
    eventQueue := []
    timers := Multimap.empty
    running := false
    clock := clock
    reads := reads }
  controllers := controllers
  trig := trig
  jointAngles := jointAngles
  jointPositionList := fun _ _ => 0
  enableSensorContinuousReadings := false
  lastEventTime := fun _ => 0
  timeoutMs := fun s => if s = .movingState then 5000 else 0
  entrySource := .none
  motions := []
  terminated := false

/-- `_running = running;`. -/
def setRunning (running : Bool) (env : RobotEnv) : RobotEnv :=
  { env with core := { env.core with running := running } }

end RobotEnv

/-- What a callback returns: another state, or nothing. -/
abbrev Answer := Option RobotState × RobotEnv

/-- `return stayOnThisState();`. -/
def stayOnThisState (env : RobotEnv) : Answer := (none, env)

/-- `return transTo<T>();`. -/
def transTo (s : RobotState) (env : RobotEnv) : Answer := (some s, env)

/-! ## The callbacks -/

def IdleState.onEnter (env : RobotEnv) : Answer :=
  stayOnThisState (env.setEnableSensorContinuousReadings true)

def IdleState.onEvent (ev : ControlEvent) (env : RobotEnv) : Answer :=
  match ev.type with
  | .control => transTo .movingState env
  | _ => stayOnThisState env

/-- The watchdog is armed, and the source of the event decides which child takes over. -/
def MovingState.onEnter (ev : ControlEvent) (env : RobotEnv) : Answer :=
  -- the source sleeps for 400 ms between the two: the next reading of the clock may be any later one
  let env := env.setEnableSensorContinuousReadings false
  let env := env.addPostDelayedEvent .movingState
  match ev.source with
  | .tuiService => transTo .tuiControlState env
  | .remoteConnectionService => transTo .remoteControlState env
  | .expressionService => transTo .talkingState env
  | .landmarkTrackerService => transTo .talkingState env
  | _ => stayOnThisState env

def MovingState.onEvent (ev : ControlEvent) (env : RobotEnv) : Answer :=
  match ev.type with
  | .criticalError => transTo .criticalErrorState env
  | .timeout =>
      let diff := countMs (env.core.now - env.lastEventTime .movingState)
      let env := { env with core := env.core.tick }
      if (diff : Int) ≤ env.timeoutMs .movingState - 10 then
        stayOnThisState (env.addPostDelayedEvent .movingState)
      else transTo .idleState env
  | .stop => transTo .idleState env
  | _ => stayOnThisState env

/-- What a child of `MovingState` does: a control event is executed, and refreshes the session of the
    parent if `refresh` says so. -/
def controlEvent (refresh : Bool) (ev : ControlEvent) (env : RobotEnv) : Answer :=
  match ev.type with
  | .control =>
      let env := if refresh then env.refreshLastEventTime else env
      stayOnThisState (env.controlMotion ev.controlData)
  | _ => stayOnThisState env

def TuiControlState.onEvent (ev : ControlEvent) (env : RobotEnv) : Answer :=
  if ev.source ≠ .tuiService then stayOnThisState env else controlEvent true ev env

def RemoteControlState.onEnter (env : RobotEnv) : Answer :=
  stayOnThisState env.enableSensorsAndServo

def RemoteControlState.onEvent (ev : ControlEvent) (env : RobotEnv) : Answer :=
  controlEvent true ev env

def TalkingState.onEnter (ev : ControlEvent) (env : RobotEnv) : Answer :=
  stayOnThisState { env with entrySource := ev.source }.enableSensorsAndServo

def TalkingState.onEvent (ev : ControlEvent) (env : RobotEnv) : Answer :=
  controlEvent (ev.source = env.entrySource) ev env

def TrackingState.onEnter (env : RobotEnv) : Answer :=
  stayOnThisState env.enableSensorsAndServo

def TrackingState.onEvent (ev : ControlEvent) (env : RobotEnv) : Answer :=
  controlEvent true ev env

def InitializeState.onEnter (env : RobotEnv) : Answer :=
  let (ret, env) := env.initializeRobot
  if ret then transTo .idleState env else transTo .criticalErrorState env

namespace RobotState

/-- `onEnter` of each state; those not listed only write to the log. -/
def onEnter : RobotState → ControlEvent → RobotEnv → Answer
  | .idleState, _, env => IdleState.onEnter env
  | .movingState, ev, env => MovingState.onEnter ev env
  | .remoteControlState, _, env => RemoteControlState.onEnter env
  | .talkingState, ev, env => TalkingState.onEnter ev env
  | .trackingState, _, env => TrackingState.onEnter env
  | .initializeState, _, env => InitializeState.onEnter env
  | .criticalErrorState, _, env => stayOnThisState env
  | .tuiControlState, _, env => stayOnThisState env

/-- `onEvent` of each state; those not listed only write to the log. -/
def onEvent : RobotState → ControlEvent → RobotEnv → Answer
  | .idleState, ev, env => IdleState.onEvent ev env
  | .movingState, ev, env => MovingState.onEvent ev env
  | .tuiControlState, ev, env => TuiControlState.onEvent ev env
  | .remoteControlState, ev, env => RemoteControlState.onEvent ev env
  | .talkingState, ev, env => TalkingState.onEvent ev env
  | .trackingState, ev, env => TrackingState.onEvent ev env
  | .criticalErrorState, _, env => stayOnThisState env
  | .initializeState, _, env => stayOnThisState env

/-- Every `onExit` only writes to the log. -/
def onExit : RobotState → ControlEvent → RobotEnv → RobotEnv
  | _, _, env => env

end RobotState

/-! ## `Robot` -/

/-- The callbacks of all states. -/
def robotHandlers : Handlers RobotState ControlEvent RobotEnv where
  onEnter := RobotState.onEnter
  onEvent := RobotState.onEvent
  onExit := RobotState.onExit
  running env := env.core.running

abbrev Robot := StateMachine RobotState RobotEnv

namespace Robot

def transition (toState : RobotState) (cause : ControlEvent) (m : Robot) : Robot :=
  robotHandlers.transition robotStates (some toState) cause m

def dispatch (ev : ControlEvent) (m : Robot) : Robot := robotHandlers.dispatch robotStates ev m

/-- A `Robot` as its constructor leaves it, over its hardware, its clock and its configuration file. -/
def create (clock : SteadyClock) (reads : Nat) (controllers : Controllers) (trig : Trig)
    (jointAngles : Option JointPositionList) : Robot where
  currentState := none
  env := .create clock reads controllers trig jointAngles

/-- `StateMachine::start`, up to the end of the initial transition. -/
def start (m : Robot) : Robot :=
  transition .initializeState {} { m with env := m.env.setRunning true }

end Robot

end Kufibot
