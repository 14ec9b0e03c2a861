import Mathlib.Data.Rat.Init
import Kufibot.Messages
import Kufibot.VoiceAgent.MessageTypes

/-!
# `Messages.Gestures` — what a reply can be accompanied by

The records of `gesture_defs.h`. A gesture pairs an enumerator with the text that it is recognised by; its
embedding is calculated when the chat starts. `motorPos` is set and read by nothing. The motions of the
three kinds have the same fields. A `std::map` is a function to an optional value, and `int` is `Int32`.
-/

namespace Kufibot

inductive DirectiveType where
  | followFinger
  | stopFollow
deriving DecidableEq, Repr

structure EmotionalGesture where
  emotion : EmotionType
  symbol : String
  description : String
  embedding : List ℚ := []
deriving DecidableEq

structure ReactionalGesture where
  reaction : ReactionType
  antiReaction : ReactionType := .greeting
  symbol : String
  description : String
  embedding : List ℚ := []
deriving DecidableEq

structure Directive where
  directive : DirectiveType
  symbol : String
  description : String
  embedding : List ℚ := []
deriving DecidableEq

/-- `std::map<ServoMotorJoint, GestureJointState>`. -/
abbrev JointPositions := ServoMotorJoint → Option GestureJointState

structure MotionSequenceItem where
  time : Int32
  joints : JointPositions

/-- `EmotionalMotion`, `ReactionalMotion` and `DirectiveMotion`. -/
structure MotionDefinition where
  name : String
  description : String
  duration : Int32
  joints : JointPositions
  sequence : List MotionSequenceItem

structure GestureJointAngle where
  angle : Int
  symbol : String
deriving DecidableEq, Repr

structure FaceReaction where
  emotion : String
  reaction : String
deriving DecidableEq, Repr

end Kufibot
