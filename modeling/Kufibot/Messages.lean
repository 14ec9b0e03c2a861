import Mathlib.Algebra.Group.Int.Defs
import Mathlib.Algebra.Group.Nat.Defs
import Mathlib.Data.Int.Notation

/-!
# `Messages` — the data that services, events and controllers exchange

The part of `public_data_messages.h`, `controller_data_structures.h` and `gesture_defs.h` that the
modelled functions read. C++ `int` is `Int`, `uint8_t` is `UInt8`, and a `std::map` keyed by an
enumeration is a function into `Option`.
-/

namespace Kufibot

/-- Who sent a message. -/
inductive SourceService where
  | none
  | expressionService
  | perceptionService
  | landmarkTrackerService
  | mappingService
  | tuiService
  | remoteControllerService
  | remoteConnectionService
  | interactiveChatService
deriving DecidableEq, Repr

/-- What an event of the state machine asks for. -/
inductive EventType where
  | none
  | criticalError
  | stop
  | timeout
  | control
  | listenVoice
deriving DecidableEq, Repr

/-- The seven servo joints, in the order of their driver channels. -/
inductive ServoMotorJoint where
  | rightArm
  | leftArm
  | neck
  | headLeftRight
  | headUpDown
  | eyeRight
  | eyeLeft
deriving DecidableEq, Repr

/-- `(int)joint`: the PWM channel of a joint. -/
def ServoMotorJoint.channel : ServoMotorJoint → Nat
  | .rightArm => 0
  | .leftArm => 1
  | .neck => 2
  | .headLeftRight => 3
  | .headUpDown => 4
  | .eyeRight => 5
  | .eyeLeft => 6

/-- The named positions of a joint. -/
inductive GestureJointState where
  | fulldown
  | fullup
  | halfdown
  | halfup
  | middle
deriving DecidableEq, Repr

/-- `std::map<ServoMotorJoint, uint8_t>`. -/
abbrev JointMap := ServoMotorJoint → Option UInt8

/-- The configured joint positions; `operator[]` reads angle 0 where the file has no entry. -/
abbrev JointPositionList := ServoMotorJoint → GestureJointState → Int

structure BoundingBox where
  xmin : Int := 0
  ymin : Int := 0
  xmax : Int := 0
  ymax : Int := 0
  valid : Bool := false
deriving DecidableEq

structure JoyStickData where
  angle : Int := 0
  strength : Int := 0
deriving DecidableEq, Repr

/-- A motion command. At most one field is set by the constructors of the source; `controlMotion`
    reads the first one that is. -/
structure ControlData where
  source : Option SourceService := none
  jointAngle : Option (ServoMotorJoint × UInt8) := none
  jointAngles : Option JointMap := none
  headJoystick : Option JoyStickData := none
  bodyJoystick : Option JoyStickData := none
  leftArmAngle : Option Int := none
  rightArmAngle : Option Int := none
  leftEye : Option Bool := none
  rightEye : Option Bool := none

/-- An event of the state machine. -/
structure ControlEvent where
  type : EventType := .none
  source : SourceService := .none
  controlData : ControlData := {}

/-! ## Machine integers -/

/-- An `int` has this value. -/
def FitsInt (n : Int) : Prop := -2 ^ 31 ≤ n ∧ n < 2 ^ 31

instance (n : Int) : Decidable (FitsInt n) := inferInstanceAs (Decidable (_ ∧ _))

/-- Conversion to `int` keeps what fits. -/
theorem bmod_eq_self_iff (n : Int) : n.bmod (2 ^ 32) = n ↔ FitsInt n := by
  unfold Int.bmod FitsInt
  simp only
  split <;> omega

/-- What follows the computation of an `int`; undefined if the value does not fit. -/
def whenFits {α : Type} (n : Int) (x : α) : Option α := if FitsInt n then some x else none

theorem whenFits_eq_some_iff {α : Type} {n : Int} {x y : α} :
    whenFits n x = some y ↔ FitsInt n ∧ x = y := by
  unfold whenFits
  split <;> simp [*]

/-- `uint8_t` conversion of an `int`. -/
def toUInt8 (x : Int) : UInt8 := UInt8.ofNat (x % 256).toNat

theorem toUInt8_toNat (angle : UInt8) : toUInt8 angle.toNat = angle := by
  apply UInt8.toNat_inj.mp
  have hlt := angle.toNat_lt
  rw [toUInt8, UInt8.toNat_ofNat']
  omega

end Kufibot
