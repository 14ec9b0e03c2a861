import Kufibot.Controllers.Controller
import Kufibot.Drivers.PCA9685
import Kufibot.Lib.Float64

/-!
# `Controllers.ServoMotor` — the joint servos

A joint is moved to its target in steps; each step writes a pulse, records the angle in 8 bits and saves
all joints to a file. The loop of `setJointAngle` is `rampAngles`, the list of the angles it commands.
-/

namespace Kufibot

open Lib

structure ServoMotorController extends Controller where
  driver : PCA9685Driver
  currentJointAngles : JointMap
  /-- The content `saveJointAngles` wrote last. -/
  saveFile : Option JointMap

namespace ServoMotorController

def setEnable (enable : Bool) (c : ServoMotorController) : ServoMotorController :=
  { c with toController := c.toController.setEnable enable }

def getAllJointsAngle (c : ServoMotorController) : JointMap := c.currentJointAngles

/-- `500 + (currentAngle / 180.0) * 2000` microseconds, computed in doubles. -/
def pulseOf (angle : Int) : Int :=
  Float64.toInt (Float64.add 500 (Float64.mul (Float64.div angle 180) 2000))

/-- The angles commanded on the way to `target`: `step` at a time, the last step cut at the target. The
    fuel bounds the number of steps; the distance to the target is enough for every `step ≥ 1`. -/
def rampAngles (target direction step : Int) : Nat → Int → List Int
  | 0, _ => []
  | fuel + 1, currentAngle =>
      if currentAngle = target then []
      else
        let next := currentAngle + direction * step
        let next :=
          if (direction = 1 ∧ next > target) ∨ (direction = -1 ∧ next < target) then target else next
        next :: rampAngles target direction step fuel next

def recordAngle (joint : ServoMotorJoint) (angle : Int) (c : ServoMotorController) :
    ServoMotorController :=
  { c with
    currentJointAngles := fun j => if j = joint then some (toUInt8 angle) else c.currentJointAngles j }

def saveJointAngles (c : ServoMotorController) : ServoMotorController :=
  { c with saveFile := some c.currentJointAngles }

/-- One pass of the loop: pulse, record, save. -/
def commandAngle (joint : ServoMotorJoint) (angle : Int) (c : ServoMotorController) :
    ServoMotorController :=
  let c := { c with driver := c.driver.setDutyCyclePulse joint.channel (pulseOf angle) }
  (c.recordAngle joint angle).saveJointAngles

def setJointAngle (joint : ServoMotorJoint) (targetAngle : Int) (c : ServoMotorController)
    (step : Int := 1) : ServoMotorController :=
  if !c.isEnabled || !c.isReady then c
  else
    -- `operator[]` reads 0 for a joint that is not recorded
    let currentAngle : Int := ((c.currentJointAngles joint).getD 0).toNat
    let direction : Int := if targetAngle > currentAngle then 1 else -1
    let angles := rampAngles targetAngle direction step (targetAngle - currentAngle).natAbs currentAngle
    (angles.foldl (fun c angle => c.commandAngle joint angle) c).recordAngle joint targetAngle

/-- The order of the keys in a map of joints. -/
def mapOrder : List ServoMotorJoint :=
  [.rightArm, .leftArm, .neck, .headLeftRight, .headUpDown, .eyeRight, .eyeLeft]

def setAllJointsAngle (angles : JointMap) (c : ServoMotorController) : ServoMotorController :=
  mapOrder.foldl
    (fun c joint =>
      match angles joint with
      | some angle => c.setJointAngle joint angle.toNat
      | none => c)
    c

/-! ## Construction -/

/-- The angles that `initialize` records. -/
def initialJointAngles : JointMap
  | .rightArm => some 15
  | .leftArm => some 170
  | .neck => some 30
  | .headUpDown => some 15
  | .headLeftRight => some 90
  | .eyeRight => some 160
  | .eyeLeft => some 20

/-- `saved` has the joints that the file names, as far as it can be read. -/
def loadJointAngles (saved : JointMap) (c : ServoMotorController) : ServoMotorController :=
  { c with currentJointAngles := fun j => (c.currentJointAngles j).map fun angle => (saved j).getD angle }

/-- The constructor, with what `initPCA9685` returns. -/
def constructed (ret : Bool) (saved : JointMap) (driver : PCA9685Driver) : ServoMotorController :=
  let c : ServoMotorController := { driver, currentJointAngles := fun _ => none, saveFile := none }
  if ret then
    loadJointAngles saved { c with currentJointAngles := initialJointAngles, initialized := true }
  else { c with initialized := false }

/-! ## Commands keep the flags -/

@[simp] theorem recordAngle_flags (j : ServoMotorJoint) (a : Int) (c : ServoMotorController) :
    (c.recordAngle j a).toController = c.toController := rfl

@[simp] theorem commandAngle_flags (j : ServoMotorJoint) (a : Int) (c : ServoMotorController) :
    (c.commandAngle j a).toController = c.toController := rfl

@[simp] theorem foldl_commandAngle_flags (j : ServoMotorJoint) (as : List Int)
    (c : ServoMotorController) :
    (as.foldl (fun c a => c.commandAngle j a) c).toController = c.toController := by
  induction as generalizing c with
  | nil => rfl
  | cons a as ih => rw [List.foldl_cons, ih, commandAngle_flags]

@[simp] theorem setJointAngle_flags (j : ServoMotorJoint) (a step : Int) (c : ServoMotorController) :
    (c.setJointAngle j a step).toController = c.toController := by
  unfold setJointAngle
  split <;> simp

end ServoMotorController

end Kufibot
