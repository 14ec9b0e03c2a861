import Kufibot.Controllers.DCMotor
import Kufibot.Controllers.ServoMotor

/-!
# `Robot.ControlMotion` — from a command to the motors

`Robot::control_motion` reads the first payload of a command and turns it into calls of the servo and the
DC motor controller. No command touches the flags of a controller (`controlMotion_flags`), and a command
moves either joints or wheels. All that a command does to the servos are calls of `setJointAngle`
(`kept_controlMotion`).

The integers are unbounded here. `Robot.MotionInt` says which commands compute values of `int` only.
-/

namespace Kufibot

open Lib

/-- The five controllers. -/
structure Controllers where
  compass : Controller
  distance : Controller
  power : Controller
  servo : ServoMotorController
  dcMotor : DCMotorController

/-- What `sin` and `cos` return at `angle * M_PI / 180.0`. -/
structure Trig where
  sinDeg : Int → ℚ
  cosDeg : Int → ℚ
  abs_sinDeg_le : ∀ angle, |sinDeg angle| ≤ 1
  abs_cosDeg_le : ∀ angle, |cosDeg angle| ≤ 1

/-- The same sine and cosine for every angle. -/
def Trig.const (sin cos : ℚ) (hsin : |sin| ≤ 1) (hcos : |cos| ≤ 1) : Trig where
  sinDeg _ := sin
  cosDeg _ := cos
  abs_sinDeg_le _ := hsin
  abs_cosDeg_le _ := hcos

def Trig.up : Trig := .const 1 0 abs_one.le (abs_zero.trans_le zero_le_one)

def Trig.right : Trig := .const 0 1 (abs_zero.trans_le zero_le_one) abs_one.le

/-! ## The wheels -/

def rightMin : Int := -45
def rightMax : Int := 45
def upMin : Int := 45
def upMax : Int := 135
def leftMin : Int := 135
def leftMax : Int := -135
def downMin : Int := -135
def downMax : Int := -45

def controlBody (angle magnitude : Int) (c : DCMotorController) : DCMotorController :=
  let magnitude := if magnitude ≥ 100 then 95 else magnitude
  if magnitude = 0 ∧ angle = 0 then c.stop
  else
    -- the remainder of a negative number is negative
    let angle := (angle + 180).tmod 360 - 180
    if upMin ≤ angle ∧ angle < upMax then c.forward magnitude
    else if rightMin ≤ angle ∧ angle < rightMax then c.turnRight magnitude
    else if downMin ≤ angle ∧ angle < downMax then c.backward magnitude
    else if leftMin ≤ angle ∨ angle < leftMax then c.turnLeft magnitude
    else if angle = 0 ∨ magnitude = 0 then c.stop
    else c

/-! ## The joints -/

/-- `currentJointAngles[joint]`: 0 for a joint that is not recorded. -/
def recordedAngle (c : ServoMotorController) (joint : ServoMotorJoint) : Int :=
  ((c.getAllJointsAngle joint).getD 0).toNat

/-- `if (speed < 1) speed = 1;`. -/
def atLeastOne (speed : Int) : Int := if speed < 1 then 1 else speed

/-- Both joints of the head start from the angles recorded before the first of them moves. The sums are
    unbounded, here and in the next two functions; `OnInt.headDown` and its like check them. -/
def headDown (positions : JointPositionList) (speed : Int) (c : ServoMotorController) :
    ServoMotorController :=
  let speed := atLeastOne speed
  let target := recordedAngle c .headUpDown + 1 * speed
  let limit := positions .headUpDown .fulldown
  let target := if target ≥ limit then limit else target
  let neckTarget := recordedAngle c .neck - 1 * speed
  let neckLimit := positions .neck .fulldown
  let neckTarget := if neckTarget ≤ neckLimit then neckLimit else neckTarget
  (c.setJointAngle .headUpDown target).setJointAngle .neck neckTarget

def headUp (positions : JointPositionList) (speed : Int) (c : ServoMotorController) :
    ServoMotorController :=
  let speed := atLeastOne speed
  let target := recordedAngle c .headUpDown - 1 * speed
  let limit := positions .headUpDown .fullup
  let target := if target ≤ limit then limit else target
  let neckTarget := recordedAngle c .neck + 1 * speed
  let neckLimit := positions .neck .fullup
  let neckTarget := if neckTarget ≥ neckLimit then neckLimit else neckTarget
  (c.setJointAngle .headUpDown target).setJointAngle .neck neckTarget

def headLeft (speed : Int) (c : ServoMotorController) : ServoMotorController :=
  let target := recordedAngle c .headLeftRight + 1 * atLeastOne speed
  c.setJointAngle .headLeftRight (if target ≥ 180 then 180 else target)

def headRight (speed : Int) (c : ServoMotorController) : ServoMotorController :=
  let target := recordedAngle c .headLeftRight - 1 * atLeastOne speed
  c.setJointAngle .headLeftRight (if target ≤ 0 then 0 else target)

/-- The double nearest to `0.001`. -/
def deadZone : ℚ := Float64.round (1 / 1000)

/-- `abs(component * magnitude)`, converted to `int`. -/
def componentSpeed (component : ℚ) (magnitude : Int) : Int :=
  Float64.toInt |Float64.mul component magnitude|

/-- The vertical half of `control_head`. -/
def headVertical (positions : JointPositionList) (upDown : ℚ) (magnitude : Int)
    (c : ServoMotorController) : ServoMotorController :=
  let magUpDown := componentSpeed upDown magnitude
  if upDown > deadZone then headUp positions magUpDown c
  else if upDown < -deadZone then headDown positions magUpDown c
  else c

/-- The horizontal half of `control_head`. -/
def headHorizontal (leftRight : ℚ) (magnitude : Int) (c : ServoMotorController) :
    ServoMotorController :=
  let magLeftRight := componentSpeed leftRight magnitude
  if leftRight > deadZone then headRight magLeftRight c
  else if leftRight < -deadZone then headLeft magLeftRight c
  else c

def controlHead (trig : Trig) (positions : JointPositionList) (angle magnitude : Int)
    (c : ServoMotorController) : ServoMotorController :=
  if magnitude = 0 ∧ angle = 0 then c
  else
    let magnitude := if magnitude > 5 then 5 else magnitude
    headHorizontal (trig.cosDeg angle) magnitude
      (headVertical positions (trig.sinDeg angle) magnitude c)

/-- `(angle / 100.0) * 180.0` in doubles, converted to `int` by the call. -/
def scaledArmAngle (angle : Int) : Int :=
  Float64.toInt (Float64.mul (Float64.div angle 100) 180)

def controlArm (joint : ServoMotorJoint) (angle : Int) (c : ServoMotorController)
    (scale : Bool := true) : ServoMotorController :=
  c.setJointAngle joint (if scale then scaledArmAngle angle else angle)

def controlEye (positions : JointPositionList) (joint : ServoMotorJoint) (state : Bool)
    (c : ServoMotorController) : ServoMotorController :=
  match joint with
  | .eyeLeft => c.setJointAngle .eyeLeft (positions .eyeLeft (if state then .fullup else .fulldown))
  | .eyeRight => c.setJointAngle .eyeRight (positions .eyeRight (if state then .fullup else .fulldown))
  | _ => c

/-- One block of the joint map: a joint that is asked for moves unless it is recorded there already.
    `none`: `.at` throws for a joint that is not recorded. -/
def moveJoint (requested recorded : JointMap) (c : ServoMotorController) (joint : ServoMotorJoint) :
    Option ServoMotorController :=
  match requested joint with
  | none => some c
  | some angle =>
      (recorded joint).map fun current =>
        if angle ≠ current then c.setJointAngle joint angle.toNat else c

/-- The order in which the joints of a map are moved. -/
def jointOrder : List ServoMotorJoint :=
  [.leftArm, .rightArm, .neck, .headUpDown, .headLeftRight, .eyeLeft, .eyeRight]

def moveJoints (requested : JointMap) (c : ServoMotorController) : Option ServoMotorController :=
  jointOrder.foldlM (moveJoint requested c.getAllJointsAngle) c

/-! ## `control_motion` -/

/-- `Robot::control_motion`: the first payload that is set; `none` when an exception escapes. -/
def controlMotion (trig : Trig) (positions : JointPositionList) (data : ControlData)
    (c : Controllers) : Option Controllers :=
  if let some body := data.bodyJoystick then
    some { c with dcMotor := controlBody body.angle body.strength c.dcMotor }
  else if let some head := data.headJoystick then
    some { c with servo := controlHead trig positions head.angle head.strength c.servo }
  else if let some angle := data.leftArmAngle then
    some { c with servo := controlArm .leftArm angle c.servo }
  else if let some angle := data.rightArmAngle then
    some { c with servo := controlArm .rightArm angle c.servo }
  else if let some state := data.leftEye then
    some { c with servo := controlEye positions .eyeLeft state c.servo }
  else if let some state := data.rightEye then
    some { c with servo := controlEye positions .eyeRight state c.servo }
  else if let some (joint, angle) := data.jointAngle then
    some { c with servo := c.servo.setJointAngle joint angle.toNat }
  else if let some requested := data.jointAngles then
    (moveJoints requested c.servo).map fun servo => { c with servo := servo }
  else some c

/-! ## Commands keep the flags -/

@[simp] theorem controlBody_flags (angle magnitude : Int) (c : DCMotorController) :
    (controlBody angle magnitude c).toController = c.toController := by
  unfold controlBody
  simp only [DCMotorController.forward, DCMotorController.turnRight, DCMotorController.backward,
    DCMotorController.turnLeft]
  repeat' split
  all_goals simp

@[simp] theorem headDown_flags (positions : JointPositionList) (speed : Int)
    (c : ServoMotorController) : (headDown positions speed c).toController = c.toController := by
  simp [headDown]

@[simp] theorem headUp_flags (positions : JointPositionList) (speed : Int)
    (c : ServoMotorController) : (headUp positions speed c).toController = c.toController := by
  simp [headUp]

@[simp] theorem headLeft_flags (speed : Int) (c : ServoMotorController) :
    (headLeft speed c).toController = c.toController := by
  simp [headLeft]

@[simp] theorem headRight_flags (speed : Int) (c : ServoMotorController) :
    (headRight speed c).toController = c.toController := by
  simp [headRight]

@[simp] theorem headVertical_flags (positions : JointPositionList) (upDown : ℚ) (magnitude : Int)
    (c : ServoMotorController) :
    (headVertical positions upDown magnitude c).toController = c.toController := by
  unfold headVertical
  repeat' split
  all_goals simp

@[simp] theorem headHorizontal_flags (leftRight : ℚ) (magnitude : Int) (c : ServoMotorController) :
    (headHorizontal leftRight magnitude c).toController = c.toController := by
  unfold headHorizontal
  repeat' split
  all_goals simp

@[simp] theorem controlHead_flags (trig : Trig) (positions : JointPositionList)
    (angle magnitude : Int) (c : ServoMotorController) :
    (controlHead trig positions angle magnitude c).toController = c.toController := by
  unfold controlHead
  split
  · rfl
  · rw [headHorizontal_flags, headVertical_flags]

@[simp] theorem controlArm_flags (joint : ServoMotorJoint) (angle : Int) (c : ServoMotorController)
    (scale : Bool) : (controlArm joint angle c scale).toController = c.toController := by
  simp [controlArm]

@[simp] theorem controlEye_flags (positions : JointPositionList) (joint : ServoMotorJoint)
    (state : Bool) (c : ServoMotorController) :
    (controlEye positions joint state c).toController = c.toController := by
  cases joint <;> simp [controlEye]

theorem moveJoint_flags {requested recorded : JointMap} {c c' : ServoMotorController}
    {joint : ServoMotorJoint} (h : moveJoint requested recorded c joint = some c') :
    c'.toController = c.toController := by
  unfold moveJoint at h
  split at h
  · cases h; rfl
  · obtain ⟨current, _, rfl⟩ := Option.map_eq_some_iff.mp h
    split
    · simp
    · rfl

theorem foldlM_moveJoint_flags {requested recorded : JointMap} {joints : List ServoMotorJoint}
    {c c' : ServoMotorController} (h : joints.foldlM (moveJoint requested recorded) c = some c') :
    c'.toController = c.toController := by
  induction joints generalizing c with
  | nil => cases h; rfl
  | cons joint joints ih =>
      rw [List.foldlM_cons] at h
      obtain ⟨d, hd, hrest⟩ := Option.bind_eq_some_iff.mp h
      rw [ih hrest, moveJoint_flags hd]

/-- Two sets of controllers with the same flags. -/
structure SameFlags (c d : Controllers) : Prop where
  compass : d.compass = c.compass
  distance : d.distance = c.distance
  power : d.power = c.power
  servo : d.servo.toController = c.servo.toController
  dcMotor : d.dcMotor.toController = c.dcMotor.toController

theorem SameFlags.refl (c : Controllers) : SameFlags c c := ⟨rfl, rfl, rfl, rfl, rfl⟩

theorem SameFlags.of_servo {c : Controllers} {servo : ServoMotorController}
    (h : servo.toController = c.servo.toController) : SameFlags c { c with servo := servo } :=
  ⟨rfl, rfl, rfl, h, rfl⟩

theorem SameFlags.of_dcMotor {c : Controllers} {dcMotor : DCMotorController}
    (h : dcMotor.toController = c.dcMotor.toController) :
    SameFlags c { c with dcMotor := dcMotor } :=
  ⟨rfl, rfl, rfl, rfl, h⟩

/-- **A command leaves every flag alone.** -/
theorem controlMotion_flags {trig : Trig} {positions : JointPositionList} {data : ControlData}
    {c d : Controllers} (h : controlMotion trig positions data c = some d) : SameFlags c d := by
  unfold controlMotion at h
  split at h
  · cases h; exact .of_dcMotor (controlBody_flags ..)
  split at h
  · cases h; exact .of_servo (controlHead_flags ..)
  split at h
  · cases h; exact .of_servo (controlArm_flags ..)
  split at h
  · cases h; exact .of_servo (controlArm_flags ..)
  split at h
  · cases h; exact .of_servo (controlEye_flags ..)
  split at h
  · cases h; exact .of_servo (controlEye_flags ..)
  split at h
  · cases h; exact .of_servo (ServoMotorController.setJointAngle_flags ..)
  split at h
  · obtain ⟨servo, hservo, rfl⟩ := Option.map_eq_some_iff.mp h
    exact .of_servo (foldlM_moveJoint_flags hservo)
  · cases h; exact .refl c

/-! ## What every command keeps -/

/-- A property of the servo controller that `setJointAngle` keeps. -/
def KeptBySetJointAngle (P : ServoMotorController → Prop) : Prop :=
  ∀ c joint target, P c → P (c.setJointAngle joint target)

section Kept

variable {P : ServoMotorController → Prop} (hP : KeptBySetJointAngle P) {c : ServoMotorController}

include hP

theorem kept_headUp (positions : JointPositionList) (speed : Int) (h : P c) : P (headUp positions speed c) :=
  hP _ _ _ (hP _ _ _ h)

theorem kept_headDown (positions : JointPositionList) (speed : Int) (h : P c) :
    P (headDown positions speed c) :=
  hP _ _ _ (hP _ _ _ h)

theorem kept_controlHead (trig : Trig) (positions : JointPositionList) (angle magnitude : Int) (h : P c) :
    P (controlHead trig positions angle magnitude c) := by
  unfold controlHead
  split
  · exact h
  · have hvertical : ∀ upDown m, P (headVertical positions upDown m c) := by
      intro upDown m
      unfold headVertical
      simp only
      split_ifs
      · exact kept_headUp hP _ _ h
      · exact kept_headDown hP _ _ h
      · exact h
    unfold headHorizontal
    simp only
    split_ifs <;> first | exact hP _ _ _ (hvertical _ _) | exact hvertical _ _

theorem kept_controlEye (positions : JointPositionList) (joint : ServoMotorJoint) (state : Bool) (h : P c) :
    P (controlEye positions joint state c) := by
  unfold controlEye
  split
  · exact hP _ _ _ h
  · exact hP _ _ _ h
  · exact h

theorem kept_moveJoints {requested : JointMap} {d : ServoMotorController} (h : P c)
    (hd : moveJoints requested c = some d) : P d := by
  have main : ∀ (joints : List ServoMotorJoint) (recorded : JointMap) {c : ServoMotorController}, P c →
      joints.foldlM (moveJoint requested recorded) c = some d → P d := by
    intro joints recorded
    induction joints with
    | nil =>
        intro c h hd
        cases hd
        exact h
    | cons joint joints ih =>
        intro c h hd
        rw [List.foldlM_cons] at hd
        obtain ⟨e, he, hrest⟩ := Option.bind_eq_some_iff.mp hd
        refine ih ?_ hrest
        unfold moveJoint at he
        split at he
        · cases he; exact h
        · obtain ⟨current, _, rfl⟩ := Option.map_eq_some_iff.mp he
          split
          · exact hP _ _ _ h
          · exact h
  exact main jointOrder _ h hd

/-- **What `setJointAngle` keeps, every command keeps.** -/
theorem kept_controlMotion {trig : Trig} {positions : JointPositionList} {data : ControlData}
    {c d : Controllers} (h : P c.servo) (hd : controlMotion trig positions data c = some d) : P d.servo := by
  unfold controlMotion at hd
  split at hd
  · cases hd; exact h
  split at hd
  · cases hd; exact kept_controlHead hP _ _ _ _ h
  split at hd
  · cases hd; exact hP _ _ _ h
  split at hd
  · cases hd; exact hP _ _ _ h
  split at hd
  · cases hd; exact kept_controlEye hP positions .eyeLeft _ h
  split at hd
  · cases hd; exact kept_controlEye hP positions .eyeRight _ h
  split at hd
  · cases hd; exact hP _ _ _ h
  split at hd
  · obtain ⟨servo, hservo, rfl⟩ := Option.map_eq_some_iff.mp hd
    exact kept_moveJoints hP h hservo
  · cases hd; exact h

end Kept

end Kufibot
