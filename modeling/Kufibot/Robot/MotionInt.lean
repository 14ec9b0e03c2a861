import Kufibot.Lib.Computes
import Kufibot.Robot.Direction
import Kufibot.Robot.HeadLimits

/-!
# `Robot.MotionInt` — `control_motion` on `int`

The functions of `Robot.ControlMotion` compute with unbounded integers. In C++ a sum or product that is no
`int` is undefined, and so is the conversion of a double that no `int` holds. The functions in `OnInt` are the
same with these checks: `none` is an exception that escapes, or a value that is no `int`.

The loop of `setJointAngle` multiplies each pulse by 4096, which bounds the angles that it can go to
(`Turnable`). `ComputesInts` puts the conditions of all commands together, on the command, the recorded angles
and the configured positions (`OnInt.controlMotion_eq_some_iff`).
-/

namespace Kufibot

open Lib ServoMotorController

theorem computes_whenFits {α : Type} (n : Int) (x : α) : Computes (whenFits n x) (FitsInt n) x :=
  ⟨fun _ => whenFits_eq_some_iff⟩

/-! ## The sites -/

namespace OnInt

/-- One pass of the loop of `setJointAngle`. The `int` that the pulse is multiplied in is the one of
    `setDutyCyclePulse`. -/
def commandAngle (joint : ServoMotorJoint) (angle : Int) (c : ServoMotorController) :
    Option ServoMotorController := do
  let pulse ← whenFits (pulseOf angle) (pulseOf angle)
  whenFits (pulse * 4096) (c.commandAngle joint angle)

/-- With steps of one degree the sums stay between the recorded angle and the target. -/
def setJointAngle (joint : ServoMotorJoint) (targetAngle : Int) (c : ServoMotorController) :
    Option ServoMotorController :=
  if !c.isEnabled || !c.isReady then some c
  else
    let currentAngle : Int := ((c.currentJointAngles joint).getD 0).toNat
    let direction : Int := if targetAngle > currentAngle then 1 else -1
    let angles := rampAngles targetAngle direction 1 (targetAngle - currentAngle).natAbs currentAngle
    (angles.foldlM (fun c angle => commandAngle joint angle c) c).map fun c => c.recordAngle joint targetAngle

section Servo

variable (positions : JointPositionList)

def headDown (speed : Int) (c : ServoMotorController) : Option ServoMotorController := do
  let speed := atLeastOne speed
  let target ← whenFits (recordedAngle c .headUpDown + 1 * speed) (recordedAngle c .headUpDown + 1 * speed)
  let limit := positions .headUpDown .fulldown
  let target := if target ≥ limit then limit else target
  -- the difference of a byte and a positive `int` always fits
  let neckTarget := recordedAngle c .neck - 1 * speed
  let neckLimit := positions .neck .fulldown
  let neckTarget := if neckTarget ≤ neckLimit then neckLimit else neckTarget
  let c ← setJointAngle .headUpDown target c
  setJointAngle .neck neckTarget c

def headUp (speed : Int) (c : ServoMotorController) : Option ServoMotorController := do
  let speed := atLeastOne speed
  let target := recordedAngle c .headUpDown - 1 * speed
  let limit := positions .headUpDown .fullup
  let target := if target ≤ limit then limit else target
  let neckTarget ← whenFits (recordedAngle c .neck + 1 * speed) (recordedAngle c .neck + 1 * speed)
  let neckLimit := positions .neck .fullup
  let neckTarget := if neckTarget ≥ neckLimit then neckLimit else neckTarget
  let c ← setJointAngle .headUpDown target c
  setJointAngle .neck neckTarget c

def headLeft (speed : Int) (c : ServoMotorController) : Option ServoMotorController := do
  let target ← whenFits (recordedAngle c .headLeftRight + 1 * atLeastOne speed)
    (recordedAngle c .headLeftRight + 1 * atLeastOne speed)
  setJointAngle .headLeftRight (if target ≥ 180 then 180 else target) c

def headRight (speed : Int) (c : ServoMotorController) : Option ServoMotorController :=
  let target := recordedAngle c .headLeftRight - 1 * atLeastOne speed
  setJointAngle .headLeftRight (if target ≤ 0 then 0 else target) c

def headVertical (upDown : ℚ) (magnitude : Int) (c : ServoMotorController) :
    Option ServoMotorController := do
  let magUpDown ← whenFits (componentSpeed upDown magnitude) (componentSpeed upDown magnitude)
  if upDown > deadZone then headUp positions magUpDown c
  else if upDown < -deadZone then headDown positions magUpDown c
  else some c

def headHorizontal (leftRight : ℚ) (magnitude : Int) (c : ServoMotorController) :
    Option ServoMotorController := do
  let magLeftRight ← whenFits (componentSpeed leftRight magnitude) (componentSpeed leftRight magnitude)
  if leftRight > deadZone then headRight magLeftRight c
  else if leftRight < -deadZone then headLeft magLeftRight c
  else some c

def controlHead (trig : Trig) (angle magnitude : Int) (c : ServoMotorController) :
    Option ServoMotorController :=
  if magnitude = 0 ∧ angle = 0 then some c
  else do
    let magnitude := if magnitude > 5 then 5 else magnitude
    let c ← headVertical positions (trig.sinDeg angle) magnitude c
    headHorizontal (trig.cosDeg angle) magnitude c

def controlArm (joint : ServoMotorJoint) (angle : Int) (c : ServoMotorController) :
    Option ServoMotorController := do
  let mappedAngle ← whenFits (scaledArmAngle angle) (scaledArmAngle angle)
  setJointAngle joint mappedAngle c

def controlEye (joint : ServoMotorJoint) (state : Bool) (c : ServoMotorController) :
    Option ServoMotorController :=
  match joint with
  | .eyeLeft => setJointAngle .eyeLeft (positions .eyeLeft (if state then .fullup else .fulldown)) c
  | .eyeRight => setJointAngle .eyeRight (positions .eyeRight (if state then .fullup else .fulldown)) c
  | _ => some c

def moveJoint (requested recorded : JointMap) (c : ServoMotorController) (joint : ServoMotorJoint) :
    Option ServoMotorController :=
  match requested joint with
  | none => some c
  | some angle => do
      let current ← recorded joint
      if angle ≠ current then setJointAngle joint angle.toNat c else some c

def moveJoints (requested : JointMap) (c : ServoMotorController) : Option ServoMotorController :=
  jointOrder.foldlM (moveJoint requested c.getAllJointsAngle) c

end Servo

/-- The speed is multiplied by 4096 in `setDutyCyclePercent`. -/
def run (motor : DCMotor) (direction : DCMotorDirection) (speed : Int) (c : DCMotorController) :
    Option DCMotorController :=
  if !c.isEnabled || !c.isReady then some c
  else whenFits (speed * 4096) (c.run motor direction speed)

def drive (right left : DCMotorDirection) (magnitude : Int) (c : DCMotorController) :
    Option DCMotorController :=
  if !c.isEnabled || !c.isReady then some c
  else do
    let c ← run .right right magnitude c
    run .left left magnitude c

def controlBody (angle magnitude : Int) (c : DCMotorController) : Option DCMotorController :=
  let magnitude := if magnitude ≥ 100 then 95 else magnitude
  if magnitude = 0 ∧ angle = 0 then some c.stop
  else do
    let sum ← whenFits (angle + 180) (angle + 180)
    let angle := sum.tmod 360 - 180
    if upMin ≤ angle ∧ angle < upMax then drive .forward .forward magnitude c
    else if rightMin ≤ angle ∧ angle < rightMax then drive .forward .backward magnitude c
    else if downMin ≤ angle ∧ angle < downMax then drive .backward .backward magnitude c
    else if leftMin ≤ angle ∨ angle < leftMax then drive .backward .forward magnitude c
    else if angle = 0 ∨ magnitude = 0 then some c.stop
    else some c

/-- **`Robot::control_motion` on `int`**; a byte needs no check. -/
def controlMotion (trig : Trig) (positions : JointPositionList) (data : ControlData) (c : Controllers) :
    Option Controllers :=
  if let some body := data.bodyJoystick then
    (controlBody body.angle body.strength c.dcMotor).map fun dcMotor => { c with dcMotor := dcMotor }
  else if let some head := data.headJoystick then
    (controlHead positions trig head.angle head.strength c.servo).map fun servo => { c with servo := servo }
  else if let some angle := data.leftArmAngle then
    (controlArm .leftArm angle c.servo).map fun servo => { c with servo := servo }
  else if let some angle := data.rightArmAngle then
    (controlArm .rightArm angle c.servo).map fun servo => { c with servo := servo }
  else if let some state := data.leftEye then
    (controlEye positions .eyeLeft state c.servo).map fun servo => { c with servo := servo }
  else if let some state := data.rightEye then
    (controlEye positions .eyeRight state c.servo).map fun servo => { c with servo := servo }
  else if let some (joint, angle) := data.jointAngle then
    (setJointAngle joint angle.toNat c.servo).map fun servo => { c with servo := servo }
  else if let some requested := data.jointAngles then
    (moveJoints requested c.servo).map fun servo => { c with servo := servo }
  else some c

end OnInt

/-! ## One joint -/

/-- An angle whose pulse, times 4096, is an `int`. -/
def Turnable (angle : Int) : Prop := -47231 ≤ angle ∧ angle ≤ 47140

/-- How far the pulse is from that of exact arithmetic. -/
theorem abs_pulse_sub_le (angle : Int) :
    |Float64.add 500 (Float64.mul (Float64.div angle 180) 2000) - (500 + (angle : ℚ) / 180 * 2000)| ≤
      (|(angle : ℚ)| + 100) / 2 ^ 40 := by
  have hscaled := Float64.abs_mul_div_sub_le angle 180 2000
  have hadd : |Float64.add 500 (Float64.mul (Float64.div angle 180) 2000) -
      (500 + Float64.mul (Float64.div angle 180) 2000)| ≤
        |500 + Float64.mul (Float64.div angle 180) 2000| / 2 ^ 53 := Float64.abs_round_sub_le _
  generalize Float64.mul (Float64.div angle 180) 2000 = scaled at hscaled hadd ⊢
  have hexact : |(angle : ℚ) / 180 * 2000| = |(angle : ℚ)| * (100 / 9) := by
    rw [abs_mul, abs_div, abs_of_pos (show (0 : ℚ) < 180 by norm_num),
      abs_of_pos (show (0 : ℚ) < 2000 by norm_num)]
    ring
  rw [hexact] at hscaled
  have hsize := abs_sub_abs_le_abs_sub scaled ((angle : ℚ) / 180 * 2000)
  have hsum := abs_add_le (500 : ℚ) scaled
  have htotal := abs_sub_le (Float64.add 500 scaled) (500 + scaled) (500 + (angle : ℚ) / 180 * 2000)
  rw [add_sub_add_left_eq_sub] at htotal
  rw [abs_of_pos (show (0 : ℚ) < 500 by norm_num)] at hsum
  rw [hexact] at hsize
  have hnonneg := abs_nonneg (angle : ℚ)
  linarith

/-- **The angles that a servo can be turned to** before the product overflows. -/
theorem fitsInt_pulse_iff (angle : Int) : FitsInt (pulseOf angle * 4096) ↔ Turnable angle := by
  have herror := abs_le.mp (abs_pulse_sub_le angle)
  obtain ⟨hlow, hhigh⟩ := herror
  unfold Turnable
  constructor
  · rintro ⟨hmin, hmax⟩
    constructor
    · by_contra hangle
      have hneg : (angle : ℚ) ≤ -47232 := by exact_mod_cast Int.le_sub_one_of_lt (not_le.mp hangle)
      rw [abs_of_nonpos (by linarith)] at hlow hhigh
      have hpulse : pulseOf angle ≤ -524289 :=
        Float64.toInt_le (by norm_num) (by push_cast; linarith)
      omega
    · by_contra hangle
      have hpos : (47141 : ℚ) ≤ angle := by exact_mod_cast not_le.mp hangle
      rw [abs_of_nonneg (by linarith)] at hlow hhigh
      have hpulse : 524288 ≤ pulseOf angle :=
        Float64.le_toInt (by norm_num) (by push_cast; linarith)
      omega
  · rintro ⟨hmin, hmax⟩
    have hmin' : (-47231 : ℚ) ≤ angle := by exact_mod_cast hmin
    have hmax' : (angle : ℚ) ≤ 47140 := by exact_mod_cast hmax
    have habs : |(angle : ℚ)| ≤ 47231 := abs_le.mpr ⟨by linarith, by linarith⟩
    have hover : pulseOf angle < 524288 := Float64.toInt_lt (by norm_num) (by push_cast; linarith)
    have hunder : -524289 < pulseOf angle := Float64.lt_toInt (by norm_num) (by push_cast; linarith)
    unfold FitsInt
    omega

theorem obeys_setJointAngle_iff {c : ServoMotorController} (joint : ServoMotorJoint) (target : Int) :
    (c.setJointAngle joint target).Obeys ↔ c.Obeys := by
  unfold Obeys
  rw [setJointAngle_flags]

namespace OnInt

variable {c : ServoMotorController}

theorem computes_commandAngle (joint : ServoMotorJoint) (angle : Int) (c : ServoMotorController) :
    Computes (commandAngle joint angle c) (Turnable angle) (c.commandAngle joint angle) := by
  have hproduct : Computes (commandAngle joint angle c)
      (FitsInt (pulseOf angle) ∧ FitsInt (pulseOf angle * 4096)) (c.commandAngle joint angle) :=
    (computes_whenFits _ _).bind (computes_whenFits _ _)
  refine hproduct.congr ?_
  rw [← fitsInt_pulse_iff]
  unfold FitsInt
  omega

/-- From a byte to a target that can be reached, all angles can. -/
theorem turnable_commandedAngles_iff (joint : ServoMotorJoint) (target : Int) (c : ServoMotorController) :
    (∀ angle ∈ commandedAngles joint target c, Turnable angle) ↔ Turnable target := by
  obtain ⟨hrecorded0, hrecorded⟩ := recordedAngle_mem c joint
  unfold Turnable
  constructor
  · intro hall
    rcases commandedAngles_last joint target c with ⟨htarget, _⟩ | ⟨before, hlast⟩
    · omega
    · exact hall target (hlast ▸ List.mem_append_right _ (List.mem_singleton_self target))
  · intro htarget angle hangle
    rcases mem_commandedAngles_iff.mp hangle with ⟨_, _⟩ | ⟨_, _⟩ <;> omega

/-- **`setJointAngle` is defined** iff the pulse of the target is. -/
theorem computes_setJointAngle (joint : ServoMotorJoint) (target : Int) (c : ServoMotorController) :
    Computes (setJointAngle joint target c) (c.Obeys → Turnable target) (c.setJointAngle joint target) := by
  by_cases hobeys : c.Obeys
  · have hloop := Computes.foldlM (fun c angle => computes_commandAngle joint angle c)
      (commandedAngles joint target c) c
    rw [setJointAngle_eq hobeys, setJointAngle, if_neg (by simp [hobeys.1, hobeys.2])]
    refine (hloop.map fun c => c.recordAngle joint target).congr ?_
    rw [turnable_commandedAngles_iff, forall_prop_of_true hobeys]
  · have hdropped : (!c.isEnabled || !c.isReady) = true := by
      simpa [Obeys, Decidable.imp_iff_not_or] using hobeys
    rw [setJointAngle_of_not_obeys hobeys, setJointAngle, if_pos hdropped]
    exact (Computes.pure c).congr ⟨fun _ hobeys' => absurd hobeys' hobeys, fun _ => trivial⟩

/-- A byte is reached. -/
theorem setJointAngle_toNat (joint : ServoMotorJoint) (angle : UInt8) (c : ServoMotorController) :
    setJointAngle joint angle.toNat c = some (c.setJointAngle joint angle.toNat) := by
  have hlt := angle.toNat_lt
  exact (computes_setJointAngle joint _ c).of_defined fun _ => ⟨by omega, by omega⟩

end OnInt

/-! ## The head -/

/-- Lowering the angle by `speed`, but not below `limit`, ends at an angle that can be turned to. -/
def TurnsDown (current speed limit : Int) : Prop := limit ≤ 47140 ∧ (-47231 ≤ limit ∨ speed ≤ current + 47231)

/-- Raising the angle by `speed`, but not above `limit`, ends at an angle that can be turned to. -/
def TurnsUp (current speed limit : Int) : Prop := -47231 ≤ limit ∧ (limit ≤ 47140 ∨ current + speed ≤ 47140)

def HeadUpTurns (positions : JointPositionList) (speed : Int) (c : ServoMotorController) : Prop :=
  TurnsDown (recordedAngle c .headUpDown) (atLeastOne speed) (positions .headUpDown .fullup) ∧
    TurnsUp (recordedAngle c .neck) (atLeastOne speed) (positions .neck .fullup)

def HeadDownTurns (positions : JointPositionList) (speed : Int) (c : ServoMotorController) : Prop :=
  TurnsUp (recordedAngle c .headUpDown) (atLeastOne speed) (positions .headUpDown .fulldown) ∧
    TurnsDown (recordedAngle c .neck) (atLeastOne speed) (positions .neck .fulldown)

def VerticalTurns (positions : JointPositionList) (upDown : ℚ) (magnitude : Int)
    (c : ServoMotorController) : Prop :=
  if upDown > deadZone then HeadUpTurns positions (componentSpeed upDown magnitude) c
  else if upDown < -deadZone then HeadDownTurns positions (componentSpeed upDown magnitude) c
  else True

/-- **A head joystick ends at angles that can be turned to**; sideways it always does. -/
def HeadTurns (trig : Trig) (positions : JointPositionList) (angle magnitude : Int)
    (c : ServoMotorController) : Prop :=
  if magnitude = 0 ∧ angle = 0 then True
  else VerticalTurns positions (trig.sinDeg angle) (if magnitude > 5 then 5 else magnitude) c

theorem turnsDown_iff {current speed limit : Int} (hcurrent : 0 ≤ current ∧ current < 256)
    (hspeed : 0 < speed) :
    Turnable (if current - 1 * speed ≤ limit then limit else current - 1 * speed) ↔
      TurnsDown current speed limit := by
  unfold Turnable TurnsDown
  split <;> omega

theorem turnsUp_iff {current speed limit : Int} (hcurrent : 0 ≤ current ∧ current < 256)
    (hspeed : 0 < speed) :
    Turnable (if current + 1 * speed ≥ limit then limit else current + 1 * speed) ↔
      TurnsUp current speed limit := by
  unfold Turnable TurnsUp
  split <;> omega

namespace OnInt

/-- Two joints, one after the other. -/
theorem computes_setTwoAngles (joint joint' : ServoMotorJoint) (target target' : Int)
    (c : ServoMotorController) :
    Computes ((setJointAngle joint target c).bind fun c => setJointAngle joint' target' c)
      (c.Obeys → Turnable target ∧ Turnable target')
      ((c.setJointAngle joint target).setJointAngle joint' target') := by
  refine ((computes_setJointAngle joint target c).bind (computes_setJointAngle joint' target' _)).congr ?_
  rw [obeys_setJointAngle_iff, imp_and]

theorem computes_headDown (positions : JointPositionList) (speed : Int) (c : ServoMotorController) :
    Computes (headDown positions speed c)
      (FitsInt (recordedAngle c .headUpDown + 1 * atLeastOne speed) ∧
        (c.Obeys → HeadDownTurns positions speed c)) (Kufibot.headDown positions speed c) := by
  have hturns : HeadDownTurns positions speed c ↔ _ ∧ _ := and_congr
    (turnsUp_iff (recordedAngle_mem c .headUpDown) (atLeastOne_pos speed)).symm
    (turnsDown_iff (recordedAngle_mem c .neck) (atLeastOne_pos speed)).symm
  rw [hturns]
  exact (computes_whenFits _ _).bind (computes_setTwoAngles ..)

theorem computes_headUp (positions : JointPositionList) (speed : Int) (c : ServoMotorController) :
    Computes (headUp positions speed c)
      (FitsInt (recordedAngle c .neck + 1 * atLeastOne speed) ∧
        (c.Obeys → HeadUpTurns positions speed c)) (Kufibot.headUp positions speed c) := by
  have hturns : HeadUpTurns positions speed c ↔ _ ∧ _ := and_congr
    (turnsDown_iff (recordedAngle_mem c .headUpDown) (atLeastOne_pos speed)).symm
    (turnsUp_iff (recordedAngle_mem c .neck) (atLeastOne_pos speed)).symm
  rw [hturns]
  exact (computes_whenFits _ _).bind (computes_setTwoAngles ..)

theorem computes_headLeft (speed : Int) (c : ServoMotorController) :
    Computes (headLeft speed c) (FitsInt (recordedAngle c .headLeftRight + 1 * atLeastOne speed))
      (Kufibot.headLeft speed c) := by
  have hleft : Computes (headLeft speed c)
      (FitsInt (recordedAngle c .headLeftRight + 1 * atLeastOne speed) ∧ (c.Obeys → Turnable _))
      (Kufibot.headLeft speed c) := (computes_whenFits _ _).bind (computes_setJointAngle ..)
  refine hleft.congr (and_iff_left fun _ => ?_)
  exact (turnsUp_iff (recordedAngle_mem c _) (atLeastOne_pos speed)).mpr ⟨by decide, .inl (by decide)⟩

theorem computes_headRight (speed : Int) (c : ServoMotorController) :
    Computes (headRight speed c) True (Kufibot.headRight speed c) := by
  refine (computes_setJointAngle ..).congr (iff_true_intro fun _ => ?_)
  exact (turnsDown_iff (recordedAngle_mem c _) (atLeastOne_pos speed)).mpr ⟨by decide, .inl (by decide)⟩

theorem computes_headVertical (positions : JointPositionList) (upDown : ℚ) (magnitude : Int)
    (c : ServoMotorController) :
    Computes (headVertical positions upDown magnitude c)
      (VerticalFitsInt upDown magnitude c ∧ (c.Obeys → VerticalTurns positions upDown magnitude c))
      (Kufibot.headVertical positions upDown magnitude c) := by
  have hpos := deadZone_pos
  unfold headVertical Kufibot.headVertical VerticalFitsInt SpeedFits VerticalTurns
  simp only
  split_ifs with hup hdown
  · refine Computes.congr (.bind (computes_whenFits ..) (computes_headUp ..)) ?_
    have hnot : ¬ upDown < -deadZone := by linarith
    rw [one_mul]
    tauto
  · refine Computes.congr (.bind (computes_whenFits ..) (computes_headDown ..)) ?_
    rw [one_mul]
    tauto
  · refine Computes.congr (.bind (computes_whenFits ..) (Computes.pure c)) ?_
    tauto

theorem computes_headHorizontal (leftRight : ℚ) (magnitude : Int) (c : ServoMotorController) :
    Computes (headHorizontal leftRight magnitude c) (HorizontalFitsInt leftRight magnitude c)
      (Kufibot.headHorizontal leftRight magnitude c) := by
  have hpos := deadZone_pos
  unfold headHorizontal Kufibot.headHorizontal HorizontalFitsInt SpeedFits
  simp only
  split_ifs with hright hleft
  · refine Computes.congr (.bind (computes_whenFits ..) (computes_headRight ..)) ?_
    have hnot : ¬ leftRight < -deadZone := by linarith
    tauto
  · refine Computes.congr (.bind (computes_whenFits ..) (computes_headLeft ..)) ?_
    rw [one_mul]
    tauto
  · refine Computes.congr (.bind (computes_whenFits ..) (Computes.pure c)) ?_
    tauto

theorem computes_controlHead (positions : JointPositionList) (trig : Trig) (angle magnitude : Int)
    (c : ServoMotorController) :
    Computes (controlHead positions trig angle magnitude c)
      (HeadFitsInt trig angle magnitude c ∧ (c.Obeys → HeadTurns trig positions angle magnitude c))
      (Kufibot.controlHead trig positions angle magnitude c) := by
  unfold controlHead Kufibot.controlHead HeadFitsInt HeadTurns
  by_cases hidle : magnitude = 0 ∧ angle = 0
  · simp only [if_pos hidle]
    exact (Computes.pure c).congr (by tauto)
  · simp only [if_neg hidle]
    refine Computes.congr (.bind (computes_headVertical ..) (computes_headHorizontal ..)) ?_
    rw [horizontalFitsInt_headVertical]
    tauto

end OnInt

/-! ## The arms and the eyes -/

theorem abs_scaledArmAngle_sub_le (angle : Int) :
    |Float64.mul (Float64.div angle 100) 180 - (angle : ℚ) / 100 * 180| ≤ |(angle : ℚ)| / 2 ^ 50 := by
  have hscaled := Float64.abs_mul_div_sub_le angle 100 180
  have hexact : |(angle : ℚ) / 100 * 180| = |(angle : ℚ)| * (9 / 5) := by
    rw [abs_mul, abs_div, abs_of_pos (show (0 : ℚ) < 100 by norm_num),
      abs_of_pos (show (0 : ℚ) < 180 by norm_num)]
    ring
  have hnonneg := abs_nonneg (angle : ℚ)
  linarith

/-- The percentages that a conversion to `int` takes. -/
theorem fitsInt_scaledArmAngle_iff (angle : Int) :
    FitsInt (scaledArmAngle angle) ↔ -1193046471 ≤ angle ∧ angle ≤ 1193046471 := by
  obtain ⟨hlow, hhigh⟩ := abs_le.mp (abs_scaledArmAngle_sub_le angle)
  constructor
  · rintro ⟨hmin, hmax⟩
    constructor
    · by_contra hangle
      have hneg : (angle : ℚ) ≤ -1193046472 := by exact_mod_cast Int.le_sub_one_of_lt (not_le.mp hangle)
      rw [abs_of_nonpos (by linarith)] at hlow hhigh
      have hmapped : scaledArmAngle angle ≤ -2147483649 :=
        Float64.toInt_le (by norm_num) (by push_cast; linarith)
      omega
    · by_contra hangle
      have hpos : (1193046472 : ℚ) ≤ angle := by exact_mod_cast not_le.mp hangle
      rw [abs_of_nonneg (by linarith)] at hlow hhigh
      have hmapped : 2147483648 ≤ scaledArmAngle angle :=
        Float64.le_toInt (by norm_num) (by push_cast; linarith)
      omega
  · rintro ⟨hmin, hmax⟩
    have hmin' : (-1193046471 : ℚ) ≤ angle := by exact_mod_cast hmin
    have hmax' : (angle : ℚ) ≤ 1193046471 := by exact_mod_cast hmax
    have habs : |(angle : ℚ)| ≤ 1193046471 := abs_le.mpr ⟨by linarith, by linarith⟩
    have hover : scaledArmAngle angle < 2147483648 :=
      Float64.toInt_lt (by norm_num) (by push_cast; linarith)
    have hunder : -2147483649 < scaledArmAngle angle :=
      Float64.lt_toInt (by norm_num) (by push_cast; linarith)
    unfold FitsInt
    omega

/-- The last percentage is the one whose product is rounded up to less than 47232. -/
theorem turnable_scaledArmAngle_iff (angle : Int) :
    Turnable (scaledArmAngle angle) ↔ -26240 ≤ angle ∧ angle ≤ 26189 := by
  obtain ⟨hlow, hhigh⟩ := abs_le.mp (abs_scaledArmAngle_sub_le angle)
  unfold Turnable
  constructor
  · rintro ⟨hmin, hmax⟩
    constructor
    · by_contra hangle
      have hneg : (angle : ℚ) ≤ -26241 := by exact_mod_cast Int.le_sub_one_of_lt (not_le.mp hangle)
      rw [abs_of_nonpos (by linarith)] at hlow hhigh
      have hmapped : scaledArmAngle angle ≤ -47232 :=
        Float64.toInt_le (by norm_num) (by push_cast; linarith)
      omega
    · by_contra hangle
      have hpos : (26190 : ℚ) ≤ angle := by exact_mod_cast not_le.mp hangle
      rw [abs_of_nonneg (by linarith)] at hlow hhigh
      have hmapped : 47141 ≤ scaledArmAngle angle :=
        Float64.le_toInt (by norm_num) (by push_cast; linarith)
      omega
  · rintro ⟨hmin, hmax⟩
    rcases hmin.eq_or_lt with rfl | hmin
    · exact ⟨by decide +kernel, by decide +kernel⟩
    · have hmin' : (-26239 : ℚ) ≤ angle := by exact_mod_cast hmin
      have hmax' : (angle : ℚ) ≤ 26189 := by exact_mod_cast hmax
      have habs : |(angle : ℚ)| ≤ 26239 := abs_le.mpr ⟨by linarith, by linarith⟩
      have hover : scaledArmAngle angle < 47141 := Float64.toInt_lt (by norm_num) (by push_cast; linarith)
      have hunder : -47232 < scaledArmAngle angle := Float64.lt_toInt (by norm_num) (by push_cast; linarith)
      omega

/-- **The percentages that an arm can be moved to.** -/
def ArmTurns (angle : Int) (c : ServoMotorController) : Prop :=
  (-1193046471 ≤ angle ∧ angle ≤ 1193046471) ∧ (c.Obeys → -26240 ≤ angle ∧ angle ≤ 26189)

/-- The position of an eye is configured to an angle that it can be turned to. -/
def EyeTurns (positions : JointPositionList) (joint : ServoMotorJoint) (state : Bool)
    (c : ServoMotorController) : Prop :=
  c.Obeys → Turnable (positions joint (if state then .fullup else .fulldown))

namespace OnInt

theorem computes_controlArm (joint : ServoMotorJoint) (angle : Int) (c : ServoMotorController) :
    Computes (controlArm joint angle c) (ArmTurns angle c) (Kufibot.controlArm joint angle c) := by
  refine Computes.congr (.bind (computes_whenFits ..) (computes_setJointAngle ..)) ?_
  rw [fitsInt_scaledArmAngle_iff, turnable_scaledArmAngle_iff]
  rfl

theorem computes_controlEye (positions : JointPositionList) {joint : ServoMotorJoint}
    (hjoint : joint = .eyeLeft ∨ joint = .eyeRight) (state : Bool) (c : ServoMotorController) :
    Computes (controlEye positions joint state c) (EyeTurns positions joint state c)
      (Kufibot.controlEye positions joint state c) := by
  rcases hjoint with rfl | rfl
  · exact computes_setJointAngle ..
  · exact computes_setJointAngle ..

/-- A map of joints holds bytes. -/
theorem moveJoints_eq (requested : JointMap) (c : ServoMotorController) :
    moveJoints requested c = Kufibot.moveJoints requested c := by
  have hmove : moveJoint requested c.getAllJointsAngle = Kufibot.moveJoint requested c.getAllJointsAngle := by
    funext d joint
    unfold moveJoint Kufibot.moveJoint
    cases requested joint with
    | none => rfl
    | some angle =>
        cases c.getAllJointsAngle joint with
        | none => rfl
        | some current =>
            show (if angle ≠ current then setJointAngle joint angle.toNat d else some d) =
              some (if angle ≠ current then d.setJointAngle joint angle.toNat else d)
            rw [setJointAngle_toNat]
            split <;> rfl
  unfold moveJoints Kufibot.moveJoints
  rw [hmove]

end OnInt

/-! ## The wheels -/

namespace DCMotorController

/-- The controller obeys commands. -/
def Obeys (c : DCMotorController) : Prop := c.isEnabled = true ∧ c.isReady = true

theorem not_dropped {c : DCMotorController} (h : c.Obeys) :
    ¬ (!c.isEnabled || !c.isReady) = true := by
  simp [h.1, h.2]

theorem dropped {c : DCMotorController} (h : ¬ c.Obeys) : (!c.isEnabled || !c.isReady) = true := by
  simpa [Obeys, Decidable.imp_iff_not_or] using h

theorem drive_of_not_obeys {c : DCMotorController} (h : ¬ c.Obeys) (right left : DCMotorDirection)
    (magnitude : Int) : drive right left magnitude c = c := by
  rw [drive, if_pos (dropped h)]

end DCMotorController

/-- **The sum and the off-count of a body joystick are values of `int`.** -/
def BodyFitsInt (angle strength : Int) (c : DCMotorController) : Prop :=
  FitsInt (angle + 180) ∧ (c.Obeys → -524288 ≤ strength)

namespace OnInt

theorem computes_run (motor : DCMotor) (direction : DCMotorDirection) (speed : Int) (c : DCMotorController) :
    Computes (run motor direction speed c) (c.Obeys → FitsInt (speed * 4096))
      (c.run motor direction speed) := by
  unfold run
  by_cases hobeys : c.Obeys
  · rw [if_neg (DCMotorController.not_dropped hobeys)]
    exact (computes_whenFits ..).congr (by simp [hobeys])
  · have hdropped : c.run motor direction speed = c := by
      unfold DCMotorController.run
      exact if_pos (DCMotorController.dropped hobeys)
    rw [if_pos (DCMotorController.dropped hobeys), hdropped]
    exact (Computes.pure c).congr (by simp [hobeys])

theorem computes_drive (right left : DCMotorDirection) (magnitude : Int) (c : DCMotorController) :
    Computes (drive right left magnitude c) (c.Obeys → FitsInt (magnitude * 4096))
      (DCMotorController.drive right left magnitude c) := by
  unfold drive DCMotorController.drive
  by_cases hobeys : c.Obeys
  · rw [if_neg (DCMotorController.not_dropped hobeys), if_neg (DCMotorController.not_dropped hobeys)]
    refine Computes.congr (.bind (computes_run ..) (computes_run ..)) ?_
    unfold DCMotorController.Obeys
    rw [DCMotorController.run_flags, and_self]
  · rw [if_pos (DCMotorController.dropped hobeys), if_pos (DCMotorController.dropped hobeys)]
    exact (Computes.pure c).congr (by simp [hobeys])

theorem computes_controlBody (angle strength : Int) (c : DCMotorController) :
    Computes (controlBody angle strength c) (BodyFitsInt angle strength c)
      (Kufibot.controlBody angle strength c) := by
  unfold controlBody Kufibot.controlBody BodyFitsInt
  simp only
  have hproduct : FitsInt ((if strength ≥ 100 then 95 else strength) * 4096) ↔ -524288 ≤ strength := by
    unfold FitsInt
    split <;> omega
  have hzero : (if strength ≥ 100 then 95 else strength) = 0 → strength = 0 := by split <;> omega
  rw [← hproduct]
  generalize (if strength ≥ 100 then 95 else strength) = magnitude at hzero ⊢
  by_cases hidle : magnitude = 0 ∧ angle = 0
  · rw [if_pos hidle, if_pos hidle]
    obtain ⟨rfl, rfl⟩ := hidle
    exact (Computes.pure c.stop).congr (iff_of_true trivial ⟨by decide, fun _ => by decide⟩)
  · rw [if_neg hidle, if_neg hidle]
    refine .bind (computes_whenFits ..) ?_
    -- of the six branches the last two are never taken
    generalize (angle + 180).tmod 360 - 180 = direction
    by_cases hup : upMin ≤ direction ∧ direction < upMax
    · rw [if_pos hup, if_pos hup]
      exact computes_drive ..
    by_cases hright : rightMin ≤ direction ∧ direction < rightMax
    · rw [if_neg hup, if_neg hup, if_pos hright, if_pos hright]
      exact computes_drive ..
    by_cases hdown : downMin ≤ direction ∧ direction < downMax
    · rw [if_neg hup, if_neg hup, if_neg hright, if_neg hright, if_pos hdown, if_pos hdown]
      exact computes_drive ..
    · have hleft : leftMin ≤ direction ∨ direction < leftMax := by
        simp only [upMin, upMax, rightMin, rightMax, downMin, downMax, leftMin, leftMax] at *
        omega
      rw [if_neg hup, if_neg hup, if_neg hright, if_neg hright, if_neg hdown, if_neg hdown, if_pos hleft,
        if_pos hleft]
      exact computes_drive ..

end OnInt

/-! ## The command -/

/-- **The command computes values of `int` only.** It follows the order in which `control_motion` reads the
    payloads. -/
def ComputesInts (trig : Trig) (positions : JointPositionList) (data : ControlData) (c : Controllers) : Prop :=
  if let some body := data.bodyJoystick then BodyFitsInt body.angle body.strength c.dcMotor
  else if let some head := data.headJoystick then
    HeadFitsInt trig head.angle head.strength c.servo ∧
      (c.servo.Obeys → HeadTurns trig positions head.angle head.strength c.servo)
  else if let some angle := data.leftArmAngle then ArmTurns angle c.servo
  else if let some angle := data.rightArmAngle then ArmTurns angle c.servo
  else if let some state := data.leftEye then EyeTurns positions .eyeLeft state c.servo
  else if let some state := data.rightEye then EyeTurns positions .eyeRight state c.servo
  else True

namespace OnInt

/-- What a command of the servos or of the wheels leaves. -/
theorem map_eq_some_iff {α : Type} {x : Option α} {P : Prop} {v : α} (h : Computes x P v)
    (f : α → Controllers) (d : Controllers) : x.map f = some d ↔ P ∧ some (f v) = some d := by
  rw [(h.map f).eq_some_iff, Option.some.injEq]

/-- **When a command is defined on `int`, exactly**: it computes values of `int` only, and does not throw. -/
theorem controlMotion_eq_some_iff {trig : Trig} {positions : JointPositionList} {data : ControlData}
    {c d : Controllers} : controlMotion trig positions data c = some d ↔
      ComputesInts trig positions data c ∧ Kufibot.controlMotion trig positions data c = some d := by
  obtain ⟨_, jointAngle, jointAngles, head, body, leftArm, rightArm, leftEye, rightEye⟩ := data
  -- the payloads in the order in which they are read
  cases body
  case some body => exact map_eq_some_iff (computes_controlBody ..) _ d
  cases head
  case some head => exact map_eq_some_iff (computes_controlHead ..) _ d
  cases leftArm
  case some angle => exact map_eq_some_iff (computes_controlArm ..) _ d
  cases rightArm
  case some angle => exact map_eq_some_iff (computes_controlArm ..) _ d
  cases leftEye
  case some state => exact map_eq_some_iff (computes_controlEye positions (.inl rfl) ..) _ d
  cases rightEye
  case some state => exact map_eq_some_iff (computes_controlEye positions (.inr rfl) ..) _ d
  cases jointAngle
  case some jointAngle =>
    show (setJointAngle jointAngle.1 jointAngle.2.toNat c.servo).map _ = some d ↔ True ∧ _
    rw [setJointAngle_toNat, true_and]
    rfl
  cases jointAngles
  case some requested =>
    show (moveJoints requested c.servo).map _ = some d ↔ True ∧ _
    rw [moveJoints_eq, true_and]
    rfl
  exact (and_iff_right trivial).symm

end OnInt

end Kufibot
