import Kufibot.Lib.System
import Kufibot.Robot.ServoRamp

/-!
# `Robot.HeadLimits` — the limits of the head

`control_head` moves the joint of the head and the neck against each other, each up to a configured limit,
and turns the head between 0 and 180 degrees. A strength above 5 is cut down to 5, but a negative one is
not, and the speed is its absolute value: next to the least `int`, the speed or its sum with a recorded
angle is no `int` any more, which is undefined. `controlHeadInt` is `controlHead` with this check, and `Fits`
the condition under which it is defined (`controlHeadInt_eq`).

All defined commands keep the limits (`HeadKept`): between a recorded angle within them and a target within
them, the loop of `setJointAngle` commands only angles within them.
-/

namespace Kufibot

open Lib ServoMotorController

/-! ## `control_head` on `int`

The difference of a byte and a positive `int` always fits, so only the sums are checked. -/

section ControlHead

variable (positions : JointPositionList)

def headDownInt (speed : Int) (c : ServoMotorController) : Option ServoMotorController :=
  whenFits (recordedAngle c .headUpDown + 1 * atLeastOne speed) (headDown positions speed c)

def headUpInt (speed : Int) (c : ServoMotorController) : Option ServoMotorController :=
  whenFits (recordedAngle c .neck + 1 * atLeastOne speed) (headUp positions speed c)

def headLeftInt (speed : Int) (c : ServoMotorController) : Option ServoMotorController :=
  whenFits (recordedAngle c .headLeftRight + 1 * atLeastOne speed) (headLeft speed c)

def headVerticalInt (upDown : ℚ) (magnitude : Int) (c : ServoMotorController) :
    Option ServoMotorController := do
  let magUpDown ← whenFits (componentSpeed upDown magnitude) (componentSpeed upDown magnitude)
  if upDown > deadZone then headUpInt positions magUpDown c
  else if upDown < -deadZone then headDownInt positions magUpDown c
  else some c

def headHorizontalInt (leftRight : ℚ) (magnitude : Int) (c : ServoMotorController) :
    Option ServoMotorController := do
  let magLeftRight ← whenFits (componentSpeed leftRight magnitude) (componentSpeed leftRight magnitude)
  if leftRight > deadZone then some (headRight magLeftRight c)
  else if leftRight < -deadZone then headLeftInt magLeftRight c
  else some c

def controlHeadInt (trig : Trig) (angle magnitude : Int) (c : ServoMotorController) :
    Option ServoMotorController :=
  if magnitude = 0 ∧ angle = 0 then some c
  else do
    let magnitude := if magnitude > 5 then 5 else magnitude
    let c ← headVerticalInt positions (trig.sinDeg angle) magnitude c
    headHorizontalInt (trig.cosDeg angle) magnitude c

end ControlHead

/-! ## When it is defined -/

/-- A speed in this direction, and its sum with the angle that is raised, are values of `int`. -/
def SpeedFits (component : ℚ) (magnitude raised : Int) (raises : Prop) : Prop :=
  FitsInt (componentSpeed component magnitude) ∧
    (raises → FitsInt (raised + atLeastOne (componentSpeed component magnitude)))

/-- The vertical half: up raises the neck, down the joint of the head. -/
def VerticalFitsInt (upDown : ℚ) (magnitude : Int) (c : ServoMotorController) : Prop :=
  SpeedFits upDown magnitude (recordedAngle c .neck) (deadZone < upDown) ∧
    SpeedFits upDown magnitude (recordedAngle c .headUpDown) (upDown < -deadZone)

def HorizontalFitsInt (leftRight : ℚ) (magnitude : Int) (c : ServoMotorController) : Prop :=
  SpeedFits leftRight magnitude (recordedAngle c .headLeftRight) (leftRight < -deadZone)

/-- **The head joystick computes values of `int` only.** -/
def HeadFitsInt (trig : Trig) (angle magnitude : Int) (c : ServoMotorController) : Prop :=
  ¬ (magnitude = 0 ∧ angle = 0) →
    VerticalFitsInt (trig.sinDeg angle) (if magnitude > 5 then 5 else magnitude) c ∧
      HorizontalFitsInt (trig.cosDeg angle) (if magnitude > 5 then 5 else magnitude) c

theorem deadZone_pos : 0 < deadZone := by decide +kernel

theorem headVerticalInt_eq_some_iff {positions : JointPositionList} {upDown : ℚ} {magnitude : Int}
    {c d : ServoMotorController} : headVerticalInt positions upDown magnitude c = some d ↔
      VerticalFitsInt upDown magnitude c ∧ headVertical positions upDown magnitude c = d := by
  have hpos := deadZone_pos
  unfold headVerticalInt VerticalFitsInt SpeedFits headVertical headUpInt headDownInt
  simp only [Option.bind_eq_bind, Option.bind_eq_some_iff, whenFits_eq_some_iff, one_mul]
  constructor
  · rintro ⟨speed, ⟨hfits, rfl⟩, h⟩
    split_ifs at h ⊢ with hup hdown
    · obtain ⟨hsum, h⟩ := whenFits_eq_some_iff.mp h
      exact ⟨⟨⟨hfits, fun _ => hsum⟩, hfits, fun hdown => absurd hdown (by linarith)⟩, h⟩
    · obtain ⟨hsum, h⟩ := whenFits_eq_some_iff.mp h
      exact ⟨⟨⟨hfits, fun hup' => absurd hup' hup⟩, hfits, fun _ => hsum⟩, h⟩
    · exact ⟨⟨⟨hfits, fun hup' => absurd hup' hup⟩, hfits, fun hdown' => absurd hdown' hdown⟩,
        Option.some.inj h⟩
  · rintro ⟨⟨⟨hfits, hup'⟩, _, hdown'⟩, h⟩
    refine ⟨_, ⟨hfits, rfl⟩, ?_⟩
    split_ifs at h ⊢ with hup hdown
    · exact whenFits_eq_some_iff.mpr ⟨hup' hup, h⟩
    · exact whenFits_eq_some_iff.mpr ⟨hdown' hdown, h⟩
    · exact congrArg some h

theorem headHorizontalInt_eq_some_iff {leftRight : ℚ} {magnitude : Int} {c d : ServoMotorController} :
    headHorizontalInt leftRight magnitude c = some d ↔
      HorizontalFitsInt leftRight magnitude c ∧ headHorizontal leftRight magnitude c = d := by
  have hpos := deadZone_pos
  unfold headHorizontalInt HorizontalFitsInt SpeedFits headHorizontal headLeftInt
  simp only [Option.bind_eq_bind, Option.bind_eq_some_iff, whenFits_eq_some_iff, one_mul]
  constructor
  · rintro ⟨speed, ⟨hfits, rfl⟩, h⟩
    split_ifs at h ⊢ with hright hleft
    · exact ⟨⟨hfits, fun hleft => absurd hleft (by linarith)⟩, Option.some.inj h⟩
    · obtain ⟨hsum, h⟩ := whenFits_eq_some_iff.mp h
      exact ⟨⟨hfits, fun _ => hsum⟩, h⟩
    · exact ⟨⟨hfits, fun hleft' => absurd hleft' hleft⟩, Option.some.inj h⟩
  · rintro ⟨⟨hfits, hleft'⟩, h⟩
    refine ⟨_, ⟨hfits, rfl⟩, ?_⟩
    split_ifs at h ⊢ with hright hleft
    · exact congrArg some h
    · exact whenFits_eq_some_iff.mpr ⟨hleft' hleft, h⟩
    · exact congrArg some h

theorem recordedAngle_headVertical {j : ServoMotorJoint} (hhead : j ≠ .headUpDown) (hneck : j ≠ .neck)
    (positions : JointPositionList) (upDown : ℚ) (magnitude : Int) (c : ServoMotorController) :
    recordedAngle (headVertical positions upDown magnitude c) j = recordedAngle c j := by
  have hmove : ∀ target neckTarget, recordedAngle
      ((c.setJointAngle .headUpDown target).setJointAngle .neck neckTarget) j = recordedAngle c j := by
    intro target neckTarget
    rw [recordedAngle_setJointAngle_of_ne hneck, recordedAngle_setJointAngle_of_ne hhead]
  unfold headVertical
  simp only
  split_ifs
  · exact hmove _ _
  · exact hmove _ _
  · rfl

/-- The vertical half does not touch the joint that the horizontal half reads. -/
theorem horizontalFitsInt_headVertical (positions : JointPositionList) (upDown leftRight : ℚ)
    (magnitude magnitude' : Int) (c : ServoMotorController) :
    HorizontalFitsInt leftRight magnitude (headVertical positions upDown magnitude' c) ↔
      HorizontalFitsInt leftRight magnitude c := by
  unfold HorizontalFitsInt
  rw [recordedAngle_headVertical (by decide) (by decide)]

/-- **When the command is defined, exactly**, and what it does then. -/
theorem controlHeadInt_eq_some_iff {positions : JointPositionList} {trig : Trig} {angle magnitude : Int}
    {c d : ServoMotorController} : controlHeadInt positions trig angle magnitude c = some d ↔
      HeadFitsInt trig angle magnitude c ∧ controlHead trig positions angle magnitude c = d := by
  unfold controlHeadInt HeadFitsInt controlHead
  by_cases hidle : magnitude = 0 ∧ angle = 0
  · rw [if_pos hidle, if_pos hidle, Option.some.injEq]
    exact (and_iff_right fun hnot => absurd hidle hnot).symm
  · rw [if_neg hidle, if_neg hidle]
    simp only [Option.bind_eq_bind, Option.bind_eq_some_iff, headVerticalInt_eq_some_iff,
      headHorizontalInt_eq_some_iff]
    constructor
    · rintro ⟨e, ⟨hvertical, rfl⟩, hhorizontal, rfl⟩
      exact ⟨fun _ => ⟨hvertical, (horizontalFitsInt_headVertical ..).mp hhorizontal⟩, rfl⟩
    · rintro ⟨hfits, rfl⟩
      obtain ⟨hvertical, hhorizontal⟩ := hfits hidle
      exact ⟨_, ⟨hvertical, rfl⟩, (horizontalFitsInt_headVertical ..).mpr hhorizontal, rfl⟩

/-! ### Strengths that fit -/

/-- **A speed** is not greater than the strength, rounding included. -/
theorem componentSpeed_mem {component : ℚ} (hcomponent : |component| ≤ 1) {magnitude : Int}
    (hmagnitude : |magnitude| < 2 ^ 53) :
    0 ≤ componentSpeed component magnitude ∧ componentSpeed component magnitude ≤ |magnitude| := by
  unfold componentSpeed
  refine ⟨Float64.le_toInt le_rfl (by simp), Int.lt_add_one_iff.mp (Float64.toInt_lt ?_ ?_)⟩
  · have := abs_nonneg magnitude
    omega
  · have hproduct : |component * magnitude| ≤ |(magnitude : ℚ)| := by
      rw [abs_mul]
      exact mul_le_of_le_one_left (abs_nonneg _) hcomponent
    have hsmall : |(magnitude : ℚ)| < 2 ^ 53 := by exact_mod_cast hmagnitude
    have hround := abs_sub_abs_le_abs_sub (Float64.round (component * magnitude)) (component * magnitude)
    have herror := Float64.abs_round_sub_le (component * magnitude)
    push_cast
    show |Float64.round (component * magnitude)| < _
    have hlast : |component * magnitude| / 2 ^ 53 < 1 := by
      rw [div_lt_one (by norm_num)]
      exact lt_of_le_of_lt hproduct hsmall
    linarith

theorem atLeastOne_le {speed bound : Int} (h : speed ≤ bound) (hbound : 1 ≤ bound) :
    atLeastOne speed ≤ bound := by
  unfold atLeastOne
  split <;> omega

/-- All strengths that are not next to the least `int` fit. -/
theorem headFitsInt_of_le {magnitude : Int} (h : -2147483392 ≤ magnitude) (trig : Trig) (angle : Int)
    (c : ServoMotorController) : HeadFitsInt trig angle magnitude c := by
  have hfits : ∀ component raised raises, |component| ≤ 1 → raised < 256 → 0 ≤ raised →
      SpeedFits component (if magnitude > 5 then 5 else magnitude) raised raises := by
    intro component raised raises hcomponent hraised hnonneg
    have hmagnitude : |if magnitude > 5 then 5 else magnitude| ≤ 2147483392 := by
      rw [abs_le]
      split <;> omega
    obtain ⟨hlow, hhigh⟩ := componentSpeed_mem hcomponent (lt_of_le_of_lt hmagnitude (by norm_num))
    have hspeed := le_trans hhigh hmagnitude
    have hsum := atLeastOne_le hspeed (by norm_num)
    have hpos := atLeastOne_pos (componentSpeed component (if magnitude > 5 then 5 else magnitude))
    unfold SpeedFits FitsInt
    exact ⟨by omega, fun _ => by omega⟩
  intro _
  have hrecorded := recordedAngle_mem c
  have hsin := trig.abs_sinDeg_le angle
  refine ⟨⟨?_, ?_⟩, ?_⟩
  · exact hfits _ _ _ hsin (hrecorded _).2 (hrecorded _).1
  · exact hfits _ _ _ hsin (hrecorded _).2 (hrecorded _).1
  · exact hfits _ _ _ (trig.abs_cosDeg_le angle) (hrecorded _).2 (hrecorded _).1

/-! ## The limits -/

/-- The least angle of a joint of the head. -/
def headLow (positions : JointPositionList) : ServoMotorJoint → Int
  | .headUpDown => positions .headUpDown .fullup
  | .neck => positions .neck .fulldown
  | _ => 0

def headHigh (positions : JointPositionList) : ServoMotorJoint → Int
  | .headUpDown => positions .headUpDown .fulldown
  | .neck => positions .neck .fullup
  | _ => 180

def IsHeadJoint (j : ServoMotorJoint) : Prop := j = .headUpDown ∨ j = .neck ∨ j = .headLeftRight

def InLimits (positions : JointPositionList) (j : ServoMotorJoint) (angle : Int) : Prop :=
  headLow positions j ≤ angle ∧ angle ≤ headHigh positions j

/-- The configured limits are in order, and angles that a servo takes. -/
structure HeadLimits (positions : JointPositionList) : Prop where
  headUpDown_low : 0 ≤ positions .headUpDown .fullup
  headUpDown_le : positions .headUpDown .fullup ≤ positions .headUpDown .fulldown
  headUpDown_high : positions .headUpDown .fulldown ≤ 180
  neck_low : 0 ≤ positions .neck .fulldown
  neck_le : positions .neck .fulldown ≤ positions .neck .fullup
  neck_high : positions .neck .fullup ≤ 180

/-- The recorded angles of the head are within the limits. -/
def HeadInLimits (positions : JointPositionList) (c : ServoMotorController) : Prop :=
  ∀ j, IsHeadJoint j → InLimits positions j (recordedAngle c j)

/-- **What commands of the head may do** on the way from `c` to `d`. -/
structure HeadKept (positions : JointPositionList) (c d : ServoMotorController) : Prop where
  recorded : HeadInLimits positions d
  /-- Every angle on the way is within the limits, and of a joint of the head. -/
  sent : ∃ sent, d.driver.dutyCycles = sent ++ c.driver.dutyCycles ∧
    ∀ x ∈ sent, ∃ j angle, IsHeadJoint j ∧ InLimits positions j angle ∧ x = jointDuty j angle
  others : ∀ j, ¬ IsHeadJoint j → d.currentJointAngles j = c.currentJointAngles j

/-- Every limit is an angle that can be recorded. -/
def ByteLimits (positions : JointPositionList) : Prop :=
  ∀ j, 0 ≤ headLow positions j ∧ headHigh positions j ≤ 255

theorem HeadLimits.byteLimits {positions : JointPositionList} (h : HeadLimits positions) :
    ByteLimits positions := by
  intro j
  cases j with
  | headUpDown => exact ⟨h.headUpDown_low, le_trans h.headUpDown_high (by decide)⟩
  | neck => exact ⟨h.neck_low, le_trans h.neck_high (by decide)⟩
  | _ => exact ⟨le_rfl, by show (180 : Int) ≤ 255; decide⟩

namespace HeadKept

variable {positions : JointPositionList} {c d : ServoMotorController}

theorem refl (h : HeadInLimits positions c) : HeadKept positions c c where
  recorded := h
  sent := by
    refine ⟨[], rfl, ?_⟩
    intro x hx
    exact absurd hx List.not_mem_nil
  others _ _ := rfl

/-- **One joint**: between the recorded angle and the target the limits are not left. -/
theorem setJointAngle (h : HeadKept positions c d) (hlimits : ByteLimits positions) {j : ServoMotorJoint}
    (hj : IsHeadJoint j) {target : Int} (htarget : InLimits positions j target) :
    HeadKept positions c (d.setJointAngle j target) := by
  by_cases hobeys : d.Obeys
  · obtain ⟨hlow, hhigh⟩ := htarget
    obtain ⟨hzero, hmax⟩ := hlimits j
    obtain ⟨hcurrentLow, hcurrentHigh⟩ := h.recorded j hj
    refine ⟨?_, ?_, ?_⟩
    · intro j' hj'
      by_cases heq : j' = j
      · subst heq
        rw [recordedAngle_setJointAngle hobeys]
        exact ⟨by omega, by omega⟩
      · rw [recordedAngle_setJointAngle_of_ne heq]
        exact h.recorded j' hj'
    · obtain ⟨sent, hsent, hangles⟩ := h.sent
      refine ⟨_, by rw [setJointAngle_dutyCycles hobeys, hsent, ← List.append_assoc], ?_⟩
      refine List.forall_mem_append.mpr ⟨?_, hangles⟩
      intro x hx
      obtain ⟨a, ha, rfl⟩ := List.mem_map.mp (List.mem_reverse.mp hx)
      refine ⟨j, a, hj, ?_, rfl⟩
      -- every angle on the way lies between the recorded angle and the target
      rcases mem_commandedAngles_iff.mp ha with ⟨_, _⟩ | ⟨_, _⟩
      · exact ⟨by omega, by omega⟩
      · exact ⟨by omega, by omega⟩
    · intro j' hj'
      have hne : j' ≠ j := fun heq => hj' (heq ▸ hj)
      rw [setJointAngle_eq hobeys]
      exact ((if_neg hne).trans (foldl_commandAngle_recorded hne _ d)).trans (h.others j' hj')
  · rw [setJointAngle_of_not_obeys hobeys]
    exact h

theorem setEnable (h : HeadKept positions c d) (enable : Bool) :
    HeadKept positions c (d.setEnable enable) :=
  ⟨h.recorded, h.sent, h.others⟩

/-! ### Targets -/

theorem lowered {j : ServoMotorJoint} {current speed : Int}
    (h : InLimits positions j current) (hspeed : 0 < speed) :
    InLimits positions j
      (if current - 1 * speed ≤ headLow positions j then headLow positions j else current - 1 * speed) := by
  obtain ⟨hlow, hhigh⟩ := h
  unfold InLimits
  split <;> omega

theorem raised {j : ServoMotorJoint} {current speed : Int}
    (h : InLimits positions j current) (hspeed : 0 < speed) :
    InLimits positions j
      (if current + 1 * speed ≥ headHigh positions j then headHigh positions j
        else current + 1 * speed) := by
  obtain ⟨hlow, hhigh⟩ := h
  unfold InLimits
  split <;> omega

theorem headUp (h : HeadKept positions c d) (hlimits : ByteLimits positions) (speed : Int) :
    HeadKept positions c (headUp positions speed d) := by
  have hhead : IsHeadJoint .headUpDown := .inl rfl
  have hneck : IsHeadJoint .neck := .inr (.inl rfl)
  apply HeadKept.setJointAngle _ hlimits hneck
  · exact raised (h.recorded _ hneck) (atLeastOne_pos speed)
  · apply h.setJointAngle hlimits hhead
    exact lowered (h.recorded _ hhead) (atLeastOne_pos speed)

theorem headDown (h : HeadKept positions c d) (hlimits : ByteLimits positions) (speed : Int) :
    HeadKept positions c (headDown positions speed d) := by
  have hhead : IsHeadJoint .headUpDown := .inl rfl
  have hneck : IsHeadJoint .neck := .inr (.inl rfl)
  apply HeadKept.setJointAngle _ hlimits hneck
  · exact lowered (h.recorded _ hneck) (atLeastOne_pos speed)
  · apply h.setJointAngle hlimits hhead
    exact raised (h.recorded _ hhead) (atLeastOne_pos speed)

theorem headLeft (h : HeadKept positions c d) (hlimits : ByteLimits positions) (speed : Int) :
    HeadKept positions c (headLeft speed d) := by
  have hturn : IsHeadJoint .headLeftRight := .inr (.inr rfl)
  apply h.setJointAngle hlimits hturn
  exact raised (h.recorded _ hturn) (atLeastOne_pos speed)

theorem headRight (h : HeadKept positions c d) (hlimits : ByteLimits positions) (speed : Int) :
    HeadKept positions c (headRight speed d) := by
  have hturn : IsHeadJoint .headLeftRight := .inr (.inr rfl)
  apply h.setJointAngle hlimits hturn
  exact lowered (h.recorded _ hturn) (atLeastOne_pos speed)

theorem headVertical (h : HeadKept positions c d) (hlimits : ByteLimits positions) (upDown : ℚ)
    (magnitude : Int) : HeadKept positions c (headVertical positions upDown magnitude d) := by
  unfold Kufibot.headVertical
  simp only
  split_ifs
  · exact h.headUp hlimits _
  · exact h.headDown hlimits _
  · exact h

theorem headHorizontal (h : HeadKept positions c d) (hlimits : ByteLimits positions) (leftRight : ℚ)
    (magnitude : Int) : HeadKept positions c (headHorizontal leftRight magnitude d) := by
  unfold Kufibot.headHorizontal
  simp only
  split_ifs
  · exact h.headRight hlimits _
  · exact h.headLeft hlimits _
  · exact h

/-- **One command of the head.** -/
theorem controlHead (h : HeadKept positions c d) (hlimits : ByteLimits positions) (trig : Trig)
    (angle magnitude : Int) : HeadKept positions c (controlHead trig positions angle magnitude d) := by
  unfold Kufibot.controlHead
  split
  · exact h
  · exact (h.headVertical hlimits _ _).headHorizontal hlimits _ _

end HeadKept

/-! ## Runs -/

inductive HeadAction where
  | setEnable (enable : Bool)
  /-- A head joystick; `trig` is what `sin` and `cos` return this time. -/
  | headJoystick (trig : Trig) (angle strength : Int)

namespace HeadAction

def perform (positions : JointPositionList) (c : ServoMotorController) :
    HeadAction → Option ServoMotorController
  | .setEnable enable => some (c.setEnable enable)
  | .headJoystick trig angle strength => controlHeadInt positions trig angle strength c

/-- The action computes values of `int` only. -/
def Fits (c : ServoMotorController) : HeadAction → Prop
  | .setEnable _ => True
  | .headJoystick trig angle strength => HeadFitsInt trig angle strength c

theorem kept_perform {positions : JointPositionList} (hlimits : ByteLimits positions)
    {action : HeadAction} {c d e : ServoMotorController} (h : HeadKept positions c d)
    (he : action.perform positions d = some e) : HeadKept positions c e := by
  cases action with
  | setEnable enable => cases he; exact h.setEnable enable
  | headJoystick trig angle strength =>
      obtain ⟨_, rfl⟩ := controlHeadInt_eq_some_iff.mp he
      exact h.controlHead hlimits trig angle strength

theorem perform_isSome_iff {positions : JointPositionList} {action : HeadAction}
    {c : ServoMotorController} : (∃ d, action.perform positions c = some d) ↔ action.Fits c := by
  cases action with
  | setEnable enable => exact ⟨fun _ => trivial, fun _ => ⟨_, rfl⟩⟩
  | headJoystick trig angle strength =>
      constructor
      · rintro ⟨d, hd⟩
        exact (controlHeadInt_eq_some_iff.mp hd).1
      · intro hfits
        exact ⟨_, controlHeadInt_eq_some_iff.mpr ⟨hfits, rfl⟩⟩

end HeadAction

/-- The head, as a system; a step that is missing is undefined. -/
def headSystem (positions : JointPositionList) : System ServoMotorController HeadAction where
  init := HeadInLimits positions
  step c action := action.perform positions c

/-- **The limits of the head, when exactly.** From recorded angles within the limits, a sequence of head
    joysticks and of enabling and disabling is defined and keeps the limits, the angles on the way and the
    other joints iff every action fits the state that it finds. -/
theorem head_limits_iff {positions : JointPositionList} (hlimits : HeadLimits positions)
    {c : ServoMotorController} (hstart : HeadInLimits positions c) (actions : List HeadAction) :
    (∃ d, (headSystem positions).exec c actions = some d ∧ HeadKept positions c d) ↔
      ∀ before action after, actions = before ++ action :: after →
        ∀ d, (headSystem positions).exec c before = some d → action.Fits d := by
  have hkept : ∀ d, (headSystem positions).exec c actions = some d → HeadKept positions c d := by
    intro d hd
    obtain ⟨tr, hrun, _⟩ := System.Run.of_exec hd
    refine hrun.invariant (I := HeadKept positions c) ?_ (.refl hstart)
    intro s action t hs hstep
    exact HeadAction.kept_perform hlimits.byteLimits hs hstep
  calc (∃ d, (headSystem positions).exec c actions = some d ∧ HeadKept positions c d)
      ↔ ∃ d, (headSystem positions).exec c actions = some d :=
        exists_congr fun d => and_iff_left_of_imp (hkept d)
    _ ↔ ∀ before action after, actions = before ++ action :: after →
          ∀ d, (headSystem positions).exec c before = some d →
            ∃ e, action.perform positions d = some e := System.exec_isSome_iff
    _ ↔ _ := by simp only [HeadAction.perform_isSome_iff]

/-! ### Two runs -/

/-- Limits of the head. -/
def someLimits : JointPositionList
  | .headUpDown, .fullup => 0
  | .headUpDown, .fulldown => 40
  | .neck, .fulldown => 10
  | .neck, .fullup => 80
  | _, _ => 90

theorem headLimits_someLimits : HeadLimits someLimits := by
  constructor <;> decide

/-- The joints as they are recorded at first. -/
def levelHead : ServoMotorController :=
  .constructed true (fun _ => none) { registers := fun _ => 0, dutyCycles := [] }

theorem headInLimits_levelHead : HeadInLimits someLimits levelHead := by
  rintro j (rfl | rfl | rfl)
  all_goals exact ⟨by decide, by decide⟩

/-- The neck would be raised by 2147483647 degrees. -/
theorem not_headFitsInt_levelHead : ¬ HeadFitsInt .up 90 (-2147483647) levelHead := by
  have hspeed : componentSpeed 1 (-2147483647) = 2147483647 := by decide +kernel
  intro hfits
  obtain ⟨⟨_, hraises⟩, _⟩ := (hfits (by decide)).1
  have hsum := hraises (by decide +kernel)
  revert hsum
  show ¬ FitsInt (30 + atLeastOne (componentSpeed 1 (-2147483647)))
  rw [hspeed]
  decide

/-- **The promise is broken** by a strength of -2147483647: the neck is to be raised by 2147483647 degrees. -/
theorem head_joystick_overflows : HeadLimits someLimits ∧ HeadInLimits someLimits levelHead ∧
    (headSystem someLimits).exec levelHead [.headJoystick .up 90 (-2147483647)] = none := by
  refine ⟨headLimits_someLimits, headInLimits_levelHead, ?_⟩
  have hundefined : controlHeadInt someLimits .up 90 (-2147483647) levelHead = none := by
    rw [← Option.not_isSome_iff_eq_none, Option.isSome_iff_exists]
    rintro ⟨d, hd⟩
    exact not_headFitsInt_levelHead (controlHeadInt_eq_some_iff.mp hd).1
  show (controlHeadInt someLimits .up 90 (-2147483647) levelHead).bind _ = none
  rw [hundefined]
  rfl

/-- A strength of -2000000000 is as good as any other. -/
theorem head_limits_iff_nod : ∃ d, (headSystem someLimits).exec levelHead
    [.headJoystick .up 90 5, .setEnable false, .headJoystick .up 90 3, .setEnable true,
      .headJoystick .up 90 (-2000000000)] = some d ∧ HeadKept someLimits levelHead d := by
  refine (head_limits_iff headLimits_someLimits headInLimits_levelHead _).mpr ?_
  intro before action after hactions d _
  have hmem := List.mem_append_right before (List.mem_cons_self (a := action) (l := after))
  rw [← hactions] at hmem
  cases action with
  | setEnable enable => trivial
  | headJoystick trig angle strength =>
      apply headFitsInt_of_le
      simp only [List.mem_cons, HeadAction.headJoystick.injEq, reduceCtorEq, List.not_mem_nil, or_false,
        false_or] at hmem
      rcases hmem with ⟨_, _, rfl⟩ | ⟨_, _, rfl⟩ | ⟨_, _, rfl⟩ <;> decide

end Kufibot
