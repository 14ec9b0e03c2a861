import Kufibot.Robot.HeadLimits

/-!
# `Robot.HeadStep` — how far one head joystick moves the head

A strength above 5 is cut down to 5, and so is meant to be the step: but the speed is the absolute value of
the strength times a sine or cosine, so a negative strength makes a step as large as the limits leave room
for. `SmallStep` is the condition for one joint: the product is below 6, or the limit is within 5 degrees.
-/

namespace Kufibot

open Lib ServoMotorController

/-- A step of this strength, or the room up to the limit, is at most 5 degrees. -/
def SmallStep (component : ℚ) (magnitude room : Int) : Prop :=
  |Float64.mul component magnitude| < 6 ∨ room ≤ 5

/-! ## One joint -/

/-- The minimum speed of 1 does not matter. -/
theorem smallStep_iff {component : ℚ} {magnitude room : Int} : SmallStep component magnitude room ↔
    atLeastOne (componentSpeed component magnitude) ≤ 5 ∨ room ≤ 5 := by
  have hspeed : componentSpeed component magnitude < 6 ↔ |Float64.mul component magnitude| < 6 := by
    rw [componentSpeed, Float64.toInt, if_pos (abs_nonneg _), Int.floor_lt]
    norm_num
  have hone : atLeastOne (componentSpeed component magnitude) ≤ 5 ↔
      componentSpeed component magnitude < 6 := by
    unfold atLeastOne
    split <;> omega
  rw [hone, hspeed, SmallStep]

/-- **A joint that is lowered** to no less than `low`. -/
theorem lowered_step_iff (component : ℚ) (magnitude : Int) {current low : Int} (h : low ≤ current) :
    |(if current - 1 * atLeastOne (componentSpeed component magnitude) ≤ low then low
      else current - 1 * atLeastOne (componentSpeed component magnitude)) - current| ≤ 5 ↔
      SmallStep component magnitude (current - low) := by
  have hpos := atLeastOne_pos (componentSpeed component magnitude)
  rw [smallStep_iff, abs_le]
  split <;> omega

/-- **A joint that is raised** to no more than `high`. -/
theorem raised_step_iff (component : ℚ) (magnitude : Int) {current high : Int} (h : current ≤ high) :
    |(if current + 1 * atLeastOne (componentSpeed component magnitude) ≥ high then high
      else current + 1 * atLeastOne (componentSpeed component magnitude)) - current| ≤ 5 ↔
      SmallStep component magnitude (high - current) := by
  have hpos := atLeastOne_pos (componentSpeed component magnitude)
  rw [smallStep_iff, abs_le]
  split <;> omega

/-- A joint is where it was told to go. -/
theorem recordedAngle_eq_of_inLimits {positions : JointPositionList} (hlimits : ByteLimits positions)
    {c : ServoMotorController} (hobeys : c.Obeys) {j : ServoMotorJoint} {target : Int}
    (h : InLimits positions j target) : recordedAngle (c.setJointAngle j target) j = target := by
  obtain ⟨hlow, hhigh⟩ := h
  obtain ⟨hzero, hmax⟩ := hlimits j
  rw [recordedAngle_setJointAngle hobeys]
  omega

/-! ## The two halves -/

/-- The joint moves by at most 5 degrees. -/
def StepBounded (c d : ServoMotorController) (j : ServoMotorJoint) : Prop :=
  |recordedAngle d j - recordedAngle c j| ≤ 5

theorem stepBounded_of_eq {c d : ServoMotorController} {j : ServoMotorJoint}
    (h : recordedAngle d j = recordedAngle c j) : StepBounded c d j := by
  rw [StepBounded, h, sub_self, abs_zero]
  decide

/-- The room of a joint that is lowered, and of one that is raised. -/
def roomBelow (positions : JointPositionList) (c : ServoMotorController) (j : ServoMotorJoint) : Int :=
  recordedAngle c j - headLow positions j

def roomAbove (positions : JointPositionList) (c : ServoMotorController) (j : ServoMotorJoint) : Int :=
  headHigh positions j - recordedAngle c j

/-- Up lowers the joint of the head and raises the neck, down the other way round. -/
def VerticalSmall (positions : JointPositionList) (upDown : ℚ) (magnitude : Int)
    (c : ServoMotorController) : Prop :=
  (deadZone < upDown → SmallStep upDown magnitude (roomBelow positions c .headUpDown) ∧
    SmallStep upDown magnitude (roomAbove positions c .neck)) ∧
  (upDown < -deadZone → SmallStep upDown magnitude (roomAbove positions c .headUpDown) ∧
    SmallStep upDown magnitude (roomBelow positions c .neck))

def HorizontalSmall (positions : JointPositionList) (leftRight : ℚ) (magnitude : Int)
    (c : ServoMotorController) : Prop :=
  (deadZone < leftRight → SmallStep leftRight magnitude (roomBelow positions c .headLeftRight)) ∧
  (leftRight < -deadZone → SmallStep leftRight magnitude (roomAbove positions c .headLeftRight))

section Halves

variable {positions : JointPositionList} (hlimits : ByteLimits positions) {c : ServoMotorController}
  (hobeys : c.Obeys) (h : HeadInLimits positions c)

include hlimits hobeys

/-- The neck is moved after the joint of the head, from where it was. -/
theorem recordedAngle_both {target neckTarget : Int} (htarget : InLimits positions .headUpDown target)
    (hneckTarget : InLimits positions .neck neckTarget) :
    recordedAngle ((c.setJointAngle .headUpDown target).setJointAngle .neck neckTarget) .headUpDown =
        target ∧
      recordedAngle ((c.setJointAngle .headUpDown target).setJointAngle .neck neckTarget) .neck =
        neckTarget := by
  constructor
  · rw [recordedAngle_setJointAngle_of_ne (by decide)]
    exact recordedAngle_eq_of_inLimits hlimits hobeys htarget
  · exact recordedAngle_eq_of_inLimits hlimits (obeys_setJointAngle hobeys _ _) hneckTarget

include h

theorem headUp_step_iff (component : ℚ) (magnitude : Int) :
    StepBounded c (headUp positions (componentSpeed component magnitude) c) .headUpDown ∧
        StepBounded c (headUp positions (componentSpeed component magnitude) c) .neck ↔
      SmallStep component magnitude (roomBelow positions c .headUpDown) ∧
        SmallStep component magnitude (roomAbove positions c .neck) := by
  have hhead := h .headUpDown (.inl rfl)
  have hneck := h .neck (.inr (.inl rfl))
  have hspeed := atLeastOne_pos (componentSpeed component magnitude)
  obtain ⟨hheadTarget, hneckTarget⟩ := recordedAngle_both hlimits hobeys (HeadKept.lowered hhead hspeed)
    (HeadKept.raised hneck hspeed)
  unfold StepBounded headUp
  refine and_congr ?_ ?_
  · exact (iff_of_eq (congrArg (|· - _| ≤ 5) hheadTarget)).trans (lowered_step_iff _ _ hhead.1)
  · exact (iff_of_eq (congrArg (|· - _| ≤ 5) hneckTarget)).trans (raised_step_iff _ _ hneck.2)

theorem headDown_step_iff (component : ℚ) (magnitude : Int) :
    StepBounded c (headDown positions (componentSpeed component magnitude) c) .headUpDown ∧
        StepBounded c (headDown positions (componentSpeed component magnitude) c) .neck ↔
      SmallStep component magnitude (roomAbove positions c .headUpDown) ∧
        SmallStep component magnitude (roomBelow positions c .neck) := by
  have hhead := h .headUpDown (.inl rfl)
  have hneck := h .neck (.inr (.inl rfl))
  have hspeed := atLeastOne_pos (componentSpeed component magnitude)
  obtain ⟨hheadTarget, hneckTarget⟩ := recordedAngle_both hlimits hobeys (HeadKept.raised hhead hspeed)
    (HeadKept.lowered hneck hspeed)
  unfold StepBounded headDown
  refine and_congr ?_ ?_
  · exact (iff_of_eq (congrArg (|· - _| ≤ 5) hheadTarget)).trans (raised_step_iff _ _ hhead.2)
  · exact (iff_of_eq (congrArg (|· - _| ≤ 5) hneckTarget)).trans (lowered_step_iff _ _ hneck.1)

theorem vertical_step_iff (upDown : ℚ) (magnitude : Int) :
    StepBounded c (headVertical positions upDown magnitude c) .headUpDown ∧
      StepBounded c (headVertical positions upDown magnitude c) .neck ↔
      VerticalSmall positions upDown magnitude c := by
  have hdead := deadZone_pos
  unfold VerticalSmall headVertical
  simp only
  split_ifs with hup hdown
  · rw [headUp_step_iff hlimits hobeys h]
    refine ⟨fun hsmall => ⟨fun _ => hsmall, fun hdown => ?_⟩, fun hsmall => hsmall.1 hup⟩
    exact absurd hdown (by linarith)
  · rw [headDown_step_iff hlimits hobeys h]
    exact ⟨fun hsmall => ⟨fun hup' => absurd hup' hup, fun _ => hsmall⟩, fun hsmall => hsmall.2 hdown⟩
  · exact iff_of_true ⟨stepBounded_of_eq rfl, stepBounded_of_eq rfl⟩
      ⟨fun hup' => absurd hup' hup, fun hdown' => absurd hdown' hdown⟩

theorem horizontal_step_iff (leftRight : ℚ) (magnitude : Int) :
    StepBounded c (headHorizontal leftRight magnitude c) .headLeftRight ↔
      HorizontalSmall positions leftRight magnitude c := by
  have hdead := deadZone_pos
  have hturn := h .headLeftRight (.inr (.inr rfl))
  have hspeed := atLeastOne_pos (componentSpeed leftRight magnitude)
  unfold HorizontalSmall headHorizontal
  simp only
  split_ifs with hright hleft
  · have htarget := recordedAngle_eq_of_inLimits hlimits hobeys (HeadKept.lowered hturn hspeed)
    refine (iff_of_eq (congrArg (|· - _| ≤ 5) htarget)).trans ((lowered_step_iff _ _ hturn.1).trans ?_)
    refine ⟨fun hsmall => ⟨fun _ => hsmall, fun hleft => ?_⟩, fun hsmall => hsmall.1 hright⟩
    exact absurd hleft (by linarith)
  · have htarget := recordedAngle_eq_of_inLimits hlimits hobeys (HeadKept.raised hturn hspeed)
    refine (iff_of_eq (congrArg (|· - _| ≤ 5) htarget)).trans ((raised_step_iff _ _ hturn.2).trans ?_)
    exact ⟨fun hsmall => ⟨fun hright' => absurd hright' hright, fun _ => hsmall⟩,
      fun hsmall => hsmall.2 hleft⟩
  · exact iff_of_true (stepBounded_of_eq rfl)
      ⟨fun hright' => absurd hright' hright, fun hleft' => absurd hleft' hleft⟩

end Halves

/-! ## The command -/

theorem recordedAngle_headHorizontal {j : ServoMotorJoint} (hj : j ≠ .headLeftRight) (leftRight : ℚ)
    (magnitude : Int) (c : ServoMotorController) :
    recordedAngle (headHorizontal leftRight magnitude c) j = recordedAngle c j := by
  unfold headHorizontal
  simp only
  split_ifs
  · exact recordedAngle_setJointAngle_of_ne hj _
  · exact recordedAngle_setJointAngle_of_ne hj _
  · rfl

/-- A controller that does not obey is left alone. -/
theorem controlHead_of_not_obeys {c : ServoMotorController} (h : ¬ c.Obeys) (trig : Trig)
    (positions : JointPositionList) (angle magnitude : Int) :
    controlHead trig positions angle magnitude c = c := by
  have hkept : KeptBySetJointAngle fun d => d = c := by
    intro d joint target hd
    rw [hd, setJointAngle_of_not_obeys h]
  exact kept_controlHead hkept trig positions angle magnitude rfl

/-- **The head joystick makes a small step.** -/
def HeadStepSmall (positions : JointPositionList) (trig : Trig) (angle magnitude : Int)
    (c : ServoMotorController) : Prop :=
  c.Obeys → ¬ (magnitude = 0 ∧ angle = 0) →
    VerticalSmall positions (trig.sinDeg angle) (if magnitude > 5 then 5 else magnitude) c ∧
      HorizontalSmall positions (trig.cosDeg angle) (if magnitude > 5 then 5 else magnitude) c

theorem controlHead_step_iff {positions : JointPositionList} (hlimits : ByteLimits positions)
    {c : ServoMotorController} (h : HeadInLimits positions c) (trig : Trig) (angle magnitude : Int) :
    (∀ j, IsHeadJoint j → StepBounded c (controlHead trig positions angle magnitude c) j) ↔
      HeadStepSmall positions trig angle magnitude c := by
  by_cases hobeys : c.Obeys
  · unfold HeadStepSmall controlHead
    by_cases hidle : magnitude = 0 ∧ angle = 0
    · rw [if_pos hidle]
      exact iff_of_true (fun j _ => stepBounded_of_eq rfl) fun _ hnot => absurd hidle hnot
    · rw [if_neg hidle]
      simp only
      generalize (if magnitude > 5 then 5 else magnitude) = m
      -- each half leaves the joints of the other alone
      have hvertical := vertical_step_iff hlimits hobeys h (trig.sinDeg angle) m
      have hkept := (HeadKept.refl h).headVertical hlimits (trig.sinDeg angle) m
      have hobeys' : (headVertical positions (trig.sinDeg angle) m c).Obeys := by
        rwa [Obeys, headVertical_flags]
      have hhorizontal := horizontal_step_iff hlimits hobeys' hkept.recorded (trig.cosDeg angle) m
      have hturn : recordedAngle (headVertical positions (trig.sinDeg angle) m c) .headLeftRight =
          recordedAngle c .headLeftRight := recordedAngle_headVertical (by decide) (by decide) ..
      unfold StepBounded HorizontalSmall roomBelow roomAbove at hhorizontal
      rw [hturn] at hhorizontal
      have hjoints : ∀ P : ServoMotorJoint → Prop, (∀ j, IsHeadJoint j → P j) ↔
          (P .headUpDown ∧ P .neck) ∧ P .headLeftRight := by
        intro P
        unfold IsHeadJoint
        simp only [forall_eq_or_imp, forall_eq, and_assoc]
      rw [hjoints]
      have hhead := recordedAngle_headHorizontal (j := .headUpDown) (by decide) (trig.cosDeg angle) m
        (headVertical positions (trig.sinDeg angle) m c)
      have hneck := recordedAngle_headHorizontal (j := .neck) (by decide) (trig.cosDeg angle) m
        (headVertical positions (trig.sinDeg angle) m c)
      unfold StepBounded at hvertical ⊢
      rw [hhead, hneck, hvertical, hhorizontal]
      exact ⟨fun hsmall _ _ => hsmall, fun hsmall => hsmall hobeys hidle⟩
  · rw [controlHead_of_not_obeys hobeys]
    exact iff_of_true (fun j _ => stepBounded_of_eq rfl) fun hnot => absurd hnot hobeys

/-- **When a head joystick moves no joint by more than 5 degrees, exactly**: it computes values of `int` only,
    and the controller does not obey, or each component that moves the head is below 6 or has at most 5
    degrees of room for each joint. -/
theorem head_step_bound_iff {positions : JointPositionList} (hlimits : ByteLimits positions)
    {c : ServoMotorController} (h : HeadInLimits positions c) (trig : Trig) (angle strength : Int) :
    (∃ d, controlHeadInt positions trig angle strength c = some d ∧
        ∀ j, IsHeadJoint j → StepBounded c d j) ↔
      HeadFitsInt trig angle strength c ∧ HeadStepSmall positions trig angle strength c := by
  rw [← controlHead_step_iff hlimits h]
  constructor
  · rintro ⟨d, hd, hbounded⟩
    obtain ⟨hfits, rfl⟩ := controlHeadInt_eq_some_iff.mp hd
    exact ⟨hfits, hbounded⟩
  · rintro ⟨hfits, hbounded⟩
    exact ⟨_, controlHeadInt_eq_some_iff.mpr ⟨hfits, rfl⟩, hbounded⟩

/-! ### Two joysticks -/

/-- From -5 on, the strength makes small steps. -/
theorem smallStep_of_le {component : ℚ} (hcomponent : |component| ≤ 1) {magnitude : Int}
    (h : -5 ≤ magnitude) (room : Int) :
    SmallStep component (if magnitude > 5 then 5 else magnitude) room := by
  have habs : |if magnitude > 5 then 5 else magnitude| ≤ 5 := by
    rw [abs_le]
    split <;> omega
  have hspeed := (componentSpeed_mem hcomponent (lt_of_le_of_lt habs (by norm_num))).2
  exact smallStep_iff.mpr (.inl (atLeastOne_le (le_trans hspeed habs) (by decide)))

theorem headStepSmall_of_le {strength : Int} (h : -5 ≤ strength) (positions : JointPositionList)
    (trig : Trig) (angle : Int) (c : ServoMotorController) :
    HeadStepSmall positions trig angle strength c := by
  intro _ _
  have hsin := smallStep_of_le (trig.abs_sinDeg_le angle) h
  have hcos := smallStep_of_le (trig.abs_cosDeg_le angle) h
  exact ⟨⟨fun _ => ⟨hsin _, hsin _⟩, fun _ => ⟨hsin _, hsin _⟩⟩, fun _ => hcos _, fun _ => hcos _⟩

/-- **The promise is broken** by a strength of -100: straight up, the joint of the head moves from 15 to 0. -/
theorem head_step_unbounded : ByteLimits someLimits ∧ HeadInLimits someLimits levelHead ∧
    ¬ ∃ d, controlHeadInt someLimits .up 90 (-100) levelHead = some d ∧
      ∀ j, IsHeadJoint j → StepBounded levelHead d j := by
  refine ⟨headLimits_someLimits.byteLimits, headInLimits_levelHead, ?_⟩
  rintro ⟨d, hd, hbounded⟩
  obtain ⟨_, rfl⟩ := controlHeadInt_eq_some_iff.mp hd
  have hhead : recordedAngle (controlHead .up someLimits 90 (-100) levelHead) .headUpDown = 0 := by
    decide +kernel
  have hstep := hbounded .headUpDown (.inl rfl)
  rw [StepBounded, hhead] at hstep
  revert hstep
  decide

/-- A strength of 100 is cut down to 5. -/
theorem head_step_bound_iff_full : ∃ d, controlHeadInt someLimits .up 90 100 levelHead = some d ∧
    ∀ j, IsHeadJoint j → StepBounded levelHead d j :=
  (head_step_bound_iff headLimits_someLimits.byteLimits headInLimits_levelHead .up 90 100).mpr
    ⟨headFitsInt_of_le (by decide) _ _ _, headStepSmall_of_le (by decide) _ _ _ _⟩

end Kufibot
