import Kufibot.Robot.ControlMotion

/-!
# `Robot.JointRange` — the angles the servos are told

A servo takes the angles from 0 to 180 degrees, which are pulses of 500 to 2500 microseconds, and
`setJointAngle` checks no angle. Its loop passes through every degree between the recorded angle and the
target (`mem_commandedAngles_iff`), so a target outside the range leads to the pulse of 181 or of -1 degrees.

`ServoMotorController.InRange` says that all pulses so far were those of angles the servo takes, and that
each recorded angle is the one of the last pulse. `Keeps ok c d` says that the commands that lead from `c`
to `d` keep this exactly when `ok` holds; it composes, so each command of `control_motion` gets one lemma.
-/

namespace Kufibot

open Lib

/-! ## Pulses -/

/-- The angles a servo takes. -/
def IsServoAngle (angle : Int) : Prop := 0 ≤ angle ∧ angle ≤ 180

instance (angle : Int) : Decidable (IsServoAngle angle) := inferInstanceAs (Decidable (_ ∧ _))

/-- The off-count for an angle. -/
def servoCount (angle : Int) : Int := (ServoMotorController.pulseOf angle * 4096).tdiv 20000

/-- The duty cycle that moves a joint to an angle. -/
def jointDuty (joint : ServoMotorJoint) (angle : Int) : DutyCycle := ⟨joint.channel, 0, servoCount angle⟩

/-- The duty cycle is the pulse of an angle that the servo takes. -/
def DutyCycle.IsServoPulse (d : DutyCycle) : Prop :=
  ∃ joint angle, IsServoAngle angle ∧ 500 ≤ ServoMotorController.pulseOf angle ∧
    ServoMotorController.pulseOf angle ≤ 2500 ∧ d = jointDuty joint angle

/-- On the angles the servo takes, the doubles do not change the pulse. -/
theorem pulseOf_eq {angle : Nat} (h : angle ≤ 180) :
    ServoMotorController.pulseOf angle = 500 + (angle * 100 / 9 : Nat) := by
  have htable : ∀ a : Fin 181,
      ServoMotorController.pulseOf a.val = 500 + (a.val * 100 / 9 : Nat) := by decide +kernel
  exact htable ⟨angle, by omega⟩

theorem servoCount_eq {angle : Nat} (h : angle ≤ 180) :
    servoCount angle = ((500 + angle * 100 / 9) * 4096 / 20000 : Nat) := by
  rw [servoCount, pulseOf_eq h, Int.tdiv_eq_ediv_of_nonneg (by omega)]
  omega

theorem isServoPulse_jointDuty {angle : Int} (joint : ServoMotorJoint) (h : IsServoAngle angle) :
    (jointDuty joint angle).IsServoPulse := by
  refine ⟨joint, angle, h, ?_, ?_, rfl⟩
  all_goals
    obtain ⟨hlow, hhigh⟩ := h
    lift angle to Nat using hlow
    rw [pulseOf_eq (by omega)]
    omega

theorem servoCount_next : servoCount 181 = 514 ∧ servoCount (-1) = 99 := by decide +kernel

/-- The pulses next to the range are those of no angle in it. -/
theorem not_isServoPulse_next {angle : Int} (joint : ServoMotorJoint) (h : angle = 181 ∨ angle = -1) :
    ¬ (jointDuty joint angle).IsServoPulse := by
  rintro ⟨joint', a, ⟨ha0, ha⟩, _, _, heq⟩
  have hcount : servoCount angle = servoCount a := congrArg DutyCycle.off heq
  lift a to Nat using ha0
  rw [servoCount_eq (by omega)] at hcount
  rcases h with rfl | rfl
  · rw [servoCount_next.1] at hcount
    omega
  · rw [servoCount_next.2] at hcount
    omega

/-! ## The loop of `setJointAngle` -/

/-- Degree by degree from the recorded angle to the target. -/
theorem rampAngles_eq {direction : Int} (hdir : direction = 1 ∨ direction = -1) (n : Nat)
    (current : Int) :
    ServoMotorController.rampAngles (current + direction * n) direction 1 n current =
      (List.range n).map fun i : Nat => current + direction * (i + 1) := by
  induction n generalizing current with
  | zero => rfl
  | succ n ih =>
      have htarget : current + direction * (n + 1 : Nat) = (current + direction * 1) + direction * n := by
        push_cast; ring
      have hne : current ≠ current + direction * (n + 1 : Nat) := by
        rcases hdir with rfl | rfl <;> omega
      have hcut : ¬ ((direction = 1 ∧ current + direction * 1 > current + direction * (n + 1 : Nat)) ∨
          (direction = -1 ∧ current + direction * 1 < current + direction * (n + 1 : Nat))) := by
        rcases hdir with rfl | rfl <;> omega
      rw [ServoMotorController.rampAngles, if_neg hne]
      simp only [if_neg hcut]
      rw [htarget, ih, List.range_succ_eq_map, List.map_cons, List.map_map]
      congr 1
      refine List.map_congr_left fun i _ => ?_
      simp only [Function.comp]
      push_cast; ring

/-- The angles that `setJointAngle` turns into pulses, in order. -/
def commandedAngles (joint : ServoMotorJoint) (target : Int) (c : ServoMotorController) : List Int :=
  ServoMotorController.rampAngles target (if target > recordedAngle c joint then 1 else -1) 1
    (target - recordedAngle c joint).natAbs (recordedAngle c joint)

theorem commandedAngles_eq (joint : ServoMotorJoint) (target : Int) (c : ServoMotorController) :
    ∃ direction : Int, (direction = 1 ∨ direction = -1) ∧
      target = recordedAngle c joint + direction * (target - recordedAngle c joint).natAbs ∧
      commandedAngles joint target c = (List.range (target - recordedAngle c joint).natAbs).map
        fun i : Nat => recordedAngle c joint + direction * (i + 1) := by
  have key : ∀ direction : Int, (direction = 1 ∨ direction = -1) →
      target = recordedAngle c joint + direction * (target - recordedAngle c joint).natAbs →
      ServoMotorController.rampAngles target direction 1 (target - recordedAngle c joint).natAbs
        (recordedAngle c joint) = (List.range (target - recordedAngle c joint).natAbs).map
          fun i : Nat => recordedAngle c joint + direction * (i + 1) := by
    intro direction hdir htarget
    rw [← rampAngles_eq hdir, ← htarget]
  unfold commandedAngles
  split
  · have htarget : target = recordedAngle c joint + 1 * (target - recordedAngle c joint).natAbs := by
      omega
    exact ⟨1, .inl rfl, htarget, key 1 (.inl rfl) htarget⟩
  · have htarget : target = recordedAngle c joint + -1 * (target - recordedAngle c joint).natAbs := by
      omega
    exact ⟨-1, .inr rfl, htarget, key (-1) (.inr rfl) htarget⟩

/-- **The loop passes through every degree** between the recorded angle and the target. -/
theorem mem_commandedAngles_iff {joint : ServoMotorJoint} {target : Int} {c : ServoMotorController}
    {a : Int} :
    a ∈ commandedAngles joint target c ↔
      (recordedAngle c joint < a ∧ a ≤ target) ∨ (target ≤ a ∧ a < recordedAngle c joint) := by
  obtain ⟨direction, hdir, htarget, hangles⟩ := commandedAngles_eq joint target c
  generalize (target - recordedAngle c joint).natAbs = n at htarget hangles
  rw [hangles]
  simp only [List.mem_map, List.mem_range]
  constructor
  · rintro ⟨i, hi, rfl⟩
    rcases hdir with rfl | rfl <;> omega
  · intro h
    refine ⟨(a - recordedAngle c joint).natAbs - 1, ?_, ?_⟩ <;> rcases hdir with rfl | rfl <;> omega

/-- Unless the joint is at its target already, the target is commanded last. -/
theorem commandedAngles_last (joint : ServoMotorJoint) (target : Int) (c : ServoMotorController) :
    (target = recordedAngle c joint ∧ commandedAngles joint target c = []) ∨
      ∃ before, commandedAngles joint target c = before ++ [target] := by
  obtain ⟨direction, _, htarget, hangles⟩ := commandedAngles_eq joint target c
  generalize (target - recordedAngle c joint).natAbs = n at htarget hangles
  cases n with
  | zero => exact .inl ⟨by simpa using htarget, hangles⟩
  | succ n =>
      rw [List.range_succ, List.map_append, List.map_singleton] at hangles
      refine .inr ⟨_, hangles.trans (congrArg (_ ++ [·]) ?_)⟩
      rw [htarget]
      push_cast; rfl

/-! ## What `setJointAngle` does -/

namespace ServoMotorController

/-- The controller obeys commands. -/
def Obeys (c : ServoMotorController) : Prop := c.isEnabled = true ∧ c.isReady = true

theorem setJointAngle_of_not_obeys {c : ServoMotorController} (h : ¬ c.Obeys) (joint : ServoMotorJoint)
    (target : Int) : c.setJointAngle joint target = c := by
  rw [setJointAngle, if_pos]
  simpa [Obeys, Decidable.imp_iff_not_or] using h

theorem foldl_commandAngle_dutyCycles (joint : ServoMotorJoint) (angles : List Int)
    (c : ServoMotorController) :
    (angles.foldl (fun c a => c.commandAngle joint a) c).driver.dutyCycles =
      (angles.map (jointDuty joint)).reverse ++ c.driver.dutyCycles := by
  induction angles generalizing c with
  | nil => rfl
  | cons a angles ih =>
      rw [List.foldl_cons, ih, List.map_cons, List.reverse_cons, List.append_assoc]
      rfl

theorem foldl_commandAngle_recorded {joint j : ServoMotorJoint} (hj : j ≠ joint) (angles : List Int)
    (c : ServoMotorController) :
    (angles.foldl (fun c a => c.commandAngle joint a) c).currentJointAngles j =
      c.currentJointAngles j := by
  induction angles generalizing c with
  | nil => rfl
  | cons a angles ih =>
      rw [List.foldl_cons, ih]
      exact if_neg hj

variable {c : ServoMotorController}

theorem setJointAngle_eq (h : c.Obeys) (joint : ServoMotorJoint) (target : Int) :
    c.setJointAngle joint target = ((commandedAngles joint target c).foldl
      (fun c a => c.commandAngle joint a) c).recordAngle joint target := by
  rw [setJointAngle, if_neg]
  · rfl
  · simp [h.1, h.2]

theorem obeys_setJointAngle (h : c.Obeys) (joint : ServoMotorJoint) (target : Int) :
    (c.setJointAngle joint target).Obeys := by
  unfold Obeys at h ⊢
  rwa [setJointAngle_flags]

theorem setJointAngle_dutyCycles (h : c.Obeys) (joint : ServoMotorJoint) (target : Int) :
    (c.setJointAngle joint target).driver.dutyCycles =
      ((commandedAngles joint target c).map (jointDuty joint)).reverse ++ c.driver.dutyCycles := by
  rw [setJointAngle_eq h]
  exact foldl_commandAngle_dutyCycles joint _ c

theorem recordedAngle_setJointAngle (h : c.Obeys) (joint : ServoMotorJoint) (target : Int) :
    recordedAngle (c.setJointAngle joint target) joint = target % 256 := by
  rw [setJointAngle_eq h]
  simp only [recordedAngle, getAllJointsAngle, recordAngle, if_pos, Option.getD_some, toUInt8]
  rw [UInt8.toNat_ofNat']
  omega

theorem recordedAngle_setJointAngle_of_ne {joint j : ServoMotorJoint} (hj : j ≠ joint) (target : Int) :
    recordedAngle (c.setJointAngle joint target) j = recordedAngle c j := by
  by_cases h : c.Obeys
  · rw [setJointAngle_eq h]
    simp only [recordedAngle, getAllJointsAngle, recordAngle, if_neg hj]
    rw [foldl_commandAngle_recorded hj]
  · rw [setJointAngle_of_not_obeys h]

/-! ## In range -/

/-- All pulses so far were of angles the servo takes. -/
def PulsesInRange (c : ServoMotorController) : Prop := ∀ d ∈ c.driver.dutyCycles, d.IsServoPulse

/-- The last duty cycle of a joint. -/
def lastDuty (joint : ServoMotorJoint) (c : ServoMotorController) : Option DutyCycle :=
  c.driver.dutyCycles.find? fun d => d.channel == joint.channel

/-- **The servos are in range.** The pulses and the recorded angles are those of angles the servo takes,
    and each recorded angle is the one of the last pulse of its joint. -/
structure InRange (c : ServoMotorController) : Prop where
  pulses : c.PulsesInRange
  recorded : ∀ joint, IsServoAngle (recordedAngle c joint)
  last : ∀ joint d, c.lastDuty joint = some d → d = jointDuty joint (recordedAngle c joint)

theorem channel_injective {joint j : ServoMotorJoint} (h : joint.channel = j.channel) : joint = j := by
  revert h
  cases joint <;> cases j <;> decide

/-- The pulses of one joint are not those of another. -/
theorem lastDuty_setJointAngle_of_ne {joint j : ServoMotorJoint} (hj : j ≠ joint) (target : Int) :
    (c.setJointAngle joint target).lastDuty j = c.lastDuty j := by
  by_cases h : c.Obeys
  · have hnone : ((commandedAngles joint target c).map (jointDuty joint)).reverse.find?
        (fun d => d.channel == j.channel) = none := by
      rw [List.find?_eq_none]
      intro d hd heq
      obtain ⟨a, _, rfl⟩ := List.mem_map.mp (List.mem_reverse.mp hd)
      exact hj (channel_injective (beq_iff_eq.mp heq)).symm
    rw [lastDuty, setJointAngle_dutyCycles h, List.find?_append, hnone]
    rfl
  · rw [setJointAngle_of_not_obeys h]

theorem lastDuty_setJointAngle (h : c.Obeys) (joint : ServoMotorJoint) (target : Int) :
    (target = recordedAngle c joint ∧ (c.setJointAngle joint target).lastDuty joint = c.lastDuty joint) ∨
      (c.setJointAngle joint target).lastDuty joint = some (jointDuty joint target) := by
  rw [lastDuty, setJointAngle_dutyCycles h]
  rcases commandedAngles_last joint target c with ⟨htarget, hnil⟩ | ⟨before, hlast⟩
  · rw [hnil]
    exact .inl ⟨htarget, rfl⟩
  · rw [hlast, List.map_append, List.map_singleton, List.reverse_append]
    exact .inr (List.find?_cons_of_pos (beq_self_eq_true _))

theorem recordedAngle_eq_target (hobeys : c.Obeys) (joint : ServoMotorJoint) {target : Int}
    (htarget : IsServoAngle target) : recordedAngle (c.setJointAngle joint target) joint = target := by
  obtain ⟨hlow, hhigh⟩ := htarget
  rw [recordedAngle_setJointAngle hobeys]
  omega

/-- Between two angles of the servo there are only angles of the servo. -/
theorem isServoAngle_of_mem_commandedAngles {joint : ServoMotorJoint} {target a : Int}
    (hrecorded : IsServoAngle (recordedAngle c joint)) (htarget : IsServoAngle target)
    (ha : a ∈ commandedAngles joint target c) : IsServoAngle a := by
  obtain ⟨hrecorded0, hrecorded⟩ := hrecorded
  obtain ⟨htarget0, htarget⟩ := htarget
  rcases mem_commandedAngles_iff.mp ha with ⟨hlow, hhigh⟩ | ⟨hlow, hhigh⟩
  · exact ⟨by omega, by omega⟩
  · exact ⟨by omega, by omega⟩

theorem inRange_setJointAngle (h : c.InRange) (joint : ServoMotorJoint) {target : Int}
    (htarget : IsServoAngle target) : (c.setJointAngle joint target).InRange := by
  by_cases hobeys : c.Obeys
  · have hself := recordedAngle_eq_target hobeys joint htarget
    refine ⟨?_, ?_, ?_⟩
    · intro d hd
      rw [setJointAngle_dutyCycles hobeys] at hd
      rcases List.mem_append.mp hd with hnew | hold
      · obtain ⟨a, ha, rfl⟩ := List.mem_map.mp (List.mem_reverse.mp hnew)
        have hangle := isServoAngle_of_mem_commandedAngles (h.recorded joint) htarget ha
        exact isServoPulse_jointDuty joint hangle
      · exact h.pulses d hold
    · intro j
      by_cases hj : j = joint
      · rw [hj, hself]; exact htarget
      · rw [recordedAngle_setJointAngle_of_ne hj]; exact h.recorded j
    · intro j d hd
      by_cases hj : j = joint
      · subst hj
        rw [hself]
        rcases lastDuty_setJointAngle hobeys j target with ⟨hstays, hold⟩ | hnew
        · rw [hold] at hd
          rw [hstays]
          exact h.last j d hd
        · exact Option.some.inj (hd.symm.trans hnew)
      · rw [lastDuty_setJointAngle_of_ne hj] at hd
        rw [recordedAngle_setJointAngle_of_ne hj]
        exact h.last j d hd
  · rw [setJointAngle_of_not_obeys hobeys]
    exact h

/-- On the way to a target outside the range the loop passes through the next angle. -/
theorem not_pulsesInRange_setJointAngle (h : c.InRange) (hobeys : c.Obeys) (joint : ServoMotorJoint)
    {target : Int} (htarget : ¬ IsServoAngle target) :
    ¬ (c.setJointAngle joint target).PulsesInRange := by
  obtain ⟨hrec0, hrec⟩ := h.recorded joint
  have hnext : ∃ a, (a = 181 ∨ a = -1) ∧ a ∈ commandedAngles joint target c := by
    rcases Int.lt_or_le target 0 with hneg | hpos
    · refine ⟨-1, .inr rfl, mem_commandedAngles_iff.mpr (.inr ⟨?_, ?_⟩)⟩ <;> omega
    · have hbig : 180 < target := not_le.mp fun hle => htarget ⟨hpos, hle⟩
      refine ⟨181, .inl rfl, mem_commandedAngles_iff.mpr (.inl ⟨?_, ?_⟩)⟩ <;> omega
  obtain ⟨a, ha, hmem⟩ := hnext
  intro hpulses
  refine not_isServoPulse_next joint ha (hpulses _ ?_)
  rw [setJointAngle_dutyCycles hobeys]
  exact List.mem_append_left _ (List.mem_reverse.mpr (List.mem_map_of_mem hmem))

theorem pulsesInRange_of_setJointAngle {joint : ServoMotorJoint} {target : Int}
    (h : (c.setJointAngle joint target).PulsesInRange) : c.PulsesInRange := by
  by_cases hobeys : c.Obeys
  · intro d hd
    refine h d ?_
    rw [setJointAngle_dutyCycles hobeys]
    exact List.mem_append_right _ hd
  · rwa [setJointAngle_of_not_obeys hobeys] at h

end ServoMotorController

/-! ## Commands of the head, the arms and the eyes -/

/-- **Exactly when `ok`**, the calls that lead from `c` to `d` keep the servos in range. -/
structure Keeps (ok : Prop) (c d : ServoMotorController) : Prop where
  flags : d.toController = c.toController
  /-- A pulse is not taken back. -/
  pulses : d.PulsesInRange → c.PulsesInRange
  keeps : c.InRange → ok → d.InRange
  breaks : c.InRange → c.Obeys → ¬ ok → ¬ d.PulsesInRange

namespace Keeps

variable {ok ok' : Prop} {c d e : ServoMotorController}

theorem refl (c : ServoMotorController) : Keeps True c c :=
  ⟨rfl, id, fun h _ => h, fun _ _ hok => absurd trivial hok⟩

theorem trans (h : Keeps ok c d) (h' : Keeps ok' d e) : Keeps (ok ∧ ok') c e where
  flags := h'.flags.trans h.flags
  pulses := fun he => h.pulses (h'.pulses he)
  keeps := fun hc hok => h'.keeps (h.keeps hc hok.1) hok.2
  breaks := by
    intro hc hobeys hnot he
    by_cases hok : ok
    · have hobeys' : d.Obeys := by rwa [ServoMotorController.Obeys, h.flags]
      exact h'.breaks (h.keeps hc hok) hobeys' (fun hok' => hnot ⟨hok, hok'⟩) he
    · exact h.breaks hc hobeys hok (h'.pulses he)

theorem congr (h : Keeps ok c d) (hok : c.InRange → (ok ↔ ok')) : Keeps ok' c d where
  flags := h.flags
  pulses := h.pulses
  keeps := fun hc hok' => h.keeps hc ((hok hc).mpr hok')
  breaks := fun hc hobeys hnot => h.breaks hc hobeys fun hok'' => hnot ((hok hc).mp hok'')

theorem inRange_iff (h : Keeps ok c d) (hc : c.InRange) (hobeys : c.Obeys) : d.InRange ↔ ok := by
  constructor
  · intro hd
    by_contra hok
    exact h.breaks hc hobeys hok hd.pulses
  · exact h.keeps hc

end Keeps

theorem keeps_setJointAngle (joint : ServoMotorJoint) (target : Int) (c : ServoMotorController) :
    Keeps (IsServoAngle target) c (c.setJointAngle joint target) where
  flags := ServoMotorController.setJointAngle_flags ..
  pulses := ServoMotorController.pulsesInRange_of_setJointAngle
  keeps := fun h => ServoMotorController.inRange_setJointAngle h joint
  breaks := fun h hobeys => ServoMotorController.not_pulsesInRange_setJointAngle h hobeys joint

/-! ### The arms -/

theorem scaledArmAngle_mem {angle : Int} (h : 0 ≤ angle) (h' : angle ≤ 100) :
    IsServoAngle (scaledArmAngle angle) := by
  have hlow : (0 : ℚ) ≤ angle := by exact_mod_cast h
  have hhigh : (angle : ℚ) ≤ 100 := by exact_mod_cast h'
  obtain ⟨hdiv0, hdiv⟩ := Float64.div_mem_of_nonneg (a := angle) (b := 100) (by linarith)
  obtain ⟨hmul0, hmul⟩ := Float64.mul_mem_of_nonneg (a := Float64.div angle 100) (b := 180)
    (by linarith)
  constructor
  · exact Float64.le_toInt le_rfl (by push_cast; linarith)
  · exact Int.lt_add_one_iff.mp (Float64.toInt_lt (n := 181) (by norm_num) (by push_cast; linarith))

/-- The roundings of the percentage do not reach the angle below. -/
theorem scaledArmAngle_gt {angle : Int} (h : 100 < angle) : 180 < scaledArmAngle angle := by
  have hangle : (101 : ℚ) ≤ angle := by exact_mod_cast h
  obtain ⟨hdiv, _⟩ := Float64.div_mem_of_nonneg (a := angle) (b := 100) (by linarith)
  obtain ⟨hmul, _⟩ := Float64.mul_mem_of_nonneg (a := Float64.div angle 100) (b := 180) (by linarith)
  exact Float64.le_toInt (n := 181) (by norm_num) (by push_cast; linarith)

theorem scaledArmAngle_neg {angle : Int} (h : angle < 0) : scaledArmAngle angle < 0 := by
  have hangle : (angle : ℚ) ≤ -1 := by exact_mod_cast Int.le_sub_one_of_lt h
  have hdiv := Float64.div_le_of_nonpos (a := angle) (b := 100) (by linarith)
  have hmul := Float64.mul_le_of_nonpos (a := Float64.div angle 100) (b := 180) (by linarith)
  have hle : scaledArmAngle angle ≤ -1 :=
    Float64.toInt_le (by norm_num) (by push_cast; linarith)
  exact lt_of_le_of_lt hle (by norm_num)

/-- The arms take percentages. -/
theorem isServoAngle_scaledArmAngle_iff (angle : Int) :
    IsServoAngle (scaledArmAngle angle) ↔ 0 ≤ angle ∧ angle ≤ 100 := by
  constructor
  · rintro ⟨hlow, hhigh⟩
    constructor
    · exact not_lt.mp fun hneg => absurd hlow (not_le.mpr (scaledArmAngle_neg hneg))
    · exact not_lt.mp fun hbig => absurd hhigh (not_le.mpr (scaledArmAngle_gt hbig))
  · rintro ⟨hlow, hhigh⟩
    exact scaledArmAngle_mem hlow hhigh

theorem keeps_controlArm (joint : ServoMotorJoint) (angle : Int) (c : ServoMotorController) :
    Keeps (0 ≤ angle ∧ angle ≤ 100) c (controlArm joint angle c) :=
  (keeps_setJointAngle joint (scaledArmAngle angle) c).congr
    fun _ => isServoAngle_scaledArmAngle_iff angle

/-! ### The eyes -/

/-- The position is configured to an angle the servo takes. -/
def EyeFits (positions : JointPositionList) (joint : ServoMotorJoint) (state : Bool) : Prop :=
  IsServoAngle (positions joint (if state then .fullup else .fulldown))

theorem keeps_controlEye (positions : JointPositionList) {joint : ServoMotorJoint}
    (hjoint : joint = .eyeLeft ∨ joint = .eyeRight) (state : Bool) (c : ServoMotorController) :
    Keeps (EyeFits positions joint state) c (controlEye positions joint state c) := by
  rcases hjoint with rfl | rfl
  · exact keeps_setJointAngle ..
  · exact keeps_setJointAngle ..

/-! ### The head -/

/-- Lowering the angle by `speed`, but not below `limit`, ends at an angle the servo takes. -/
def Lowers (current speed limit : Int) : Prop := limit ≤ 180 ∧ (0 ≤ limit ∨ speed ≤ current)

/-- Raising the angle by `speed`, but not above `limit`, ends at an angle the servo takes. -/
def Raises (current speed limit : Int) : Prop := 0 ≤ limit ∧ (limit ≤ 180 ∨ current + speed ≤ 180)

theorem atLeastOne_pos (speed : Int) : 0 < atLeastOne speed := by
  unfold atLeastOne
  split <;> omega

theorem lowers_iff {current speed limit : Int} (hcurrent : IsServoAngle current) (hspeed : 0 < speed) :
    IsServoAngle (if current - 1 * speed ≤ limit then limit else current - 1 * speed) ↔
      Lowers current speed limit := by
  obtain ⟨hlow, hhigh⟩ := hcurrent
  unfold IsServoAngle Lowers
  split <;> omega

theorem raises_iff {current speed limit : Int} (hcurrent : IsServoAngle current) (hspeed : 0 < speed) :
    IsServoAngle (if current + 1 * speed ≥ limit then limit else current + 1 * speed) ↔
      Raises current speed limit := by
  obtain ⟨hlow, hhigh⟩ := hcurrent
  unfold IsServoAngle Raises
  split <;> omega

/-- The head can be moved up: the joint of the head is lowered, the neck raised. -/
def HeadUpFits (positions : JointPositionList) (speed : Int) (c : ServoMotorController) : Prop :=
  Lowers (recordedAngle c .headUpDown) (atLeastOne speed) (positions .headUpDown .fullup) ∧
    Raises (recordedAngle c .neck) (atLeastOne speed) (positions .neck .fullup)

def HeadDownFits (positions : JointPositionList) (speed : Int) (c : ServoMotorController) : Prop :=
  Raises (recordedAngle c .headUpDown) (atLeastOne speed) (positions .headUpDown .fulldown) ∧
    Lowers (recordedAngle c .neck) (atLeastOne speed) (positions .neck .fulldown)

theorem keeps_headUp (positions : JointPositionList) (speed : Int) (c : ServoMotorController) :
    Keeps (HeadUpFits positions speed c) c (headUp positions speed c) := by
  refine ((keeps_setJointAngle ..).trans (keeps_setJointAngle ..)).congr fun h => and_congr ?_ ?_
  · exact lowers_iff (h.recorded _) (atLeastOne_pos speed)
  · exact raises_iff (h.recorded _) (atLeastOne_pos speed)

theorem keeps_headDown (positions : JointPositionList) (speed : Int) (c : ServoMotorController) :
    Keeps (HeadDownFits positions speed c) c (headDown positions speed c) := by
  refine ((keeps_setJointAngle ..).trans (keeps_setJointAngle ..)).congr fun h => and_congr ?_ ?_
  · exact raises_iff (h.recorded _) (atLeastOne_pos speed)
  · exact lowers_iff (h.recorded _) (atLeastOne_pos speed)

/-- Sideways the code itself keeps to the range. -/
theorem keeps_headLeft (speed : Int) (c : ServoMotorController) : Keeps True c (headLeft speed c) := by
  refine (keeps_setJointAngle ..).congr fun h => iff_true_intro ?_
  exact (raises_iff (h.recorded _) (atLeastOne_pos speed)).mpr ⟨by decide, .inl le_rfl⟩

theorem keeps_headRight (speed : Int) (c : ServoMotorController) :
    Keeps True c (headRight speed c) := by
  refine (keeps_setJointAngle ..).congr fun h => iff_true_intro ?_
  exact (lowers_iff (h.recorded _) (atLeastOne_pos speed)).mpr ⟨by decide, .inl le_rfl⟩

/-- What a vertical component of this size asks for can be done. -/
def VerticalFits (positions : JointPositionList) (upDown : ℚ) (magnitude : Int)
    (c : ServoMotorController) : Prop :=
  if upDown > deadZone then HeadUpFits positions (componentSpeed upDown magnitude) c
  else if upDown < -deadZone then HeadDownFits positions (componentSpeed upDown magnitude) c
  else True

theorem keeps_headVertical (positions : JointPositionList) (upDown : ℚ) (magnitude : Int)
    (c : ServoMotorController) :
    Keeps (VerticalFits positions upDown magnitude c) c (headVertical positions upDown magnitude c) := by
  unfold VerticalFits headVertical
  simp only
  split_ifs with hup hdown
  · exact keeps_headUp ..
  · exact keeps_headDown ..
  · exact .refl c

theorem keeps_headHorizontal (leftRight : ℚ) (magnitude : Int) (c : ServoMotorController) :
    Keeps True c (headHorizontal leftRight magnitude c) := by
  unfold headHorizontal
  simp only
  split_ifs with hright hleft
  · exact keeps_headRight ..
  · exact keeps_headLeft ..
  · exact .refl c

/-- What a head joystick asks for can be done. -/
def HeadFits (trig : Trig) (positions : JointPositionList) (angle magnitude : Int)
    (c : ServoMotorController) : Prop :=
  if magnitude = 0 ∧ angle = 0 then True
  else VerticalFits positions (trig.sinDeg angle) (if magnitude > 5 then 5 else magnitude) c

theorem keeps_controlHead (trig : Trig) (positions : JointPositionList) (angle magnitude : Int)
    (c : ServoMotorController) :
    Keeps (HeadFits trig positions angle magnitude c) c
      (controlHead trig positions angle magnitude c) := by
  unfold HeadFits controlHead
  by_cases hzero : magnitude = 0 ∧ angle = 0
  · rw [if_pos hzero, if_pos hzero]
    exact .refl c
  · rw [if_neg hzero, if_neg hzero]
    refine ((keeps_headVertical ..).trans (keeps_headHorizontal ..)).congr fun _ => ?_
    exact and_iff_left trivial

/-- Positions that are configured to angles the servo takes make every head joystick fit. -/
theorem headFits_of_positions {positions : JointPositionList}
    (h : ∀ joint state, IsServoAngle (positions joint state)) (trig : Trig) (angle magnitude : Int)
    (c : ServoMotorController) : HeadFits trig positions angle magnitude c := by
  have hlowers : ∀ joint state current speed, Lowers current speed (positions joint state) :=
    fun joint state _ _ => ⟨(h joint state).2, .inl (h joint state).1⟩
  have hraises : ∀ joint state current speed, Raises current speed (positions joint state) :=
    fun joint state _ _ => ⟨(h joint state).1, .inl (h joint state).2⟩
  unfold HeadFits VerticalFits HeadUpFits HeadDownFits
  split_ifs
  all_goals first
    | trivial
    | exact ⟨hlowers .., hraises ..⟩
    | exact ⟨hraises .., hlowers ..⟩

/-! ### A map of joints -/

/-- All angles that are asked for are angles of the servo. -/
def JointsFit (requested : JointMap) : Prop :=
  ∀ joint angle, requested joint = some angle → angle.toNat ≤ 180

theorem isServoAngle_toNat_iff (angle : UInt8) : IsServoAngle (angle.toNat : Int) ↔ angle.toNat ≤ 180 := by
  unfold IsServoAngle
  omega

theorem keeps_moveJoint {requested recorded : JointMap} {joint : ServoMotorJoint}
    {c d : ServoMotorController} (hrecorded : ∀ angle, recorded joint = some angle → angle.toNat ≤ 180)
    (h : moveJoint requested recorded c joint = some d) :
    Keeps (∀ angle, requested joint = some angle → angle.toNat ≤ 180) c d := by
  unfold moveJoint at h
  split at h
  · rename_i hnone
    cases h
    refine (Keeps.refl c).congr fun _ => (iff_true_intro ?_).symm
    intro angle hangle
    rw [hnone] at hangle
    cases hangle
  · rename_i angle hangle
    obtain ⟨current, hcurrent, rfl⟩ := Option.map_eq_some_iff.mp h
    have hone : (∀ a, requested joint = some a → a.toNat ≤ 180) ↔ angle.toNat ≤ 180 := by
      rw [hangle]
      exact ⟨fun hall => hall angle rfl, fun hle a ha => Option.some.inj ha ▸ hle⟩
    split
    · exact (keeps_setJointAngle ..).congr fun _ => (isServoAngle_toNat_iff angle).trans hone.symm
    · -- the joint stands there already
      rename_i hstays
      refine (Keeps.refl c).congr fun _ => (iff_true_intro (hone.mpr ?_)).symm
      exact hrecorded angle (not_not.mp hstays ▸ hcurrent)

theorem keeps_foldlM_moveJoint {requested recorded : JointMap} {joints : List ServoMotorJoint}
    {c d : ServoMotorController}
    (hrecorded : ∀ joint angle, recorded joint = some angle → angle.toNat ≤ 180)
    (h : joints.foldlM (moveJoint requested recorded) c = some d) :
    Keeps (∀ joint ∈ joints, ∀ angle, requested joint = some angle → angle.toNat ≤ 180) c d := by
  induction joints generalizing c with
  | nil =>
      cases h
      refine (Keeps.refl _).congr fun _ => (iff_true_intro ?_).symm
      exact fun joint hmem => absurd hmem List.not_mem_nil
  | cons joint joints ih =>
      rw [List.foldlM_cons] at h
      obtain ⟨e, he, hrest⟩ := Option.bind_eq_some_iff.mp h
      refine ((keeps_moveJoint (hrecorded joint) he).trans (ih hrest)).congr fun _ => ?_
      simp only [List.mem_cons, forall_eq_or_imp]

theorem mem_jointOrder (joint : ServoMotorJoint) : joint ∈ jointOrder := by
  cases joint <;> decide

theorem keeps_moveJoints {requested : JointMap} {c d : ServoMotorController} (hc : c.InRange)
    (h : moveJoints requested c = some d) : Keeps (JointsFit requested) c d := by
  have hrecorded : ∀ joint angle, c.getAllJointsAngle joint = some angle → angle.toNat ≤ 180 := by
    intro joint angle hangle
    have hmem := hc.recorded joint
    rw [recordedAngle, hangle] at hmem
    exact (isServoAngle_toNat_iff angle).mp hmem
  refine (keeps_foldlM_moveJoint hrecorded h).congr fun _ => ?_
  exact ⟨fun hall joint => hall joint (mem_jointOrder joint), fun hall joint _ => hall joint⟩

end Kufibot
