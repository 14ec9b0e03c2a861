import Kufibot.Robot.ControlMotion

/-!
# `Robot.Direction` — the direction of a body joystick

`control_body` normalises the angle with the C++ remainder, whose sign is that of the dividend. From -180
degrees on the result is the representative of the angle in [-180, 180). Below that it is the
representative minus 360 (`normalized_eq`), which no sector but the last takes: the robot turns left.
-/

namespace Kufibot

/-- A call of the DC motor controller. -/
inductive MotorCommand where
  | forward (magnitude : Int)
  | turnRight (magnitude : Int)
  | backward (magnitude : Int)
  | turnLeft (magnitude : Int)
deriving DecidableEq, Repr

def MotorCommand.run : MotorCommand → DCMotorController → DCMotorController
  | .forward magnitude => .forward magnitude
  | .turnRight magnitude => .turnRight magnitude
  | .backward magnitude => .backward magnitude
  | .turnLeft magnitude => .turnLeft magnitude

/-- `if (magnitude >= 100) magnitude = 95;`. -/
def cappedStrength (strength : Int) : Int := if strength ≥ 100 then 95 else strength

/-- `((angle + 180) % 360) - 180`. -/
def normalized (angle : Int) : Int := (angle + 180).tmod 360 - 180

/-! ## The sectors -/

/-- The angle modulo 360 in [-180, 180). -/
def representative (angle : Int) : Int := (angle + 180) % 360 - 180

/-- The command for an angle in [-180, 180). -/
def sectorCommand (angle magnitude : Int) : MotorCommand :=
  if 45 ≤ angle ∧ angle < 135 then .forward magnitude
  else if -45 ≤ angle ∧ angle < 45 then .turnRight magnitude
  else if -135 ≤ angle ∧ angle < -45 then .backward magnitude
  else .turnLeft magnitude

/-- It is congruent, and no other angle in the range is. -/
theorem eq_representative_iff {angle a : Int} :
    a = representative angle ↔ (-180 ≤ a ∧ a < 180) ∧ a % 360 = angle % 360 := by
  unfold representative
  omega

theorem representative_mem (angle : Int) : -180 ≤ representative angle ∧ representative angle < 180 :=
  (eq_representative_iff.mp rfl).1

/-- **What the normalisation computes.** -/
theorem normalized_eq (angle : Int) :
    (-180 ≤ angle ∧ normalized angle = representative angle) ∨
      (angle < -180 ∧ normalized angle ≤ -180) := by
  unfold normalized representative
  rcases Int.lt_or_le angle (-180) with hlow | hhigh
  · have hneg : 0 ≤ (-(angle + 180)).tmod 360 := Int.tmod_nonneg 360 (by omega)
    rw [Int.neg_tmod] at hneg
    exact .inr ⟨hlow, by omega⟩
  · have hnonneg : (angle + 180).tmod 360 = (angle + 180) % 360 := Int.tmod_eq_emod_of_nonneg (by omega)
    exact .inl ⟨hhigh, by omega⟩

/-! ## `control_body` -/

/-- **The command that `control_body` issues** to a joystick that is not idle. -/
theorem controlBody_run {angle strength : Int} (h : ¬ (strength = 0 ∧ angle = 0)) (c : DCMotorController) :
    controlBody angle strength c =
      (sectorCommand (normalized angle) (cappedStrength strength)).run c := by
  have hidle : ¬ (cappedStrength strength = 0 ∧ angle = 0) := by
    unfold cappedStrength
    split <;> omega
  -- of the seven branches the first and the last two are never taken
  have hsectors : ∀ a m : Int, (if upMin ≤ a ∧ a < upMax then c.forward m
      else if rightMin ≤ a ∧ a < rightMax then c.turnRight m
      else if downMin ≤ a ∧ a < downMax then c.backward m
      else if leftMin ≤ a ∨ a < leftMax then c.turnLeft m
      else if a = 0 ∨ m = 0 then c.stop
      else c) = (sectorCommand a m).run c := by
    intro a m
    unfold sectorCommand upMin upMax rightMin rightMax downMin downMax leftMin leftMax
    split_ifs <;> first | rfl | omega
  unfold controlBody
  exact (if_neg hidle).trans (hsectors (normalized angle) (cappedStrength strength))

/-- A controller that obeys. -/
def awake : DCMotorController where
  enable := true
  initialized := true
  driver := { registers := fun _ => 0, dutyCycles := [] }

/-- **Commands are told apart by what the motors are told**: a controller that obeys sets other pins. -/
theorem run_sectorCommand_injective {a b magnitude : Int}
    (h : (sectorCommand a magnitude).run awake = (sectorCommand b magnitude).run awake) :
    sectorCommand a magnitude = sectorCommand b magnitude := by
  have hduty : ((sectorCommand a magnitude).run awake).driver.dutyCycles.map DutyCycle.off =
      ((sectorCommand b magnitude).run awake).driver.dutyCycles.map DutyCycle.off := by rw [h]
  have hdrive : ∀ right left, (DCMotorController.drive right left magnitude awake).driver.dutyCycles.map
      DutyCycle.off = [if left = .forward then 0 else 4095, if left = .forward then 4095 else 0,
        (magnitude * 4096).tdiv 100, if right = .forward then 4095 else 0,
        if right = .forward then 0 else 4095, (magnitude * 4096).tdiv 100] := by
    intro right left
    cases right <;> cases left <;> rfl
  revert hduty
  unfold sectorCommand
  split_ifs
  all_goals
    intro hduty
    simp only [MotorCommand.run, DCMotorController.forward, DCMotorController.backward,
      DCMotorController.turnRight, DCMotorController.turnLeft, hdrive] at hduty
    first
      | rfl
      | simp at hduty

/-- **When the direction depends on the angle modulo 360 only, exactly**: the angle is at least -180, or its
    representative lies in the sector in which the robot turns left. -/
theorem body_direction_iff {angle strength : Int} (h : ¬ (strength = 0 ∧ angle = 0)) :
    (∀ c, controlBody angle strength c =
      (sectorCommand (representative angle) (cappedStrength strength)).run c) ↔
    -180 ≤ angle ∨ 135 ≤ representative angle ∨ representative angle < -135 := by
  obtain ⟨hlow, hhigh⟩ := representative_mem angle
  have hleft : ∀ a, a < 180 → (sectorCommand a (cappedStrength strength) =
      .turnLeft (cappedStrength strength) ↔ 135 ≤ a ∨ a < -135) := by
    intro a ha
    unfold sectorCommand
    split_ifs <;> simp <;> omega
  constructor
  · intro hall
    rcases normalized_eq angle with ⟨hbig, _⟩ | ⟨_, hsmall⟩
    · exact .inl hbig
    · refine .inr ((hleft _ hhigh).mp ?_)
      rw [← (hleft (normalized angle) (by omega)).mpr (.inr (by omega))]
      apply run_sectorCommand_injective
      rw [← hall awake, controlBody_run h]
  · intro hcond c
    rw [controlBody_run h]
    rcases normalized_eq angle with ⟨_, heq⟩ | ⟨hneg, hsmall⟩
    · rw [heq]
    · rw [(hleft (normalized angle) (by omega)).mpr (.inr (by omega)),
        (hleft _ hhigh).mpr (hcond.resolve_left (by omega))]

/-- **The promise is broken** at -270, which is 90 modulo 360: the robot turns left instead of driving
    forward. -/
theorem body_direction_negative : representative (-270) = 90 ∧
    controlBody (-270) 50 awake = (MotorCommand.turnLeft 50).run awake ∧
    ¬ ∀ c, controlBody (-270) 50 c =
      (sectorCommand (representative (-270)) (cappedStrength 50)).run c := by
  refine ⟨rfl, rfl, fun hall => ?_⟩
  have hsector := run_sectorCommand_injective (a := normalized (-270)) ((controlBody_run
    (by decide) awake).symm.trans (hall awake))
  revert hsector
  decide

/-- At 810, which is 90 modulo 360, the robot drives forward. -/
theorem body_direction_iff_positive : controlBody 810 50 awake = DCMotorController.forward 50 awake :=
  (body_direction_iff (by decide : ¬ ((50 : Int) = 0 ∧ (810 : Int) = 0))).mpr (.inl (by decide)) awake

end Kufibot
