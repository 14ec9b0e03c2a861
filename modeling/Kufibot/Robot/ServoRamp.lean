import Kufibot.Robot.JointRange

/-!
# `Robot.ServoRamp` — the loop of `setJointAngle`, for every step

The loop ends when the angle equals the target, so it needs the overshoot cut: a step that would pass the
target stops there. `IsRamp` says what the angles on the way are; for a step of at least one degree the
loop makes such a list (`isRamp_rampTo`), and the distance bounds its length (`rampAngles_fuel`).

The cut comes after the sum, so a step upwards that is next to the greatest `int` is undefined.
`setJointAngleInt` is `setJointAngle` with this check, and only the first sum can fail it
(`rampAnglesInt_eq`, `servo_ramp_iff`).
-/

namespace Kufibot

open ServoMotorController

/-! ## Ramps -/

/-- From `a` to `b` is strictly towards the target, and not past it. -/
def Towards (target a b : Int) : Prop := (a < b ∧ b ≤ target) ∨ (target ≤ b ∧ b < a)

theorem Towards.trans {target a b c : Int} (h : Towards target a b) (h' : Towards target b c) :
    Towards target a c := by
  unfold Towards at h h' ⊢
  omega

/-- **The angles on the way** from `current` to the target. -/
structure IsRamp (target step current : Int) (angles : List Int) : Prop where
  /-- Each is closer to the target than all before, on the same side. -/
  towards : (current :: angles).Pairwise (Towards target)
  steps : (current :: angles).IsChain fun a b => |b - a| ≤ step
  ends : (current :: angles).getLast (List.cons_ne_nil _ _) = target

theorem IsRamp.nil {target step : Int} : IsRamp target step target [] where
  towards := List.pairwise_singleton _ _
  steps := .singleton _
  ends := rfl

theorem IsRamp.cons {target step current next : Int} {angles : List Int}
    (htowards : Towards target current next) (hstep : |next - current| ≤ step)
    (h : IsRamp target step next angles) : IsRamp target step current (next :: angles) where
  towards := by
    refine List.pairwise_cons.mpr ⟨fun a ha => ?_, h.towards⟩
    rcases List.mem_cons.mp ha with rfl | ha
    · exact htowards
    · exact htowards.trans (List.rel_of_pairwise_cons h.towards ha)
  steps := .cons_cons hstep h.steps
  ends := by rw [List.getLast_cons (List.cons_ne_nil _ _)]; exact h.ends

/-! ## The loop -/

/-- The direction leads from the angle to the target. -/
def Heads (target direction current : Int) : Prop :=
  (direction = 1 ∧ current ≤ target) ∨ (direction = -1 ∧ target ≤ current)

/-- The angle of the next pass. -/
def nextAngle (target direction step current : Int) : Int :=
  let next := current + direction * step
  if (direction = 1 ∧ next > target) ∨ (direction = -1 ∧ next < target) then target else next

theorem rampAngles_succ (target direction step : Int) (fuel : Nat) {current : Int}
    (h : current ≠ target) : rampAngles target direction step (fuel + 1) current =
      nextAngle target direction step current ::
        rampAngles target direction step fuel (nextAngle target direction step current) := by
  rw [rampAngles, if_neg h]
  rfl

/-- A pass is cut at the target, or goes a whole step and is not past it. -/
theorem nextAngle_cases {target direction step current : Int} (h : Heads target direction current) :
    (nextAngle target direction step current = target ∧ |target - current| ≤ step) ∨
      (nextAngle target direction step current = current + direction * step ∧
        Heads target direction (current + direction * step)) := by
  unfold nextAngle Heads
  simp only [abs_le]
  rcases h with ⟨rfl, hle⟩ | ⟨rfl, hle⟩
  · by_cases hcut : current + 1 * step > target
    · exact .inl ⟨if_pos (.inl ⟨rfl, hcut⟩), by omega⟩
    · exact .inr ⟨if_neg (by omega), by omega⟩
  · by_cases hcut : current + -1 * step < target
    · exact .inl ⟨if_pos (.inr ⟨rfl, hcut⟩), by omega⟩
    · exact .inr ⟨if_neg (by omega), by omega⟩

/-- **One pass** goes towards the target, by one step at most. -/
theorem nextAngle_spec {target direction step current : Int} (hstep : 1 ≤ step)
    (hheads : Heads target direction current) (hne : current ≠ target) :
    Towards target current (nextAngle target direction step current) ∧
      |nextAngle target direction step current - current| ≤ step ∧
      Heads target direction (nextAngle target direction step current) := by
  have hcases := @nextAngle_cases target direction step current hheads
  unfold Heads at hheads
  rcases hcases with ⟨heq, hbound⟩ | ⟨heq, hnext⟩
  · rw [heq]
    unfold Towards Heads
    exact ⟨by omega, hbound, by omega⟩
  · rw [heq]
    refine ⟨?_, ?_, hnext⟩
    · unfold Heads at hnext
      unfold Towards
      rcases hheads with ⟨rfl, _⟩ | ⟨rfl, _⟩ <;> omega
    · rw [abs_le]
      rcases hheads with ⟨rfl, _⟩ | ⟨rfl, _⟩ <;> omega

@[simp] theorem rampAngles_self (target direction step : Int) (fuel : Nat) :
    rampAngles target direction step fuel target = [] := by
  cases fuel with
  | zero => rfl
  | succ fuel => rw [rampAngles, if_pos rfl]

theorem isRamp_rampAngles {target direction step : Int} (hstep : 1 ≤ step) {fuel : Nat} {current : Int}
    (hheads : Heads target direction current) (hfuel : (target - current).natAbs ≤ fuel) :
    IsRamp target step current (rampAngles target direction step fuel current) := by
  induction fuel generalizing current with
  | zero =>
      obtain rfl : current = target := by omega
      exact .nil
  | succ fuel ih =>
      by_cases heq : current = target
      · rw [heq, rampAngles_self]
        exact .nil
      · obtain ⟨htowards, hbound, hnext⟩ := nextAngle_spec hstep hheads heq
        rw [rampAngles_succ _ _ _ _ heq]
        -- a pass comes closer by a degree at least, so the rest of the fuel is enough
        refine .cons htowards hbound (ih hnext ?_)
        unfold Towards at htowards
        omega

/-- **The loop ends**: with more fuel than the distance there is no pass more. -/
theorem rampAngles_fuel {target direction step : Int} (hstep : 1 ≤ step) {fuel more : Nat} {current : Int}
    (hheads : Heads target direction current) (hfuel : (target - current).natAbs ≤ fuel)
    (hmore : fuel ≤ more) :
    rampAngles target direction step more current = rampAngles target direction step fuel current := by
  induction fuel generalizing current more with
  | zero =>
      obtain rfl : current = target := by omega
      rw [rampAngles_self, rampAngles_self]
  | succ fuel ih =>
      cases more with
      | zero => omega
      | succ more =>
          by_cases heq : current = target
          · rw [heq, rampAngles_self, rampAngles_self]
          · obtain ⟨htowards, _, hnext⟩ := nextAngle_spec hstep hheads heq
            rw [rampAngles_succ _ _ _ _ heq, rampAngles_succ _ _ _ _ heq, ih hnext _ (by omega)]
            unfold Towards at htowards
            omega

/-! ## `setJointAngle` -/

section SetJointAngle

variable {c : ServoMotorController} (joint : ServoMotorJoint) (target step : Int)

/-- The angles on the way from the recorded angle of the joint. -/
def rampTo (c : ServoMotorController) : List Int :=
  rampAngles target (if target > recordedAngle c joint then 1 else -1) step
    (target - recordedAngle c joint).natAbs (recordedAngle c joint)

theorem heads_towards (current : Int) : Heads target (if target > current then 1 else -1) current := by
  unfold Heads
  split
  · exact .inl ⟨rfl, by omega⟩
  · exact .inr ⟨rfl, by omega⟩

/-- **The angles that are commanded** are a ramp to the target. -/
theorem isRamp_rampTo (hstep : 1 ≤ step) (c : ServoMotorController) :
    IsRamp target step (recordedAngle c joint) (rampTo joint target step c) :=
  isRamp_rampAngles hstep (heads_towards target _) le_rfl

theorem setJointAngle_ramp (h : c.Obeys) :
    c.setJointAngle joint target step = ((rampTo joint target step c).foldl
      (fun c a => c.commandAngle joint a) c).recordAngle joint target := by
  rw [setJointAngle, if_neg]
  · rfl
  · simp [h.1, h.2]

/-- The angle commanded last is the target. -/
theorem IsRamp.last {target step current : Int} {before : List Int} {a : Int}
    (h : IsRamp target step current (before ++ [a])) : a = target := by
  have hends := h.ends
  rwa [List.getLast_cons (by simp), List.getLast_append_singleton] at hends

/-- **The saved file** is the joint map at the end, unless there was nothing to command. -/
theorem saveFile_setJointAngle (h : c.Obeys) (hstep : 1 ≤ step) :
    (c.setJointAngle joint target step).saveFile =
      if rampTo joint target step c = [] then c.saveFile
      else some (c.setJointAngle joint target step).currentJointAngles := by
  have hramp := isRamp_rampTo joint target step hstep c
  rw [setJointAngle_ramp joint target step h]
  rcases List.eq_nil_or_concat (rampTo joint target step c) with hnil | ⟨before, a, hlast⟩
  · rw [hnil, if_pos rfl]
    rfl
  · rw [List.concat_eq_append] at hlast
    rw [hlast] at hramp ⊢
    obtain rfl : a = target := hramp.last
    rw [if_neg (List.append_ne_nil_of_right_ne_nil _ (List.cons_ne_nil _ _)), List.foldl_append]
    -- the target is recorded once more after it was saved
    refine congrArg some (funext fun j => ?_)
    show (if j = joint then _ else _) = (if j = joint then _ else if j = joint then _ else _)
    split_ifs <;> rfl

theorem recordedAngle_setJointAngle_ramp (h : c.Obeys) {target : Int} (hlow : 0 ≤ target)
    (hhigh : target ≤ 255) : recordedAngle (c.setJointAngle joint target step) joint = target := by
  rw [setJointAngle_ramp joint target step h]
  simp only [recordedAngle, getAllJointsAngle, recordAngle, if_pos, Option.getD_some, toUInt8]
  rw [UInt8.toNat_ofNat']
  omega

theorem setJointAngle_other (h : c.Obeys) {j : ServoMotorJoint} (hj : j ≠ joint) :
    (c.setJointAngle joint target step).currentJointAngles j = c.currentJointAngles j := by
  rw [setJointAngle_ramp joint target step h]
  exact (if_neg hj).trans (foldl_commandAngle_recorded hj _ c)

end SetJointAngle

/-! ## `setJointAngle` on `int` -/

/-- The loop; undefined from the pass on whose sum does not fit. -/
def rampAnglesInt (target direction step : Int) : Nat → Int → Option (List Int)
  | 0, _ => some []
  | fuel + 1, currentAngle =>
      if currentAngle = target then some []
      else do
        let next ← whenFits (currentAngle + direction * step) (currentAngle + direction * step)
        let next :=
          if (direction = 1 ∧ next > target) ∨ (direction = -1 ∧ next < target) then target else next
        (rampAnglesInt target direction step fuel next).map (next :: ·)

def ServoMotorController.setJointAngleInt (joint : ServoMotorJoint) (targetAngle : Int)
    (c : ServoMotorController) (step : Int) : Option ServoMotorController :=
  if !c.isEnabled || !c.isReady then some c
  else
    let currentAngle : Int := ((c.currentJointAngles joint).getD 0).toNat
    let direction : Int := if targetAngle > currentAngle then 1 else -1
    (rampAnglesInt targetAngle direction step (targetAngle - currentAngle).natAbs currentAngle).map
      fun angles =>
        (angles.foldl (fun c angle => c.commandAngle joint angle) c).recordAngle joint targetAngle

theorem rampAnglesInt_succ (target direction step : Int) (fuel : Nat) {current : Int}
    (h : current ≠ target) : rampAnglesInt target direction step (fuel + 1) current =
      (whenFits (current + direction * step) ()).bind fun _ =>
        (rampAnglesInt target direction step fuel (nextAngle target direction step current)).map
          (nextAngle target direction step current :: ·) := by
  rw [rampAnglesInt, if_neg h]
  unfold whenFits
  split <;> rfl

/-- **Only the first sum matters**: a step that has not been cut is as small as the angles are. -/
theorem fitsInt_nextAngle {target direction step current : Int} (hlow : 0 ≤ target) (hhigh : target ≤ 255)
    (hint : FitsInt step) (hstep : 1 ≤ step) (hheads : Heads target direction current)
    (hcurrent : 0 ≤ current ∧ current < 256) (hne : nextAngle target direction step current ≠ target) :
    FitsInt (nextAngle target direction step current + direction * step) := by
  rcases nextAngle_cases hheads with ⟨heq, _⟩ | ⟨heq, hnext⟩
  · exact absurd heq hne
  · rw [heq]
    unfold Heads at hheads hnext
    unfold FitsInt at hint ⊢
    rcases hheads with ⟨rfl, _⟩ | ⟨rfl, _⟩ <;> omega

/-- **A loop that is defined** is the loop. -/
theorem rampAnglesInt_eq {target direction step : Int} (hlow : 0 ≤ target) (hhigh : target ≤ 255)
    (hint : FitsInt step) (hstep : 1 ≤ step) {fuel : Nat} {current : Int}
    (hheads : Heads target direction current) (hcurrent : 0 ≤ current ∧ current < 256)
    (hfits : current ≠ target → FitsInt (current + direction * step)) :
    rampAnglesInt target direction step fuel current =
      some (rampAngles target direction step fuel current) := by
  induction fuel generalizing current with
  | zero => rfl
  | succ fuel ih =>
      by_cases heq : current = target
      · rw [heq, rampAngles_self, rampAnglesInt, if_pos rfl]
      · obtain ⟨htowards, _, hnext⟩ := nextAngle_spec hstep hheads heq
        have hcurrent' : 0 ≤ nextAngle target direction step current ∧
            nextAngle target direction step current < 256 := by
          unfold Towards at htowards
          omega
        have hfits' := fitsInt_nextAngle hlow hhigh hint hstep hheads hcurrent
        rw [rampAnglesInt_succ _ _ _ _ heq, rampAngles_succ _ _ _ _ heq, whenFits, if_pos (hfits heq),
          ih hnext hcurrent' hfits']
        rfl

theorem recordedAngle_mem (c : ServoMotorController) (j : ServoMotorJoint) :
    0 ≤ recordedAngle c j ∧ recordedAngle c j < 256 := by
  have hlt := ((c.getAllJointsAngle j).getD 0).toNat_lt
  unfold recordedAngle
  omega

/-- Downwards, every `int` fits; upwards, the sum with the recorded angle has to. -/
def RampFits (c : ServoMotorController) (joint : ServoMotorJoint) (target step : Int) : Prop :=
  target ≤ recordedAngle c joint ∨ recordedAngle c joint + step < 2 ^ 31

theorem fitsInt_of_rampFits {c : ServoMotorController} {joint : ServoMotorJoint} {target step : Int}
    (hint : FitsInt step) (hstep : 1 ≤ step) (h : RampFits c joint target step) :
    FitsInt (recordedAngle c joint + (if target > recordedAngle c joint then 1 else -1) * step) := by
  obtain ⟨hlow, hhigh⟩ := recordedAngle_mem c joint
  unfold RampFits at h
  unfold FitsInt at hint ⊢
  split <;> omega

section SetJointAngleInt

variable {c : ServoMotorController} {joint : ServoMotorJoint} {target step : Int}

theorem rampAnglesInt_eq_rampTo (hlow : 0 ≤ target) (hhigh : target ≤ 255) (hint : FitsInt step)
    (hstep : 1 ≤ step) (h : RampFits c joint target step) {fuel : Nat}
    (hfuel : (target - recordedAngle c joint).natAbs ≤ fuel) :
    rampAnglesInt target (if target > recordedAngle c joint then 1 else -1) step fuel
      (recordedAngle c joint) = some (rampTo joint target step c) := by
  have hheads := heads_towards target (recordedAngle c joint)
  rw [rampAnglesInt_eq hlow hhigh hint hstep hheads (recordedAngle_mem c joint)
    fun _ => fitsInt_of_rampFits hint hstep h, rampAngles_fuel hstep hheads le_rfl hfuel]
  rfl

theorem setJointAngleInt_eq (hlow : 0 ≤ target) (hhigh : target ≤ 255) (hint : FitsInt step)
    (hstep : 1 ≤ step) (h : RampFits c joint target step) :
    c.setJointAngleInt joint target step = some (c.setJointAngle joint target step) := by
  unfold setJointAngleInt setJointAngle
  split
  · rfl
  · have hangles := rampAnglesInt_eq_rampTo hlow hhigh hint hstep h le_rfl
    exact congrArg (Option.map _) hangles

/-- The first sum does not fit. -/
theorem setJointAngleInt_eq_none (h : c.Obeys) (hfits : ¬ RampFits c joint target step) :
    c.setJointAngleInt joint target step = none := by
  obtain ⟨hrises, hbig⟩ := not_or.mp hfits
  have hrises : recordedAngle c joint < target := not_le.mp hrises
  obtain ⟨fuel, hfuel⟩ : ∃ fuel, (target - recordedAngle c joint).natAbs = fuel + 1 :=
    Nat.exists_eq_succ_of_ne_zero (by omega)
  have hsum : ¬ FitsInt (recordedAngle c joint + 1 * step) := by
    unfold FitsInt
    omega
  have hnone : rampAnglesInt target (if target > recordedAngle c joint then 1 else -1) step
      (target - recordedAngle c joint).natAbs (recordedAngle c joint) = none := by
    rw [hfuel, if_pos hrises, rampAnglesInt_succ _ _ _ _ hrises.ne, whenFits, if_neg hsum]
    rfl
  unfold setJointAngleInt
  rw [if_neg (by simp [h.1, h.2])]
  exact congrArg (Option.map _) hnone

end SetJointAngleInt

/-- **What a servo ramp is**, from the controller `c` to `d`. -/
structure RampDone (joint : ServoMotorJoint) (target step : Int) (c d : ServoMotorController) : Prop where
  /-- The loop ends: as many passes as the distance are enough. -/
  ends : ∀ fuel, (target - recordedAngle c joint).natAbs ≤ fuel →
    rampAnglesInt target (if target > recordedAngle c joint then 1 else -1) step fuel
      (recordedAngle c joint) = some (rampTo joint target step c)
  angles : IsRamp target step (recordedAngle c joint) (rampTo joint target step c)
  sent : d.driver.dutyCycles =
    ((rampTo joint target step c).map (jointDuty joint)).reverse ++ c.driver.dutyCycles
  recorded : recordedAngle d joint = target
  saved : d.saveFile = if rampTo joint target step c = [] then c.saveFile else some d.currentJointAngles
  others : ∀ j, j ≠ joint → d.currentJointAngles j = c.currentJointAngles j ∧
    ∀ x ∈ (rampTo joint target step c).map (jointDuty joint), x.channel ≠ j.channel

theorem rampDone_setJointAngle {c : ServoMotorController} (h : c.Obeys) {joint : ServoMotorJoint}
    {target step : Int} (hlow : 0 ≤ target) (hhigh : target ≤ 255) (hint : FitsInt step) (hstep : 1 ≤ step)
    (hfits : RampFits c joint target step) :
    RampDone joint target step c (c.setJointAngle joint target step) where
  ends _ hfuel := rampAnglesInt_eq_rampTo hlow hhigh hint hstep hfits hfuel
  angles := isRamp_rampTo joint target step hstep c
  sent := by
    rw [setJointAngle_ramp joint target step h]
    exact foldl_commandAngle_dutyCycles joint _ c
  recorded := recordedAngle_setJointAngle_ramp joint step h hlow hhigh
  saved := saveFile_setJointAngle joint target step h hstep
  others j hj := by
    refine ⟨setJointAngle_other joint target step h hj, ?_⟩
    intro x hx heq
    obtain ⟨a, _, rfl⟩ := List.mem_map.mp hx
    exact hj (channel_injective heq).symm

/-- **The servo ramp, when exactly.** With the controller enabled and ready and a step of at least one degree,
    `setJointAngle` is defined and ends; commands a ramp from the recorded angle to the target; records the
    target; saves the joint map it leaves if it took a step; and neither commands nor changes another joint;
    iff the joint is not raised, or its angle and the step have a sum in `int`. -/
theorem servo_ramp_iff {c : ServoMotorController} (h : c.Obeys) (joint : ServoMotorJoint)
    {target step : Int} (hlow : 0 ≤ target) (hhigh : target ≤ 255) (hint : FitsInt step)
    (hstep : 1 ≤ step) :
    (∃ d, c.setJointAngleInt joint target step = some d ∧ RampDone joint target step c d) ↔
      target ≤ recordedAngle c joint ∨ recordedAngle c joint + step < 2 ^ 31 := by
  constructor
  · rintro ⟨d, hd, _⟩
    by_contra hfits
    rw [setJointAngleInt_eq_none h hfits] at hd
    cases hd
  · intro hfits
    exact ⟨_, setJointAngleInt_eq hlow hhigh hint hstep hfits,
      rampDone_setJointAngle h hlow hhigh hint hstep hfits⟩

/-- A controller that obeys; the neck is at 30 degrees. -/
def neckAt30 : ServoMotorController where
  enable := true
  initialized := true
  driver := { registers := fun _ => 0, dutyCycles := [] }
  currentJointAngles := fun joint => if joint = .neck then some 30 else none
  saveFile := none

/-- **The promise is broken** by a step of 2147483647 degrees: the first sum is no `int`. -/
theorem servo_ramp_overflows : neckAt30.Obeys ∧ FitsInt 2147483647 ∧
    neckAt30.setJointAngleInt .neck 50 2147483647 = none :=
  ⟨⟨rfl, rfl⟩, by decide, rfl⟩

/-- With a step of 7 degrees the last one is cut at 50. -/
theorem servo_ramp_iff_neck : rampTo .neck 50 7 neckAt30 = [37, 44, 50] ∧
    ∃ d, neckAt30.setJointAngleInt .neck 50 7 = some d ∧ RampDone .neck 50 7 neckAt30 d := by
  refine ⟨by decide, ?_⟩
  exact (servo_ramp_iff (c := neckAt30) ⟨rfl, rfl⟩ .neck (by decide : (0 : Int) ≤ 50) (by decide)
    (by decide : FitsInt 7) (by decide)).mpr (.inr (by decide))

end Kufibot
