import Kufibot.Lib.Polling
import Kufibot.Messages.Gestures
import Kufibot.Services.Expression
import Kufibot.StateMachine.Core

/-!
# `Services.MotionSequence` — a motion against the clock

`executeMotionSequence` publishes the base pose and then, in a loop that reads the clock again and again, each
item of the sequence when its time has come. The elapsed milliseconds are put into an `int`, so a count of
2^31 or more comes out as a smaller one. That is never too early, but the loop may miss the moment: each item
is published once and in order exactly if the clock has readings at which the `int` reaches the times
(`motion_sequence_iff`). A clock without big jumps does (`motion_sequence_of_slow`).

A motion ends in the idle pose iff it has a sequence that gets through in this way; one without a sequence
stays where it is (`ends_in_idle_iff`).
-/

namespace Kufibot

open Lib

namespace ExpressionService

/-! ## The functions, with the clock -/

/-- A publication: the number of the last reading of the clock, and the service after it. -/
structure PosePublished where
  reading : Nat
  service : ExpressionService

section Timed

-- `startTime` is the reading number `start`.
variable (clock : SteadyClock) (start : Nat)

/-- The milliseconds since the start. -/
def sinceStart (n : Nat) : Int := countMs (clock.reading n - clock.reading start)

/-- `int elapsedMs`: 32 bits of the count. -/
def elapsedMs (n : Nat) : Int := (sinceStart clock start n).bmod (2 ^ 32)

/-- The `while` loop on the items that are left, with the next reading. `none` if it is not done after so
    many passes. -/
def sequenceLoop : Nat → List MotionSequenceItem → Nat → ExpressionService →
    Option (ExpressionService × List PosePublished × Nat)
  | _, [], n, s => some (s, [], n)
  | 0, _ :: _, _, _ => none
  | fuel + 1, currentItem :: items, n, s =>
      if elapsedMs clock start n ≥ currentItem.time.toInt then do
        let s := s.executeJointPositions currentItem.joints
        let (t, published, m) ← sequenceLoop fuel items (n + 1) s
        return (t, ⟨n, s⟩ :: published, m)
      else sequenceLoop fuel (currentItem :: items) (n + 1) s

-- `idle` is `idleJointPositions` when the motion returns to it.
variable (idle : JointMap)

/-- `executeMotionSequence`, with what it publishes on the way. `none` if the loop is not done after `fuel`
    passes, or if the remaining duration does not fit an `int`. -/
def executeTimedSequence (baseJoints : JointPositions) (sequence : List MotionSequenceItem)
    (totalDuration : Int32) (fuel : Nat) (s : ExpressionService) :
    Option (ExpressionService × List PosePublished) :=
  let s := s.executeJointPositions baseJoints
  if sequence.isEmpty then some (s, [⟨start, s⟩])
  else do
    let (t, published, n) ← sequenceLoop clock start fuel sequence (start + 1) s
    let elapsed := elapsedMs clock start n
    -- the argument of the wait
    if elapsed < totalDuration.toInt then whenFits (totalDuration.toInt - elapsed) () else some ()
    return (t.moveTo idle, ⟨start, s⟩ :: published)

/-- A motion that is not configured is only logged. -/
def executeTimedMotion (motion : Option MotionDefinition) (fuel : Nat) (s : ExpressionService) :
    Option (ExpressionService × List PosePublished) :=
  match motion with
  | some motion =>
      s.executeTimedSequence clock start idle motion.joints motion.sequence motion.duration fuel
  | none => some (s, [])

end Timed

/-! ## What is published -/

/-- The command with these angles. -/
def command (jointAngles : JointMap) : ExpressionPublication :=
  .controlData { source := some .expressionService, jointAngles := some jointAngles }

/-- The map with the joints of a pose put over it, by their configured angles in 8 bits. -/
def overlay (jointPositionList : ServoMotorJoint → GestureJointState → Option Int)
    (jointAngles : JointMap) (positions : JointPositions) : JointMap := fun joint =>
  match positions joint with
  | some state => some (toUInt8 ((jointPositionList joint state).getD 90))
  | none => jointAngles joint

/-- **The maps of a sequence**: each item is put over the map before it. -/
def sequenceMaps (jointPositionList : ServoMotorJoint → GestureJointState → Option Int)
    (jointAngles : JointMap) (sequence : List MotionSequenceItem) : List JointMap :=
  sequence.scanl (fun jointAngles item => overlay jointPositionList jointAngles item.joints) jointAngles

/-- The angles are the last ones published, and the positions that the service remembers. -/
structure Settled (jointAngles : JointMap) (s : ExpressionService) : Prop where
  published : s.published.getLast? = some (command jointAngles)
  current : s.currentPositions = jointAngles

theorem published_moveTo (jointAngles : JointMap) (s : ExpressionService) :
    (s.moveTo jointAngles).published = s.published ++ [command jointAngles] := rfl

theorem settled_moveTo (jointAngles : JointMap) (s : ExpressionService) :
    Settled jointAngles (s.moveTo jointAngles) :=
  ⟨List.getLast?_concat, rfl⟩

theorem executeJointPositions_eq (positions : JointPositions) (s : ExpressionService) :
    s.executeJointPositions positions = s.moveTo (overlay s.jointPositionList s.currentPositions positions) :=
  rfl

theorem sequenceMaps_cons (jointPositionList : ServoMotorJoint → GestureJointState → Option Int)
    (jointAngles : JointMap) (item : MotionSequenceItem) (items : List MotionSequenceItem) :
    sequenceMaps jointPositionList jointAngles (item :: items) =
      jointAngles :: sequenceMaps jointPositionList (overlay jointPositionList jointAngles item.joints) items :=
  List.scanl_cons

/-- The first map, and those of the items. -/
theorem sequenceMaps_eq (jointPositionList : ServoMotorJoint → GestureJointState → Option Int)
    (jointAngles : JointMap) (items : List MotionSequenceItem) :
    sequenceMaps jointPositionList jointAngles items =
      jointAngles :: (sequenceMaps jointPositionList jointAngles items).tail := by
  cases items with
  | nil => rfl
  | cons item items => rw [sequenceMaps_cons]; rfl

/-! ## The loop -/

section Loop

variable {clock : SteadyClock} {start : Nat}

/-- **What the loop has done** when it ends: the items are published in order, each at the first reading at
    which its time has come. -/
theorem sequenceLoop_spec {fuel : Nat} {items : List MotionSequenceItem} {n m : Nat}
    {s t : ExpressionService} {published : List PosePublished}
    (h : sequenceLoop clock start fuel items n s = some (t, published, m)) :
    PolledAt (elapsedMs clock start) (items.map fun item => item.time.toInt) n
        (published.map PosePublished.reading) m ∧
      t.published = s.published ++
        (sequenceMaps s.jointPositionList s.currentPositions items).tail.map command ∧
      List.Forall₂ (fun jointAngles x => Settled jointAngles x.service)
        (sequenceMaps s.jointPositionList s.currentPositions items).tail published := by
  induction fuel generalizing items n s published with
  | zero =>
      cases items with
      | nil =>
          cases h
          exact ⟨.nil _, (List.append_nil _).symm, .nil⟩
      | cons item items => cases h
  | succ fuel ih =>
      cases items with
      | nil =>
          cases h
          exact ⟨.nil _, (List.append_nil _).symm, .nil⟩
      | cons item items =>
          unfold sequenceLoop at h
          split_ifs at h with htime
          · obtain ⟨⟨t', published', m'⟩, hrest, hresult⟩ := Option.bind_eq_some_iff.mp h
            cases hresult
            obtain ⟨hpolled, hpublished, hsettled⟩ := ih hrest
            rw [executeJointPositions_eq] at hpublished hsettled
            rw [sequenceMaps_cons, List.tail_cons, sequenceMaps_eq]
            refine ⟨.cons (.here htime) hpolled, ?_, .cons (settled_moveTo _ _) hsettled⟩
            rw [hpublished, published_moveTo, List.append_assoc]
            rfl
          · obtain ⟨hpolled, hpublished, hsettled⟩ := ih h
            refine ⟨?_, hpublished, hsettled⟩
            cases hpublishedItems : published.map PosePublished.reading with
            | nil => rw [hpublishedItems] at hpolled; cases hpolled
            | cons k ks =>
                rw [hpublishedItems] at hpolled
                cases hpolled with
                | cons hfirst hrest => exact .cons (hfirst.miss (not_le.mp htime)) hrest

/-- Passes that come too early. -/
theorem sequenceLoop_miss {item : MotionSequenceItem} {items : List MotionSequenceItem} {n k fuel : Nat}
    {s : ExpressionService} (hle : n ≤ k)
    (hearly : ∀ j, n ≤ j → j < k → elapsedMs clock start j < item.time.toInt) :
    sequenceLoop clock start (fuel + (k - n)) (item :: items) n s =
      sequenceLoop clock start fuel (item :: items) k s := by
  induction hle using Nat.decreasingInduction with
  | self => rw [Nat.sub_self, Nat.add_zero]
  | of_succ n hlt ih =>
      have hfuel : fuel + (k - n) = fuel + (k - (n + 1)) + 1 := by omega
      have hpass := hearly n le_rfl hlt
      rw [hfuel, sequenceLoop, if_neg (not_le.mpr hpass)]
      exact ih fun j hj => hearly j (by omega)

/-- **The loop gets through** if it can. -/
theorem exists_sequenceLoop {items : List MotionSequenceItem} {n m : Nat} {ks : List Nat}
    (h : PolledAt (elapsedMs clock start) (items.map fun item => item.time.toInt) n ks m)
    (s : ExpressionService) :
    ∃ fuel t published, sequenceLoop clock start fuel items n s = some (t, published, m) := by
  induction items generalizing n ks s with
  | nil =>
      cases h
      exact ⟨0, s, [], rfl⟩
  | cons item items ih =>
      cases h with
      | @cons _ _ _ k _ _ hfirst hrest =>
          obtain ⟨fuel, t, published, hloop⟩ := ih hrest (s.executeJointPositions item.joints)
          refine ⟨fuel + 1 + (k - n), t, ⟨k, s.executeJointPositions item.joints⟩ :: published, ?_⟩
          rw [sequenceLoop_miss hfirst.le hfirst.first, sequenceLoop, if_pos hfirst.reached]
          show (sequenceLoop clock start fuel items (k + 1) (s.executeJointPositions item.joints)).bind _ = _
          rw [hloop]
          rfl

/-- The loop without its clock. -/
theorem sequenceLoop_service {fuel : Nat} {items : List MotionSequenceItem} {n m : Nat}
    {s t : ExpressionService} {published : List PosePublished}
    (h : sequenceLoop clock start fuel items n s = some (t, published, m)) :
    t = items.foldl (fun s currentItem => s.executeJointPositions currentItem.joints) s := by
  induction fuel generalizing items n s published with
  | zero =>
      cases items with
      | nil => cases h; rfl
      | cons item items => cases h
  | succ fuel ih =>
      cases items with
      | nil => cases h; rfl
      | cons item items =>
          unfold sequenceLoop at h
          split_ifs at h
          · obtain ⟨⟨t', published', m'⟩, hrest, hresult⟩ := Option.bind_eq_some_iff.mp h
            cases hresult
            have hservice := ih hrest
            exact hservice
          · exact ih h

end Loop

/-! ## In order, and never early -/

/-- The map of the base pose, and those of the items. -/
def motionMaps (baseJoints : JointPositions) (sequence : List MotionSequenceItem) (s : ExpressionService) :
    List JointMap :=
  sequenceMaps s.jointPositionList (overlay s.jointPositionList s.currentPositions baseJoints) sequence

/-- **The promise** for a motion from `s` to `t`. -/
structure InOrder (clock : SteadyClock) (start : Nat) (idle : JointMap) (baseJoints : JointPositions)
    (sequence : List MotionSequenceItem) (s t : ExpressionService) (published : List PosePublished) :
    Prop where
  /-- Each item has a reading of its own, behind those of the items before it, and its time has elapsed. -/
  timely : ReachedAt (sinceStart clock start) (sequence.map fun item => item.time.toInt) (start + 1)
    (published.tail.map PosePublished.reading)
  /-- Each map is published once, in order, and is then what the service remembers. -/
  settled : List.Forall₂ (fun jointAngles x => Settled jointAngles x.service)
    (motionMaps baseJoints sequence s) published
  /-- Nothing else is published, but the idle pose behind a sequence. -/
  published : t.published = s.published ++ (motionMaps baseJoints sequence s).map command ++
    if sequence.isEmpty then [] else [command idle]
  ends : Settled (if sequence.isEmpty then overlay s.jointPositionList s.currentPositions baseJoints else idle) t

/-- The `int` is never ahead of the clock. -/
theorem elapsedMs_le (clock : SteadyClock) (start n : Nat) :
    elapsedMs clock start n ≤ sinceStart clock start n := by
  have hnonneg : 0 ≤ sinceStart clock start n := Int.natCast_nonneg _
  unfold elapsedMs Int.bmod
  simp only
  split <;> omega

section Motion

variable {clock : SteadyClock} {start : Nat} {idle : JointMap} {baseJoints : JointPositions}
  {sequence : List MotionSequenceItem} {totalDuration : Int32}

/-- The call, when there is a sequence. -/
theorem executeTimedSequence_eq_some (hne : sequence ≠ []) {fuel : Nat} {s t : ExpressionService}
    {published : List PosePublished} :
    s.executeTimedSequence clock start idle baseJoints sequence totalDuration fuel = some (t, published) ↔
      ∃ u items m, sequenceLoop clock start fuel sequence (start + 1) (s.executeJointPositions baseJoints) =
          some (u, items, m) ∧
        (elapsedMs clock start m < totalDuration.toInt →
          FitsInt (totalDuration.toInt - elapsedMs clock start m)) ∧
        t = u.moveTo idle ∧ published = ⟨start, s.executeJointPositions baseJoints⟩ :: items := by
  have hempty : sequence.isEmpty = false := List.isEmpty_eq_false_iff.mpr hne
  unfold executeTimedSequence
  simp only [hempty, Bool.false_eq_true, if_false]
  cases sequenceLoop clock start fuel sequence (start + 1) (s.executeJointPositions baseJoints) with
  | none => simp
  | some result =>
      obtain ⟨u, items, m⟩ := result
      by_cases hwait : elapsedMs clock start m < totalDuration.toInt
      · by_cases hfits : FitsInt (totalDuration.toInt - elapsedMs clock start m)
        · simp [hwait, whenFits, hfits, eq_comm]
        · simp [hwait, whenFits, hfits]
      · simp [hwait, eq_comm]

/-- **What the clock does not change**: a motion that ends has done what it does without the waits. -/
theorem executeTimedSequence_service {fuel : Nat} {s t : ExpressionService} {published : List PosePublished}
    (h : s.executeTimedSequence clock start idleJointPositions baseJoints sequence totalDuration fuel =
      some (t, published)) :
    t = s.executeMotionSequence baseJoints sequence := by
  unfold executeMotionSequence
  by_cases hne : sequence = []
  · subst hne
    cases h
    rfl
  · obtain ⟨u, items, m, hloop, _, rfl, _⟩ := (executeTimedSequence_eq_some hne).mp h
    have hempty : sequence.isEmpty = false := List.isEmpty_eq_false_iff.mpr hne
    rw [sequenceLoop_service hloop]
    simp only [hempty, Bool.false_eq_true, if_false]
    rfl

theorem executeTimedMotion_service {motion : Option MotionDefinition} {fuel : Nat} {s t : ExpressionService}
    {published : List PosePublished}
    (h : s.executeTimedMotion clock start idleJointPositions motion fuel = some (t, published)) :
    t = s.executeMotion motion := by
  cases motion with
  | none => cases h; rfl
  | some motion => exact executeTimedSequence_service h

/-- **What comes out is in order.** -/
theorem inOrder_of_eq_some {fuel : Nat} {s t : ExpressionService} {published : List PosePublished}
    (h : s.executeTimedSequence clock start idle baseJoints sequence totalDuration fuel =
      some (t, published)) : InOrder clock start idle baseJoints sequence s t published := by
  by_cases hne : sequence = []
  · subst hne
    cases h
    refine ⟨.nil _, .cons (settled_moveTo _ _) .nil, ?_, settled_moveTo _ _⟩
    rw [executeJointPositions_eq, published_moveTo]
    exact (List.append_nil _).symm
  · obtain ⟨u, items, m, hloop, _, rfl, rfl⟩ := (executeTimedSequence_eq_some hne).mp h
    obtain ⟨hpolled, hpublished, hsettled⟩ := sequenceLoop_spec hloop
    have hempty : sequence.isEmpty = false := List.isEmpty_eq_false_iff.mpr hne
    have hmaps : motionMaps baseJoints sequence s =
        overlay s.jointPositionList s.currentPositions baseJoints ::
          (motionMaps baseJoints sequence s).tail := sequenceMaps_eq _ _ _
    rw [executeJointPositions_eq] at hpublished hsettled
    refine ⟨hpolled.reachedAt.mono (elapsedMs_le clock start), ?_, ?_, ?_⟩
    · rw [hmaps]
      exact .cons (settled_moveTo _ _) hsettled
    · rw [published_moveTo, hpublished, published_moveTo, hmaps, hempty, List.append_assoc s.published]
      rfl
    · rw [hempty]
      exact settled_moveTo _ _

end Motion

/-- The clock has readings at which the `int` of the elapsed milliseconds reaches the times one after another,
    and the remaining duration fits an `int` at the reading behind them. -/
def GetsThrough (clock : SteadyClock) (start : Nat) (sequence : List MotionSequenceItem)
    (totalDuration : Int32) : Prop :=
  ∃ ks m, PolledAt (elapsedMs clock start) (sequence.map fun item => item.time.toInt) (start + 1) ks m ∧
    (elapsedMs clock start m < totalDuration.toInt → FitsInt (totalDuration.toInt - elapsedMs clock start m))

/-- **A sequence ends** iff the clock gets it through. -/
theorem exists_executeTimedSequence_iff {clock : SteadyClock} {start : Nat} {idle : JointMap}
    {baseJoints : JointPositions} {sequence : List MotionSequenceItem} {totalDuration : Int32}
    (hne : sequence ≠ []) (s : ExpressionService) :
    (∃ fuel r, s.executeTimedSequence clock start idle baseJoints sequence totalDuration fuel = some r) ↔
      GetsThrough clock start sequence totalDuration := by
  constructor
  · rintro ⟨fuel, ⟨t, published⟩, h⟩
    obtain ⟨u, items, m, hloop, hfits, _, _⟩ := (executeTimedSequence_eq_some hne).mp h
    exact ⟨_, m, (sequenceLoop_spec hloop).1, hfits⟩
  · rintro ⟨ks, m, hpolled, hfits⟩
    obtain ⟨fuel, u, items, hloop⟩ := exists_sequenceLoop hpolled (s.executeJointPositions baseJoints)
    exact ⟨fuel, (_, _), (executeTimedSequence_eq_some hne).mpr ⟨u, items, m, hloop, hfits, rfl, rfl⟩⟩

/-- **The motion sequence ends, with all its items in order and none too early**, iff it has no items, or the
    clock has readings at which the `int` of the elapsed milliseconds reaches the times one after another, and
    the remaining duration fits an `int` at the reading behind them. -/
theorem motion_sequence_iff (clock : SteadyClock) (start : Nat) (idle : JointMap) (baseJoints : JointPositions)
    (sequence : List MotionSequenceItem) (totalDuration : Int32) (s : ExpressionService) :
    (∃ fuel t published,
      s.executeTimedSequence clock start idle baseJoints sequence totalDuration fuel = some (t, published) ∧
        InOrder clock start idle baseJoints sequence s t published) ↔
      sequence = [] ∨ ∃ ks m,
        PolledAt (elapsedMs clock start) (sequence.map fun item => item.time.toInt) (start + 1) ks m ∧
          (elapsedMs clock start m < totalDuration.toInt →
            FitsInt (totalDuration.toInt - elapsedMs clock start m)) := by
  constructor
  · rintro ⟨fuel, t, published, h, _⟩
    by_cases hne : sequence = []
    · exact .inl hne
    · exact .inr ((exists_executeTimedSequence_iff hne s).mp ⟨fuel, _, h⟩)
  · intro h
    have hends : ∃ fuel r,
        s.executeTimedSequence clock start idle baseJoints sequence totalDuration fuel = some r := by
      by_cases hne : sequence = []
      · subst hne
        exact ⟨0, _, rfl⟩
      · exact (exists_executeTimedSequence_iff hne s).mpr (h.resolve_left hne)
    obtain ⟨fuel, ⟨t, published⟩, hends⟩ := hends
    exact ⟨fuel, t, published, hends, inOrder_of_eq_some hends⟩

/-- **A clock without big jumps**: every motion gets through, if the times and the gaps between the readings
    leave room in an `int`. -/
theorem motion_sequence_of_slow {clock : SteadyClock} {start : Nat} {sequence : List MotionSequenceItem}
    {bound gap : Int} (hunbounded : ∀ time, ∃ n, time ≤ sinceStart clock start n)
    (hslow : ∀ n, sinceStart clock start (n + 1) ≤ sinceStart clock start n + gap) (hbound : 0 ≤ bound)
    (htimes : ∀ item ∈ sequence, item.time.toInt ≤ bound)
    (hroom : bound + gap + sequence.length * gap < 2 ^ 31) (totalDuration : Int32) :
    GetsThrough clock start sequence totalDuration := by
  have hmono : Monotone (sinceStart clock start) := by
    intro n m h
    exact Int.ofNat_le.mpr (Nat.div_le_div_right (Nat.sub_le_sub_right (clock.mono h) _))
  have hstart : sinceStart clock start start = 0 := by
    unfold sinceStart countMs
    rw [Nat.sub_self]
    rfl
  have hgap : 0 ≤ gap := by
    have h : sinceStart clock start start ≤ sinceStart clock start (start + 1) := hmono (Nat.le_succ start)
    have hnext := hslow start
    omega
  obtain ⟨ks, hreached⟩ := exists_reachedAt hmono hunbounded
    (sequence.map fun item => item.time.toInt) (start + 1)
  obtain ⟨ks, m, hpolled⟩ := exists_polledAt_iff.mpr ⟨_, hreached⟩
  have hend : sinceStart clock start m < 2 ^ 31 := by
    have h := hpolled.le_of_slow hgap hslow (List.forall_mem_map.mpr htimes)
    have hnext := hslow start
    rw [List.length_map] at h
    have hmax : max (sinceStart clock start (start + 1)) (bound + gap) = bound + gap :=
      max_eq_right (by omega)
    rw [hmax] at h
    exact lt_of_le_of_lt h hroom
  have hexact : ∀ j, j ≤ m → elapsedMs clock start j = sinceStart clock start j := by
    intro j hj
    have hle := hmono hj
    have hnonneg : 0 ≤ sinceStart clock start j := Int.natCast_nonneg _
    exact (bmod_eq_self_iff _).mpr ⟨by omega, by omega⟩
  refine ⟨ks, m, hpolled.congr fun j hj => (hexact j hj.le).symm, ?_⟩
  intro hwait
  rw [hexact m le_rfl] at hwait ⊢
  have hnonneg : 0 ≤ sinceStart clock start m := Int.natCast_nonneg _
  have hduration := totalDuration.toInt_lt
  exact ⟨by omega, by omega⟩

theorem sinceStart_tickingClock (periodMs n : Nat) :
    sinceStart (tickingClock periodMs) 0 n = (periodMs * n : Nat) := by
  unfold sinceStart tickingClock milliseconds countMs
  simp only
  omega

/-- A clock that leaps from reading to reading by the milliseconds that an `int` does not notice. -/
def leapingClock : SteadyClock := tickingClock (2 ^ 32)

theorem elapsedMs_leapingClock (n : Nat) : elapsedMs leapingClock 0 n = 0 := by
  unfold elapsedMs leapingClock
  rw [sinceStart_tickingClock]
  push_cast
  exact Int.mul_bmod_right _ _

/-- Nothing that is due later than at once is ever due. -/
theorem not_polledAt_leapingClock {t : Int} (ht : 0 < t) (ts : List Int) (n : Nat) (ks : List Nat) (m : Nat) :
    ¬ PolledAt (elapsedMs leapingClock 0) (t :: ts) n ks m := by
  rintro (_ | ⟨hfirst, _⟩)
  have hreached := hfirst.reached
  rw [elapsedMs_leapingClock] at hreached
  omega

/-- **A motion that never ends**: its only item is due after a millisecond, and the clock is unbounded. -/
theorem motion_sequence_never_ends : (∀ time, ∃ n, time ≤ leapingClock.reading n) ∧
    ∀ (idle : JointMap) (s : ExpressionService) (fuel : Nat),
      s.executeTimedSequence leapingClock 0 idle (fun _ => none) [⟨1, fun _ => none⟩] 0 fuel = none := by
  refine ⟨fun time => ⟨time, ?_⟩, fun idle s fuel => ?_⟩
  · show time ≤ 2 ^ 32 * time * 1000000
    exact (Nat.le_mul_of_pos_left time (by decide)).trans (Nat.le_mul_of_pos_right _ (by decide))
  · apply Option.eq_none_iff_forall_ne_some.mpr
    rintro ⟨t, published⟩ h
    obtain ⟨u, items, m, hloop, _⟩ := (executeTimedSequence_eq_some (List.cons_ne_nil _ _)).mp h
    exact not_polledAt_leapingClock (by decide) _ _ _ _ (sequenceLoop_spec hloop).1

/-! ## The way back to the idle pose -/

section Tables

variable (clock : SteadyClock) (start : Nat) (idle : JointMap)

/-- `_emotionalMotions.find(emotionType)`: the keys of the map are enumerators. -/
def executeTimedEmotionalMotion (emotionType : Int) (fuel : Nat) (s : ExpressionService) :
    Option (ExpressionService × List PosePublished) :=
  s.executeTimedMotion clock start idle
    ((enumerator EmotionType.declared emotionType).bind s.emotionalMotions) fuel

def executeTimedReactionalMotion (reactionType : Int) (fuel : Nat) (s : ExpressionService) :
    Option (ExpressionService × List PosePublished) :=
  s.executeTimedMotion clock start idle
    ((enumerator ReactionType.declared reactionType).bind s.reactionalMotions) fuel

end Tables

/-- **The motion ends**, with the idle pose published last, and remembered. -/
structure EndsInIdle (idle : JointMap) (run : Nat → Option (ExpressionService × List PosePublished)) : Prop where
  ends : ∃ fuel r, run fuel = some r
  settled : ∀ fuel t published, run fuel = some (t, published) → Settled idle t

section Idle

variable {clock : SteadyClock} {start : Nat} {idle : JointMap}

theorem settled_unique {jointAngles jointAngles' : JointMap} {s : ExpressionService}
    (h : Settled jointAngles s) (h' : Settled jointAngles' s) : jointAngles = jointAngles' :=
  h.current.symm.trans h'.current

theorem endsInIdle_iff (motion : MotionDefinition) (s : ExpressionService) :
    EndsInIdle idle (fun fuel => s.executeTimedMotion clock start idle (some motion) fuel) ↔
      (motion.sequence = [] ∧ overlay s.jointPositionList s.currentPositions motion.joints = idle) ∨
        (motion.sequence ≠ [] ∧ GetsThrough clock start motion.sequence motion.duration) := by
  cases hsequence : motion.sequence with
  | nil =>
      have hends : ∀ fuel, s.executeTimedMotion clock start idle (some motion) fuel =
          some (s.executeJointPositions motion.joints, [⟨start, s.executeJointPositions motion.joints⟩]) := by
        intro fuel
        show s.executeTimedSequence clock start idle motion.joints motion.sequence motion.duration fuel = _
        rw [hsequence]
        rfl
      constructor
      · intro h
        exact .inl ⟨rfl, settled_unique (settled_moveTo _ _) (h.settled 0 _ _ (hends 0))⟩
      · rintro (⟨_, hidle⟩ | ⟨hne, _⟩)
        · refine ⟨⟨0, _, hends 0⟩, fun fuel t published hrun => ?_⟩
          cases (hends fuel).symm.trans hrun
          rw [executeJointPositions_eq, hidle]
          exact settled_moveTo _ _
        · exact absurd rfl hne
  | cons item items =>
      have hne : motion.sequence ≠ [] := by
        rw [hsequence]
        exact List.cons_ne_nil _ _
      rw [← hsequence]
      constructor
      · intro h
        exact .inr ⟨hne, (exists_executeTimedSequence_iff hne s).mp h.ends⟩
      · rintro (⟨hempty, _⟩ | ⟨_, hthrough⟩)
        · exact absurd hempty hne
        · refine ⟨(exists_executeTimedSequence_iff hne s).mpr hthrough, fun fuel t published hrun => ?_⟩
          obtain ⟨u, _, _, _, _, rfl, _⟩ := (executeTimedSequence_eq_some hne).mp hrun
          exact settled_moveTo _ _

end Idle

/-- **A motion ends in the idle pose** iff it has a sequence, and the clock gets it through; or it has none,
    and its base pose is the idle one already. This holds for every entry of the two tables, from any pose. -/
theorem ends_in_idle_iff (clock : SteadyClock) (start : Nat) (idle : JointMap) (s : ExpressionService) :
    (∀ emotion motion, s.emotionalMotions emotion = some motion →
      (EndsInIdle idle (s.executeTimedEmotionalMotion clock start idle emotion.value) ↔
        (motion.sequence = [] ∧ overlay s.jointPositionList s.currentPositions motion.joints = idle) ∨
          (motion.sequence ≠ [] ∧ GetsThrough clock start motion.sequence motion.duration))) ∧
    ∀ reaction motion, s.reactionalMotions reaction = some motion →
      (EndsInIdle idle (s.executeTimedReactionalMotion clock start idle reaction.value) ↔
        (motion.sequence = [] ∧ overlay s.jointPositionList s.currentPositions motion.joints = idle) ∨
          (motion.sequence ≠ [] ∧ GetsThrough clock start motion.sequence motion.duration)) := by
  constructor
  · intro emotion motion hmotion
    have hfind : (enumerator EmotionType.declared emotion.value).bind s.emotionalMotions = some motion := by
      rw [EmotionType.enumerator_value]
      exact hmotion
    unfold executeTimedEmotionalMotion
    rw [hfind]
    exact endsInIdle_iff motion s
  · intro reaction motion hmotion
    have hfind : (enumerator ReactionType.declared reaction.value).bind s.reactionalMotions = some motion := by
      rw [ReactionType.enumerator_value]
      exact hmotion
    unfold executeTimedReactionalMotion
    rw [hfind]
    exact endsInIdle_iff motion s

/-! ### Two motions -/

/-- A pose that is held: the left arm is raised, and there is no sequence. -/
def cheer : MotionDefinition where
  name := "cheer"
  description := ""
  duration := 500
  joints joint := if joint = .leftArm then some .fullup else none
  sequence := []

/-- Down and up again. -/
def nod : MotionDefinition where
  name := "nod"
  description := ""
  duration := 500
  joints joint := if joint = .neck then some .halfdown else none
  sequence := [⟨250, fun joint => if joint = .neck then some .middle else none⟩]

/-- A robot in the idle pose. -/
def resting : ExpressionService where
  jointPositionList joint state := if joint = .leftArm ∧ state = .fullup then some 40 else none
  emotionalMotions emotion := if emotion = .happy then some cheer else none
  reactionalMotions reaction := if reaction = .greeting then some nod else none
  currentPositions := idleJointPositions
  published := []

theorem overlay_cheer :
    overlay resting.jointPositionList resting.currentPositions cheer.joints ≠ idleJointPositions := by
  intro h
  exact absurd (congrFun h .leftArm) (by decide)

theorem nod_getsThrough : GetsThrough (tickingClock 1) 0 nod.sequence nod.duration := by
  have hunbounded : ∀ time, ∃ n, time ≤ sinceStart (tickingClock 1) 0 n := by
    intro time
    refine ⟨time.toNat, ?_⟩
    rw [sinceStart_tickingClock]
    omega
  have hslow : ∀ n, sinceStart (tickingClock 1) 0 (n + 1) ≤ sinceStart (tickingClock 1) 0 n + 1 := by
    intro n
    rw [sinceStart_tickingClock, sinceStart_tickingClock]
    omega
  have htimes : ∀ item ∈ nod.sequence, item.time.toInt ≤ 250 := by
    intro item hitem
    cases List.mem_singleton.mp hitem
    decide
  exact motion_sequence_of_slow hunbounded hslow (by decide) htimes (by decide) _

/-- The nod ends where it ends without its waits; with a clock that leaps it never does. -/
theorem ends_in_idle_nod :
    (EndsInIdle idleJointPositions (resting.executeTimedReactionalMotion (tickingClock 1) 0 idleJointPositions
        ReactionType.greeting.value) ∧
      ∃ fuel published, resting.executeTimedReactionalMotion (tickingClock 1) 0 idleJointPositions
          ReactionType.greeting.value fuel =
        some (resting.executeReactionalMotion ReactionType.greeting.value, published)) ∧
    ¬ EndsInIdle idleJointPositions (resting.executeTimedReactionalMotion leapingClock 0 idleJointPositions
      ReactionType.greeting.value) ∧
    ¬ EndsInIdle idleJointPositions (resting.executeTimedEmotionalMotion (tickingClock 1) 0
      idleJointPositions EmotionType.happy.value) := by
  obtain ⟨hemotional, hreactional⟩ := ends_in_idle_iff (tickingClock 1) 0 idleJointPositions resting
  have hnod := (hreactional .greeting nod rfl).mpr (.inr ⟨List.cons_ne_nil _ _, nod_getsThrough⟩)
  refine ⟨⟨hnod, ?_⟩, ?_, ?_⟩
  · obtain ⟨fuel, ⟨t, published⟩, hrun⟩ := hnod.ends
    have hservice : t = resting.executeReactionalMotion ReactionType.greeting.value :=
      executeTimedMotion_service hrun
    exact ⟨fuel, published, hservice ▸ hrun⟩
  · intro h
    rcases ((ends_in_idle_iff leapingClock 0 idleJointPositions resting).2 .greeting nod rfl).mp h with
      ⟨hempty, _⟩ | ⟨_, ks, m, hpolled, _⟩
    · exact List.cons_ne_nil _ _ hempty
    · exact not_polledAt_leapingClock (by decide) _ _ _ _ hpolled
  · intro h
    rcases (hemotional .happy cheer rfl).mp h with ⟨_, hidle⟩ | ⟨hne, _⟩
    · exact overlay_cheer hidle
    · exact hne rfl

/-- **The arm stays up** when the motion is over. -/
theorem cheer_stays : ∃ t published,
    resting.executeTimedEmotionalMotion (tickingClock 1) 0 idleJointPositions EmotionType.happy.value 0 =
      some (t, published) ∧
    t.currentPositions .leftArm = some 40 ∧ ¬ Settled idleJointPositions t := by
  refine ⟨resting.executeJointPositions cheer.joints, _, rfl, rfl, ?_⟩
  intro h
  exact overlay_cheer h.current

end ExpressionService

end Kufibot
