import Kufibot.Lib.History

/-!
# `Services.Perception` — the throttled loop of the camera

`service_function` grabs every frame. A grab that comes 100 ms or more after the last decode attempt is
decoded into `_frame`; one that comes earlier is not, but this is where `processFrame` is called, with what
`_frame` happens to hold. So the heavy step is done at the rate of the camera.

`grabs` tells the two kinds of grabs apart by the readings of the clock alone. The calls of `processFrame` are
100 ms apart, each with a new frame, exactly if the early grabs are `Paced`: a decoded frame comes right
before each of them, and two of them with one decode attempt between are 100 ms apart
(`perception_throttle_iff`).
-/

namespace Kufibot

open Lib Lib.History

variable {F : Type}

/-! ## The loop -/

/-- `kProcessInterval`, in nanoseconds. -/
def kProcessInterval : Int := 100000000

/-- What `retrieveFrame` finds: no open camera, or what `retrieve` leaves in the frame; an empty `cv::Mat` is
    `none`. -/
inductive Retrieval (F : Type) where
  | notOpened
  | read (content : Option F)

/-- `VideoOperator::retrieveFrame`: its result, and the frame behind it. -/
def retrieveFrame (retrieval : Retrieval F) (frame : Option F) : Bool × Option F :=
  match retrieval with
  | .notOpened => (false, frame)
  | .read content => (content.isSome, content)

/-- A turn of the loop: whether `grabFrame` succeeds, the reading of the clock behind it, and what a
    `retrieveFrame` would find. -/
inductive LoopTurn (F : Type) where
  | notGrabbed
  | grabbed (now : Int) (retrieval : Retrieval F)

def LoopTurn.reading : LoopTurn F → Option Int
  | .notGrabbed => none
  | .grabbed now _ => some now

/-- What happens to frames: one has been retrieved, or is given to `processFrame`. -/
inductive FrameEvent (F : Type) where
  | retrieved (frame : Option F)
  | processed (frame : Option F)

def FrameEvent.isProcessed : FrameEvent F → Bool
  | .retrieved _ => false
  | .processed _ => true

structure PerceptionLoop (F : Type) where
  lastProcessTime : Int
  /-- `_frame`. -/
  frame : Option F
  /-- Ghost: the events, each with the reading of its turn. -/
  events : List (Int × FrameEvent F)

namespace PerceptionLoop

/-- The body of `while (_running)`. -/
def iterate (s : PerceptionLoop F) : LoopTurn F → PerceptionLoop F
  | .notGrabbed => s
  | .grabbed now retrieval =>
      if now - s.lastProcessTime < kProcessInterval then
        { s with events := s.events ++ [(now, .processed s.frame)] }
      else
        let (retrieved, frame) := retrieveFrame retrieval s.frame
        { lastProcessTime := now
          frame := frame
          events := if retrieved then s.events ++ [(now, .retrieved frame)] else s.events }

/-- The loop at its start; the frame is what an earlier start has left. -/
def started (start : Int) (frame : Option F) : PerceptionLoop F where
  lastProcessTime := start - kProcessInterval
  frame := frame
  events := []

/-- `service_function` with an open camera, until it is stopped. -/
def serviceFunction (start : Int) (frame : Option F) (turns : List (LoopTurn F)) : PerceptionLoop F :=
  turns.foldl iterate (started start frame)

end PerceptionLoop

/-- The clock does not go back. -/
def ForwardClock (start : Int) (turns : List (LoopTurn F)) : Prop :=
  (start :: turns.filterMap LoopTurn.reading).Pairwise (· ≤ ·)

/-- A call of `processFrame` comes `kProcessInterval` or more after the one before, and is given a frame that
    was retrieved after it. -/
def ThrottledAt (before : List (Int × FrameEvent F)) : Int × FrameEvent F → Prop
  | (_, .retrieved _) => True
  | (now, .processed frame) =>
      (∀ earlier, latest FrameEvent.isProcessed before = some earlier → kProcessInterval ≤ now - earlier) ∧
        ∃ content, frame = some content ∧
          FrameEvent.retrieved (some content) ∈ (since FrameEvent.isProcessed before).map Prod.snd

/-- **The heavy step is throttled.** -/
def Throttled (events : List (Int × FrameEvent F)) : Prop := AtEach ThrottledAt events

/-! ## The grabs, by the clock -/

/-- A grab comes too early behind the last decode attempt, or is one itself. -/
inductive Grab (F : Type) where
  | early
  | decode (retrieval : Retrieval F)

def Grab.isEarly : Grab F → Bool
  | .early => true
  | .decode _ => false

/-- What a decode attempt puts into the frame, if the camera is open. -/
def Grab.content : Grab F → Option (Option F)
  | .early => none
  | .decode .notOpened => none
  | .decode (.read content) => some content

/-- One turn more: the last decode attempt, and the grabs with their readings. -/
def sortGrab (sorted : Int × List (Int × Grab F)) : LoopTurn F → Int × List (Int × Grab F)
  | .notGrabbed => sorted
  | .grabbed now retrieval =>
      if now - sorted.1 < kProcessInterval then (sorted.1, sorted.2 ++ [(now, .early)])
      else (now, sorted.2 ++ [(now, .decode retrieval)])

def sortGrabs (start : Int) (turns : List (LoopTurn F)) : Int × List (Int × Grab F) :=
  turns.foldl sortGrab (start - kProcessInterval, [])

/-- **The grabs of a run**: the first one is a decode attempt, and so is each that comes `kProcessInterval` or
    more after the last attempt. -/
def grabs (start : Int) (turns : List (LoopTurn F)) : List (Int × Grab F) := (sortGrabs start turns).2

/-- The grabs behind the last early one. -/
def sinceEarly (before : List (Int × Grab F)) : List (Int × Grab F) := since Grab.isEarly before

/-- Since the last early grab a frame has been decoded, and the last decode was not in vain. -/
def Decoded (before : List (Int × Grab F)) : Prop :=
  ∃ content, ((sinceEarly before).filterMap fun grab => grab.2.content).getLast? = some (some content)

/-- An early grab is behind a decoded frame; and if only one decode attempt is between it and the early one
    before, they are `kProcessInterval` apart. -/
def PacedAt (before : List (Int × Grab F)) : Int × Grab F → Prop
  | (_, .decode _) => True
  | (now, .early) =>
      ((sinceEarly before).length = 1 → ∀ earlier, latest Grab.isEarly before = some earlier →
        kProcessInterval ≤ now - earlier) ∧ Decoded before

/-- **The early grabs are paced.** -/
def Paced (grabs : List (Int × Grab F)) : Prop := AtEach PacedAt grabs

/-! ## A turn -/

/-- **What a turn does**, to the loop and to the grabs. -/
inductive Turns (s : PerceptionLoop F) (sorted : Int × List (Int × Grab F)) :
    LoopTurn F → PerceptionLoop F → Int × List (Int × Grab F) → Prop where
  | notGrabbed : Turns s sorted .notGrabbed s sorted
  | early {now : Int} {retrieval : Retrieval F} (h : now - s.lastProcessTime < kProcessInterval) :
      Turns s sorted (.grabbed now retrieval)
        { s with events := s.events ++ [(now, .processed s.frame)] }
        (sorted.1, sorted.2 ++ [(now, .early)])
  | notOpened {now : Int} (h : kProcessInterval ≤ now - s.lastProcessTime) :
      Turns s sorted (.grabbed now .notOpened) { s with lastProcessTime := now }
        (now, sorted.2 ++ [(now, .decode .notOpened)])
  | empty {now : Int} (h : kProcessInterval ≤ now - s.lastProcessTime) :
      Turns s sorted (.grabbed now (.read none)) { s with lastProcessTime := now, frame := none }
        (now, sorted.2 ++ [(now, .decode (.read none))])
  | retrieved {now : Int} {content : F} (h : kProcessInterval ≤ now - s.lastProcessTime) :
      Turns s sorted (.grabbed now (.read (some content)))
        { lastProcessTime := now
          frame := some content
          events := s.events ++ [(now, .retrieved (some content))] }
        (now, sorted.2 ++ [(now, .decode (.read (some content)))])

theorem turns_iterate {s : PerceptionLoop F} {sorted : Int × List (Int × Grab F)}
    (hlast : sorted.1 = s.lastProcessTime) (turn : LoopTurn F) :
    Turns s sorted turn (s.iterate turn) (sortGrab sorted turn) := by
  cases turn with
  | notGrabbed => exact .notGrabbed
  | grabbed now retrieval =>
      unfold PerceptionLoop.iterate sortGrab
      dsimp only
      by_cases h : now - s.lastProcessTime < kProcessInterval
      · have hsorted : now - sorted.1 < kProcessInterval := hlast ▸ h
        rw [if_pos h, if_pos hsorted]
        exact .early h
      · have hsorted : ¬ now - sorted.1 < kProcessInterval := hlast ▸ h
        rw [if_neg h, if_neg hsorted]
        have h := Int.not_lt.mp h
        cases retrieval with
        | notOpened => exact .notOpened h
        | read content =>
            cases content with
            | none => exact .empty h
            | some content => exact .retrieved h

/-! ## The invariant -/

/-- The loop against the grabs so far; `now` is the latest reading. -/
structure Tracked (s : PerceptionLoop F) (sorted : Int × List (Int × Grab F)) (now : Int) : Prop where
  last : sorted.1 = s.lastProcessTime
  le_now : s.lastProcessTime ≤ now
  /-- The calls of `processFrame` are the early grabs. -/
  processed : latest FrameEvent.isProcessed s.events = latest Grab.isEarly sorted.2
  /-- The frame is a new one iff the last decode was not in vain. -/
  frame : (∃ content, s.frame = some content ∧
      FrameEvent.retrieved (some content) ∈ (since FrameEvent.isProcessed s.events).map Prod.snd) ↔
    Decoded sorted.2
  early_le : ∀ earlier, latest Grab.isEarly sorted.2 = some earlier → earlier ≤ now
  /-- Decode attempts are `kProcessInterval` apart. -/
  one : ∀ earlier, latest Grab.isEarly sorted.2 = some earlier → 1 ≤ (sinceEarly sorted.2).length →
    earlier ≤ s.lastProcessTime
  two : ∀ earlier, latest Grab.isEarly sorted.2 = some earlier → 2 ≤ (sinceEarly sorted.2).length →
    earlier + kProcessInterval ≤ s.lastProcessTime

theorem decoded_length {before : List (Int × Grab F)} (h : Decoded before) :
    1 ≤ (sinceEarly before).length := by
  obtain ⟨content, hlast⟩ := h
  refine List.length_pos_iff.mpr fun hnil => ?_
  rw [hnil] at hlast
  cases hlast

/-- **A call of `processFrame`** is throttled iff the early grab is paced. -/
theorem throttledAt_iff {s : PerceptionLoop F} {sorted : Int × List (Int × Grab F)} {before now : Int}
    (h : Tracked s sorted before) (hnow : before ≤ now) :
    ThrottledAt s.events (now, .processed s.frame) ↔ PacedAt sorted.2 (now, .early) := by
  unfold ThrottledAt PacedAt
  dsimp only
  rw [h.processed, h.frame]
  refine and_congr_left fun hdecoded => ⟨fun hspaced _ => hspaced, fun hspaced earlier hearlier => ?_⟩
  rcases Nat.lt_or_ge 1 (sinceEarly sorted.2).length with hmany | hone
  · -- two decode attempts are far enough apart
    have htwo := h.two earlier hearlier hmany
    have hle := h.le_now
    omega
  · exact hspaced (le_antisymm hone (decoded_length hdecoded)) earlier hearlier

theorem decoded_concat (before : List (Int × Grab F)) (now : Int) (retrieval : Retrieval F) :
    Decoded (before ++ [(now, .decode retrieval)]) ↔
      match retrieval with
      | .notOpened => Decoded before
      | .read content => content.isSome := by
  unfold Decoded sinceEarly
  rw [since_concat]
  cases retrieval with
  | notOpened => simp [Grab.isEarly, Grab.content]
  | read content => cases content <;> simp [Grab.isEarly, Grab.content]

theorem since_early (before : List (Int × Grab F)) (now : Int) :
    sinceEarly (before ++ [(now, .early)]) = [] :=
  since_concat _ _ _ _

theorem since_decode (before : List (Int × Grab F)) (now : Int) (retrieval : Retrieval F) :
    sinceEarly (before ++ [(now, .decode retrieval)]) = sinceEarly before ++ [(now, .decode retrieval)] :=
  since_concat _ _ _ _

theorem since_retrieved (before : List (Int × FrameEvent F)) (now : Int) (frame : Option F) :
    since FrameEvent.isProcessed (before ++ [(now, .retrieved frame)]) =
      since FrameEvent.isProcessed before ++ [(now, .retrieved frame)] :=
  since_concat _ _ _ _

theorem latest_early (before : List (Int × Grab F)) (now : Int) :
    latest Grab.isEarly (before ++ [(now, .early)]) = some now :=
  latest_concat _ _ _ _

theorem latest_decode (before : List (Int × Grab F)) (now : Int) (retrieval : Retrieval F) :
    latest Grab.isEarly (before ++ [(now, .decode retrieval)]) = latest Grab.isEarly before :=
  latest_concat _ _ _ _

namespace Tracked

variable {s t : PerceptionLoop F} {sorted : Int × List (Int × Grab F)} {before now : Int}

theorem early (h : Tracked s sorted before) (hnow : before ≤ now) :
    Tracked { s with events := s.events ++ [(now, .processed s.frame)] }
      (sorted.1, sorted.2 ++ [(now, .early)]) now where
  last := h.last
  le_now := Int.le_trans h.le_now hnow
  processed := by
    rw [latest_early]
    exact latest_concat _ _ _ _
  frame := by
    refine iff_of_false ?_ ?_
    · rintro ⟨content, -, hmem⟩
      rw [since_concat] at hmem
      exact absurd hmem List.not_mem_nil
    · intro hdecoded
      have hlength := decoded_length hdecoded
      rw [since_early] at hlength
      exact absurd hlength (Nat.not_succ_le_zero 0)
  early_le := by
    intro earlier hearlier
    rw [latest_early] at hearlier
    exact Int.le_of_eq (Option.some.inj hearlier).symm
  one := by
    intro _ _ hlength
    rw [since_early] at hlength
    exact absurd hlength (Nat.not_succ_le_zero 0)
  two := by
    intro _ _ hlength
    rw [since_early] at hlength
    exact absurd hlength (Nat.not_succ_le_zero 1)

/-- A decode attempt, whatever it does to the frame. -/
theorem decode (h : Tracked s sorted before) (hnow : before ≤ now)
    (hfar : kProcessInterval ≤ now - s.lastProcessTime) {retrieval : Retrieval F}
    (hlast : t.lastProcessTime = now)
    (hprocessed : latest FrameEvent.isProcessed t.events = latest FrameEvent.isProcessed s.events)
    (hframe : (∃ content, t.frame = some content ∧
        FrameEvent.retrieved (some content) ∈ (since FrameEvent.isProcessed t.events).map Prod.snd) ↔
      Decoded (sorted.2 ++ [(now, .decode retrieval)])) :
    Tracked t (now, sorted.2 ++ [(now, .decode retrieval)]) now where
  last := hlast.symm
  le_now := Int.le_of_eq hlast
  processed := by
    rw [latest_decode, hprocessed]
    exact h.processed
  frame := hframe
  early_le := by
    intro earlier hearlier
    rw [latest_decode] at hearlier
    exact Int.le_trans (h.early_le earlier hearlier) hnow
  one := by
    intro earlier hearlier _
    rw [latest_decode] at hearlier
    rw [hlast]
    exact Int.le_trans (h.early_le earlier hearlier) hnow
  two := by
    intro earlier hearlier hlength
    rw [latest_decode] at hearlier
    rw [since_decode, List.length_append, List.length_singleton] at hlength
    have hone := h.one earlier hearlier (Nat.le_of_succ_le_succ hlength)
    rw [hlast]
    omega

end Tracked

/-- **A turn keeps the invariant**, with its reading as the latest one. -/
theorem tracked_turn {s t : PerceptionLoop F} {sorted sorted' : Int × List (Int × Grab F)}
    {turn : LoopTurn F} {before : Int} (h : Tracked s sorted before)
    (hnow : ∀ now, turn.reading = some now → before ≤ now) (hturn : Turns s sorted turn t sorted') :
    Tracked t sorted' (turn.reading.getD before) := by
  cases hturn with
  | notGrabbed => exact h
  | early _ => exact h.early (hnow _ rfl)
  | notOpened hfar =>
      refine h.decode (hnow _ rfl) hfar rfl rfl ?_
      rw [decoded_concat]
      exact h.frame
  | empty hfar =>
      refine h.decode (hnow _ rfl) hfar rfl rfl ?_
      rw [decoded_concat]
      refine iff_of_false ?_ Bool.false_ne_true
      rintro ⟨content, hnone, -⟩
      cases hnone
  | @retrieved now content hfar =>
      refine h.decode (hnow _ rfl) hfar rfl (latest_concat _ _ _ _) ?_
      rw [decoded_concat]
      refine iff_of_true ⟨content, rfl, ?_⟩ rfl
      rw [since_retrieved, List.map_append]
      exact List.mem_append_right _ (List.mem_singleton.mpr rfl)

/-! ## A run -/

theorem ForwardClock.of_concat {start : Int} {turns : List (LoopTurn F)} {turn : LoopTurn F}
    (h : ForwardClock start (turns ++ [turn])) : ForwardClock start turns ∧
      ∀ now, turn.reading = some now →
        ∀ earlier ∈ start :: turns.filterMap LoopTurn.reading, earlier ≤ now := by
  unfold ForwardClock at h
  rw [List.filterMap_append, ← List.cons_append, List.pairwise_append] at h
  obtain ⟨hturns, -, hle⟩ := h
  refine ⟨hturns, fun now hnow earlier hearlier => hle earlier hearlier now ?_⟩
  exact List.mem_filterMap.mpr ⟨turn, List.mem_singleton.mpr rfl, hnow⟩

theorem serviceFunction_concat (start : Int) (frame : Option F) (turns : List (LoopTurn F))
    (turn : LoopTurn F) : PerceptionLoop.serviceFunction start frame (turns ++ [turn]) =
      (PerceptionLoop.serviceFunction start frame turns).iterate turn :=
  List.foldl_concat ..

theorem sortGrabs_concat (start : Int) (turns : List (LoopTurn F)) (turn : LoopTurn F) :
    sortGrabs start (turns ++ [turn]) = sortGrab (sortGrabs start turns) turn :=
  List.foldl_concat ..

/-- **The invariant holds in every run**, with the reading of some turn as the latest one. -/
theorem tracked_run {start : Int} {turns : List (LoopTurn F)} (hclock : ForwardClock start turns)
    (frame : Option F) : ∃ now ∈ start :: turns.filterMap LoopTurn.reading,
      Tracked (PerceptionLoop.serviceFunction start frame turns) (sortGrabs start turns) now := by
  induction turns using List.reverseRecOn with
  | nil =>
      refine ⟨start, List.mem_cons_self, rfl, ?_, rfl, ?_, fun _ h => (nomatch h), fun _ h => (nomatch h),
        fun _ h => (nomatch h)⟩
      · exact Int.sub_le_self start (by decide)
      · refine iff_of_false ?_ ?_
        · rintro ⟨_, -, hmem⟩
          exact absurd hmem List.not_mem_nil
        · exact fun hdecoded => absurd (decoded_length hdecoded) (Nat.not_succ_le_zero 0)
  | append_singleton turns turn ih =>
      obtain ⟨hturns, hle⟩ := hclock.of_concat
      obtain ⟨before, hbefore, htracked⟩ := ih hturns
      have hturn := tracked_turn htracked (fun now hnow => hle now hnow before hbefore)
        (turns_iterate htracked.last turn)
      rw [serviceFunction_concat, sortGrabs_concat]
      refine ⟨turn.reading.getD before, ?_, hturn⟩
      rw [List.filterMap_append, ← List.cons_append]
      cases hreading : turn.reading with
      | none => exact List.mem_append_left _ hbefore
      | some now =>
          refine List.mem_append_right _ (List.mem_filterMap.mpr ?_)
          exact ⟨turn, List.mem_singleton.mpr rfl, hreading⟩

/-- **The perception throttle.** In a run with a clock that does not go back, the calls of `processFrame` are
    `kProcessInterval` apart and each has a new frame, iff the early grabs are paced. -/
theorem perception_throttle_iff {start : Int} {turns : List (LoopTurn F)} (hclock : ForwardClock start turns)
    (frame : Option F) : Throttled (PerceptionLoop.serviceFunction start frame turns).events ↔
      Paced (grabs start turns) := by
  unfold Throttled Paced grabs
  induction turns using List.reverseRecOn with
  | nil => exact iff_of_true atEach_nil atEach_nil
  | append_singleton turns turn ih =>
      obtain ⟨hturns, hle⟩ := hclock.of_concat
      obtain ⟨before, hbefore, htracked⟩ := tracked_run hturns frame
      have ih := ih hturns
      rw [serviceFunction_concat, sortGrabs_concat]
      have hturn := turns_iterate htracked.last turn
      generalize (PerceptionLoop.serviceFunction start frame turns).iterate turn = t at hturn ⊢
      generalize sortGrab (sortGrabs start turns) turn = sorted at hturn ⊢
      cases hturn with
      | notGrabbed => exact ih
      | early _ =>
          rw [atEach_concat, atEach_concat, ih]
          exact and_congr_right' (throttledAt_iff htracked (hle _ rfl before hbefore))
      | notOpened _ => exact ih.trans (by rw [atEach_concat]; exact (and_iff_left trivial).symm)
      | empty _ => exact ih.trans (by rw [atEach_concat]; exact (and_iff_left trivial).symm)
      | retrieved _ =>
          rw [atEach_concat, atEach_concat, ih]
          exact Iff.rfl

/-- A camera of ten frames per second whose frames come in turn at and 50 ms behind a tenth of a second. -/
def evenTurns : List (LoopTurn Nat) :=
  [.grabbed 0 (.read (some 1)), .grabbed 50000000 .notOpened, .grabbed 100000000 (.read (some 2)),
    .grabbed 150000000 .notOpened]

theorem evenTurns_throttled : Throttled (PerceptionLoop.serviceFunction 0 none evenTurns).events := by
  have hfirst : PacedAt [(0, .decode (.read (some 1)))] ((50000000, .early) : Int × Grab Nat) :=
    ⟨fun _ _ h => (nomatch h), 1, rfl⟩
  have hsecond : PacedAt [(0, .decode (.read (some 1))), (50000000, .early),
      (100000000, .decode (.read (some 2)))] ((150000000, .early) : Int × Grab Nat) := by
    refine ⟨fun _ earlier h => ?_, 2, rfl⟩
    cases h
    decide
  have hgrabs : grabs 0 evenTurns = [] ++ [(0, .decode (.read (some 1)))] ++ [(50000000, .early)] ++
      [(100000000, .decode (.read (some 2)))] ++ [(150000000, .early)] := rfl
  have hpaced : Paced (grabs 0 evenTurns) := by
    rw [hgrabs]
    exact atEach_concat.mpr ⟨atEach_concat.mpr ⟨atEach_concat.mpr ⟨atEach_concat.mpr ⟨atEach_nil, trivial⟩,
      hfirst⟩, trivial⟩, hsecond⟩
  exact (perception_throttle_iff (by unfold ForwardClock; decide) none).mpr hpaced

/-- A camera of thirty frames per second. -/
def fastTurns : List (LoopTurn Nat) :=
  [.grabbed 0 (.read (some 1)), .grabbed 33000000 .notOpened, .grabbed 66000000 .notOpened]

/-- **Two calls in 33 ms**, with one frame. -/
theorem fastTurns_not_throttled :
    ForwardClock 0 fastTurns ∧
      ¬ Throttled (PerceptionLoop.serviceFunction 0 none fastTurns).events := by
  refine ⟨by unfold ForwardClock; decide, fun h => ?_⟩
  have hspaced := (h [(0, .retrieved (some 1)), (33000000, .processed (some 1))]
    (66000000, .processed (some 1)) [] rfl).1 33000000 rfl
  exact absurd hspaced (by decide)

end Kufibot
