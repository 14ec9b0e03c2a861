import Kufibot.StateMachine.Loop

/-!
# `StateMachine.LoopWake` — whether the worker sleeps past a timer

The worker reads the earliest deadline once, before it blocks, and the predicate of its wait looks at the
event queue only. A timer that is scheduled afterwards wakes it, but it then blocks again with the
deadline it had (`worker_oversleeps`).

`InTime` is the condition under which this cannot happen: while the worker is on its way into the wait or
inside it with an empty queue, only deadlines that are not before its own are scheduled. Under it the
worker never oversleeps, and one scheduling against it is one worker step away from an oversleeping
worker (`never_oversleeps_inTime`).
-/

namespace Kufibot

open Lib

variable {ε : Type*}

/-- A wait with this deadline (`none`: unbounded) ends at `t` at the latest. -/
def WakesBy (deadline : Option Time) (t : Time) : Prop := ∃ w, deadline = some w ∧ w ≤ t

namespace Loop

/-- A blocked worker wakes up no later than the earliest timer. -/
def NeverOversleeps (s : Loop ε) : Prop :=
  ∀ deadline, s.pc = .blocked deadline → ∀ x ∈ s.core.timers.entries, WakesBy deadline x.1

/-- The worker waits, or is about to, with this deadline, and there is no event to end the wait. -/
def WaitsWith (s : Loop ε) (deadline : Option Time) : Prop :=
  (s.pc = .toBlock deadline ∨ s.pc = .blocked deadline ∨ s.pc = .woken deadline) ∧
    s.core.eventQueue = []

/-- The action schedules nothing that is due before a waiting worker wakes up. -/
def InTime (s : Loop ε) : LoopAction ε → Prop
  | .postDelayedEvent _ delayMs reading =>
      0 < delayMs → ∀ deadline, s.WaitsWith deadline → WakesBy deadline (s.deadlineOf delayMs reading)
  | _ => True

/-! ## Sufficient -/

/-- The invariant: a waiting worker wakes up no later than the earliest timer, and a blocked one waits
    for an event. -/
structure WakeInv (s : Loop ε) : Prop where
  wakes : ∀ deadline, s.WaitsWith deadline → ∀ x ∈ s.core.timers.entries, WakesBy deadline x.1
  idle : ∀ deadline, s.pc = .toBlock deadline ∨ s.pc = .blocked deadline → s.core.eventQueue = []
  empty : s.pc = .emptyQueue → s.core.eventQueue = []

theorem WakeInv.neverOversleeps {s : Loop ε} (h : WakeInv s) : NeverOversleeps s := by
  intro deadline hpc
  exact h.wakes deadline ⟨.inr (.inl hpc), h.idle deadline (.inr hpc)⟩

theorem wakesBy_first {m : Multimap Time (Posted ε)} {x : Time × Posted ε} (hx : x ∈ m.entries) :
    WakesBy (m.first.map Prod.fst) x.1 := by
  cases hf : m.first with
  | none => rw [Multimap.entries_of_first_none hf] at hx; cases hx
  | some y => exact ⟨y.1, rfl, Multimap.first_le hf hx⟩

/-- The notification of a waiting worker leaves it waiting with the same deadline. -/
theorem waitsWith_of_notifyOne {pc : WorkerPc} {deadline : Option Time}
    (h : pc.notifyOne = .toBlock deadline ∨ pc.notifyOne = .blocked deadline ∨
      pc.notifyOne = .woken deadline) :
    pc = .toBlock deadline ∨ pc = .blocked deadline ∨ pc = .woken deadline := by
  cases pc <;> simp_all [WorkerPc.notifyOne]

theorem notifyOne_ne_blocked (pc : WorkerPc) (deadline : Option Time) :
    pc.notifyOne ≠ .blocked deadline := by
  cases pc <;> simp [WorkerPc.notifyOne]

/-- Nothing to show where the worker neither waits nor has just found the queue empty. -/
theorem WakeInv.of_busy {s : Loop ε} (hpc : ∀ deadline, s.pc ≠ .toBlock deadline ∧
    s.pc ≠ .blocked deadline ∧ s.pc ≠ .woken deadline) (hempty : s.pc ≠ .emptyQueue) : WakeInv s where
  wakes deadline hw := by
    obtain ⟨h1, h2, h3⟩ := hpc deadline
    rcases hw.1 with h | h | h
    · exact absurd h h1
    · exact absurd h h2
    · exact absurd h h3
  idle deadline hw := by
    rcases hw with h | h
    · exact absurd h (hpc deadline).1
    · exact absurd h (hpc deadline).2.1
  empty he := absurd he hempty

theorem wakeInv_tick {s : Loop ε} (h : WakeInv s) : WakeInv { s with core := s.core.tick } :=
  ⟨h.wakes, h.idle, h.empty⟩

/-- A posted event ends the wait: the queue is not empty any more. -/
theorem wakeInv_post {s : Loop ε} (ev : ε) (hlock : s.pc.holdsMtx = false) : WakeInv (s.post ev) where
  wakes deadline hw := by
    have hq : s.core.eventQueue ++ [_] = [] := hw.2
    simp at hq
  idle deadline hw := by
    rcases hw with h | h
    · have hpc : s.pc = .toBlock deadline := by
        have h : s.pc.notifyOne = .toBlock deadline := h
        cases hs : s.pc <;> simp_all [WorkerPc.notifyOne]
      rw [hpc] at hlock; cases hlock
    · exact absurd h (notifyOne_ne_blocked _ _)
  empty he := by
    have hpc : s.pc = .emptyQueue := by
      have he : s.pc.notifyOne = .emptyQueue := he
      cases hs : s.pc <;> simp_all [WorkerPc.notifyOne]
    rw [hpc] at hlock; cases hlock

theorem wakeInv_schedule {s : Loop ε} (h : WakeInv s) {deadline : Time} {ev : ε}
    (hok : ∀ d, s.WaitsWith d → WakesBy d deadline) : WakeInv (s.schedule deadline ev) where
  wakes d hw x hx := by
    have hs : s.WaitsWith d := ⟨waitsWith_of_notifyOne hw.1, hw.2⟩
    rcases mem_insertAfter.mp hx with rfl | hx
    · exact hok d hs
    · exact h.wakes d hs x hx
  idle d hw := by
    rcases hw with hpc | hpc
    · have hpc : s.pc.notifyOne = .toBlock d := hpc
      refine h.idle d (.inl ?_)
      cases hs : s.pc <;> simp_all [WorkerPc.notifyOne]
    · exact absurd hpc (notifyOne_ne_blocked _ _)
  empty he := by
    have he : s.pc.notifyOne = .emptyQueue := he
    refine h.empty ?_
    cases hs : s.pc <;> simp_all [WorkerPc.notifyOne]

theorem wakeInv_step {s t : Loop ε} {a : LoopAction ε} (h : WakeInv s) (hok : s.InTime a)
    (hst : Steps s a t) : WakeInv t := by
  cases hst with
  | tick => exact wakeInv_tick h
  | post _ ev hlock => exact wakeInv_post ev hlock
  | schedule ev delayMs reading hpos => exact wakeInv_schedule h (hok hpos)
  | findEmpty hempty =>
      refine ⟨?_, ?_, fun _ => hempty⟩
      · rintro d ⟨hd | hd | hd, _⟩ <;> cases hd
      · rintro d (hd | hd) <;> cases hd
  | readDeadline hpc =>
      have hempty := h.empty hpc
      refine ⟨?_, fun _ _ => hempty, fun he => by cases he⟩
      -- the deadline just read is the earliest one
      rintro d ⟨hd | hd | hd, _⟩ x hx <;> cases hd
      exact wakesBy_first hx
  | enterWait deadline hpc hempty =>
      refine ⟨?_, fun _ _ => hempty, fun he => by cases he⟩
      rintro d ⟨hd | hd | hd, _⟩ x hx <;> cases hd
      exact h.wakes deadline ⟨hpc.imp id .inr, hempty⟩ x hx
  | wake deadline hpc =>
      refine ⟨?_, ?_, fun he => by cases he⟩
      · rintro d ⟨hd | hd | hd, hempty⟩ x hx <;> cases hd
        exact h.wakes deadline ⟨.inr (.inl hpc), hempty⟩ x hx
      · rintro d (hd | hd) <;> cases hd
  | _ => exact .of_busy (fun _ => ⟨nofun, nofun, nofun⟩) nofun

theorem wakeInv_initial (clock : SteadyClock) (reads : Nat) : WakeInv (initial clock reads : Loop ε) :=
  .of_busy (fun _ => ⟨nofun, nofun, nofun⟩) nofun

/-! ## Necessary -/

/-- Behind a waiting worker the next worker step blocks it with the deadline it had. -/
theorem workerStep_of_waits {s : Loop ε} {deadline : Option Time}
    (hpc : s.pc = .toBlock deadline ∨ s.pc = .woken deadline) (hempty : s.core.eventQueue = []) :
    s.workerStep = some { s with pc := .blocked deadline } := by
  rcases hpc with hpc | hpc <;> simp [workerStep, hpc, hempty]

/-- A timer scheduled against the condition makes the worker oversleep after its next step. -/
theorem oversleeps_of_not_inTime {s t : Loop ε} {a : LoopAction ε} (hbad : ¬ s.InTime a)
    (hst : s.step a = some t) : ∃ u, t.step .worker = some u ∧ ¬ NeverOversleeps u := by
  cases a with
  | postDelayedEvent ev delayMs reading =>
      simp only [InTime, Classical.not_imp, not_forall] at hbad
      obtain ⟨hpos, deadline, hwaits, hlate⟩ := hbad
      have ht : t = s.schedule (s.deadlineOf delayMs reading) ev := by
        obtain ⟨_, hst⟩ := Option.ite_none_left_eq_some.mp hst
        rw [if_neg (Int.not_le.mpr hpos)] at hst
        exact (Option.some.inj (Option.ite_none_left_eq_some.mp hst).2).symm
      have hpc : t.pc = .toBlock deadline ∨ t.pc = .woken deadline := by
        rw [ht]
        show s.pc.notifyOne = _ ∨ s.pc.notifyOne = _
        rcases hwaits.1 with h | h | h <;> simp [h, WorkerPc.notifyOne]
      have hempty : t.core.eventQueue = [] := by rw [ht]; exact hwaits.2
      refine ⟨_, workerStep_of_waits hpc hempty, fun hnever => hlate ?_⟩
      refine hnever deadline rfl (s.deadlineOf delayMs reading,
        ⟨s.posted.length, some (s.deadlineOf delayMs reading), ev⟩) ?_
      rw [ht]
      exact mem_insertAfter.mpr (.inl rfl)
  | _ => exact absurd trivial hbad

/-- **When the worker oversleeps.** If every delayed event is scheduled in time, a blocked worker always
    wakes up by the earliest deadline; and a delayed event that is not scheduled in time leads in one
    more step of the worker to a state where it does not. -/
theorem never_oversleeps_inTime (s : Loop ε) :
    ((system ε).ReachableVia InTime s → NeverOversleeps s) ∧
      ∀ a t, ¬ s.InTime a → s.step a = some t →
        ∃ u, t.step .worker = some u ∧ ¬ NeverOversleeps u := by
  refine ⟨fun hs => ?_, fun a t => oversleeps_of_not_inTime⟩
  refine (hs.invariant (I := WakeInv) ?_ fun s a t h hok hst => ?_).neverOversleeps
  · rintro _ ⟨clock, reads, rfl⟩
    exact wakeInv_initial clock reads
  · exact wakeInv_step h hok (steps_of_step (show s.step a = some t from hst))

/-- A reading, and the worker's way into an unbounded wait. -/
def toSleep : List (LoopAction Unit) := [.readClock, .worker, .worker, .worker, .worker, .worker]

/-- **The worker oversleeps.** Blocked without a deadline, it is woken by a timer that is due in one
    second, finds no event, and blocks without a deadline again. -/
theorem worker_oversleeps : ∃ s, (system Unit).Reachable s ∧ ¬ NeverOversleeps s := by
  have hrun : ((system Unit).exec (initial (tickingClock 1000) 0)
      (toSleep ++ [.postDelayedEvent () 1000 0, .worker])).map
      (fun s => (s.pc, s.core.timers.first.map Prod.fst)) =
        some (.blocked none, some (milliseconds 1000)) := rfl
  obtain ⟨s, hs, hstate⟩ :=
    System.exists_of_exec (initial_reachable (tickingClock 1000) 0) (fun _ _ _ => trivial) hrun
  obtain ⟨hpc, hfirst⟩ := Prod.mk.inj hstate
  obtain ⟨x, hx, _⟩ := Option.map_eq_some_iff.mp hfirst
  refine ⟨s, hs, fun hnever => ?_⟩
  obtain ⟨w, hw, _⟩ := hnever none hpc x (Multimap.entries_of_first hx ▸ List.mem_cons_self)
  cases hw

/-- A worker at the head of its loop, with one timer that is due in five seconds. -/
def armed : Loop Unit :=
  Loop.schedule (milliseconds 5000) ()
    { initial (tickingClock 1000) 0 with core := (initial (tickingClock 1000) 0).core.tick }

theorem armed_reachable : (system Unit).ReachableVia InTime armed := by
  refine .step (.step (initial_reachable (tickingClock 1000) 0) (a := .readClock) trivial rfl)
    (a := .postDelayedEvent () 5000 0) ?_ rfl
  rintro _ deadline ⟨hpc | hpc | hpc, _⟩ <;> cases hpc

/-- Both directions at work: a timer scheduled before the worker reads the deadlines is waited for, and
    one scheduled while it sleeps unbounded is slept past. -/
theorem never_oversleeps_inTime_runs :
    (∃ s : Loop Unit, s.pc = .blocked (some (milliseconds 5000)) ∧ NeverOversleeps s) ∧
      ∃ s t u : Loop Unit, s.step (.postDelayedEvent () 1000 0) = some t ∧
        t.step .worker = some u ∧ ¬ NeverOversleeps u := by
  constructor
  · have hrun : ((system Unit).exec armed [.worker, .worker, .worker, .worker, .worker]).map Loop.pc =
        some (.blocked (some (milliseconds 5000))) := rfl
    obtain ⟨s, hs, hpc⟩ := System.exists_of_exec armed_reachable (by simp [InTime]) hrun
    exact ⟨s, hpc, (never_oversleeps_inTime s).1 hs⟩
  · have hrun : ((system Unit).exec (initial (tickingClock 1000) 0) toSleep).map
        (fun s => (s.pc, s.core.eventQueue, s.core.reads)) = some (.blocked none, [], 2) := rfl
    obtain ⟨s, hexec, hstate⟩ := Option.map_eq_some_iff.mp hrun
    simp only [Prod.mk.injEq] at hstate
    obtain ⟨hpc, hempty, hreads⟩ := hstate
    have hbad : ¬ s.InTime (.postDelayedEvent () 1000 0) := by
      intro hin
      obtain ⟨w, hw, _⟩ := hin (by decide) none ⟨.inr (.inl hpc), hempty⟩
      cases hw
    have hst : s.step (.postDelayedEvent () 1000 0) =
        some (s.schedule (s.deadlineOf 1000 0) ()) := by
      simp [step, hpc, hreads, WorkerPc.holdsTimerMtx]
    obtain ⟨u, hu, hover⟩ := (never_oversleeps_inTime s).2 _ _ hbad hst
    exact ⟨s, _, u, hst, hu, hover⟩

end Loop

end Kufibot
