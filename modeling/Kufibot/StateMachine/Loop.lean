import Kufibot.Lib.System
import Kufibot.StateMachine.Core

/-!
# `StateMachine.Loop` — the worker thread of `StateMachine` among its callers

A step-by-step model of `StateMachine::loop`, with `postEvent` and `postDelayedEvent` called by any
threads in between. A step is one block under a mutex, or one of the points inside the second block where
the worker gives up the mutex or decides to block:

* the pass over the timers reads the clock once and then posts the due timers one at a time, so callers
  of `postEvent` get in between (`_mtx` is free) while `postDelayedEvent` has to wait (`_timerMtx` is not);
* from the test of the queue until it blocks the worker holds `_mtx`;
* `notify_one` wakes a blocked worker, which tests the predicate again. The wait may also end by itself.

The machine is running: `stop` and `clearDelayedEvents` are not among the actions.
-/

namespace Kufibot

open Lib

/-- A posted event as the callers see it. -/
structure Posted (ε : Type*) where
  /-- How many events had been posted before. -/
  stamp : Nat
  /-- The deadline, for a delayed event. -/
  deadline : Option Time
  event : ε

/-- An event that entered the queue. -/
structure Entry (ε : Type*) where
  posted : Posted ε
  /-- The pass over the timers that posted it, and the clock reading of that pass. -/
  pass : Option (Nat × Time)

/-- Where the worker is. -/
inductive WorkerPc where
  /-- At the head of the loop. -/
  | loopTop
  /-- In the pass over the timers, with the reading `now`; `_timerMtx` is held. -/
  | draining (now : Time)
  /-- Between the two blocks. -/
  | drained
  /-- The queue was empty; `_mtx` is held. -/
  | emptyQueue
  /-- About to wait, with the deadline read; `_mtx` is held. -/
  | toBlock (deadline : Option Time)
  /-- In the wait. -/
  | blocked (deadline : Option Time)
  /-- Woken inside the wait, the predicate not yet tested. -/
  | woken (deadline : Option Time)
  /-- Behind the wait; `_mtx` is held. -/
  | popping
  /-- In `dispatch`. -/
  | dispatching
deriving DecidableEq, Repr

namespace WorkerPc

/-- The worker holds `_mtx`. -/
def holdsMtx : WorkerPc → Bool
  | .emptyQueue | .toBlock _ | .popping => true
  | _ => false

/-- The worker holds `_timerMtx`. -/
def holdsTimerMtx : WorkerPc → Bool
  | .draining _ => true
  | _ => false

/-- `_cv.notify_one()`. -/
def notifyOne : WorkerPc → WorkerPc
  | .blocked deadline => .woken deadline
  | pc => pc

end WorkerPc

/-- The machine's shared members, the worker, and the history of what was posted, what entered the queue
    and what was dispatched. -/
structure Loop (ε : Type*) where
  core : Core (Posted ε)
  pc : WorkerPc
  /-- Ghost: all events posted so far. -/
  posted : List (Posted ε)
  /-- Ghost: all events that entered `_eventQueue`. -/
  entered : List (Entry ε)
  /-- The events handed to `dispatch`. -/
  dispatched : List (Posted ε)
  /-- Ghost: how many passes over the timers have begun. -/
  passes : Nat

/-- What can happen next. -/
inductive LoopAction (ε : Type*) where
  /-- Some thread reads the clock. -/
  | readClock
  | postEvent (ev : ε)
  /-- The block of `postDelayedEvent`, by a caller whose `now()` returned the given reading. -/
  | postDelayedEvent (ev : ε) (delayMs : Int) (reading : Nat)
  /-- The worker goes on. -/
  | worker
  /-- The wait ends although nobody notified. -/
  | spuriousWake
  /-- The wait ends at its deadline. -/
  | timeout

namespace Loop

variable {ε : Type*}

/-- The effect of `postEvent`. -/
def post (ev : ε) (s : Loop ε) : Loop ε :=
  let e : Posted ε := ⟨s.posted.length, none, ev⟩
  { s with
    core := s.core.postEvent e
    pc := s.pc.notifyOne
    posted := s.posted ++ [e]
    entered := s.entered ++ [⟨e, none⟩] }

/-- The effect of the block of `postDelayedEvent`, and of the notification behind it. -/
def schedule (deadline : Time) (ev : ε) (s : Loop ε) : Loop ε :=
  let e : Posted ε := ⟨s.posted.length, some deadline, ev⟩
  { s with
    core := s.core.scheduleAt deadline e
    pc := s.pc.notifyOne
    posted := s.posted ++ [e] }

/-- The next step of the worker. -/
def workerStep (s : Loop ε) : Option (Loop ε) :=
  match s.pc with
  | .loopTop =>
      some { s with core := s.core.tick, pc := .draining s.core.now, passes := s.passes + 1 }
  | .draining now =>
      match s.core.timers.first, s.core.expireFirst now with
      | some (_, e), some core =>
          some { s with core := core, entered := s.entered ++ [⟨e, some (s.passes, now)⟩] }
      | _, _ => some { s with pc := .drained }
  | .drained => some { s with pc := if s.core.eventQueue.isEmpty then .emptyQueue else .popping }
  | .emptyQueue => some { s with pc := .toBlock (s.core.timers.first.map Prod.fst) }
  | .toBlock deadline | .woken deadline =>
      some { s with pc := if s.core.eventQueue.isEmpty then .blocked deadline else .popping }
  | .blocked _ => none
  | .popping =>
      match s.core.popEvent with
      | some (e, core) =>
          some { s with core := core, dispatched := s.dispatched ++ [e], pc := .dispatching }
      | none => some { s with pc := .loopTop }
  | .dispatching => some { s with pc := .loopTop }

/-- The deadline a caller computes from its clock reading. -/
def deadlineOf (s : Loop ε) (delayMs : Int) (reading : Nat) : Time :=
  s.core.clock.reading reading + milliseconds delayMs.toNat

def step (s : Loop ε) : LoopAction ε → Option (Loop ε)
  | .readClock => some { s with core := s.core.tick }
  | .postEvent ev => if s.pc.holdsMtx then none else some (s.post ev)
  | .postDelayedEvent ev delayMs reading =>
      if s.core.reads ≤ reading then none
      else if delayMs ≤ 0 then
        if s.pc.holdsMtx then none else some (s.post ev)
      else if s.pc.holdsTimerMtx then none
      else some (s.schedule (s.deadlineOf delayMs reading) ev)
  | .worker => s.workerStep
  | .spuriousWake =>
      match s.pc with
      | .blocked deadline => some { s with pc := .woken deadline }
      | _ => none
  | .timeout =>
      match s.pc with
      | .blocked (some deadline) =>
          if deadline ≤ s.core.now then some { s with core := s.core.tick, pc := .popping } else none
      | _ => none

/-- Nothing has been posted yet, and the worker is at the head of its loop. -/
def initial (clock : SteadyClock) (reads : Nat) : Loop ε where
  core := { eventQueue := [], timers := Multimap.empty, running := true, clock, reads }
  pc := .loopTop
  posted := []
  entered := []
  dispatched := []
  passes := 0

/-- The worker among its callers. -/
def system (ε : Type*) : System (Loop ε) (LoopAction ε) where
  init s := ∃ clock reads, s = initial clock reads
  step := step

theorem initial_reachable {Ok : Loop ε → LoopAction ε → Prop} (clock : SteadyClock) (reads : Nat) :
    (system ε).ReachableVia Ok (initial clock reads) := .init ⟨clock, reads, rfl⟩

/-! ## What a step can do -/

/-- Everything an action can do, with its guards. -/
inductive Steps (s : Loop ε) : LoopAction ε → Loop ε → Prop where
  | tick : Steps s .readClock { s with core := s.core.tick }
  | post (a : LoopAction ε) (ev : ε) (hlock : s.pc.holdsMtx = false) : Steps s a (s.post ev)
  | schedule (ev : ε) (delayMs : Int) (reading : Nat) (hpos : 0 < delayMs)
      (hlock : s.pc.holdsTimerMtx = false) :
      Steps s (.postDelayedEvent ev delayMs reading) (s.schedule (s.deadlineOf delayMs reading) ev)
  | beginPass (hpc : s.pc = .loopTop) :
      Steps s .worker
        { s with core := s.core.tick, pc := .draining s.core.now, passes := s.passes + 1 }
  | expire (now deadline : Time) (e : Posted ε) (hpc : s.pc = .draining now)
      (hfirst : s.core.timers.first = some (deadline, e)) (hdue : deadline ≤ now) :
      Steps s .worker { s with
        core := (s.core.postEvent e).eraseTimer
        pc := .draining now
        entered := s.entered ++ [⟨e, some (s.passes, now)⟩] }
  | endPass : Steps s .worker { s with pc := .drained }
  | findEmpty (hempty : s.core.eventQueue = []) : Steps s .worker { s with pc := .emptyQueue }
  | readDeadline (hpc : s.pc = .emptyQueue) :
      Steps s .worker { s with pc := .toBlock (s.core.timers.first.map Prod.fst) }
  | enterWait (deadline : Option Time) (hpc : s.pc = .toBlock deadline ∨ s.pc = .woken deadline)
      (hempty : s.core.eventQueue = []) : Steps s .worker { s with pc := .blocked deadline }
  | leaveWait : Steps s .worker { s with pc := .popping }
  | pop (e : Posted ε) (core : Core (Posted ε)) (hpop : s.core.popEvent = some (e, core)) :
      Steps s .worker { s with core := core, dispatched := s.dispatched ++ [e], pc := .dispatching }
  | again : Steps s .worker { s with pc := .loopTop }
  | wake (deadline : Option Time) (hpc : s.pc = .blocked deadline) :
      Steps s .spuriousWake { s with pc := .woken deadline }
  | timeout : Steps s .timeout { s with core := s.core.tick, pc := .popping }

theorem steps_of_workerStep {s t : Loop ε} (h : s.workerStep = some t) : Steps s .worker t := by
  unfold workerStep at h
  cases hpc : s.pc with
  | loopTop => simp only [hpc] at h; cases h; exact .beginPass hpc
  | draining now =>
      simp only [hpc] at h
      cases hexp : s.core.expireFirst now with
      | none =>
          have : some { s with pc := .drained } = some t := by
            rw [← h]; cases s.core.timers.first <;> simp only [hexp]
          cases this; exact .endPass
      | some core =>
          obtain ⟨deadline, e, hfirst, hdue, rfl⟩ := Core.expireFirst_eq_some hexp
          simp only [hfirst, hexp] at h
          cases h
          exact .expire now deadline e hpc hfirst hdue
  | drained =>
      simp only [hpc] at h
      cases h
      split
      · rename_i hempty; exact .findEmpty (List.isEmpty_iff.mp hempty)
      · exact .leaveWait
  | emptyQueue => simp only [hpc] at h; cases h; exact .readDeadline hpc
  | toBlock d =>
      simp only [hpc] at h
      cases h
      split
      · rename_i hempty; exact .enterWait d (.inl hpc) (List.isEmpty_iff.mp hempty)
      · exact .leaveWait
  | woken d =>
      simp only [hpc] at h
      cases h
      split
      · rename_i hempty; exact .enterWait d (.inr hpc) (List.isEmpty_iff.mp hempty)
      · exact .leaveWait
  | blocked d => simp only [hpc] at h; cases h
  | popping =>
      simp only [hpc] at h
      cases hpop : s.core.popEvent with
      | none => simp only [hpop] at h; cases h; exact .again
      | some x => simp only [hpop] at h; cases h; exact .pop x.1 x.2 hpop
  | dispatching => simp only [hpc] at h; cases h; exact .again

/-- **The inversion lemma.** A step is one of `Steps`. -/
theorem steps_of_step {s t : Loop ε} {a : LoopAction ε} (h : s.step a = some t) : Steps s a t := by
  cases a with
  | readClock => cases h; exact .tick
  | postEvent ev =>
      obtain ⟨hlock, h⟩ := Option.ite_none_left_eq_some.mp h
      cases h; exact .post _ ev (Bool.eq_false_iff.mpr hlock)
  | postDelayedEvent ev delayMs reading =>
      obtain ⟨_, h⟩ := Option.ite_none_left_eq_some.mp h
      split at h
      · obtain ⟨hlock, h⟩ := Option.ite_none_left_eq_some.mp h
        cases h; exact .post _ ev (Bool.eq_false_iff.mpr hlock)
      · rename_i hpos
        obtain ⟨hlock, h⟩ := Option.ite_none_left_eq_some.mp h
        cases h; exact .schedule ev delayMs reading (Int.not_le.mp hpos) (Bool.eq_false_iff.mpr hlock)
  | worker => exact steps_of_workerStep h
  | spuriousWake =>
      simp only [step] at h
      split at h
      · rename_i deadline hpc; cases h; exact .wake deadline hpc
      · cases h
  | timeout =>
      simp only [step] at h
      split at h
      · obtain ⟨_, h⟩ := Option.ite_none_right_eq_some.mp h
        cases h; exact .timeout
      · cases h

end Loop

end Kufibot
