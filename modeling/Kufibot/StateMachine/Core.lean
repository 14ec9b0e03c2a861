import Mathlib.Data.Nat.Basic
import Mathlib.Order.Monotone.Defs
import Kufibot.Lib.Multimap

/-!
# `StateMachine.Core` — the event queue, the timers and the clock of `StateMachine`

The members of `StateMachine` that its worker and its callers share, over any type of event. The steady
clock is an arbitrary nondecreasing sequence of readings: the `n`-th call of `now()` in a run returns the
`n`-th reading, so time may pass between any two calls, inside a callback too.
-/

namespace Kufibot

open Lib

/-- A time point of the steady clock, in nanoseconds. -/
abbrev Time := Nat

/-- `std::chrono::milliseconds(n)`. -/
def milliseconds (n : Nat) : Time := n * 1000000

/-- `duration_cast<std::chrono::milliseconds>(d).count()`. -/
def countMs (d : Time) : Nat := d / 1000000

/-- The successive readings of the steady clock. -/
structure SteadyClock where
  reading : Nat → Time
  mono : Monotone reading

/-- A clock that advances by the same period from reading to reading. -/
def tickingClock (periodMs : Nat) : SteadyClock where
  reading n := milliseconds (periodMs * n)
  mono _ _ h := Nat.mul_le_mul_right _ (Nat.mul_le_mul_left _ h)

/-- `StateMachine`'s queue, timers and `_running`, with the clock. -/
structure Core (ε : Type*) where
  eventQueue : List ε
  timers : Multimap Time ε
  running : Bool
  clock : SteadyClock
  /-- How often the clock has been read. -/
  reads : Nat

namespace Core

variable {ε : Type*}

/-- What the next `steady_clock::now()` returns. -/
def now (c : Core ε) : Time := c.clock.reading c.reads

/-- The clock has been read. -/
def tick (c : Core ε) : Core ε := { c with reads := c.reads + 1 }

/-- What the last `steady_clock::now()` returned. -/
def lastReading (c : Core ε) : Time := c.clock.reading (c.reads - 1)

def postEvent (ev : ε) (c : Core ε) : Core ε := { c with eventQueue := c.eventQueue ++ [ev] }

/-- The block of `postDelayedEvent` under `_timerMtx`. -/
def scheduleAt (deadline : Time) (ev : ε) (c : Core ε) : Core ε :=
  { c with timers := c.timers.emplace deadline ev }

def postDelayedEvent (ev : ε) (delayMs : Int) (c : Core ε) : Core ε :=
  if delayMs ≤ 0 then c.postEvent ev
  else (c.tick).scheduleAt (c.now + milliseconds delayMs.toNat) ev

def clearDelayedEvents (c : Core ε) : Core ε := { c with timers := Multimap.empty }

/-- `_timers.erase(it)` at the first timer. -/
def eraseTimer (c : Core ε) : Core ε := { c with timers := c.timers.eraseFirst }

/-- One pass of the loop over the due timers: the first timer, if its deadline is not after `now`, is
    posted and erased. -/
def expireFirst (now : Time) (c : Core ε) : Option (Core ε) :=
  match c.timers.first with
  | none => none
  | some (deadline, ev) =>
      if deadline ≤ now then some (c.postEvent ev).eraseTimer else none

/-- Take the front of the event queue. -/
def popEvent (c : Core ε) : Option (ε × Core ε) :=
  match c.eventQueue with
  | [] => none
  | ev :: rest => some (ev, { c with eventQueue := rest })

/-! ## What each operation does -/

theorem postDelayedEvent_pos {ev : ε} {delayMs : Int} (h : 0 < delayMs) (c : Core ε) :
    c.postDelayedEvent ev delayMs = (c.tick).scheduleAt (c.now + milliseconds delayMs.toNat) ev :=
  if_neg (by omega)

theorem expireFirst_eq_some {now : Time} {c d : Core ε} (h : c.expireFirst now = some d) :
    ∃ deadline ev, c.timers.first = some (deadline, ev) ∧ deadline ≤ now ∧
      d = (c.postEvent ev).eraseTimer := by
  unfold expireFirst at h
  cases hf : c.timers.first with
  | none => rw [hf] at h; cases h
  | some x =>
      obtain ⟨deadline, ev⟩ := x
      simp only [hf] at h
      by_cases hle : deadline ≤ now
      · rw [if_pos hle] at h
        exact ⟨deadline, ev, rfl, hle, (Option.some.inj h).symm⟩
      · rw [if_neg hle] at h; cases h

theorem popEvent_eq_some {c d : Core ε} {ev : ε} (h : c.popEvent = some (ev, d)) :
    c.eventQueue = ev :: d.eventQueue ∧ d = { c with eventQueue := d.eventQueue } := by
  unfold popEvent at h
  cases hq : c.eventQueue with
  | nil => rw [hq] at h; cases h
  | cons x rest => rw [hq] at h; cases h; exact ⟨rfl, rfl⟩

@[simp] theorem tick_running (c : Core ε) : c.tick.running = c.running := rfl

@[simp] theorem postDelayedEvent_running (ev : ε) (delayMs : Int) (c : Core ε) :
    (c.postDelayedEvent ev delayMs).running = c.running := by
  unfold postDelayedEvent; split <;> rfl

theorem expireFirst_running {now : Time} {c d : Core ε} (h : c.expireFirst now = some d) :
    d.running = c.running := by
  obtain ⟨_, _, _, _, rfl⟩ := expireFirst_eq_some h; rfl

theorem popEvent_running {c d : Core ε} {ev : ε} (h : c.popEvent = some (ev, d)) :
    d.running = c.running := by
  rw [(popEvent_eq_some h).2]

theorem head?_of_popEvent {c d : Core ε} {ev : ε} (h : c.popEvent = some (ev, d)) :
    c.eventQueue.head? = some ev := by
  rw [(popEvent_eq_some h).1, List.head?_cons]

theorem popEvent_now {c d : Core ε} {ev : ε} (h : c.popEvent = some (ev, d)) : d.now = c.now := by
  rw [(popEvent_eq_some h).2]; rfl

/-! ## Counting pending events -/

/-- How many events that satisfy `p` are pending, in the timers and in the queue together. -/
def pending (p : ε → Bool) (c : Core ε) : Nat :=
  c.eventQueue.countP p + c.timers.entries.countP (fun x => p x.2)

@[simp] theorem pending_tick (p : ε → Bool) (c : Core ε) : c.tick.pending p = c.pending p := rfl

@[simp] theorem pending_postEvent (p : ε → Bool) (ev : ε) (c : Core ε) :
    (c.postEvent ev).pending p = c.pending p + if p ev then 1 else 0 := by
  simp only [pending, postEvent, List.countP_append, List.countP_singleton]
  omega

@[simp] theorem pending_scheduleAt (p : ε → Bool) (deadline : Time) (ev : ε) (c : Core ε) :
    (c.scheduleAt deadline ev).pending p = c.pending p + if p ev then 1 else 0 := by
  simp only [pending, scheduleAt, Multimap.countP_emplace]
  omega

/-- A timer that expires stays pending: it moves to the queue. -/
theorem pending_expireFirst {p : ε → Bool} {now : Time} {c d : Core ε}
    (h : c.expireFirst now = some d) : d.pending p = c.pending p := by
  obtain ⟨deadline, ev, hfirst, _, rfl⟩ := expireFirst_eq_some h
  simp only [pending, postEvent, eraseTimer, List.countP_append, List.countP_nil,
    Multimap.entries_of_first hfirst, List.countP_cons]
  omega

theorem pending_popEvent {p : ε → Bool} {c d : Core ε} {ev : ε} (h : c.popEvent = some (ev, d)) :
    c.pending p = d.pending p + if p ev then 1 else 0 := by
  obtain ⟨hq, hd⟩ := popEvent_eq_some h
  rw [hd]
  simp only [pending, hq, List.countP_cons]
  omega

end Core

end Kufibot
