import Mathlib.Data.List.Nodup
import Mathlib.Data.List.Range
import Kufibot.StateMachine.Loop

/-!
# `StateMachine.LoopDelivery` — what the worker does with the events posted to it

`Delivery` is the delivery guarantee in a state: events are dispatched in the order they entered the
queue, no delayed event enters before its deadline or out of the order of its pass, and every posted
event is in exactly one place. `Inv` adds what makes it inductive: the timers stand in the order of
deadline and stamp, and what the current pass has posted precedes every timer left.

Each kind of step keeps `Inv` (`inv_step`), so it holds in every reachable
state and `event_delivery` reads the guarantee off.
-/

namespace Kufibot

open Lib

variable {ε : Type*}

/-- `a` is due before `b`: an earlier deadline, or the same one and posted first. -/
def Posted.DueBefore (a b : Posted ε) : Prop :=
  ∃ da db, a.deadline = some da ∧ b.deadline = some db ∧
    (da < db ∨ da = db ∧ a.stamp < b.stamp)

/-- The entry was posted by the pass number `p`. -/
def Entry.InPass (x : Entry ε) (p : Nat) : Prop := ∃ now, x.pass = some (p, now)

namespace Loop

/-- The events that wait in the timers. -/
def timed (s : Loop ε) : List (Posted ε) := s.core.timers.entries.map Prod.snd

/-- **The delivery guarantee.** -/
structure Delivery (s : Loop ε) : Prop where
  /-- The events dispatched and then those in the queue are the events that entered it, in order. -/
  fifo : s.dispatched ++ s.core.eventQueue = s.entered.map Entry.posted
  /-- No event enters twice. -/
  once : (s.entered.map Entry.posted).Nodup
  /-- A delayed event enters in a pass whose clock reading, one already taken, reached its deadline. -/
  notEarly : ∀ x ∈ s.entered, ∀ deadline, x.posted.deadline = some deadline →
    ∃ p now, x.pass = some (p, now) ∧ deadline ≤ now ∧ ∃ k < s.core.reads, s.core.clock.reading k = now
  /-- The events of one pass enter in the order of their deadlines, ties in the order of posting. -/
  passOrder : s.entered.Pairwise fun x y => ∀ p, x.InPass p → y.InPass p → x.posted.DueBefore y.posted
  /-- Every posted event is in the timers, in the queue or dispatched, and in one place only. -/
  onePlace : (s.timed ++ s.core.eventQueue ++ s.dispatched).Perm s.posted
  /-- The posted events are distinct. -/
  distinct : s.posted.Nodup

/-- The inductive invariant. -/
structure Inv (s : Loop ε) : Prop where
  fifo : s.dispatched ++ s.core.eventQueue = s.entered.map Entry.posted
  notEarly : ∀ x ∈ s.entered, ∀ deadline, x.posted.deadline = some deadline →
    ∃ p now, x.pass = some (p, now) ∧ deadline ≤ now ∧ ∃ k < s.core.reads, s.core.clock.reading k = now
  passOrder : s.entered.Pairwise fun x y => ∀ p, x.InPass p → y.InPass p → x.posted.DueBefore y.posted
  onePlace : (s.timed ++ s.core.eventQueue ++ s.dispatched).Perm s.posted
  stamps : s.posted.map Posted.stamp = List.range s.posted.length
  /-- The key of a timer is the deadline of its event. -/
  timerKey : ∀ x ∈ s.core.timers.entries, x.2.deadline = some x.1
  timerOrder : s.core.timers.entries.Pairwise fun x y => x.2.DueBefore y.2
  passNumber : ∀ x ∈ s.entered, ∀ p, x.InPass p → p ≤ s.passes
  /-- What the current pass has posted is due before every timer left. -/
  draining : ∀ now, s.pc = .draining now →
    (∃ k < s.core.reads, s.core.clock.reading k = now) ∧
      ∀ x ∈ s.entered, x.InPass s.passes → ∀ y ∈ s.core.timers.entries, x.posted.DueBefore y.2

theorem Inv.delivery {s : Loop ε} (h : Inv s) : Delivery s := by
  have hdistinct : s.posted.Nodup := by
    refine List.Nodup.of_map Posted.stamp ?_
    rw [h.stamps]
    exact List.nodup_range
  refine ⟨h.fifo, ?_, h.notEarly, h.passOrder, h.onePlace, hdistinct⟩
  have hall := h.onePlace.nodup_iff.mpr hdistinct
  rw [List.append_assoc] at hall
  have hin := (List.nodup_append.mp hall).2.1
  rw [← h.fifo]
  exact (List.perm_append_comm).nodup_iff.mp hin

/-! ## Each kind of step keeps the invariant -/

/-- An event on record has a stamp below the number of posted events. -/
theorem Inv.stamp_lt {s : Loop ε} (h : Inv s) {e : Posted ε} (he : e ∈ s.posted) :
    e.stamp < s.posted.length := by
  have : e.stamp ∈ s.posted.map Posted.stamp := List.mem_map_of_mem he
  rw [h.stamps] at this
  exact List.mem_range.mp this

theorem Inv.stamp_lt_of_timer {s : Loop ε} (h : Inv s) {x : Time × Posted ε}
    (hx : x ∈ s.core.timers.entries) : x.2.stamp < s.posted.length := by
  refine h.stamp_lt (h.onePlace.mem_iff.mp ?_)
  exact List.mem_append_left _ (List.mem_append_left _ (List.mem_map_of_mem hx))

theorem stamps_snoc {posted : List (Posted ε)} {e : Posted ε}
    (h : posted.map Posted.stamp = List.range posted.length) (he : e.stamp = posted.length) :
    (posted ++ [e]).map Posted.stamp = List.range (posted ++ [e]).length := by
  rw [List.map_append, h, List.length_append, List.length_singleton, List.range_succ, ← he]
  rfl

/-- A clock reading taken stays taken. -/
theorem reads_mono {s : Loop ε} {now : Time} (h : ∃ k < s.core.reads, s.core.clock.reading k = now) :
    ∃ k < s.core.reads + 1, s.core.clock.reading k = now := by
  obtain ⟨k, hk, hnow⟩ := h
  exact ⟨k, by omega, hnow⟩

theorem inv_tick {s : Loop ε} (h : Inv s) : Inv { s with core := s.core.tick } where
  fifo := h.fifo
  notEarly x hx deadline hd := by
    obtain ⟨p, now, hp, hle, hk⟩ := h.notEarly x hx deadline hd
    exact ⟨p, now, hp, hle, reads_mono hk⟩
  passOrder := h.passOrder
  onePlace := h.onePlace
  stamps := h.stamps
  timerKey := h.timerKey
  timerOrder := h.timerOrder
  passNumber := h.passNumber
  draining now hpc := ⟨reads_mono (h.draining now hpc).1, (h.draining now hpc).2⟩

/-- A step of the worker that only moves it, and not into a pass. -/
theorem inv_move {s : Loop ε} (h : Inv s) {pc : WorkerPc} (hpc : pc.holdsTimerMtx = false) :
    Inv { s with pc := pc } where
  fifo := h.fifo
  notEarly := h.notEarly
  passOrder := h.passOrder
  onePlace := h.onePlace
  stamps := h.stamps
  timerKey := h.timerKey
  timerOrder := h.timerOrder
  passNumber := h.passNumber
  draining now he := by
    have he : pc = .draining now := he
    rw [he] at hpc; cases hpc

theorem notifyOne_draining {pc : WorkerPc} {now : Time} (h : pc.notifyOne = .draining now) :
    pc = .draining now := by
  cases pc <;> cases h
  rfl

theorem inv_post {s : Loop ε} (h : Inv s) (ev : ε) : Inv (s.post ev) := by
  have hnew : ∀ p, ¬ Entry.InPass (⟨⟨s.posted.length, none, ev⟩, none⟩ : Entry ε) p := by
    rintro p ⟨now, hnow⟩; cases hnow
  constructor
  · show s.dispatched ++ (s.core.eventQueue ++ [_]) = (s.entered ++ [_]).map Entry.posted
    rw [← List.append_assoc, h.fifo, List.map_append]
    rfl
  · intro x hx deadline hd
    rcases List.mem_append.mp hx with hx | hx
    · exact h.notEarly x hx deadline hd
    · rw [List.mem_singleton.mp hx] at hd; cases hd
  · refine List.pairwise_append.mpr ⟨h.passOrder, List.pairwise_singleton _ _, ?_⟩
    intro x _ y hy p _ hyp
    rw [List.mem_singleton.mp hy] at hyp
    exact absurd hyp (hnew p)
  · show (s.timed ++ (s.core.eventQueue ++ [_]) ++ s.dispatched).Perm (s.posted ++ [_])
    refine List.Perm.trans ?_ (h.onePlace.append_right _)
    simp only [List.append_assoc]
    exact (List.perm_append_comm.append_left _).append_left _
  · exact stamps_snoc h.stamps rfl
  · exact h.timerKey
  · exact h.timerOrder
  · intro x hx p hp
    rcases List.mem_append.mp hx with hx | hx
    · exact h.passNumber x hx p hp
    · rw [List.mem_singleton.mp hx] at hp
      exact absurd hp (hnew p)
  · intro now hpc
    obtain ⟨hk, hbefore⟩ := h.draining now (notifyOne_draining hpc)
    refine ⟨hk, fun x hx hp => ?_⟩
    rcases List.mem_append.mp hx with hx | hx
    · exact hbefore x hx hp
    · rw [List.mem_singleton.mp hx] at hp
      exact absurd hp (hnew _)

theorem inv_schedule {s : Loop ε} (h : Inv s) (deadline : Time) (ev : ε)
    (hlock : s.pc.holdsTimerMtx = false) : Inv (s.schedule deadline ev) := by
  constructor
  · exact h.fifo
  · exact h.notEarly
  · exact h.passOrder
  · have hperm := (insertAfter_perm deadline (⟨s.posted.length, some deadline, ev⟩ : Posted ε)
      s.core.timers.entries).map Prod.snd
    refine ((hperm.append_right _).append_right _).trans ?_
    exact (h.onePlace.cons _).trans (List.perm_append_singleton _ _).symm
  · exact stamps_snoc h.stamps rfl
  · intro x hx
    rcases mem_insertAfter.mp hx with rfl | hx
    · rfl
    · exact h.timerKey x hx
  · refine insertAfter_pairwise s.core.timers.sorted h.timerOrder ?_ ?_
    · -- the new event is posted last, so it follows the timers of an equal deadline
      intro x hx hle
      refine ⟨x.1, deadline, h.timerKey x hx, rfl, ?_⟩
      rcases lt_or_eq_of_le hle with hlt | heq
      · exact .inl hlt
      · exact .inr ⟨heq, h.stamp_lt_of_timer hx⟩
    · intro x hx hlt
      exact ⟨deadline, x.1, rfl, h.timerKey x hx, .inl hlt⟩
  · exact h.passNumber
  · intro now hpc
    rw [notifyOne_draining hpc] at hlock; cases hlock

theorem inv_beginPass {s : Loop ε} (h : Inv s) :
    Inv { s with core := s.core.tick, pc := .draining s.core.now, passes := s.passes + 1 } := by
  have ht := inv_tick h
  refine { ht with passNumber := ?_, draining := ?_ }
  · intro x hx p hp
    exact Nat.le_succ_of_le (h.passNumber x hx p hp)
  · intro now hpc
    cases hpc
    refine ⟨⟨s.core.reads, Nat.lt_succ_self _, rfl⟩, fun x hx hp => ?_⟩
    -- the pass is new: no entry carries its number
    exact absurd (h.passNumber x hx _ hp) (Nat.not_succ_le_self _)

theorem inv_expire {s : Loop ε} (h : Inv s) {now deadline : Time} {e : Posted ε}
    (hpc : s.pc = .draining now) (hfirst : s.core.timers.first = some (deadline, e))
    (hdue : deadline ≤ now) :
    Inv { s with
      core := (s.core.postEvent e).eraseTimer
      pc := .draining now
      entered := s.entered ++ [⟨e, some (s.passes, now)⟩] } := by
  have hentries := Multimap.entries_of_first hfirst
  have hmem : (deadline, e) ∈ s.core.timers.entries := hentries ▸ List.mem_cons_self
  have hrest : ∀ y ∈ s.core.timers.eraseFirst.entries, y ∈ s.core.timers.entries :=
    fun y hy => hentries ▸ List.mem_cons_of_mem _ hy
  have hkey : e.deadline = some deadline := h.timerKey _ hmem
  have horder := h.timerOrder
  rw [hentries, List.pairwise_cons] at horder
  obtain ⟨hk, hbefore⟩ := h.draining now hpc
  constructor
  · show s.dispatched ++ (s.core.eventQueue ++ [e]) = (s.entered ++ [_]).map Entry.posted
    rw [← List.append_assoc, h.fifo, List.map_append]
    rfl
  · intro x hx d hd
    rcases List.mem_append.mp hx with hx | hx
    · exact h.notEarly x hx d hd
    · rw [List.mem_singleton.mp hx] at hd ⊢
      have : d = deadline := Option.some.inj (hd.symm.trans hkey)
      exact ⟨s.passes, now, rfl, this ▸ hdue, hk⟩
  · refine List.pairwise_append.mpr ⟨h.passOrder, List.pairwise_singleton _ _, ?_⟩
    intro x hx y hy p hxp hyp
    rw [List.mem_singleton.mp hy] at hyp ⊢
    obtain ⟨_, hp⟩ := hyp
    cases hp
    exact hbefore x hx hxp _ hmem
  · have hplace := h.onePlace
    rw [timed, hentries, List.map_cons, List.append_assoc, List.cons_append] at hplace
    refine List.Perm.trans ?_ hplace
    show ((s.core.timers.eraseFirst.entries.map Prod.snd) ++ (s.core.eventQueue ++ [e])
      ++ s.dispatched).Perm _
    simp only [List.append_assoc, List.singleton_append]
    exact (List.perm_middle.append_left _).trans List.perm_middle
  · exact h.stamps
  · exact fun y hy => h.timerKey y (hrest y hy)
  · exact horder.2
  · intro x hx p hp
    rcases List.mem_append.mp hx with hx | hx
    · exact h.passNumber x hx p hp
    · rw [List.mem_singleton.mp hx] at hp
      obtain ⟨_, hp⟩ := hp
      cases hp; exact Nat.le_refl _
  · intro now' hpc'
    cases hpc'
    refine ⟨hk, fun x hx hp y hy => ?_⟩
    rcases List.mem_append.mp hx with hx | hx
    · exact hbefore x hx hp y (hrest y hy)
    · rw [List.mem_singleton.mp hx]
      exact horder.1 y hy

theorem inv_pop {s : Loop ε} (h : Inv s) {e : Posted ε} {core : Core (Posted ε)}
    (hpop : s.core.popEvent = some (e, core)) :
    Inv { s with core := core, dispatched := s.dispatched ++ [e], pc := .dispatching } := by
  obtain ⟨hq, hcore⟩ := Core.popEvent_eq_some hpop
  have hfifo := h.fifo
  have hplace := h.onePlace
  rw [hq] at hfifo hplace
  rw [hcore]
  refine ⟨?_, h.notEarly, h.passOrder, ?_, h.stamps, h.timerKey, h.timerOrder, h.passNumber, ?_⟩
  · rw [← hfifo, List.append_assoc]
    rfl
  · refine List.Perm.trans ?_ hplace
    show (s.timed ++ core.eventQueue ++ (s.dispatched ++ [e])).Perm _
    simp only [List.append_assoc, List.cons_append]
    refine List.Perm.append_left _ ?_
    rw [← List.append_assoc]
    exact List.perm_append_singleton e _
  · intro now hpc; cases hpc

theorem inv_step {s t : Loop ε} {a : LoopAction ε} (h : Inv s) (hst : Steps s a t) : Inv t := by
  cases hst with
  | tick => exact inv_tick h
  | post _ ev => exact inv_post h ev
  | schedule ev delayMs reading _ hlock => exact inv_schedule h _ ev hlock
  | beginPass hpc => exact inv_beginPass h
  | expire now deadline e hpc hfirst hdue => exact inv_expire h hpc hfirst hdue
  | pop e core hpop => exact inv_pop h hpop
  | timeout => exact inv_move (inv_tick h) rfl
  | _ => exact inv_move h rfl

theorem inv_initial (clock : SteadyClock) (reads : Nat) : Inv (initial clock reads : Loop ε) := by
  constructor <;> simp [initial, timed]

theorem inv_reachable {s : Loop ε} (h : (system ε).Reachable s) : Inv s := by
  refine h.invariant ?_ fun s a t hs _ hst => ?_
  · rintro _ ⟨clock, reads, rfl⟩
    exact inv_initial clock reads
  · exact inv_step hs (steps_of_step (show s.step a = some t from hst))

/-- **Event delivery.** In every state that any interleaving of callers and worker reaches, the delivery
    guarantee holds. -/
theorem event_delivery {s : Loop ε} (h : (system ε).Reachable s) : Delivery s :=
  (inv_reachable h).delivery

/-- A run with a delayed and a direct event: the direct one is dispatched, then the delayed one expires
    and is dispatched too. -/
theorem event_delivery_two :
    ∃ s : Loop Bool, s.dispatched.map Posted.event = [false, true] ∧ Delivery s := by
  have hrun : ((system Bool).exec (initial (tickingClock 1000) 0)
      [.readClock, .postDelayedEvent true 1500 0, .postEvent false, .worker, .worker, .worker, .worker,
        .worker, .worker, .worker, .worker, .worker, .worker]).map
      (fun s => s.dispatched.map Posted.event) = some [false, true] := rfl
  obtain ⟨s, hs, hevents⟩ :=
    System.exists_of_exec (initial_reachable (tickingClock 1000) 0) (fun _ _ _ => trivial) hrun
  exact ⟨s, hevents, event_delivery hs⟩

end Loop

end Kufibot
