import Kufibot.StateMachine.LoopDelivery

/-!
# `StateMachine.Stop` — `StateMachine::start` and `StateMachine::stop` around the worker

`Loop` is the worker of a running machine. Here the machine is started and stopped as well: `stop` clears
`_running`, notifies the worker and joins it, and the worker tests the flag at the head of its loop and in
the predicate of its wait.

`stop` writes the flag without `_mtx`, so it may fall between a test of the predicate and the wait that
follows. `stop_joins_iff` says when the join can return then, and `stop_keeps_delivery` what happens to
the events: at most one more of them is dispatched, and the others stay where they are.
-/

namespace Kufibot

open Lib

/-- Where the thread of a joinable `_worker` is. -/
inductive WorkerThread where
  /-- In `loop`, where `Loop.pc` says. -/
  | inLoop
  /-- The predicate of the wait was tested and does not hold; `_mtx` is held. -/
  | predicateFalse
  /-- `loop` has returned. -/
  | returned
deriving DecidableEq, Repr

/-- Where a call of `stop` is, behind its test of `_running`. -/
inductive StopPc where
  | clear
  | notify
  | join
deriving DecidableEq, Repr

/-- How many events a worker there dispatches before it tests `_running` again. -/
def WorkerPc.left : WorkerPc → Nat
  | .loopTop | .dispatching => 0
  | _ => 1

/-- How far this is from the end of the loop once `_running` is cleared, with so many timers. -/
def WorkerPc.toEnd (timers : Nat) : WorkerPc → Nat
  | .loopTop => 1
  | .dispatching => 2
  | .popping => 3
  | .toBlock _ | .woken _ => 4
  | .blocked _ | .emptyQueue => 5
  | .drained => 6
  | .draining _ => 7 + timers

structure Machine (ε : Type*) where
  loop : Loop ε
  /-- `_worker`; `none` if it is not joinable. -/
  worker : Option WorkerThread
  stopCall : Option StopPc

/-- What can happen next. -/
inductive MachineAction (ε : Type*) where
  | start
  /-- `stop` is called, or its call goes on. -/
  | stop
  | loop (a : LoopAction ε)

namespace Machine

variable {ε : Type*}

/-- `_running` -/
def running (m : Machine ε) : Bool := m.loop.core.running

def setRunning (running : Bool) (m : Machine ε) : Machine ε :=
  { m with loop := { m.loop with core := { m.loop.core with running := running } } }

/-- The worker goes to `pc`, its thread to `worker`. -/
def goTo (m : Machine ε) (worker : WorkerThread) (pc : WorkerPc) : Machine ε :=
  { m with loop := { m.loop with pc := pc }, worker := some worker }

/-- `start`, up to the initial transition. `start` and `stop` are not called at the same time. -/
def start (m : Machine ε) : Option (Machine ε) :=
  match m.worker, m.stopCall with
  | none, none => some ((m.setRunning true).goTo .inLoop .loopTop)
  | _, _ => none

/-- The next step of `stop`. -/
def stop (m : Machine ε) : Option (Machine ε) :=
  match m.stopCall with
  | none => some (if m.running then { m with stopCall := some .clear } else m)
  | some .clear => some { m.setRunning false with stopCall := some .notify }
  | some .notify =>
      some { m with loop := { m.loop with pc := m.loop.pc.notifyOne }, stopCall := some .join }
  | some .join =>
      match m.worker with
      | none | some .returned => some { m with worker := none, stopCall := none }
      | _ => none

/-- The next step of the worker: `Loop.workerStep`, with the tests of `_running`. -/
def workerStep (m : Machine ε) : Option (Machine ε) :=
  match m.worker with
  | none | some .returned => none
  | some .predicateFalse =>
      match m.loop.pc with
      | .toBlock deadline => some (m.goTo .inLoop (.blocked deadline))
      | _ => none
  | some .inLoop =>
      match m.loop.pc with
      | .toBlock deadline | .woken deadline =>
          if !m.loop.core.eventQueue.isEmpty || !m.running then some (m.goTo .inLoop .popping)
          else some (m.goTo .predicateFalse (.toBlock deadline))
      | .loopTop =>
          if m.running then m.loop.workerStep.map ({ m with loop := · })
          else some (m.goTo .returned .loopTop)
      | _ => m.loop.workerStep.map ({ m with loop := · })

def step (m : Machine ε) : MachineAction ε → Option (Machine ε)
  | .start => m.start
  | .stop => m.stop
  | .loop .worker => m.workerStep
  | .loop a => (m.loop.step a).map ({ m with loop := · })

/-- A machine that was constructed. -/
def constructed (clock : SteadyClock) (reads : Nat) : Machine ε :=
  setRunning false ⟨Loop.initial clock reads, none, none⟩

/-- The machine among its callers. -/
def system (ε : Type*) : System (Machine ε) (MachineAction ε) where
  init m := ∃ clock reads, m = constructed clock reads
  step := step

theorem constructed_reachable {Ok : Machine ε → MachineAction ε → Prop} (clock : SteadyClock) (reads : Nat) :
    (system ε).ReachableVia Ok (constructed clock reads) := .init ⟨clock, reads, rfl⟩

theorem reachable_step {m n : Machine ε} {a : MachineAction ε} (h : (system ε).Reachable m)
    (hst : m.step a = some n) : (system ε).Reachable n := .step h trivial hst

/-! ## What a step can do -/

/-- Everything an action can do, with its guards. -/
inductive Steps (m : Machine ε) : MachineAction ε → Machine ε → Prop where
  | start (hworker : m.worker = none) (hcall : m.stopCall = none) :
      Steps m .start ((m.setRunning true).goTo .inLoop .loopTop)
  | refuse (hcall : m.stopCall = none) (hflag : m.running = false) : Steps m .stop m
  | call (hcall : m.stopCall = none) (hflag : m.running = true) :
      Steps m .stop { m with stopCall := some .clear }
  | clear (hcall : m.stopCall = some .clear) :
      Steps m .stop { m.setRunning false with stopCall := some .notify }
  | notify (hcall : m.stopCall = some .notify) :
      Steps m .stop { m with loop := { m.loop with pc := m.loop.pc.notifyOne }, stopCall := some .join }
  | join (hcall : m.stopCall = some .join) (hworker : m.worker = none ∨ m.worker = some .returned) :
      Steps m .stop { m with worker := none, stopCall := none }
  | loop {a : LoopAction ε} {loop : Loop ε} (hst : m.loop.step a = some loop)
      (hworker : a = .worker → m.worker = some .inLoop ∧ (m.loop.pc = .loopTop → m.running = true)) :
      Steps m (.loop a) { m with loop := loop }
  | leave (hworker : m.worker = some .inLoop) (hpc : m.loop.pc = .loopTop) (hflag : m.running = false) :
      Steps m (.loop .worker) (m.goTo .returned .loopTop)
  | testFalse {deadline : Option Time} (hworker : m.worker = some .inLoop)
      (hpc : m.loop.pc = .toBlock deadline ∨ m.loop.pc = .woken deadline)
      (hempty : m.loop.core.eventQueue = []) (hflag : m.running = true) :
      Steps m (.loop .worker) (m.goTo .predicateFalse (.toBlock deadline))
  | testTrue {deadline : Option Time} (hworker : m.worker = some .inLoop)
      (hpc : m.loop.pc = .toBlock deadline ∨ m.loop.pc = .woken deadline) :
      Steps m (.loop .worker) (m.goTo .inLoop .popping)
  | block {deadline : Option Time} (hworker : m.worker = some .predicateFalse)
      (hpc : m.loop.pc = .toBlock deadline) :
      Steps m (.loop .worker) (m.goTo .inLoop (.blocked deadline))

theorem steps_of_stop {m n : Machine ε} (h : m.stop = some n) : Steps m .stop n := by
  unfold stop at h
  cases hcall : m.stopCall with
  | none =>
      simp only [hcall] at h
      cases h
      split
      · rename_i hflag; exact .call hcall hflag
      · rename_i hflag; exact .refuse hcall (Bool.eq_false_iff.mpr hflag)
  | some pc =>
      cases pc with
      | clear => simp only [hcall] at h; cases h; exact .clear hcall
      | notify => simp only [hcall] at h; cases h; exact .notify hcall
      | join =>
          simp only [hcall] at h
          split at h
          · rename_i hworker; cases h; exact .join hcall (.inl hworker)
          · rename_i hworker; cases h; exact .join hcall (.inr hworker)
          · cases h

/-- A test of the predicate, with its two outcomes. -/
theorem steps_of_test {m n : Machine ε} {deadline : Option Time} (hworker : m.worker = some .inLoop)
    (hpc : m.loop.pc = .toBlock deadline ∨ m.loop.pc = .woken deadline)
    (h : (if !m.loop.core.eventQueue.isEmpty || !m.running then some (m.goTo .inLoop .popping)
      else some (m.goTo .predicateFalse (.toBlock deadline))) = some n) : Steps m (.loop .worker) n := by
  split at h
  · cases h; exact .testTrue hworker hpc
  · rename_i htest
    cases h
    simp only [Bool.or_eq_true, Bool.not_eq_true', not_or, Bool.not_eq_false, List.isEmpty_iff] at htest
    exact .testFalse hworker hpc htest.1 htest.2

theorem steps_of_workerStep {m n : Machine ε} (h : m.workerStep = some n) : Steps m (.loop .worker) n := by
  unfold workerStep at h
  split at h
  · cases h
  · cases h
  · rename_i hworker
    split at h
    · rename_i deadline hpc; cases h; exact .block hworker hpc
    · cases h
  · rename_i hworker
    split at h
    · rename_i deadline hpc; exact steps_of_test hworker (.inl hpc) h
    · rename_i deadline hpc; exact steps_of_test hworker (.inr hpc) h
    · rename_i hpc
      split at h
      · rename_i hflag
        obtain ⟨loop, hst, rfl⟩ := Option.map_eq_some_iff.mp h
        exact .loop hst fun _ => ⟨hworker, fun _ => hflag⟩
      · rename_i hflag; cases h; exact .leave hworker hpc (Bool.eq_false_iff.mpr hflag)
    · rename_i hpc
      obtain ⟨loop, hst, rfl⟩ := Option.map_eq_some_iff.mp h
      exact .loop hst fun _ => ⟨hworker, fun htop => absurd htop hpc⟩

/-- **The inversion lemma.** A step is one of `Steps`. -/
theorem steps_of_step {m n : Machine ε} {a : MachineAction ε} (h : m.step a = some n) : Steps m a n := by
  cases a with
  | start =>
      simp only [step, start] at h
      split at h
      · rename_i hworker hcall; cases h; exact .start hworker hcall
      · cases h
  | stop => exact steps_of_stop h
  | loop a =>
      cases a with
      | worker => exact steps_of_workerStep h
      | _ =>
          simp only [step] at h
          obtain ⟨loop, hst, rfl⟩ := Option.map_eq_some_iff.mp h
          exact .loop hst (nomatch ·)

/-! ## The events -/

theorem running_of_loop {s t : Loop ε} {a : LoopAction ε} (hst : s.step a = some t) :
    t.core.running = s.core.running := by
  cases Loop.steps_of_step hst with
  | pop e core hpop => exact Core.popEvent_running hpop
  | _ => rfl

/-- The flag plays no part in the delivery. -/
theorem inv_setRunning {s : Loop ε} (h : Loop.Inv s) (running : Bool) :
    Loop.Inv { s with core := { s.core with running := running } } :=
  ⟨h.fifo, h.notEarly, h.passOrder, h.onePlace, h.stamps, h.timerKey, h.timerOrder, h.passNumber, h.draining⟩

theorem inv_notifyOne {s : Loop ε} (h : Loop.Inv s) : Loop.Inv { s with pc := s.pc.notifyOne } := by
  obtain ⟨core, pc, posted, entered, dispatched, passes⟩ := s
  cases pc with
  | blocked deadline => exact Loop.inv_move h rfl
  | _ => exact h

theorem inv_steps {m n : Machine ε} {a : MachineAction ε} (h : Loop.Inv m.loop) (hst : Steps m a n) :
    Loop.Inv n.loop := by
  cases hst with
  | start => exact Loop.inv_move (inv_setRunning h true) rfl
  | refuse | call | join => exact h
  | clear => exact inv_setRunning h false
  | notify => exact inv_notifyOne h
  | loop hst => exact Loop.inv_step h (Loop.steps_of_step hst)
  | leave | testFalse | testTrue | block => exact Loop.inv_move h rfl

theorem inv_reachable {m : Machine ε} (h : (system ε).Reachable m) : Loop.Inv m.loop := by
  refine h.invariant (I := fun m => Loop.Inv m.loop) ?_ fun m a n hm _ hst => inv_steps hm (steps_of_step hst)
  rintro _ ⟨clock, reads, rfl⟩
  exact inv_setRunning (Loop.inv_initial clock reads) false

/-- How many events the machine dispatches at most once `_running` is cleared. -/
def left (m : Machine ε) : Nat :=
  match m.worker with
  | none | some .returned => 0
  | some .inLoop | some .predicateFalse => m.loop.pc.left

theorem left_notifyOne (pc : WorkerPc) : pc.notifyOne.left = pc.left := by
  cases pc <;> rfl

/-- What the worker dispatches in a step is in the budget of the place where it was. -/
theorem dispatched_of_workerStep {s t : Loop ε} (hpc : s.pc ≠ .loopTop) (hst : s.workerStep = some t) :
    ∃ last, t.dispatched = s.dispatched ++ last ∧
      last.length + t.pc.left ≤ s.pc.left := by
  unfold Loop.workerStep at hst
  cases heq : s.pc with
  | loopTop => exact absurd heq hpc
  | draining now =>
      simp only [heq] at hst
      split at hst
      · rename_i deadline e core hfirst hexp
        cases hst
        exact ⟨[], (List.append_nil _).symm, Nat.le_refl 1⟩
      · cases hst; exact ⟨[], (List.append_nil _).symm, Nat.le_refl 1⟩
  | drained =>
      simp only [heq] at hst
      cases hst
      refine ⟨[], (List.append_nil _).symm, ?_⟩
      show 0 + (if _ then _ else _ : WorkerPc).left ≤ 1
      split <;> exact Nat.le_refl 1
  | emptyQueue => simp only [heq] at hst; cases hst; exact ⟨[], (List.append_nil _).symm, Nat.le_refl 1⟩
  | toBlock deadline | woken deadline =>
      simp only [heq] at hst
      cases hst
      refine ⟨[], (List.append_nil _).symm, ?_⟩
      show 0 + (if _ then _ else _ : WorkerPc).left ≤ 1
      split <;> exact Nat.le_refl 1
  | blocked deadline => simp only [heq] at hst; cases hst
  | popping =>
      simp only [heq] at hst
      split at hst
      · rename_i e core hpop; cases hst; exact ⟨[e], rfl, Nat.le_refl 1⟩
      · cases hst; exact ⟨[], (List.append_nil _).symm, Nat.zero_le 1⟩
  | dispatching => simp only [heq] at hst; cases hst; exact ⟨[], (List.append_nil _).symm, Nat.le_refl 0⟩

/-- The other threads dispatch nothing. -/
theorem dispatched_of_other {s t : Loop ε} {a : LoopAction ε} (ha : a ≠ .worker) (hst : s.step a = some t) :
    t.dispatched = s.dispatched ∧ t.pc.left = s.pc.left := by
  have hpost : ∀ ev, (s.post ev).dispatched = s.dispatched ∧
      (s.post ev).pc.left = s.pc.left := fun ev => ⟨rfl, left_notifyOne s.pc⟩
  cases a with
  | worker => exact absurd rfl ha
  | readClock => cases hst; exact ⟨rfl, rfl⟩
  | postEvent ev =>
      obtain ⟨-, hst⟩ := Option.ite_none_left_eq_some.mp hst
      cases hst
      exact hpost ev
  | postDelayedEvent ev delayMs reading =>
      obtain ⟨-, hst⟩ := Option.ite_none_left_eq_some.mp hst
      split at hst
      · obtain ⟨-, hst⟩ := Option.ite_none_left_eq_some.mp hst
        cases hst
        exact hpost ev
      · obtain ⟨-, hst⟩ := Option.ite_none_left_eq_some.mp hst
        cases hst
        exact ⟨rfl, left_notifyOne s.pc⟩
  | spuriousWake =>
      simp only [Loop.step] at hst
      split at hst
      · rename_i deadline hpc; cases hst; exact ⟨rfl, by rw [hpc]; rfl⟩
      · cases hst
  | timeout =>
      simp only [Loop.step] at hst
      split at hst
      · rename_i deadline hpc
        obtain ⟨-, hst⟩ := Option.ite_none_right_eq_some.mp hst
        cases hst
        exact ⟨rfl, by rw [hpc]; rfl⟩
      · cases hst

/-- **A step behind the stop** stays in the budget. -/
theorem dispatched_steps {m n : Machine ε} {a : MachineAction ε} (hflag : m.running = false)
    (ha : a ≠ .start) (hst : Steps m a n) :
    n.running = false ∧ ∃ last, n.loop.dispatched = m.loop.dispatched ++ last ∧
      last.length + n.left ≤ m.left := by
  -- most steps dispatch nothing and leave the budget as it is, or lower it
  have hnone : ∀ {k : Machine ε}, k.loop.dispatched = m.loop.dispatched → k.left ≤ m.left →
      ∃ last, k.loop.dispatched = m.loop.dispatched ++ last ∧ last.length + k.left ≤ m.left :=
    fun hsame hle => ⟨[], hsame.trans (List.append_nil _).symm, by simpa using hle⟩
  have hleft : ∀ {worker : WorkerThread}, m.worker = some worker → worker ≠ .returned →
      m.left = m.loop.pc.left := by
    intro worker hworker hne
    rw [left, hworker]
    cases worker <;> first | rfl | exact absurd rfl hne
  cases hst with
  | start => exact absurd rfl ha
  | refuse => exact ⟨hflag, hnone rfl (Nat.le_refl _)⟩
  | call _ hset => rw [hflag] at hset; cases hset
  | clear => exact ⟨rfl, hnone rfl (Nat.le_refl _)⟩
  | notify =>
      refine ⟨hflag, hnone rfl ?_⟩
      simp only [left, left_notifyOne]
      exact Nat.le_refl _
  | join => exact ⟨hflag, hnone rfl (Nat.zero_le _)⟩
  | @loop a loop hst hworker =>
      refine ⟨(running_of_loop hst).trans hflag, ?_⟩
      by_cases heq : a = .worker
      · subst heq
        obtain ⟨hin, htop⟩ := hworker rfl
        have hpc : m.loop.pc ≠ .loopTop := fun h => by rw [hflag] at htop; cases htop h
        have hnext : left { m with loop := loop } = loop.pc.left := by rw [left]; simp only [hin]
        rw [hnext, hleft hin (by decide)]
        exact dispatched_of_workerStep hpc hst
      · obtain ⟨hsame, hpc⟩ := dispatched_of_other heq hst
        refine hnone hsame (Nat.le_of_eq ?_)
        simp only [left, hpc]
  | leave => exact ⟨hflag, hnone rfl (Nat.zero_le _)⟩
  | testFalse _ _ _ hset => rw [hflag] at hset; cases hset
  | testTrue hworker hpc =>
      refine ⟨hflag, hnone rfl ?_⟩
      rw [hleft hworker (by decide)]
      rcases hpc with hpc | hpc <;> rw [hpc] <;> exact Nat.le_refl 1
  | block hworker hpc =>
      refine ⟨hflag, hnone rfl ?_⟩
      rw [hleft hworker (by decide), hpc]
      exact Nat.le_refl 1

theorem entered_of_steps {s t : Loop ε} {a : LoopAction ε} (hst : Loop.Steps s a t) :
    ∃ more, t.entered = s.entered ++ more := by
  cases hst with
  | post | expire => exact ⟨_, rfl⟩
  | _ => exact ⟨[], (List.append_nil _).symm⟩

theorem entered_steps {m n : Machine ε} {a : MachineAction ε} (hst : Steps m a n) :
    ∃ more, n.loop.entered = m.loop.entered ++ more := by
  cases hst with
  | loop hst => exact entered_of_steps (Loop.steps_of_step hst)
  | _ => exact ⟨[], (List.append_nil _).symm⟩

/-- **A stop loses nothing.** Once `_running` is cleared, and until the next start, at most one more event is
    dispatched, and none if the worker is gone; the other events stay in the queue, in their order, and
    those that still enter stand behind them. -/
theorem stop_keeps_delivery {m n : Machine ε} {tr : List (Machine ε × MachineAction ε)}
    (h : (system ε).Reachable m) (hflag : m.running = false) (hrun : (system ε).Run m tr n)
    (hstart : ∀ x ∈ tr, x.2 ≠ .start) :
    Loop.Delivery n.loop ∧ ∃ last more, n.loop.dispatched = m.loop.dispatched ++ last ∧
      last ++ n.loop.core.eventQueue = m.loop.core.eventQueue ++ more ∧ last.length ≤ m.left := by
  have hbehind : n.running = false ∧ ∃ last, n.loop.dispatched = m.loop.dispatched ++ last ∧
      last.length + n.left ≤ m.left := by
    induction hrun with
    | nil => exact ⟨hflag, [], (List.append_nil _).symm, Nat.le_of_eq (Nat.zero_add _)⟩
    | snoc hrun hst ih =>
        obtain ⟨hstart, ha⟩ := List.forall_mem_append.mp hstart
        obtain ⟨hflag', last, hdispatched, hleft⟩ := ih hstart
        obtain ⟨hflag'', last', hdispatched', hleft'⟩ :=
          dispatched_steps hflag' (ha _ (List.mem_singleton.mpr rfl)) (steps_of_step hst)
        refine ⟨hflag'', last ++ last', ?_, ?_⟩
        · rw [hdispatched', hdispatched, List.append_assoc]
        · rw [List.length_append]
          omega
  obtain ⟨-, last, hdispatched, hleft⟩ := hbehind
  obtain ⟨more, hentered⟩ : ∃ more, n.loop.entered = m.loop.entered ++ more := by
    refine hrun.invariant (I := fun k => ∃ more, k.loop.entered = m.loop.entered ++ more) ?_
      ⟨[], (List.append_nil _).symm⟩
    rintro k a k' ⟨more, hmore⟩ hst
    obtain ⟨more', hmore'⟩ := entered_steps (steps_of_step hst)
    exact ⟨more ++ more', by rw [hmore', hmore, List.append_assoc]⟩
  have hinv := inv_reachable (hrun.reachable h)
  refine ⟨hinv.delivery, last, more.map Entry.posted, hdispatched, ?_, by omega⟩
  -- what was dispatched before the stop is at the head of both histories
  have hboth : m.loop.dispatched ++ (last ++ n.loop.core.eventQueue) =
      m.loop.dispatched ++ (m.loop.core.eventQueue ++ more.map Entry.posted) := by
    rw [← List.append_assoc, ← hdispatched, hinv.fifo, hentered, List.map_append, ← (inv_reachable h).fifo,
      List.append_assoc]
  exact List.append_cancel_left hboth

/-- Three events are posted, and the machine is stopped while the worker is about to take the first. -/
def stoppedAtFirst : List (MachineAction Nat) :=
  [.start, .loop (.postEvent 1), .loop (.postEvent 2), .loop .worker, .loop .worker, .loop .worker, .stop,
    .stop]

def machineAtFirst : Machine Nat :=
  ((system Nat).exec (constructed (tickingClock 1000) 0) stoppedAtFirst).getD
    (constructed (tickingClock 1000) 0)

/-- It dispatches the first, and the others stay. -/
theorem stop_keeps_delivery_three : ∃ m n : Machine Nat,
    m.left = 1 ∧ n.loop.dispatched.map Posted.event = [1] ∧ n.worker = some .returned ∧
      Loop.Delivery n.loop ∧ ∃ last more, n.loop.dispatched = m.loop.dispatched ++ last ∧
        last ++ n.loop.core.eventQueue = m.loop.core.eventQueue ++ more ∧ last.length ≤ m.left := by
  have hexec : (system Nat).exec (constructed (tickingClock 1000) 0) stoppedAtFirst =
    some machineAtFirst := rfl
  have hreach := System.reachableVia_of_exec (constructed_reachable _ _) (fun _ _ _ => trivial) hexec
  have hexec' : (system Nat).exec machineAtFirst
    [.loop .worker, .loop .worker, .loop (.postEvent 3), .loop .worker] = some _ := rfl
  obtain ⟨tr, hrun, hactions⟩ := System.Run.of_exec hexec'
  refine ⟨_, _, rfl, rfl, rfl, stop_keeps_delivery hreach rfl hrun fun x hx => ?_⟩
  have hx' := hactions ▸ List.mem_map_of_mem hx
  intro heq
  rw [heq] at hx'
  simp at hx'

/-! ## The join -/

/-- The worker has tested its predicate before the flag was cleared, and nothing ends the wait: it is on its
    way into a wait without a deadline, or in it. -/
def Asleep (m : Machine ε) : Prop :=
  m.worker = some .predicateFalse ∧ m.loop.pc = .toBlock none ∨
    m.worker = some .inLoop ∧ m.loop.pc = .blocked none

/-- Nobody else does anything: time passes, the worker and the call of `stop` go on. -/
def Alone : MachineAction ε → Prop
  | .stop | .loop .worker | .loop .timeout | .loop .readClock => True
  | _ => False

structure Consistent (m : Machine ε) : Prop where
  gone : m.worker = none → m.running = false ∧ m.stopCall = none
  idle : m.running = false → m.stopCall = none → m.worker = none
  stopping : m.stopCall = some .notify ∨ m.stopCall = some .join → m.running = false
  tested : m.worker = some .predicateFalse → ∃ deadline, m.loop.pc = .toBlock deadline

/-- A worker that holds `_mtx` before its wait is not moved by the others. -/
theorem toBlock_of_step {s t : Loop ε} {a : LoopAction ε} {deadline : Option Time} (ha : a ≠ .worker)
    (hpc : s.pc = .toBlock deadline) (hst : s.step a = some t) : t.pc = .toBlock deadline := by
  have hheld : s.pc.holdsMtx = true := by rw [hpc]; rfl
  cases Loop.steps_of_step hst with
  | tick => exact hpc
  | post a ev hlock => rw [hheld] at hlock; cases hlock
  | schedule =>
      show s.pc.notifyOne = _
      rw [hpc]
      rfl
  | wake d hblocked => rw [hpc] at hblocked; cases hblocked
  | timeout =>
      simp only [Loop.step, hpc] at hst
      cases hst
  | _ => exact absurd rfl ha

theorem consistent_steps {m n : Machine ε} {a : MachineAction ε} (h : Consistent m) (hst : Steps m a n) :
    Consistent n := by
  -- a call that is in progress has a worker to stop
  have hbusy : ∀ {pc : StopPc}, m.stopCall = some pc → m.worker ≠ none := fun hcall hworker => by
    rw [(h.gone hworker).2] at hcall
    cases hcall
  -- and without such a call, a machine with a worker runs
  have hidle : ∀ {worker : WorkerThread} {w : Option WorkerThread}, m.worker = some worker →
      m.running = false → m.stopCall = none → w = none := fun hworker hflag hcall => by
    rw [h.idle hflag hcall] at hworker
    cases hworker
  cases hst with
  | start _ hcall =>
      refine ⟨nofun, nofun, fun hs => ?_, nofun⟩
      rcases hs with hs | hs <;> cases hcall.symm.trans hs
  | refuse => exact h
  | call _ hflag =>
      refine ⟨fun hworker => ?_, nofun, nofun, h.tested⟩
      cases hflag.symm.trans (h.gone hworker).1
  | clear hcall => exact ⟨fun hworker => absurd hworker (hbusy hcall), nofun, fun _ => rfl, h.tested⟩
  | notify hcall =>
      refine ⟨fun hworker => absurd hworker (hbusy hcall), nofun, fun _ => h.stopping (.inl hcall),
        fun hworker => ?_⟩
      obtain ⟨deadline, hpc⟩ := h.tested hworker
      exact ⟨deadline, by show m.loop.pc.notifyOne = _; rw [hpc]; rfl⟩
  | join hcall => exact ⟨fun _ => ⟨h.stopping (.inr hcall), rfl⟩, fun _ _ => rfl, nofun, nofun⟩
  | @loop a loop hst hworker =>
      have hsame := running_of_loop hst
      refine ⟨fun hgone => ⟨hsame.trans (h.gone hgone).1, (h.gone hgone).2⟩,
        fun hflag => h.idle (hsame.symm.trans hflag), fun hs => hsame.trans (h.stopping hs), ?_⟩
      intro htested
      obtain ⟨deadline, hpc⟩ := h.tested htested
      refine ⟨deadline, toBlock_of_step (fun ha => ?_) hpc hst⟩
      have hin := (hworker ha).1
      rw [show m.worker = _ from htested] at hin
      cases hin
  | leave hworker | testTrue hworker | block hworker => exact ⟨nofun, hidle hworker, h.stopping, nofun⟩
  | testFalse hworker => exact ⟨nofun, hidle hworker, h.stopping, fun _ => ⟨_, rfl⟩⟩

theorem consistent_reachable {m : Machine ε} (h : (system ε).Reachable m) : Consistent m := by
  refine h.invariant (I := Consistent) ?_ fun m a n hm _ hst => consistent_steps hm (steps_of_step hst)
  rintro _ ⟨clock, reads, rfl⟩
  exact ⟨fun _ => ⟨rfl, rfl⟩, fun _ _ => rfl, nofun, nofun⟩

/-- **Nothing wakes a sleeping worker** but an event, a timer or the system. -/
theorem asleep_steps {m n : Machine ε} {a : MachineAction ε} (h : m.Asleep ∧ m.stopCall = some .join)
    (ha : Alone a) (hst : Steps m a n) : n.Asleep ∧ n.stopCall = some .join := by
  obtain ⟨hasleep, hcall⟩ := h
  cases hst with
  | start => cases ha
  | refuse hnone => rw [hcall] at hnone; cases hnone
  | call hnone => rw [hcall] at hnone; cases hnone
  | clear hclear => rw [hcall] at hclear; cases hclear
  | notify hnotify => rw [hcall] at hnotify; cases hnotify
  | join _ hworker =>
      rcases hasleep with ⟨hin, -⟩ | ⟨hin, -⟩ <;> rcases hworker with hw | hw <;> rw [hw] at hin <;> cases hin
  | @loop a loop hst hworker =>
      have hpc : m.loop.pc = .toBlock none ∨ m.loop.pc = .blocked none := hasleep.imp And.right And.right
      cases a with
      | readClock => cases hst; exact ⟨hasleep, hcall⟩
      | worker =>
          rcases hasleep with ⟨hin, -⟩ | ⟨-, hblocked⟩
          · rw [(hworker rfl).1] at hin; cases hin
          · simp only [Loop.step, Loop.workerStep, hblocked] at hst; cases hst
      | timeout => rcases hpc with hpc | hpc <;> simp only [Loop.step, hpc] at hst <;> cases hst
      | _ => cases ha
  | leave hin hpc =>
      rcases hasleep with ⟨-, hpc'⟩ | ⟨-, hpc'⟩ <;> rw [hpc] at hpc' <;> cases hpc'
  | testFalse hin hpc | testTrue hin hpc =>
      rcases hasleep with ⟨hin', -⟩ | ⟨-, hpc'⟩
      · rw [hin] at hin'; cases hin'
      · rcases hpc with hpc | hpc <;> rw [hpc] at hpc' <;> cases hpc'
  | block hin hpc =>
      rcases hasleep with ⟨-, hpc'⟩ | ⟨hin', -⟩
      · rw [hpc] at hpc'
        cases hpc'
        exact ⟨.inr ⟨rfl, rfl⟩, hcall⟩
      · rw [hin] at hin'; cases hin'

theorem not_asleep {m : Machine ε} (hworker : m.worker ≠ some .predicateFalse)
    (hpc : m.loop.pc ≠ .blocked none) : ¬ m.Asleep := by
  rintro (⟨hw, -⟩ | ⟨-, hb⟩)
  · exact hworker hw
  · exact hpc hb

/-- The same for the machine. -/
def toEnd (m : Machine ε) : Nat :=
  match m.worker with
  | none | some .returned => 0
  | some .predicateFalse => 6
  | some .inLoop => m.loop.pc.toEnd m.loop.core.timers.entries.length

/-- The clock has been read `k` more times. -/
def later (m : Machine ε) (k : Nat) : Machine ε :=
  { m with loop := { m.loop with core := { m.loop.core with reads := m.loop.core.reads + k } } }

theorem leads_later (m : Machine ε) (k : Nat) : (system ε).Leads (fun _ a => Alone a) m (m.later k) := by
  induction k with
  | zero => exact .refl m
  | succ k ih => exact ih.trans (.single (a := .loop .readClock) trivial rfl)

/-- A wait with a deadline ends. -/
theorem leads_timeout {m : Machine ε} {deadline : Time} (hpc : m.loop.pc = .blocked (some deadline))
    (hclock : ∀ time, ∃ n, time ≤ m.loop.core.clock.reading n) :
    ∃ core, core.clock = m.loop.core.clock ∧ (system ε).Leads (fun _ a => Alone a) m
      { m with loop := { m.loop with core := core, pc := .popping } } := by
  obtain ⟨k, hk⟩ := hclock deadline
  have hdue : deadline ≤ (m.later k).loop.core.now :=
    Nat.le_trans hk (m.loop.core.clock.mono (Nat.le_add_left k _))
  refine ⟨(m.later k).loop.core.tick, rfl, (leads_later m k).trans (.single (a := .loop .timeout) trivial ?_)⟩
  have hst : (m.later k).loop.step .timeout =
      some { (m.later k).loop with core := (m.later k).loop.core.tick, pc := .popping } := by
    simp only [Loop.step, show (m.later k).loop.pc = _ from hpc, if_pos hdue]
  show ((m.later k).loop.step .timeout).map _ = _
  rw [hst]
  rfl

/-- A worker that is not asleep comes nearer to its end. -/
theorem exists_closer {m : Machine ε} (h : Consistent m) (hcall : m.stopCall = some .join)
    (hawake : ¬ m.Asleep) (hclock : ∀ time, ∃ n, time ≤ m.loop.core.clock.reading n)
    (hend : m.toEnd ≠ 0) :
    ∃ n : Machine ε, (system ε).Leads (fun _ a => Alone a) m n ∧ n.stopCall = some .join ∧ ¬ n.Asleep ∧
      n.loop.core.clock = m.loop.core.clock ∧ n.toEnd < m.toEnd := by
  have hflag := h.stopping (.inr hcall)
  have hworkerStep : ∀ {n : Machine ε}, m.workerStep = some n → (system ε).Leads (fun _ a => Alone a) m n :=
    fun hst => .single (a := .loop .worker) trivial hst
  cases hworker : m.worker with
  | none => exact absurd (by simp only [toEnd, hworker]) hend
  | some worker =>
      cases worker with
      | returned => exact absurd (by simp only [toEnd, hworker]) hend
      | predicateFalse =>
          obtain ⟨deadline, hpc⟩ := h.tested hworker
          cases deadline with
          | none => exact absurd (.inl ⟨hworker, hpc⟩) hawake
          | some deadline =>
              refine ⟨m.goTo .inLoop (.blocked (some deadline)), hworkerStep ?_, hcall,
                not_asleep nofun nofun, rfl, ?_⟩
              · simp only [workerStep, hworker, hpc]
              · simp only [toEnd, hworker, goTo]
                exact Nat.lt_succ_self 5
      | inLoop =>
          have hrank : m.toEnd = m.loop.pc.toEnd m.loop.core.timers.entries.length := by
            simp only [toEnd, hworker]
          -- a step of the loop itself leaves the thread where it is
          have hloop : ∀ (s : Loop ε), m.workerStep = some { m with loop := s } → s.pc ≠ .blocked none →
              s.core.clock = m.loop.core.clock →
              s.pc.toEnd s.core.timers.entries.length < m.loop.pc.toEnd m.loop.core.timers.entries.length →
              ∃ n : Machine ε, (system ε).Leads (fun _ a => Alone a) m n ∧ n.stopCall = some .join ∧
                ¬ n.Asleep ∧ n.loop.core.clock = m.loop.core.clock ∧ n.toEnd < m.toEnd := by
            intro s hst hpc hsame hlt
            refine ⟨{ m with loop := s }, hworkerStep hst, hcall, not_asleep ?_ hpc, hsame, ?_⟩
            · show m.worker ≠ _
              rw [hworker]
              nofun
            · rw [hrank]
              simpa only [toEnd, hworker] using hlt
          cases hpc : m.loop.pc with
          | loopTop =>
              refine ⟨m.goTo .returned .loopTop, hworkerStep ?_, hcall, not_asleep nofun nofun, rfl, ?_⟩
              · simp only [workerStep, hworker, hpc, hflag, Bool.false_eq_true, if_false]
              · rw [hrank, hpc]
                exact Nat.zero_lt_one
          | draining now =>
              cases hexp : m.loop.core.expireFirst now with
              | none =>
                  refine hloop { m.loop with pc := .drained } ?_ nofun rfl ?_
                  · simp only [workerStep, hworker, Loop.workerStep, hpc]
                    cases m.loop.core.timers.first <;> simp only [hexp, Option.map_some]
                  · rw [hpc]
                    exact Nat.lt_of_lt_of_le (Nat.lt_succ_self 6) (Nat.le_add_right 7 _)
              | some core =>
                  obtain ⟨deadline, e, hfirst, -, rfl⟩ := Core.expireFirst_eq_some hexp
                  refine hloop { m.loop with
                    core := (m.loop.core.postEvent e).eraseTimer
                    entered := m.loop.entered ++ [⟨e, some (m.loop.passes, now)⟩] } ?_ ?_ rfl ?_
                  · simp only [workerStep, hworker, Loop.workerStep, hpc, hfirst, hexp, Option.map_some]
                  · rw [hpc]; nofun
                  · rw [hpc, Multimap.entries_of_first hfirst]
                    exact Nat.lt_succ_self _
          | drained =>
              refine hloop { m.loop with
                pc := if m.loop.core.eventQueue.isEmpty then .emptyQueue else .popping } ?_ ?_ rfl ?_
              · simp only [workerStep, hworker, Loop.workerStep, hpc, Option.map_some]
              · show (if _ then _ else _) ≠ _
                split <;> nofun
              · rw [hpc]
                cases m.loop.core.eventQueue.isEmpty with
                | true => exact Nat.lt_succ_self 5
                | false => exact (by decide : 3 < 6)
          | emptyQueue =>
              refine hloop { m.loop with pc := .toBlock (m.loop.core.timers.first.map Prod.fst) }
                ?_ nofun rfl ?_
              · simp only [workerStep, hworker, Loop.workerStep, hpc, Option.map_some]
              · rw [hpc]
                exact Nat.lt_succ_self 4
          | toBlock deadline | woken deadline =>
              -- the predicate holds, for the flag is cleared
              refine ⟨m.goTo .inLoop .popping, hworkerStep ?_, hcall, not_asleep nofun nofun, rfl, ?_⟩
              · simp only [workerStep, hworker, hpc, hflag, Bool.not_false, Bool.or_true, if_true]
              · rw [hrank, hpc]
                exact Nat.lt_succ_self 3
          | blocked deadline =>
              cases deadline with
              | none => exact absurd (.inr ⟨hworker, hpc⟩) hawake
              | some deadline =>
                  obtain ⟨core, hsame, hlead⟩ := leads_timeout hpc hclock
                  refine ⟨_, hlead, hcall, not_asleep ?_ nofun, hsame, ?_⟩
                  · show m.worker ≠ _
                    rw [hworker]
                    nofun
                  · rw [hrank, hpc]
                    simp only [toEnd, hworker, WorkerPc.toEnd]
                    decide
          | popping =>
              cases hpop : m.loop.core.popEvent with
              | none =>
                  refine hloop { m.loop with pc := .loopTop } ?_ nofun rfl ?_
                  · simp only [workerStep, hworker, Loop.workerStep, hpc, hpop, Option.map_some]
                  · rw [hpc]
                    exact (by decide : 1 < 3)
              | some x =>
                  refine hloop { m.loop with
                    core := x.2
                    dispatched := m.loop.dispatched ++ [x.1]
                    pc := .dispatching } ?_ nofun ?_ ?_
                  · simp only [workerStep, hworker, Loop.workerStep, hpc, hpop, Option.map_some]
                  · show x.2.clock = _
                    rw [(Core.popEvent_eq_some hpop).2]
                  · rw [hpc]
                    exact Nat.lt_succ_self 2
          | dispatching =>
              refine hloop { m.loop with pc := .loopTop } ?_ nofun rfl ?_
              · simp only [workerStep, hworker, Loop.workerStep, hpc, Option.map_some]
              · rw [hpc]
                exact Nat.lt_succ_self 1

/-- **A stop whose worker is not asleep returns.** -/
theorem leads_of_awake {m : Machine ε} (h : Consistent m) (hcall : m.stopCall = some .join)
    (hawake : ¬ m.Asleep) (hclock : ∀ time, ∃ n, time ≤ m.loop.core.clock.reading n) :
    ∃ n, (system ε).Leads (fun _ a => Alone a) m n ∧ n.stopCall = none := by
  induction hn : m.toEnd using Nat.strongRecOn generalizing m with
  | ind n ih =>
      subst hn
      by_cases hend : m.toEnd = 0
      · -- the worker is gone, and the join returns
        have hst : m.step .stop = some { m with worker := none, stopCall := none } := by
          simp only [step, stop, hcall]
          cases hworker : m.worker with
          | none => rfl
          | some worker =>
              cases worker with
              | returned => rfl
              | predicateFalse => simp only [toEnd, hworker] at hend; cases hend
              | inLoop =>
                  simp only [toEnd, hworker] at hend
                  cases hpc : m.loop.pc <;> simp only [hpc, WorkerPc.toEnd] at hend <;> omega
        exact ⟨_, .single (a := .stop) trivial hst, rfl⟩
      · obtain ⟨k, hlead, hcall', hawake', hsame, hlt⟩ := exists_closer h hcall hawake hclock hend
        have hk : Consistent k :=
          hlead.invariant (fun _ _ _ hs _ hst => consistent_steps hs (steps_of_step hst)) h
        obtain ⟨n, hrest, hn⟩ := ih _ hlt hk hcall' hawake' (by rw [hsame]; exact hclock) rfl
        exact ⟨n, hlead.trans hrest, hn⟩

/-- **A stop returns iff its worker is not asleep**: left to itself, with a clock that goes on, the call that
    waits for the worker returns unless the worker tested its predicate before the flag was cleared, is on
    its way into the wait or in it, and has no deadline. -/
theorem stop_joins_iff {m : Machine ε} (h : (system ε).Reachable m) (hcall : m.stopCall = some .join)
    (hclock : ∀ time, ∃ n, time ≤ m.loop.core.clock.reading n) :
    (∃ n, (system ε).Leads (fun _ a => Alone a) m n ∧ n.stopCall = none) ↔ ¬ m.Asleep := by
  constructor
  · rintro ⟨n, hlead, hn⟩ hasleep
    obtain ⟨-, hjoin⟩ := hlead.invariant (I := fun k => k.Asleep ∧ k.stopCall = some .join)
      (fun _ _ _ hk ha hst => asleep_steps hk ha (steps_of_step hst)) ⟨hasleep, hcall⟩
    rw [hn] at hjoin
    cases hjoin
  · exact fun hawake => leads_of_awake (consistent_reachable h) hcall hawake hclock

/-- The machine finds its queue empty, and is stopped before it waits. -/
def stoppedBeforeWait : List (MachineAction Nat) :=
  [.start, .loop .worker, .loop .worker, .loop .worker, .loop .worker, .loop .worker, .stop, .stop, .stop]

/-- The stop falls between the test and the wait, and never returns. -/
theorem stop_joins_iff_lost : ∃ m : Machine Nat,
    (system Nat).exec (constructed (tickingClock 1000) 0) stoppedBeforeWait = some m ∧
      m.stopCall = some .join ∧ ¬ ∃ n, (system Nat).Leads (fun _ a => Alone a) m n ∧ n.stopCall = none := by
  have hexec : (system Nat).exec (constructed (tickingClock 1000) 0) stoppedBeforeWait = some _ := rfl
  have hreach := System.reachableVia_of_exec (constructed_reachable _ _) (fun _ _ _ => trivial) hexec
  have hperiod : ∀ n : Nat, n ≤ 1000 * n * 1000000 := by omega
  have hclock : ∀ time, ∃ n, time ≤ (tickingClock 1000).reading n := fun time => ⟨time, hperiod time⟩
  refine ⟨_, hexec, rfl, fun hreturns => ?_⟩
  exact (stop_joins_iff hreach rfl hclock).mp hreturns (.inl ⟨rfl, rfl⟩)

end Machine

end Kufibot
