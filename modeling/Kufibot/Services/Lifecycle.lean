import Kufibot.Lib.System
import Mathlib.Logic.Function.Basic

/-!
# `Services.Lifecycle` — `Service::start`, `Service::stop` and the service thread

Any thread may call `start()` and `stop()`, the service thread from inside its loop included, and the
calls interleave with one another and with the loops. A loop reads `_running` once per iteration.

A service that stops itself only clears the flag and detaches its thread, so `start()` finds `_running`
false while the old loop is still in its body; it sets the flag again and launches a second loop.
`LoopGone` is the condition under which this cannot happen (`at_most_one_loop`): a `start()` gets past its
test only when no loop is executing and no other `start()` is on its way to launching one.
-/

namespace Kufibot

open Lib

/-- Who calls: the service thread with a given number, from inside its loop, or another thread. -/
inductive Caller where
  | other (n : Nat)
  | service (t : Nat)
deriving DecidableEq, Repr

/-- Where a thread is in `service_function`. -/
inductive LoopPc where
  /-- Before the loop: a camera or a socket is opened here. -/
  | entry
  /-- At `while (_running)`. -/
  | loopTest
  | body
  /-- Behind the loop. -/
  | leaving
  | returned
deriving DecidableEq, Repr

/-- Where a call of `start()` or `stop()` is. -/
inductive CallPc where
  | startTest
  | startInitialize
  | startFlag
  | startLaunch
  /-- The new thread runs and is about to be assigned to `_serviceThread`. -/
  | startAssign (t : Nat)
  | stopTest
  | stopFlag
  | stopHandle
  | stopJoin (t : Nat)
deriving DecidableEq, Repr

structure Service where
  disabled : Bool
  running : Bool
  initialized : Bool
  /-- The thread of `_serviceThread`, when the handle is joinable. -/
  serviceThread : Option Nat
  /-- `std::terminate` was called. -/
  terminated : Bool
  /-- Where each thread launched so far is. -/
  threads : Nat → Option LoopPc
  /-- How many threads were launched; the next one gets this number. -/
  launched : Nat
  /-- The call each caller is in. -/
  calls : Caller → Option CallPc
  /-- Ghost: the loop of the thread in the handle cleared `_running` on its own. -/
  endedAlone : Bool

/-- What can happen next. -/
inductive LifecycleAction where
  | startCall (c : Caller)
  | stopCall (c : Caller)
  /-- The call of `c` goes on; `initialized` is what `initialize()` returns, if that is called. -/
  | call (c : Caller) (initialized : Bool)
  /-- Thread `t` goes on; `opened` tells whether the camera or socket opens, if it is opened now. -/
  | loop (t : Nat) (opened : Bool)
  | disable
  | enable

namespace Service

/-! ## The calls -/

/-- `c` gets to `pc`. -/
def goTo (s : Service) (c : Caller) (pc : CallPc) : Service :=
  { s with calls := Function.update s.calls c (some pc) }

/-- The call of `c` returns. -/
def finish (s : Service) (c : Caller) : Service :=
  { s with calls := Function.update s.calls c none }

@[simp] theorem goTo_calls (s : Service) (c : Caller) (pc : CallPc) :
    (s.goTo c pc).calls = Function.update s.calls c (some pc) := rfl

@[simp] theorem finish_calls (s : Service) (c : Caller) :
    (s.finish c).calls = Function.update s.calls c none := rfl

/-- `_serviceThread` is joined or detached. -/
def release (s : Service) : Service :=
  { s with serviceThread := none, endedAlone := false }

/-- `c` can make a call: it is not in one already, and a service thread calls from its loop body. -/
def mayCall (s : Service) (c : Caller) : Bool :=
  (s.calls c).isNone &&
    match c with
    | .other _ => true
    | .service t => s.threads t == some .body

/-- The next step of the call of `c`, which is at `pc`. -/
def callStep (s : Service) (c : Caller) (initialized : Bool) : CallPc → Option Service
  | .startTest =>
      if s.disabled then some (s.finish c)
      else if s.running then some (s.finish c)
      else if s.initialized then some (s.goTo c .startFlag)
      else some (s.goTo c .startInitialize)
  | .startInitialize =>
      if initialized then some ({ s with initialized := true }.goTo c .startFlag)
      else some ({ s with initialized := false }.finish c)
  | .startFlag => some ({ s with running := true }.goTo c .startLaunch)
  | .startLaunch =>
      some ({ s with
        threads := Function.update s.threads s.launched (some .entry)
        launched := s.launched + 1 }.goTo c (.startAssign s.launched))
  | .startAssign t =>
      -- assigning to a joinable `std::thread` terminates the process
      if s.serviceThread.isSome then some { s with terminated := true }
      else some ({ s with serviceThread := some t }.finish c)
  | .stopTest => if s.running then some (s.goTo c .stopFlag) else some (s.finish c)
  | .stopFlag => some ({ s with running := false }.goTo c .stopHandle)
  | .stopHandle =>
      match s.serviceThread with
      | none => some (s.finish c)
      | some t => if c = .service t then some (s.release.finish c) else some (s.goTo c (.stopJoin t))
  | .stopJoin t => if s.threads t = some .returned then some (s.release.finish c) else none

/-! ## The loop -/

/-- The next step of thread `t`, which is at `pc`. -/
def serviceFunction (s : Service) (t : Nat) (opened : Bool) : LoopPc → Option Service
  | .entry =>
      if opened then some { s with threads := Function.update s.threads t (some .loopTest) }
      else
        some { s with
          running := false
          endedAlone := s.endedAlone || s.running
          threads := Function.update s.threads t (some .leaving) }
  | .loopTest =>
      some { s with
        threads := Function.update s.threads t (some (if s.running then .body else .leaving)) }
  | .body => some { s with threads := Function.update s.threads t (some .loopTest) }
  | .leaving => some { s with threads := Function.update s.threads t (some .returned) }
  | .returned => none

/-- A thread in a call of its own goes on with that call first. -/
def loopStep (s : Service) (t : Nat) (opened : Bool) : Option Service :=
  if (s.calls (.service t)).isSome then none
  else (s.threads t).bind (s.serviceFunction t opened)

def disable (s : Service) : Service :=
  if s.running then s else { s with disabled := true }

def enable (s : Service) : Service := { s with disabled := false }

def step (s : Service) (a : LifecycleAction) : Option Service :=
  if s.terminated then none
  else
    match a with
    | .startCall c => if s.mayCall c then some (s.goTo c .startTest) else none
    | .stopCall c => if s.mayCall c then some (s.goTo c .stopTest) else none
    | .call c initialized => (s.calls c).bind (s.callStep c initialized)
    | .loop t opened => s.loopStep t opened
    | .disable => some s.disable
    | .enable => some s.enable

/-- A service that was just constructed. -/
def constructed : Service where
  disabled := false
  running := false
  initialized := false
  serviceThread := none
  terminated := false
  threads _ := none
  launched := 0
  calls _ := none
  endedAlone := false

/-- The service among its callers. -/
def system : System Service LifecycleAction where
  init s := s = constructed
  step := step

/-! ## What a step can do -/

/-- The steps of a call of `c` that is at a given point. -/
inductive CallSteps (s : Service) (c : Caller) : CallPc → Service → Prop where
  | refuse (h : s.disabled = true ∨ s.running = true) : CallSteps s c .startTest (s.finish c)
  | pass {pc : CallPc} (hdisabled : s.disabled = false) (hrunning : s.running = false)
      (hpc : pc = .startFlag ∨ pc = .startInitialize) : CallSteps s c .startTest (s.goTo c pc)
  | initialized : CallSteps s c .startInitialize ({ s with initialized := true }.goTo c .startFlag)
  | notInitialized : CallSteps s c .startInitialize ({ s with initialized := false }.finish c)
  | flag : CallSteps s c .startFlag ({ s with running := true }.goTo c .startLaunch)
  | launch :
      CallSteps s c .startLaunch ({ s with
        threads := Function.update s.threads s.launched (some .entry)
        launched := s.launched + 1 }.goTo c (.startAssign s.launched))
  | terminate {t : Nat} (h : s.serviceThread.isSome) :
      CallSteps s c (.startAssign t) { s with terminated := true }
  | assign {t : Nat} (h : s.serviceThread = none) :
      CallSteps s c (.startAssign t) ({ s with serviceThread := some t }.finish c)
  | stopped (h : s.running = false) : CallSteps s c .stopTest (s.finish c)
  | stop (h : s.running = true) : CallSteps s c .stopTest (s.goTo c .stopFlag)
  | clear : CallSteps s c .stopFlag ({ s with running := false }.goTo c .stopHandle)
  | noHandle (h : s.serviceThread = none) : CallSteps s c .stopHandle (s.finish c)
  | detach {t : Nat} (h : s.serviceThread = some t) (hc : c = .service t) :
      CallSteps s c .stopHandle (s.release.finish c)
  | wait {t : Nat} (h : s.serviceThread = some t) (hc : c ≠ .service t) :
      CallSteps s c .stopHandle (s.goTo c (.stopJoin t))
  | join {t : Nat} (h : s.threads t = some .returned) :
      CallSteps s c (.stopJoin t) (s.release.finish c)

theorem callSteps_of_callStep {s s' : Service} {c : Caller} {initialized : Bool} {pc : CallPc}
    (h : s.callStep c initialized pc = some s') : CallSteps s c pc s' := by
  cases pc with
  | startTest =>
      simp only [callStep] at h
      split at h
      · rename_i hd; cases h; exact .refuse (.inl hd)
      · rename_i hd
        split at h
        · rename_i hr; cases h; exact .refuse (.inr hr)
        · rename_i hr
          have hd := Bool.eq_false_iff.mpr hd
          have hr := Bool.eq_false_iff.mpr hr
          split at h
          · cases h; exact .pass hd hr (.inl rfl)
          · cases h; exact .pass hd hr (.inr rfl)
  | startInitialize =>
      simp only [callStep] at h
      split at h
      · cases h; exact .initialized
      · cases h; exact .notInitialized
  | startFlag => cases h; exact .flag
  | startLaunch => cases h; exact .launch
  | startAssign t =>
      simp only [callStep] at h
      split at h
      · rename_i hs; cases h; exact .terminate hs
      · rename_i hs; cases h; exact .assign (Option.not_isSome_iff_eq_none.mp hs)
  | stopTest =>
      simp only [callStep] at h
      split at h
      · rename_i hr; cases h; exact .stop hr
      · rename_i hr; cases h; exact .stopped (Bool.eq_false_iff.mpr hr)
  | stopFlag => cases h; exact .clear
  | stopHandle =>
      simp only [callStep] at h
      split at h
      · rename_i hs; cases h; exact .noHandle hs
      · rename_i t hs
        split at h
        · rename_i hc; cases h; exact .detach hs hc
        · rename_i hc; cases h; exact .wait hs hc
  | stopJoin t =>
      simp only [callStep] at h
      split at h
      · rename_i hj; cases h; exact .join hj
      · cases h

/-- The steps of the whole system. -/
inductive Steps (s : Service) : LifecycleAction → Service → Prop where
  | startCall {c : Caller} (h : s.mayCall c = true) : Steps s (.startCall c) (s.goTo c .startTest)
  | stopCall {c : Caller} (h : s.mayCall c = true) : Steps s (.stopCall c) (s.goTo c .stopTest)
  | call {c : Caller} {initialized : Bool} {pc : CallPc} {s' : Service} (hpc : s.calls c = some pc)
      (h : CallSteps s c pc s') : Steps s (.call c initialized) s'
  /-- A loop goes on, from one point to another. -/
  | advance {t : Nat} {opened : Bool} {pc pc' : LoopPc} (hcall : s.calls (.service t) = none)
      (hpc : s.threads t = some pc) (hlive : pc ≠ .returned) (hpc' : pc' ≠ .entry) :
      Steps s (.loop t opened) { s with threads := Function.update s.threads t (some pc') }
  /-- A loop gives up before its first iteration. -/
  | giveUp {t : Nat} (hcall : s.calls (.service t) = none) (hpc : s.threads t = some .entry) :
      Steps s (.loop t false) { s with
        running := false
        endedAlone := s.endedAlone || s.running
        threads := Function.update s.threads t (some .leaving) }
  | disable : Steps s .disable s.disable
  | enable : Steps s .enable s.enable

theorem steps_of_step {s s' : Service} {a : LifecycleAction} (h : s.step a = some s') :
    s.terminated = false ∧ Steps s a s' := by
  unfold step at h
  split at h
  · cases h
  · rename_i hterm
    refine ⟨Bool.eq_false_iff.mpr hterm, ?_⟩
    cases a with
    | startCall c =>
        obtain ⟨hmay, h⟩ := Option.ite_none_right_eq_some.mp h
        cases h
        exact .startCall hmay
    | stopCall c =>
        obtain ⟨hmay, h⟩ := Option.ite_none_right_eq_some.mp h
        cases h
        exact .stopCall hmay
    | call c initialized =>
        obtain ⟨pc, hpc, h⟩ := Option.bind_eq_some_iff.mp h
        exact .call hpc (callSteps_of_callStep h)
    | loop t opened =>
        obtain ⟨hcall, h⟩ := Option.ite_none_left_eq_some.mp h
        have hcall := Option.not_isSome_iff_eq_none.mp hcall
        obtain ⟨pc, hpc, h⟩ := Option.bind_eq_some_iff.mp h
        cases pc with
        | entry =>
            cases opened with
            | true => cases h; exact .advance hcall hpc (by decide) (by decide)
            | false => cases h; exact .giveUp hcall hpc
        | loopTest =>
            cases h
            refine .advance hcall hpc (by decide) ?_
            split <;> decide
        | body => cases h; exact .advance hcall hpc (by decide) (by decide)
        | leaving => cases h; exact .advance hcall hpc (by decide) (by decide)
        | returned => cases h
    | disable => cases h; exact .disable
    | enable => cases h; exact .enable

end Service

end Kufibot
