import Kufibot.Services.RobotController
import Kufibot.StateMachine.Stop

/-!
# `Services.RobotRestart` — `RobotControllerService` and its state machine, over starts and stops

The service is started and stopped from the console, one call at a time. The state machine of the robot
is started in `initialize`, which runs once, and stopped at the end of `service_function`; the
subscriptions stay. So a service that was stopped can be started again, takes commands and posts them,
but nobody starts the machine a second time (`restarted_robot_is_deaf`).
-/

namespace Kufibot

open Lib

/-- Where the thread of a joinable `_serviceThread` is. -/
inductive ServiceThread where
  /-- In the loop, where `RobotControllerService.pc` says. -/
  | inLoop
  /-- In `_robot.stop()`. -/
  | stopping
  | returned
deriving DecidableEq, Repr

/-- Where the console is in `start` or `stop`, behind the test of `_running`. -/
inductive ConsolePc where
  | startInitialize
  | startFlag
  | startLaunch
  | stopFlag
  | stopJoin
deriving DecidableEq, Repr

structure RobotLife where
  service : RobotControllerService
  /-- `_serviceThread`; `none` if it is not joinable. -/
  thread : Option ServiceThread
  /-- `_initialized` -/
  initialized : Bool
  call : Option ConsolePc
  machine : Machine ControlEvent

/-- What can happen next. -/
inductive RobotLifeAction where
  | start
  | stop
  /-- The call of the console goes on. -/
  | console
  | deliver (data : ControlData)
  /-- The service thread goes on. -/
  | service
  /-- Its wait ends although nobody notified. -/
  | spuriousWake
  /-- The worker of the machine, its wait, or a handler that schedules an event. -/
  | machine (a : LoopAction ControlEvent)

namespace RobotLife

/-- The next step of `start` or `stop`. -/
def consoleStep (s : RobotLife) : ConsolePc → Option RobotLife
  | .startInitialize =>
      -- `initialize()` subscribes, starts the machine and returns true
      s.machine.start.map fun machine =>
        { s with machine := machine, initialized := true, call := some .startFlag }
  | .startFlag => some { s with service := { s.service with running := true }, call := some .startLaunch }
  | .startLaunch =>
      match s.thread with
      | none =>
          some { s with service := { s.service with pc := .loopTest }, thread := some .inLoop, call := none }
      | some _ => none
  | .stopFlag => some { s with service := s.service.stop, call := some .stopJoin }
  | .stopJoin =>
      match s.thread with
      | none | some .returned => some { s with thread := none, call := none }
      | some _ => none

/-- The next step of the service thread. -/
def serviceStep (s : RobotLife) : Option RobotLife :=
  match s.thread with
  | none | some .returned => none
  | some .inLoop =>
      match s.service.pc, s.service.controlData with
      | .copySlot, some d =>
          (s.machine.step (.loop (.postEvent (toControlEvent d.data)))).bind fun machine =>
            s.service.serviceFunction.map fun service => { s with service := service, machine := machine }
      | .loopTest, _ =>
          s.service.serviceFunction.map fun service =>
            { s with service := service, thread := some (if s.service.running then .inLoop else .stopping) }
      | _, _ => s.service.serviceFunction.map fun service => { s with service := service }
  | some .stopping =>
      s.machine.stop.map fun machine =>
        { s with
          machine := machine
          thread := some (if machine.stopCall.isNone then .returned else .stopping) }

/-- A step of the machine on its own. Its handlers run in the worker; nobody else schedules an event. -/
def machineStep (s : RobotLife) (a : LoopAction ControlEvent) : Option RobotLife :=
  let step := (s.machine.step (.loop a)).map fun machine => { s with machine := machine }
  match a with
  | .postEvent _ => none
  | .postDelayedEvent _ _ _ =>
      if s.machine.worker = some .inLoop ∧ s.machine.loop.pc = .dispatching then step else none
  | _ => step

def step (s : RobotLife) : RobotLifeAction → Option RobotLife
  | .start =>
      if s.call.isSome then none
      else if s.service.running then some s
      else some { s with call := some (if s.initialized then .startFlag else .startInitialize) }
  | .stop =>
      if s.call.isSome then none
      else if s.service.running then some { s with call := some .stopFlag }
      else some s
  | .console => s.call.bind s.consoleStep
  | .deliver data => some { s with service := s.service.subcribedDataReceive data }
  | .service => s.serviceStep
  | .spuriousWake =>
      (s.service.step .spuriousWake).map fun service => { s with service := service }
  | .machine a => s.machineStep a

/-- The robot has just been constructed. -/
def constructed (clock : SteadyClock) (reads : Nat) : RobotLife where
  service := { RobotControllerService.initial with running := false, pc := .exited }
  thread := none
  initialized := false
  call := none
  machine := Machine.constructed clock reads

/-- The robot among its publishers and the console. -/
def system : System RobotLife RobotLifeAction where
  init s := ∃ clock reads, s = constructed clock reads
  step := step

theorem constructed_reachable (clock : SteadyClock) (reads : Nat) :
    system.Reachable (constructed clock reads) := .init ⟨clock, reads, rfl⟩

/-! ## What a step can do -/

/-- Everything an action can do, with its guards; of the service, what becomes of its posted events. -/
inductive Steps (s : RobotLife) : RobotLifeAction → RobotLife → Prop where
  | refuse {a : RobotLifeAction} : Steps s a s
  | startCall :
      Steps s .start { s with call := some (if s.initialized then .startFlag else .startInitialize) }
  | stopCall : Steps s .stop { s with call := some .stopFlag }
  | initialized {machine : Machine ControlEvent} (hcall : s.call = some .startInitialize)
      (hst : s.machine.step .start = some machine) :
      Steps s .console { s with machine := machine, initialized := true, call := some .startFlag }
  | flag (hcall : s.call = some .startFlag) :
      Steps s .console { s with service := { s.service with running := true }, call := some .startLaunch }
  | launch (hcall : s.call = some .startLaunch) :
      Steps s .console
        { s with service := { s.service with pc := .loopTest }, thread := some .inLoop, call := none }
  | clear : Steps s .console { s with service := s.service.stop, call := some .stopJoin }
  | join : Steps s .console { s with thread := none, call := none }
  /-- The service moves, or takes a delivery. -/
  | move {a : RobotLifeAction} {service : RobotControllerService}
      (hposted : service.posted = s.service.posted) : Steps s a { s with service := service }
  | post {n : Nat} {event : ControlEvent} {service : RobotControllerService} {machine : Machine ControlEvent}
      (hst : s.machine.step (.loop (.postEvent event)) = some machine)
      (hposted : service.posted = s.service.posted ++ [(n, event)]) :
      Steps s .service { s with service := service, machine := machine }
  | leave {service : RobotControllerService} (hthread : s.thread = some .inLoop)
      (hposted : service.posted = s.service.posted) :
      Steps s .service { s with service := service, thread := some .stopping }
  | stopMachine {machine : Machine ControlEvent} (hthread : s.thread = some .stopping)
      (hst : s.machine.step .stop = some machine) :
      Steps s .service { s with
        machine := machine
        thread := some (if machine.stopCall.isNone then .returned else .stopping) }
  /-- The worker, its waits, the clock and the handlers. -/
  | loop {a : LoopAction ControlEvent} {machine : Machine ControlEvent}
      (hst : s.machine.step (.loop a) = some machine) (hpost : ∀ event, a ≠ .postEvent event)
      (hhandler : ∀ event delayMs reading, a = .postDelayedEvent event delayMs reading →
        s.machine.worker = some .inLoop) :
      Steps s (.machine a) { s with machine := machine }

theorem posted_of_copySlot {s t : RobotControllerService} {d : Delivered} (hpc : s.pc = .copySlot)
    (hdata : s.controlData = some d) (h : s.serviceFunction = some t) :
    t.posted = s.posted ++ [(d.index, toControlEvent d.data)] := by
  simp only [RobotControllerService.serviceFunction, hpc, hdata, Option.map_some, Option.some.injEq] at h
  subst h
  rfl

theorem posted_of_serviceFunction {s t : RobotControllerService} (hpc : s.pc ≠ .copySlot)
    (h : s.serviceFunction = some t) : t.posted = s.posted := by
  unfold RobotControllerService.serviceFunction at h
  cases heq : s.pc with
  | copySlot => exact absurd heq hpc
  | blocked | exited => simp only [heq] at h; cases h
  | _ => simp only [heq] at h; cases h; rfl

theorem posted_stop (s : RobotControllerService) : s.stop.posted = s.posted := by
  unfold RobotControllerService.stop
  split <;> rfl

theorem steps_of_serviceStep {s t : RobotLife} (h : s.serviceStep = some t) : Steps s .service t := by
  unfold serviceStep at h
  split at h
  · cases h
  · cases h
  · rename_i hthread
    split at h
    · rename_i d hpc hdata
      obtain ⟨machine, hst, h⟩ := Option.bind_eq_some_iff.mp h
      obtain ⟨service, hservice, rfl⟩ := Option.map_eq_some_iff.mp h
      exact .post hst (posted_of_copySlot hpc hdata hservice)
    · rename_i hpc
      obtain ⟨service, hservice, rfl⟩ := Option.map_eq_some_iff.mp h
      have hposted := posted_of_serviceFunction (by rw [hpc]; nofun) hservice
      cases s.service.running with
      | true =>
          rw [if_pos rfl, ← hthread]
          exact .move hposted
      | false => exact .leave hthread hposted
    · rename_i hcopy
      obtain ⟨service, hservice, rfl⟩ := Option.map_eq_some_iff.mp h
      refine .move ?_
      by_cases hpc : s.service.pc = .copySlot
      · -- an empty slot is not copied
        have hdata : s.service.controlData = none :=
          Option.eq_none_iff_forall_ne_some.mpr fun d hd => hcopy d hpc hd
        simp only [RobotControllerService.serviceFunction, hpc, hdata, Option.map_none] at hservice
        cases hservice
      · exact posted_of_serviceFunction hpc hservice
  · rename_i hthread
    obtain ⟨machine, hst, rfl⟩ := Option.map_eq_some_iff.mp h
    exact .stopMachine hthread hst

theorem steps_of_machineStep {s t : RobotLife} {a : LoopAction ControlEvent} (h : s.machineStep a = some t) :
    Steps s (.machine a) t := by
  have hmove : (s.machine.step (.loop a)).map (fun machine => { s with machine := machine }) = some t →
      (∀ event, a ≠ .postEvent event) → (∀ event delayMs reading,
        a = .postDelayedEvent event delayMs reading → s.machine.worker = some .inLoop) →
      Steps s (.machine a) t := by
    intro hst hpost hhandler
    obtain ⟨machine, hmachine, rfl⟩ := Option.map_eq_some_iff.mp hst
    exact .loop hmachine hpost hhandler
  cases a with
  | postEvent event => simp only [machineStep, reduceCtorEq] at h
  | postDelayedEvent event delayMs reading =>
      simp only [machineStep] at h
      obtain ⟨hin, h⟩ := Option.ite_none_right_eq_some.mp h
      exact hmove h (fun _ heq => by cases heq) fun _ _ _ _ => hin.1
  | _ =>
      simp only [machineStep] at h
      exact hmove h (fun _ heq => by cases heq) fun _ _ _ heq => by cases heq

theorem steps_of_consoleStep {s t : RobotLife} {pc : ConsolePc} (hcall : s.call = some pc)
    (h : s.consoleStep pc = some t) : Steps s .console t := by
  cases pc with
  | startInitialize =>
      obtain ⟨machine, hst, rfl⟩ := Option.map_eq_some_iff.mp h
      exact .initialized hcall hst
  | startFlag => cases h; exact .flag hcall
  | startLaunch =>
      simp only [consoleStep] at h
      split at h
      · cases h; exact .launch hcall
      · cases h
  | stopFlag => cases h; exact .clear
  | stopJoin =>
      simp only [consoleStep] at h
      split at h
      · cases h; exact .join
      · cases h; exact .join
      · cases h

/-- **The inversion lemma.** A step is one of `Steps`. -/
theorem steps_of_step {s t : RobotLife} {a : RobotLifeAction} (h : s.step a = some t) : Steps s a t := by
  cases a with
  | start =>
      simp only [step] at h
      split at h
      · cases h
      · split at h
        · cases h; exact .refuse
        · cases h; exact .startCall
  | stop =>
      simp only [step] at h
      split at h
      · cases h
      · split at h
        · cases h; exact .stopCall
        · cases h; exact .refuse
  | console =>
      obtain ⟨pc, hcall, h⟩ := Option.bind_eq_some_iff.mp h
      exact steps_of_consoleStep hcall h
  | deliver data => cases h; exact .move rfl
  | service => exact steps_of_serviceStep h
  | spuriousWake =>
      obtain ⟨service, hst, rfl⟩ := Option.map_eq_some_iff.mp h
      refine .move ?_
      simp only [RobotControllerService.step] at hst
      split at hst
      · cases hst; rfl
      · cases hst
  | machine a => exact steps_of_machineStep h

/-! ## The machine is started once -/

/-- `initialize` is begun before it has run, the service thread is launched after it, and when this has
    returned, the machine is gone. -/
structure LifeInv (s : RobotLife) : Prop where
  starting : s.call = some .startInitialize → s.initialized = false
  started : s.call = some .startFlag ∨ s.call = some .startLaunch → s.initialized = true
  launched : s.thread ≠ none → s.initialized = true
  gone : s.thread = some .returned → s.machine.worker = none
  machine : (Machine.system ControlEvent).Reachable s.machine

/-- A stop of the machine that is over leaves no worker. -/
theorem worker_of_stop {m n : Machine ControlEvent} (hm : (Machine.system ControlEvent).Reachable m)
    (hst : m.step .stop = some n) (hover : n.stopCall = none) : n.worker = none := by
  cases Machine.steps_of_step hst with
  | refuse hcall hflag => exact (Machine.consistent_reachable hm).idle hflag hcall
  | join => rfl
  | call | clear | notify => cases hover

/-- No step but a start gives the machine a worker. -/
theorem worker_of_loop {m n : Machine ControlEvent} {a : LoopAction ControlEvent}
    (hst : m.step (.loop a) = some n) (hworker : m.worker = none) : n.worker = none := by
  cases Machine.steps_of_step hst with
  | loop => exact hworker
  | leave hin | testFalse hin | testTrue hin | block hin => rw [hworker] at hin; cases hin

theorem lifeInv_steps {s t : RobotLife} {a : RobotLifeAction} (h : LifeInv s) (hst : Steps s a t) :
    LifeInv t := by
  cases hst with
  | refuse => exact h
  | startCall =>
      refine ⟨fun hcall => ?_, fun hs => ?_, h.launched, h.gone, h.machine⟩
      · cases hinit : s.initialized with
        | true => simp only [hinit, if_true] at hcall; cases hcall
        | false => rfl
      · cases hinit : s.initialized with
        | true => rfl
        | false => rcases hs with hs | hs <;> simp only [hinit] at hs <;> cases hs
  | stopCall => exact ⟨nofun, nofun, h.launched, h.gone, h.machine⟩
  | initialized hcall hst =>
      refine ⟨nofun, fun _ => rfl, fun _ => rfl, fun hreturned => ?_, Machine.reachable_step h.machine hst⟩
      have hinit := h.launched (by rw [show s.thread = _ from hreturned]; nofun)
      cases hinit.symm.trans (h.starting hcall)
  | flag hcall => exact ⟨nofun, fun _ => h.started (.inl hcall), h.launched, h.gone, h.machine⟩
  | launch hcall => exact ⟨nofun, nofun, fun _ => h.started (.inr hcall), nofun, h.machine⟩
  | clear => exact ⟨nofun, nofun, h.launched, h.gone, h.machine⟩
  | join => exact ⟨nofun, nofun, fun hs => absurd rfl hs, nofun, h.machine⟩
  | move => exact ⟨h.starting, h.started, h.launched, h.gone, h.machine⟩
  | post hst =>
      exact ⟨h.starting, h.started, h.launched, fun hreturned => worker_of_loop hst (h.gone hreturned),
        Machine.reachable_step h.machine hst⟩
  | leave hthread =>
      exact ⟨h.starting, h.started, fun _ => h.launched (by rw [hthread]; nofun), nofun, h.machine⟩
  | @stopMachine machine hthread hst =>
      refine ⟨h.starting, h.started, fun _ => h.launched (by rw [hthread]; nofun), fun hreturned => ?_,
        Machine.reachable_step h.machine hst⟩
      refine worker_of_stop h.machine hst ?_
      cases hover : machine.stopCall with
      | none => rfl
      | some pc => simp only [hover] at hreturned; cases hreturned
  | loop hst =>
      exact ⟨h.starting, h.started, h.launched, fun hreturned => worker_of_loop hst (h.gone hreturned),
        Machine.reachable_step h.machine hst⟩

theorem lifeInv_reachable {s : RobotLife} (h : system.Reachable s) : LifeInv s := by
  refine h.invariant (I := LifeInv) ?_ fun s a t hs _ hst => lifeInv_steps hs (steps_of_step hst)
  rintro _ ⟨clock, reads, rfl⟩
  exact ⟨nofun, nofun, fun hs => absurd rfl hs, nofun, Machine.constructed_reachable clock reads⟩

/-! ## After the first stop -/

/-- `t` comes after `s`, whose machine is gone: nothing has been dispatched, and what the service has posted
    stands in the queue. -/
structure DeafSince (s t : RobotLife) : Prop where
  initialized : t.initialized = true
  worker : t.machine.worker = none
  dispatched : t.machine.loop.dispatched = s.machine.loop.dispatched
  queue : ∃ later, t.service.posted = s.service.posted ++ later ∧
    t.machine.loop.core.eventQueue.map Posted.event =
      s.machine.loop.core.eventQueue.map Posted.event ++ later.map Prod.snd

/-- The queue of a machine without a worker only takes what is posted, and nothing is dispatched. -/
theorem same_of_loop {m n : Machine ControlEvent} {a : LoopAction ControlEvent} (hworker : m.worker = none)
    (hst : m.step (.loop a) = some n) (hpost : ∀ event, a ≠ .postEvent event)
    (hhandler : ∀ event delayMs reading, a = .postDelayedEvent event delayMs reading →
      m.worker = some .inLoop) :
    n.loop.dispatched = m.loop.dispatched ∧ n.loop.core.eventQueue = m.loop.core.eventQueue := by
  cases Machine.steps_of_step hst with
  | leave hin | testFalse hin | testTrue hin | block hin => rw [hworker] at hin; cases hin
  | loop hloop hin =>
      cases a with
      | postEvent event => exact absurd rfl (hpost event)
      | postDelayedEvent event delayMs reading =>
          have hin := hhandler event delayMs reading rfl
          rw [hworker] at hin
          cases hin
      | worker =>
          have hin := (hin rfl).1
          rw [hworker] at hin
          cases hin
      | readClock => cases hloop; exact ⟨rfl, rfl⟩
      | spuriousWake =>
          simp only [Loop.step] at hloop
          split at hloop
          · cases hloop; exact ⟨rfl, rfl⟩
          · cases hloop
      | timeout =>
          simp only [Loop.step] at hloop
          split at hloop
          · obtain ⟨-, hloop⟩ := Option.ite_none_right_eq_some.mp hloop
            cases hloop
            exact ⟨rfl, rfl⟩
          · cases hloop

theorem deafSince_steps {s t u : RobotLife} {a : RobotLifeAction} (ht : LifeInv t) (h : DeafSince s t)
    (hst : Steps t a u) : DeafSince s u := by
  obtain ⟨hflag, hcall⟩ := (Machine.consistent_reachable ht.machine).gone h.worker
  cases hst with
  | refuse | startCall | stopCall | launch | join | flag =>
      exact ⟨h.initialized, h.worker, h.dispatched, h.queue⟩
  | initialized hstarting =>
      have hinit := ht.starting hstarting
      rw [h.initialized] at hinit
      cases hinit
  | clear =>
      refine ⟨h.initialized, h.worker, h.dispatched, ?_⟩
      show ∃ later, t.service.stop.posted = _ ∧ _
      rw [posted_stop]
      exact h.queue
  | move hposted | leave _ hposted =>
      obtain ⟨later, hlater, hqueue⟩ := h.queue
      exact ⟨h.initialized, h.worker, h.dispatched, later, hposted.trans hlater, hqueue⟩
  | @post n event service machine hst hposted =>
      obtain ⟨loop, hloop, rfl⟩ := Option.map_eq_some_iff.mp hst
      obtain ⟨-, hloop⟩ := Option.ite_none_left_eq_some.mp hloop
      cases hloop
      obtain ⟨later, hlater, hqueue⟩ := h.queue
      refine ⟨h.initialized, h.worker, h.dispatched, later ++ [(n, event)], ?_, ?_⟩
      · show service.posted = _
        rw [hposted, hlater, List.append_assoc]
      · show (t.machine.loop.core.eventQueue ++ [_]).map Posted.event = _
        rw [List.map_append, hqueue, List.map_append, List.append_assoc]
        rfl
  | stopMachine hthread hst =>
      -- a stop of the machine that is not running returns at once
      have hsame : t.machine.stop = some t.machine := by
        simp only [Machine.stop, hcall, hflag, Bool.false_eq_true, if_false]
      obtain rfl := Option.some.inj (hsame.symm.trans hst)
      exact ⟨h.initialized, h.worker, h.dispatched, h.queue⟩
  | loop hst hpost hhandler =>
      obtain ⟨hdispatched, hqueue⟩ := same_of_loop h.worker hst hpost hhandler
      refine ⟨h.initialized, worker_of_loop hst h.worker, hdispatched.trans h.dispatched, ?_⟩
      rw [hqueue]
      exact h.queue

/-- **A restarted robot is deaf.** Once the service thread has returned from its first stop, nothing is
    dispatched any more, whatever is started, stopped and delivered; what the service posts then stands in
    the queue for good. -/
theorem restarted_robot_is_deaf {s t : RobotLife} {tr : List (RobotLife × RobotLifeAction)}
    (h : system.Reachable s) (hreturned : s.thread = some .returned) (hrun : system.Run s tr t) :
    t.machine.loop.dispatched = s.machine.loop.dispatched ∧ ∃ later,
      t.service.posted = s.service.posted ++ later ∧
        t.machine.loop.core.eventQueue.map Posted.event =
          s.machine.loop.core.eventQueue.map Posted.event ++ later.map Prod.snd := by
  have hs := lifeInv_reachable h
  have hinit := hs.launched (by rw [hreturned]; nofun)
  have hsince : LifeInv t ∧ DeafSince s t := by
    refine hrun.invariant (I := fun u => LifeInv u ∧ DeafSince s u) ?_
      ⟨hs, hinit, hs.gone hreturned, rfl, [], (List.append_nil _).symm, (List.append_nil _).symm⟩
    rintro u a v ⟨hu, hsince⟩ hst
    exact ⟨lifeInv_steps hu (steps_of_step hst), deafSince_steps hu hsince (steps_of_step hst)⟩
  exact ⟨hsince.2.dispatched, hsince.2.queue⟩

/-- The service is started, takes a command, which the machine dispatches, and is stopped. -/
def commandedAndStopped : List RobotLifeAction :=
  [.start, .console, .console, .console, .service, .service, .deliver { leftEye := some true }, .service,
    .service, .service, .machine .worker, .machine .worker, .machine .worker, .machine .worker,
    .machine .worker, .stop, .console, .service, .service, .service, .service, .machine .worker, .service]

def robotStopped : RobotLife :=
  (system.exec (constructed (tickingClock 1000) 0) commandedAndStopped).getD
    (constructed (tickingClock 1000) 0)

/-- It is started again, and takes a command. -/
def restartedAndCommanded : List RobotLifeAction :=
  [.console, .start, .console, .console, .service, .service, .deliver { leftEye := some false }, .service,
    .service, .service, .service, .service]

/-- It runs and waits for the next command, and the one that it has posted is not dispatched. -/
theorem restarted_robot_is_deaf_eye : ∃ t : RobotLife,
    t.service.running = true ∧ t.service.pc = .blocked ∧ t.machine.loop.core.eventQueue.length = 1 ∧
      t.machine.loop.dispatched = robotStopped.machine.loop.dispatched ∧ ∃ later,
        t.service.posted = robotStopped.service.posted ++ later ∧
          t.machine.loop.core.eventQueue.map Posted.event =
            robotStopped.machine.loop.core.eventQueue.map Posted.event ++ later.map Prod.snd := by
  have hstopped : system.exec (constructed (tickingClock 1000) 0) commandedAndStopped =
    some robotStopped := rfl
  have hreach := System.reachableVia_of_exec (constructed_reachable _ _) (fun _ _ _ => trivial) hstopped
  have hrestarted : system.exec robotStopped restartedAndCommanded = some _ := rfl
  obtain ⟨tr, hrun, -⟩ := System.Run.of_exec hrestarted
  exact ⟨_, rfl, rfl, rfl, restarted_robot_is_deaf hreach rfl hrun⟩

end RobotLife

end Kufibot
