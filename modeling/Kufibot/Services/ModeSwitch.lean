import Kufibot.Services.MessageFabric
import Kufibot.Services.OneMaster
import Kufibot.Services.Subscription

/-!
# `Services.ModeSwitch` — the messages that start and stop the services

The robot expresses itself and follows faces while its mode is on, and obeys a client while it is off. There
is no variable for the mode: `RemoteConnectionService` publishes `AIModeOnCall` or `AIModeOffCall`, and each
subscriber starts or stops itself, one after another, in the order of the subscriptions. Meanwhile the
thread of `ExpressionService` publishes `StopPerceptionRequest` and `StartPerceptionRequest` around each
gesture, which stop and start the camera and the tracker.

So three services are started and stopped by several threads. Each of them is a `Service`
(`Services.Lifecycle`), statement by statement; the two publishers walk over the lists of `Services`
(`Services.Subscription`), and a handler that stops a service waits for its thread. The camera may fail to
open; the console starts and stops what it can, and a query stops the tracker at any time.

The services have been constructed and started by `main`. What they do besides is left out, and so are the
other subscribers: they only delay a publication.
-/

namespace Kufibot

open Lib MessageFabric

/-- The services that the mode messages start and stop. -/
inductive ModeService where
  | expression | perception | tracker
deriving DecidableEq, Repr

/-- The threads that start and stop them. -/
inductive ModeThread where
  /-- The thread of `RemoteConnectionService`. -/
  | remote
  /-- A thread of `ExpressionService`. -/
  | expression (t : Nat)
  /-- The console, or the thread that brings a query to `InteractiveChatService`. -/
  | outside (n : Nat)
deriving DecidableEq, Repr

/-- None of them is a thread of the service that it calls. -/
def ModeThread.caller : ModeThread → Caller
  | .remote => .other 0
  | .expression t => .other (2 * t + 1)
  | .outside n => .other (2 * n + 2)

/-- What `subcribed_data_receive` does with a mode message. -/
inductive ModeRequest where
  | start
  /-- `if (!_running) start();` -/
  | startIdle
  | stop
deriving DecidableEq, Repr

/-- The branches of `subcribed_data_receive` that start or stop the service. -/
def modeRequest : ServiceId → MessageType → Option (ModeService × ModeRequest)
  | .expression, .aiModeOnCall => some (.expression, .start)
  | .expression, .aiModeOffCall => some (.expression, .stop)
  | .perception, .aiModeOnCall | .perception, .aiModeOffCall | .perception, .startPerceptionRequest =>
      some (.perception, .startIdle)
  | .perception, .stopPerceptionRequest => some (.perception, .stop)
  | .tracker, .startPerceptionRequest | .tracker, .gesturePerformanceCompleted | .tracker, .aiModeOnCall =>
      some (.tracker, .start)
  | .tracker, .stopPerceptionRequest | .tracker, .interactiveChatStarted | .tracker, .aiModeOffCall =>
      some (.tracker, .stop)
  | _, _ => none

/-- A `publish` under way. -/
structure Publication where
  type : MessageType
  /-- The subscribers that it has not got behind. -/
  rest : List ServiceId
  /-- The handler of the first of them has called `start` or `stop`. -/
  called : Bool
deriving DecidableEq, Repr

/-- The publication has got behind a subscriber. -/
def Publication.next (p : Publication) (rest : List ServiceId) : Publication := ⟨p.type, rest, false⟩

structure ModeSwitch where
  service : ModeService → Service
  network : Services ServiceId
  /-- What `RemoteConnectionService` publishes. -/
  remote : Option Publication
  /-- What a thread of `ExpressionService` publishes. -/
  mimic : Option (Nat × Publication)
  /-- The threads of `ExpressionService` that are between the two publications of `makeMimic`. -/
  performing : Nat → Bool

/-- What can happen next. -/
inductive ModeAction where
  /-- `RemoteConnectionService` publishes `AIModeOnCall`, or `AIModeOffCall`. -/
  | publishMode (on : Bool)
  /-- Its publication goes on. -/
  | deliverMode
  /-- Thread `t` of `ExpressionService` begins with `makeMimic`. -/
  | makeMimic (t : Nat)
  /-- Its gesture is over. -/
  | motionDone (t : Nat)
  /-- A publication of `ExpressionService` goes on. -/
  | deliverMimic
  /-- The console starts a service, or the console or a query stops one. -/
  | startCall (m : ModeService) (n : Nat)
  | stopCall (m : ModeService) (n : Nat)
  /-- A call of `start` or `stop` goes on. -/
  | call (m : ModeService) (x : ModeThread) (initialized : Bool)
  /-- Thread `t` of a service goes on; `opened` tells whether the camera opens, if it is opened now. -/
  | loop (m : ModeService) (t : Nat) (opened : Bool)
  /-- Another service is initialised, or the client comes or goes. -/
  | subscription (call : SubscriptionCall ServiceId)

namespace ModeSwitch

/-! ## The steps -/

/-- A step of one of the services. -/
def serviceStep (s : ModeSwitch) (m : ModeService) (a : LifecycleAction) : Option ModeSwitch :=
  ((s.service m).step a).map fun service => { s with service := Function.update s.service m service }

/-- The publication `p` of thread `x` goes on: the handler of the next subscriber calls, or has returned. -/
def deliver (s : ModeSwitch) (x : ModeThread) (p : Publication) : Option (ModeSwitch × Option Publication) :=
  match p.rest with
  | [] => some (s, none)
  | r :: rest =>
      match modeRequest r p.type with
      | none => some (s, some (p.next rest))
      | some (m, request) =>
          if p.called then
            if (s.service m).calls x.caller = none then some (s, some (p.next rest)) else none
          else
            match request with
            | .start => (s.serviceStep m (.startCall x.caller)).map fun s => (s, some { p with called := true })
            | .startIdle =>
                if (s.service m).running then some (s, some (p.next rest))
                else (s.serviceStep m (.startCall x.caller)).map fun s => (s, some { p with called := true })
            | .stop => (s.serviceStep m (.stopCall x.caller)).map fun s => (s, some { p with called := true })

/-- Thread `t` of `ExpressionService` is in `makeMimic`. -/
def inMimic (s : ModeSwitch) (t : Nat) : Bool := s.performing t || (s.mimic.map Prod.fst == some t)

/-- The console has no command for the tracker. -/
def console : ModeService → Bool
  | .tracker => false
  | _ => true

/-- Only a service with a camera can fail behind `start`. -/
def opens (m : ModeService) (opened : Bool) : Bool :=
  match m with
  | .perception => opened
  | _ => true

/-- The subscriptions that change once `main` is done: those of a service that is initialised later on, and
    those of the remote service. -/
def mayChange : SubscriptionCall ServiceId → Bool
  | .subscribeToService _ _ => true
  | .unsubscribeFromService self _ => self = .remote
  | .unsubscribeAllServices _ => false

/-- The process goes on as long as no thread was assigned over a joinable one. -/
def alive (s : ModeSwitch) : Bool :=
  !(s.service .expression).terminated && !(s.service .perception).terminated &&
    !(s.service .tracker).terminated

def step (s : ModeSwitch) (a : ModeAction) : Option ModeSwitch :=
  if s.alive then
    match a with
    | .publishMode on =>
        if s.remote.isSome then none
        else
          let type := if on then .aiModeOnCall else .aiModeOffCall
          some { s with remote := some ⟨type, s.network.subscribers .remote, false⟩ }
    | .deliverMode =>
        s.remote.bind fun p => (s.deliver .remote p).map fun r => { r.1 with remote := r.2 }
    | .makeMimic t =>
        if s.mimic.isNone ∧ s.performing t = false ∧ (s.service .expression).threads t = some .body then
          some { s with
            mimic := some (t, ⟨.stopPerceptionRequest, s.network.subscribers .expression, false⟩) }
        else none
    | .motionDone t =>
        if s.mimic.isNone ∧ s.performing t then
          some { s with
            mimic := some (t, ⟨.startPerceptionRequest, s.network.subscribers .expression, false⟩)
            performing := Function.update s.performing t false }
        else none
    | .deliverMimic =>
        s.mimic.bind fun (t, p) => (s.deliver (.expression t) p).map fun r =>
          match r.2 with
          | some p' => { r.1 with mimic := some (t, p') }
          | none =>
              -- the gesture follows the first publication
              let begun := p.type = .stopPerceptionRequest
              { r.1 with mimic := none, performing := Function.update r.1.performing t begun }
    | .startCall m n =>
        if console m then s.serviceStep m (.startCall (ModeThread.outside n).caller) else none
    | .stopCall m n => s.serviceStep m (.stopCall (ModeThread.outside n).caller)
    | .call m x initialized => s.serviceStep m (.call x.caller initialized)
    | .loop m t opened =>
        if m = .expression ∧ s.inMimic t then none else s.serviceStep m (.loop t (opens m opened))
    | .subscription call =>
        if mayChange call then (s.network.step call).map fun network => { s with network := network }
        else none
  else none

/-- A service that was just started. -/
def startedService : Service :=
  { Service.constructed with
    running := true
    initialized := true
    serviceThread := some 0
    threads := Function.update Service.constructed.threads 0 (some .entry)
    launched := 1 }

/-- The subscriptions that `main` makes until all of them are started. -/
def startUp : List (SubscriptionCall ServiceId) :=
  [.subscribeToService .expression .chat, .subscribeToService .expression .rag,
    .subscribeToService .expression .tui, .subscribeToService .expression .tracker,
    .subscribeToService .expression .remote, .subscribeToService .expression .voiceAgent,
    .subscribeToService .perception .remote, .subscribeToService .perception .expression,
    .subscribeToService .robot .mapping, .subscribeToService .robot .expression,
    .subscribeToService .robot .tui, .subscribeToService .robot .chat,
    .subscribeToService .robot .tracker, .subscribeToService .robot .remote,
    .subscribeToService .robot .voiceAgent,
    .subscribeToService .tracker .perception, .subscribeToService .tracker .chat,
    .subscribeToService .tracker .robot, .subscribeToService .tracker .expression,
    .subscribeToService .tracker .remote]

/-- `main` has started the services. -/
def started (network : Services ServiceId) : ModeSwitch where
  service _ := startedService
  network := network
  remote := none
  mimic := none
  performing _ := false

def system : System ModeSwitch ModeAction where
  init s := ∃ network, Services.system.exec Services.initial startUp = some network ∧ s = started network
  step := step

/-! ## What a step can do -/

/-- How a publication of thread `x` goes on. -/
inductive Delivers (s : ModeSwitch) (x : ModeThread) (p : Publication) :
    ModeSwitch → Option Publication → Prop where
  | finished (hrest : p.rest = []) : Delivers s x p s none
  /-- The handler of the next subscriber does nothing. -/
  | skip {r : ServiceId} {rest : List ServiceId} (hrest : p.rest = r :: rest)
      (hskip : ∀ m, modeRequest r p.type ≠ some (m, .stop)) (hcalled : modeRequest r p.type = none ∨
        p.called = false) : Delivers s x p s (some (p.next rest))
  | call {r : ServiceId} {rest : List ServiceId} {m : ModeService} {request : ModeRequest}
      {a : LifecycleAction} {service : Service} (hrest : p.rest = r :: rest)
      (hrequest : modeRequest r p.type = some (m, request)) (hcalled : p.called = false)
      (ha : a = if request = .stop then .stopCall x.caller else .startCall x.caller)
      (hst : (s.service m).step a = some service) :
      Delivers s x p { s with service := Function.update s.service m service }
        (some { p with called := true })
  /-- The handler of the next subscriber has returned. -/
  | back {r : ServiceId} {rest : List ServiceId} {m : ModeService} {request : ModeRequest}
      (hrest : p.rest = r :: rest) (hrequest : modeRequest r p.type = some (m, request))
      (hcalled : p.called = true) (hback : (s.service m).calls x.caller = none) :
      Delivers s x p s (some (p.next rest))

theorem delivers_of_deliver {s t : ModeSwitch} {x : ModeThread} {p : Publication} {p' : Option Publication}
    (h : s.deliver x p = some (t, p')) : Delivers s x p t p' := by
  unfold deliver at h
  split at h
  · rename_i hrest
    cases h
    exact .finished hrest
  · rename_i r rest hrest
    split at h
    · rename_i hnone
      cases h
      exact .skip hrest (by rw [hnone]; nofun) (.inl hnone)
    · rename_i m request hrequest
      split at h
      · rename_i hcalled
        obtain ⟨hback, h⟩ := Option.ite_none_right_eq_some.mp h
        cases h
        exact .back hrest hrequest hcalled hback
      · rename_i hcalled
        have hcalled := Bool.eq_false_iff.mpr hcalled
        have hcall : ∀ {a : LifecycleAction},
            (s.serviceStep m a).map (fun s => (s, some { p with called := true })) = some (t, p') →
            (a = if request = .stop then .stopCall x.caller else .startCall x.caller) →
            Delivers s x p t p' := by
          intro a h ha
          obtain ⟨t', ht', heq⟩ := Option.map_eq_some_iff.mp h
          obtain ⟨service, hst, rfl⟩ := Option.map_eq_some_iff.mp ht'
          cases heq
          exact .call hrest hrequest hcalled ha hst
        cases request with
        | start => exact hcall h rfl
        | stop => exact hcall h rfl
        | startIdle =>
            simp only at h
            split at h
            · cases h
              exact .skip hrest (by rw [hrequest]; simp) (.inr hcalled)
            · exact hcall h rfl

/-- Everything an action can do, with its guards. -/
inductive Steps (s : ModeSwitch) : ModeAction → ModeSwitch → Prop where
  | publishMode {on : Bool} (hnone : s.remote = none) :
      Steps s (.publishMode on) { s with
        remote := some ⟨if on then .aiModeOnCall else .aiModeOffCall, s.network.subscribers .remote, false⟩ }
  | deliverMode {p : Publication} {t : ModeSwitch} {p' : Option Publication} (hp : s.remote = some p)
      (h : Delivers s .remote p t p') : Steps s .deliverMode { t with remote := p' }
  | makeMimic {t : Nat} (hnone : s.mimic = none) (hidle : s.performing t = false)
      (hbody : (s.service .expression).threads t = some .body) :
      Steps s (.makeMimic t) { s with
        mimic := some (t, ⟨.stopPerceptionRequest, s.network.subscribers .expression, false⟩) }
  | motionDone {t : Nat} (hnone : s.mimic = none) (hperforming : s.performing t = true) :
      Steps s (.motionDone t) { s with
        mimic := some (t, ⟨.startPerceptionRequest, s.network.subscribers .expression, false⟩)
        performing := Function.update s.performing t false }
  | deliverMimic {t : Nat} {p p' : Publication} {u : ModeSwitch} (hp : s.mimic = some (t, p))
      (h : Delivers s (.expression t) p u (some p')) : Steps s .deliverMimic { u with mimic := some (t, p') }
  | mimicOver {t : Nat} {p : Publication} (hp : s.mimic = some (t, p)) (hrest : p.rest = []) :
      Steps s .deliverMimic { s with
        mimic := none
        performing := Function.update s.performing t (p.type = .stopPerceptionRequest) }
  | startCall {m : ModeService} {n : Nat} {service : Service} (hm : m ≠ .tracker)
      (hst : (s.service m).step (.startCall (ModeThread.outside n).caller) = some service) :
      Steps s (.startCall m n) { s with service := Function.update s.service m service }
  | stopCall {m : ModeService} {n : Nat} {service : Service}
      (hst : (s.service m).step (.stopCall (ModeThread.outside n).caller) = some service) :
      Steps s (.stopCall m n) { s with service := Function.update s.service m service }
  | call {m : ModeService} {x : ModeThread} {initialized : Bool} {service : Service}
      (hst : (s.service m).step (.call x.caller initialized) = some service) :
      Steps s (.call m x initialized) { s with service := Function.update s.service m service }
  | loop {m : ModeService} {t : Nat} {opened : Bool} {service : Service}
      (hfree : m = .expression → s.inMimic t = false)
      (hst : (s.service m).step (.loop t (opens m opened)) = some service) :
      Steps s (.loop m t opened) { s with service := Function.update s.service m service }
  | subscription {call : SubscriptionCall ServiceId} {network : Services ServiceId}
      (hmay : mayChange call = true) (hst : s.network.step call = some network) :
      Steps s (.subscription call) { s with network := network }

theorem steps_of_step {s t : ModeSwitch} {a : ModeAction} (h : s.step a = some t) : Steps s a t := by
  unfold step at h
  obtain ⟨-, h⟩ := Option.ite_none_right_eq_some.mp h
  cases a with
  | publishMode on =>
      obtain ⟨hnone, h⟩ := Option.ite_none_left_eq_some.mp h
      cases h
      exact .publishMode (Option.not_isSome_iff_eq_none.mp hnone)
  | deliverMode =>
      obtain ⟨p, hp, h⟩ := Option.bind_eq_some_iff.mp h
      obtain ⟨⟨t', p'⟩, hdeliver, rfl⟩ := Option.map_eq_some_iff.mp h
      exact .deliverMode hp (delivers_of_deliver hdeliver)
  | makeMimic t =>
      obtain ⟨⟨hnone, hidle, hbody⟩, h⟩ := Option.ite_none_right_eq_some.mp h
      cases h
      exact .makeMimic (Option.isNone_iff_eq_none.mp hnone) hidle hbody
  | motionDone t =>
      obtain ⟨⟨hnone, hperforming⟩, h⟩ := Option.ite_none_right_eq_some.mp h
      cases h
      exact .motionDone (Option.isNone_iff_eq_none.mp hnone) hperforming
  | deliverMimic =>
      obtain ⟨⟨t, p⟩, hp, h⟩ := Option.bind_eq_some_iff.mp h
      obtain ⟨⟨t', p'⟩, hdeliver, rfl⟩ := Option.map_eq_some_iff.mp h
      cases p' with
      | some p' => exact .deliverMimic hp (delivers_of_deliver hdeliver)
      | none =>
          cases delivers_of_deliver hdeliver with
          | finished hrest => exact .mimicOver hp hrest
  | startCall m n =>
      obtain ⟨hm, h⟩ := Option.ite_none_right_eq_some.mp h
      obtain ⟨service, hst, rfl⟩ := Option.map_eq_some_iff.mp h
      exact .startCall (by rintro rfl; cases hm) hst
  | stopCall m n =>
      obtain ⟨service, hst, rfl⟩ := Option.map_eq_some_iff.mp h
      exact .stopCall hst
  | call m x initialized =>
      obtain ⟨service, hst, rfl⟩ := Option.map_eq_some_iff.mp h
      exact .call hst
  | loop m t opened =>
      obtain ⟨hfree, h⟩ := Option.ite_none_left_eq_some.mp h
      obtain ⟨service, hst, rfl⟩ := Option.map_eq_some_iff.mp h
      exact .loop (fun hm => Bool.eq_false_iff.mpr fun ht => hfree ⟨hm, ht⟩) hst
  | subscription call =>
      obtain ⟨hmay, h⟩ := Option.ite_none_right_eq_some.mp h
      obtain ⟨network, hst, rfl⟩ := Option.map_eq_some_iff.mp h
      exact .subscription hmay hst

end ModeSwitch

end Kufibot
