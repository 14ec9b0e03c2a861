import Kufibot.Operators.WebSocketOperator
import Kufibot.Services.RemoteConnection

/-!
# `Services.RemoteStream` — the camera stream to a remote client

`RemoteConnectionService::service_function` starts the websocket server, sends every camera frame and the
sensor data behind it to the client whose handle the handlers wrote into `_hdl`, and stops the server behind
its loop. The handlers are called by `_server->run()`, which holds the mutex that a send needs. So

* nothing is ever sent (`nothing_is_sent`): who has a handle has a server that serves;
* the first frame for a client blocks the service for good, with all later messages of its clients
  (`first_frame_blocks`);
* the service can be stopped iff the server does not serve yet (`stop_returns_iff`).

All of this holds as long as no exception leaves `run()` (`NoEscape`). The frames are those of any publisher:
in this repository `PerceptionService::publishVideoFrame` builds them, and nobody calls it.
-/

namespace Kufibot

open Lib WebSocketOperator

/-- What is sent to a client: a frame, or the JSON text of the sensor data, which is empty without any. -/
inductive StreamPayload (V D : Type) where
  | binary (frame : V)
  | text (sensorData : Option D)

/-- Where the service thread is, as far as the server is concerned. -/
inductive StreamPc where
  /-- In `_webSocketOperator.start()`. -/
  | starting
  | looping
  | sendingBinary
  | sendingText
  /-- Behind the loop, in `_webSocketOperator.stop()`. -/
  | stopping
  | returned
deriving DecidableEq, Repr

structure RemoteStream (H V D : Type) where
  service : RemoteConnectionService H V D
  operator : WebSocketOperator H (StreamPayload V D)
  pc : StreamPc

/-- What can happen next. -/
inductive StreamAction (H V D : Type) where
  /-- The service thread goes on; `raises` tells whether websocketpp throws in a call of the operator. -/
  | service (raises : Bool)
  | server (raises : Bool)
  | broadcast (binds : Bool) (message : Option String)
  /-- The server calls a handler. -/
  | notify (n : Notification H)
  | frame (v : V)
  | sensorData (d : D)
  /-- `Service::stop`, up to the join. -/
  | stop
  /-- `Service::start` of a service whose thread was joined. -/
  | restart

namespace RemoteStream

variable {H V D : Type}

/-! ## The service and its server -/

/-- The next step of the service thread. A call of the operator comes to its end first. -/
def serviceStep (parse : String → Option Json) (raises : Bool) (s : RemoteStream H V D) :
    Option (RemoteStream H V D) :=
  match s.operator.call with
  | some call => (s.operator.callStep raises call).map fun operator => { s with operator := operator }
  | none =>
      match s.pc with
      | .starting => some { s with pc := .looping }
      | .looping =>
          match s.service.pc with
          | .sendFrame =>
              match s.service.link.hdl, s.service.frame with
              | some hdl, some frame =>
                  some { s with operator := s.operator.goTo (.send hdl (.binary frame)), pc := .sendingBinary }
              | _, _ => none
          | .exited => some { s with operator := s.operator.goTo .stopTest, pc := .stopping }
          | _ => (s.service.serviceFunction parse).map fun service => { s with service := service }
      | .sendingBinary =>
          s.service.link.hdl.map fun hdl =>
            { s with
              service := { s.service with frame := none }
              operator := s.operator.goTo (.send hdl (.text s.service.sensorData))
              pc := .sendingText }
      | .sendingText =>
          some { s with service := { s.service with sensorData := none, pc := .loopTest }, pc := .looping }
      | .stopping => some { s with pc := .returned }
      | .returned => none

def step (parse : String → Option Json) (s : RemoteStream H V D) :
    StreamAction H V D → Option (RemoteStream H V D)
  | .service raises => s.serviceStep parse raises
  | .server raises =>
      (s.operator.step (.server raises)).map fun operator => { s with operator := operator }
  | .broadcast binds message =>
      (s.operator.step (.broadcast binds message)).map fun operator => { s with operator := operator }
  | .notify n =>
      if s.operator.serverThread = some .serving then some { s with service := s.service.handleWebsocket n }
      else none
  | .frame v => some { s with service := { s.service with frame := some v } }
  | .sensorData d => some { s with service := { s.service with sensorData := some d } }
  | .stop => some { s with service := { s.service with running := false } }
  | .restart =>
      if s.pc = .returned then
        some { service := { s.service with running := true, pc := .loopTest }
               operator := s.operator.goTo .startTest
               pc := .starting }
      else none

/-- The service has just been started for the first time. -/
def initial (port : Nat) : RemoteStream H V D where
  service := RemoteConnectionService.initial
  operator := (constructed port).goTo .startTest
  pc := .starting

/-- The service with its server, among its clients, its publishers and whoever starts and stops it. -/
def system (parse : String → Option Json) : System (RemoteStream H V D) (StreamAction H V D) where
  init s := ∃ port, s = initial port
  step := step parse

theorem initial_reachable {parse : String → Option Json}
    {Ok : RemoteStream H V D → StreamAction H V D → Prop} (port : Nat) :
    (system parse).ReachableVia Ok (initial port) := .init ⟨port, rfl⟩

/-- `run` is not left by an exception. -/
def NoEscape (s : RemoteStream H V D) (a : StreamAction H V D) : Prop :=
  s.operator.serverThread = some .serving → a ≠ .server true

/-! ## The invariant -/

/-- Where the service thread makes a call. -/
def phaseOf {P : Type} : OperatorPc H P → StreamPc
  | .startTest | .startServer | .startThreads => .starting
  | .send _ _ => .sendingBinary
  | .stopTest | .stopServer | .joinServer | .joinBroadcast | .resetServer => .stopping

/-- **A client has a server that serves**, and therefore no call that needs the mutex gets on. -/
structure StreamInv (s : RemoteStream H V D) : Prop where
  operator : s.operator.Consistent
  call : ∀ call, s.operator.call = some call → phaseOf call = s.pc
  hdl : s.service.link.hdl ≠ none → s.operator.serverThread = some .serving
  sending : s.pc = .sendingBinary → s.operator.call ≠ none ∧ s.operator.serverThread = some .serving
  text : s.pc ≠ .sendingText
  ended : s.pc = .stopping ∨ s.pc = .returned → s.operator.call = none → s.operator.running = false
  sent : s.operator.sent = []

/-- A call stays in its phase until it returns. -/
theorem phaseOf_steps {P : Type} {op t : WebSocketOperator H P} {a : Action} {pc : StreamPc}
    (hphase : ∀ call, op.call = some call → phaseOf call = pc) (hst : Steps op a t) :
    ∀ call, t.call = some call → phaseOf call = pc := by
  cases hst with
  | refuse => exact fun _ => (nomatch ·)
  | launch hcall _ => rintro _ ⟨⟩; rw [← hphase _ hcall]; rfl
  | build hcall _ => rintro _ ⟨⟩; rw [← hphase _ hcall]; rfl
  | spawn => exact fun _ => (nomatch ·)
  | clearFlag hcall _ => rintro _ ⟨⟩; rw [← hphase _ hcall]; rfl
  | stopServer hcall _ => rintro _ ⟨⟩; rw [← hphase _ hcall]; rfl
  | joinServer hcall => rintro _ ⟨⟩; rw [← hphase _ hcall]; rfl
  | joinBroadcast hcall => rintro _ ⟨⟩; rw [← hphase _ hcall]; rfl
  | reset => exact fun _ => (nomatch ·)
  | send => exact fun _ => (nomatch ·)
  | _ => exact hphase

/-- Behind a stop the flag is cleared. -/
theorem running_steps {P : Type} {op t : WebSocketOperator H P} {a : Action} {pc : StreamPc}
    (h : op.Consistent) (hphase : ∀ call, op.call = some call → phaseOf call = pc)
    (hpc : pc = .stopping ∨ pc = .returned) (hended : op.call = none → op.running = false)
    (hst : Steps op a t) (hnone : t.call = none) : t.running = false := by
  have hother : ∀ call, op.call = some call → phaseOf call = .stopping := by
    intro call hcall
    have hkind := hphase call hcall
    rcases hpc with rfl | rfl
    · exact hkind
    · cases call <;> cases hkind
  cases hst with
  | refuse hcall =>
      rcases hcall with ⟨hcall, _⟩ | ⟨_, hrun⟩
      · cases hother _ hcall
      · exact hrun
  | launch => cases hnone
  | build => cases hnone
  | spawn hcall => cases hother _ hcall
  | clearFlag => cases hnone
  | stopServer => cases hnone
  | joinServer => cases hnone
  | joinBroadcast => cases hnone
  | reset hcall => exact h.inStop _ hcall (.inr trivial)
  | send hcall _ => cases hother _ hcall
  | _ => exact hended hnone

/-- Only a send adds to what was sent. -/
theorem sent_steps {P : Type} {op t : WebSocketOperator H P} {a : Action}
    (hsend : ∀ hdl payload, op.call ≠ some (.send hdl payload)) (hst : Steps op a t) :
    t.sent = op.sent := by
  cases hst with
  | send hcall _ => exact absurd hcall (hsend _ _)
  | _ => rfl

/-- A step of the operator. -/
theorem streamInv_operator {s : RemoteStream H V D} {operator : WebSocketOperator H (StreamPayload V D)}
    {a : Action} (h : StreamInv s) (hok : s.operator.NoEscape a) (hst : s.operator.step a = some operator) :
    StreamInv { s with operator := operator } := by
  have hsteps := steps_of_step hst
  refine ⟨consistent_steps h.operator hsteps, phaseOf_steps h.call hsteps,
    fun hne => (hsteps.serving h.operator (h.hdl hne) hok).1, fun hpc => ?_, h.text,
    fun hpc => running_steps h.operator h.call hpc (h.ended hpc) hsteps, ?_⟩
  · obtain ⟨hcall, hserving⟩ := h.sending hpc
    obtain ⟨call, hcall⟩ := Option.ne_none_iff_exists'.mp hcall
    obtain ⟨hserving', -, hkept⟩ := hsteps.serving h.operator hserving hok
    have hwants : WantsMutex call := by
      have hphase := (h.call call hcall).trans hpc
      cases call <;> trivial
    exact ⟨by rw [hkept call hcall hwants]; exact Option.some_ne_none _, hserving'⟩
  · show operator.sent = []
    by_cases hserving : s.operator.serverThread = some .serving
    · exact (hsteps.serving h.operator hserving hok).2.1.trans h.sent
    · refine (sent_steps (fun hdl payload hcall => ?_) hsteps).trans h.sent
      exact hserving (h.sending (h.call _ hcall).symm).2

/-- The loop never sets `_hdl`. -/
theorem hdl_of_serviceSteps {parse : String → Option Json} {s t : RemoteConnectionService H V D}
    (hst : RemoteConnectionService.ServiceSteps parse s t) (h : t.link.hdl ≠ none) : s.link.hdl ≠ none := by
  cases hst with
  | @statement index x steps hpc => cases x <;> first | exact h | exact absurd rfl h
  | _ => exact h

/-- The service thread goes on to `pc` without a call; it is not in the stop then. -/
theorem streamInv_move {s : RemoteStream H V D} {pc : StreamPc} {service : RemoteConnectionService H V D}
    (h : StreamInv s) (hcall : s.operator.call = none)
    (hhdl : service.link.hdl ≠ none → s.service.link.hdl ≠ none)
    (hpc : pc = .looping ∨ pc = .returned ∧ s.pc = .stopping) :
    StreamInv { s with service := service, pc := pc } where
  operator := h.operator
  call call hc := by rw [hcall] at hc; cases hc
  hdl hne := h.hdl (hhdl hne)
  sending hp := by
    have hp : pc = .sendingBinary := hp
    rcases hpc with rfl | ⟨rfl, _⟩ <;> cases hp
  text hp := by
    have hp : pc = .sendingText := hp
    rcases hpc with rfl | ⟨rfl, _⟩ <;> cases hp
  ended hp _ := by
    rcases hpc with rfl | ⟨rfl, hstop⟩
    · rcases hp with hp | hp <;> cases hp
    · exact h.ended (.inl hstop) hcall
  sent := h.sent

/-- The service thread begins a call, which `start` and `stop` never refuse to begin. -/
theorem Consistent.begin {P : Type} {op : WebSocketOperator H P} {call : OperatorPc H P} (h : op.Consistent)
    (hcall : op.call = none)
    (hbegin : call = .startTest ∨ call = .stopTest ∨ ∃ hdl payload, call = .send hdl payload) :
    (op.goTo call).Consistent := by
  have hquiet : ¬ Launching call ∧ ¬ InStop call ∧ ¬ Stopping call ∧ call ≠ .joinBroadcast ∧
      call ≠ .resetServer := by
    rcases hbegin with rfl | rfl | ⟨_, _, rfl⟩ <;> simp [Launching, InStop, Stopping]
  obtain ⟨hlaunch, hin, hstop, hjoin, hreset⟩ := hquiet
  refine ⟨h.serving, ?_, ?_, fun hrun _ => h.idle hrun fun pc hc => ?_, ?_, ?_⟩
  · rintro _ ⟨⟩ hl; exact absurd hl hlaunch
  · rintro _ ⟨⟩ hi; exact absurd hi hin
  · rw [hcall] at hc; cases hc
  · rintro _ ⟨⟩ hs; exact absurd hs hstop
  · rintro (hc | hc)
    · exact absurd (Option.some.inj hc) hjoin
    · exact absurd (Option.some.inj hc) hreset

/-- A step of the service thread outside the operator. -/
theorem streamInv_service {parse : String → Option Json} {s t : RemoteStream H V D} {raises : Bool}
    (h : StreamInv s) (hcall : s.operator.call = none) (hst : s.serviceStep parse raises = some t) :
    StreamInv t := by
  simp only [serviceStep, hcall] at hst
  cases hpc : s.pc with
  | starting =>
      simp only [hpc] at hst
      cases hst
      exact streamInv_move h hcall id (.inl rfl)
  | looping =>
      simp only [hpc] at hst
      split at hst
      · split at hst
        · rename_i hdl frame hhdl _
          cases hst
          have hserving := h.hdl (by rw [hhdl]; exact Option.some_ne_none _)
          refine ⟨Consistent.begin h.operator hcall (.inr (.inr ⟨_, _, rfl⟩)), ?_, h.hdl,
            fun _ => ⟨Option.some_ne_none _, hserving⟩, (nomatch ·), ?_, h.sent⟩
          · rintro _ ⟨⟩; rfl
          · rintro (hp | hp) <;> cases hp
        · cases hst
      · cases hst
        refine ⟨Consistent.begin h.operator hcall (.inr (.inl rfl)), ?_, h.hdl, (nomatch ·), (nomatch ·),
          fun _ => (nomatch ·), h.sent⟩
        rintro _ ⟨⟩; rfl
      · obtain ⟨service, hservice, rfl⟩ := Option.map_eq_some_iff.mp hst
        have hsteps := RemoteConnectionService.serviceSteps_of_serviceFunction hservice
        exact streamInv_move h hcall (hdl_of_serviceSteps hsteps) (.inl rfl)
  | sendingBinary => exact absurd hcall (h.sending hpc).1
  | sendingText => exact absurd hpc h.text
  | stopping =>
      simp only [hpc] at hst
      cases hst
      exact streamInv_move h hcall id (.inr ⟨rfl, hpc⟩)
  | returned => simp only [hpc] at hst; cases hst

theorem streamInv_step {parse : String → Option Json} {s t : RemoteStream H V D} {a : StreamAction H V D}
    (h : StreamInv s) (hok : s.NoEscape a) (hst : s.step parse a = some t) : StreamInv t := by
  cases a with
  | service raises =>
      by_cases hcall : s.operator.call = none
      · exact streamInv_service h hcall hst
      · obtain ⟨call, hcall⟩ := Option.ne_none_iff_exists'.mp hcall
        simp only [step, serviceStep, hcall] at hst
        obtain ⟨operator, hop, rfl⟩ := Option.map_eq_some_iff.mp hst
        exact streamInv_operator (a := .call raises) h (fun _ => (nomatch ·)) ((step_call hcall).trans hop)
  | server raises =>
      obtain ⟨operator, hop, rfl⟩ := Option.map_eq_some_iff.mp hst
      refine streamInv_operator h (fun hserving heq => hok hserving ?_) hop
      cases heq
      rfl
  | broadcast binds message =>
      obtain ⟨operator, hop, rfl⟩ := Option.map_eq_some_iff.mp hst
      exact streamInv_operator (a := .broadcast binds message) h (fun _ => (nomatch ·)) hop
  | notify n =>
      obtain ⟨hserving, hst⟩ := Option.ite_none_right_eq_some.mp hst
      cases hst
      exact ⟨h.operator, h.call, fun _ => hserving, h.sending, h.text, h.ended, h.sent⟩
  | frame v => cases hst; exact ⟨h.operator, h.call, h.hdl, h.sending, h.text, h.ended, h.sent⟩
  | sensorData d => cases hst; exact ⟨h.operator, h.call, h.hdl, h.sending, h.text, h.ended, h.sent⟩
  | stop => cases hst; exact ⟨h.operator, h.call, h.hdl, h.sending, h.text, h.ended, h.sent⟩
  | restart =>
      obtain ⟨hpc, hst⟩ := Option.ite_none_right_eq_some.mp hst
      cases hst
      have hnone : s.operator.call = none := by
        cases hcall : s.operator.call with
        | none => rfl
        | some call =>
            have hphase := (h.call call hcall).trans hpc
            cases call <;> cases hphase
      refine ⟨Consistent.begin h.operator hnone (.inl rfl), ?_, h.hdl, (nomatch ·), (nomatch ·), ?_, h.sent⟩
      · rintro _ ⟨⟩; rfl
      · rintro (hp | hp) <;> cases hp

theorem streamInv_initial (port : Nat) : StreamInv (initial port : RemoteStream H V D) := by
  refine ⟨Consistent.begin (consistent_constructed port) rfl (.inl rfl), ?_, fun h => absurd rfl h,
    (nomatch ·), (nomatch ·), ?_, rfl⟩
  · rintro _ ⟨⟩; rfl
  · rintro (hp | hp) <;> cases hp

theorem streamInv_reachable {parse : String → Option Json} {s : RemoteStream H V D}
    (h : (system parse).ReachableVia NoEscape s) : StreamInv s := by
  refine h.invariant ?_ fun s a t hs hok hst => streamInv_step hs hok hst
  rintro _ ⟨port, rfl⟩
  exact streamInv_initial port

/-! ## Nothing is sent -/

/-- **No client ever gets a frame or sensor data**, whatever the service, its clients and its publishers do. -/
theorem nothing_is_sent {parse : String → Option Json} {s : RemoteStream H V D}
    (h : (system parse).ReachableVia NoEscape s) : s.operator.sent = [] :=
  (streamInv_reachable h).sent

/-- The service starts, its server begins to serve, and client 7 connects. -/
def clientConnects : List (StreamAction Nat Nat Nat) :=
  [.service false, .service false, .service false, .service false, .server false, .server false,
    .server false, .notify (.opened 7)]

/-- It takes the open, and the first frame, as far as the send. -/
def firstFrame : List (StreamAction Nat Nat Nat) :=
  clientConnects ++ .frame 1 :: List.replicate 14 (.service false)

theorem firstFrame_ok : ∀ a ∈ firstFrame, ∀ s : RemoteStream Nat Nat Nat, s.NoEscape a := by
  intro a ha s _ heq
  subst heq
  simp [firstFrame, clientConnects] at ha

theorem exists_firstFrame : ∃ s : RemoteStream Nat Nat Nat,
    (system fun _ => none).ReachableVia NoEscape s ∧ s.pc = .sendingBinary ∧ s.service.frame = some 1 := by
  have hrun : ((system fun _ => none).exec (initial 8080) firstFrame).map
      (fun s => (s.pc, s.service.frame)) = some (.sendingBinary, some 1) := by
    decide
  obtain ⟨s, hs, heq⟩ := System.exists_of_exec (initial_reachable 8080) firstFrame_ok hrun
  exact ⟨s, hs, congrArg Prod.fst heq, congrArg Prod.snd heq⟩

/-- A frame for client 7 is there, the service wants to send it, and nothing has been sent. -/
theorem nothing_is_sent_run : ∃ s : RemoteStream Nat Nat Nat,
    s.pc = .sendingBinary ∧ s.service.frame = some 1 ∧ s.operator.sent = [] := by
  obtain ⟨s, hs, hpc, hframe⟩ := exists_firstFrame
  exact ⟨s, hpc, hframe, nothing_is_sent hs⟩

/-! ## What a serving server blocks -/

/-- A run without an exception out of `run`. -/
abbrev Leads (parse : String → Option Json) (s t : RemoteStream H V D) : Prop :=
  (system parse).Leads NoEscape s t

theorem Leads.invariant {parse : String → Option Json} {I : RemoteStream H V D → Prop}
    {s t : RemoteStream H V D} (hstep : ∀ u a v, StreamInv u → I u → u.NoEscape a →
      u.step parse a = some v → I v) (hs : StreamInv s) (hI : I s) (h : Leads parse s t) :
    StreamInv t ∧ I t :=
  System.Leads.invariant (I := fun u => StreamInv u ∧ I u)
    (fun u a v hu ha hst => ⟨streamInv_step hu.1 ha hst, hstep u a v hu.1 hu.2 ha hst⟩) h ⟨hs, hI⟩

/-- The server goes on serving, whatever happens around it. -/
theorem serving_step {parse : String → Option Json} {s t : RemoteStream H V D} {a : StreamAction H V D}
    (h : StreamInv s) (hserving : s.operator.serverThread = some .serving) (hok : s.NoEscape a)
    (hst : s.step parse a = some t) : t.operator.serverThread = some .serving := by
  have hop : ∀ (b : Action) {operator}, s.operator.NoEscape b → s.operator.step b = some operator →
      operator.serverThread = some .serving :=
    fun _ _ hok' hst' => ((steps_of_step hst').serving h.operator hserving hok').1
  cases a with
  | service raises =>
      simp only [step, serviceStep] at hst
      split at hst
      · rename_i call hcall
        obtain ⟨operator, hoperator, rfl⟩ := Option.map_eq_some_iff.mp hst
        exact hop (.call raises) (fun _ => (nomatch ·)) ((step_call hcall).trans hoperator)
      · split at hst
        · cases hst; exact hserving
        · split at hst
          · split at hst
            · cases hst; exact hserving
            · cases hst
          · cases hst; exact hserving
          · obtain ⟨service, -, rfl⟩ := Option.map_eq_some_iff.mp hst
            exact hserving
        · obtain ⟨hdl, -, rfl⟩ := Option.map_eq_some_iff.mp hst
          exact hserving
        · cases hst; exact hserving
        · cases hst; exact hserving
        · cases hst
  | server raises =>
      obtain ⟨operator, hoperator, rfl⟩ := Option.map_eq_some_iff.mp hst
      exact hop _ (fun _ heq => hok hserving (by cases heq; rfl)) hoperator
  | broadcast binds message =>
      obtain ⟨operator, hoperator, rfl⟩ := Option.map_eq_some_iff.mp hst
      exact hop (.broadcast binds message) (fun _ => (nomatch ·)) hoperator
  | notify n =>
      obtain ⟨-, hst⟩ := Option.ite_none_right_eq_some.mp hst
      cases hst
      exact hserving
  | frame v => cases hst; exact hserving
  | sensorData d => cases hst; exact hserving
  | stop => cases hst; exact hserving
  | restart =>
      obtain ⟨-, hst⟩ := Option.ite_none_right_eq_some.mp hst
      cases hst
      exact hserving

/-- The service that is at `s` waits in its send, and has done nothing since. -/
structure BlockedSince (s t : RemoteStream H V D) : Prop where
  pc : t.pc = .sendingBinary
  service : t.service.pc = s.service.pc
  processed : t.service.processed = s.service.processed
  published : t.service.link.published = s.service.link.published

theorem blockedSince_step {parse : String → Option Json} {s t u : RemoteStream H V D}
    {a : StreamAction H V D} (ht : StreamInv t) (h : BlockedSince s t) (hst : t.step parse a = some u) :
    BlockedSince s u := by
  cases a with
  | service raises =>
      obtain ⟨call, hcall⟩ := Option.ne_none_iff_exists'.mp (ht.sending h.pc).1
      simp only [step, serviceStep, hcall] at hst
      obtain ⟨operator, -, rfl⟩ := Option.map_eq_some_iff.mp hst
      exact ⟨h.pc, h.service, h.processed, h.published⟩
  | server raises =>
      obtain ⟨operator, -, rfl⟩ := Option.map_eq_some_iff.mp hst
      exact ⟨h.pc, h.service, h.processed, h.published⟩
  | broadcast binds message =>
      obtain ⟨operator, -, rfl⟩ := Option.map_eq_some_iff.mp hst
      exact ⟨h.pc, h.service, h.processed, h.published⟩
  | notify n =>
      obtain ⟨-, hst⟩ := Option.ite_none_right_eq_some.mp hst
      cases hst
      exact ⟨h.pc, h.service, h.processed, h.published⟩
  | frame v => cases hst; exact ⟨h.pc, h.service, h.processed, h.published⟩
  | sensorData d => cases hst; exact ⟨h.pc, h.service, h.processed, h.published⟩
  | stop => cases hst; exact ⟨h.pc, h.service, h.processed, h.published⟩
  | restart =>
      obtain ⟨hpc, -⟩ := Option.ite_none_right_eq_some.mp hst
      rw [h.pc] at hpc
      cases hpc

/-- **The first frame for a client blocks the service**: it never gets behind that send, and no message of a
    client is processed or leads to a publication any more. -/
theorem first_frame_blocks {parse : String → Option Json} {s t : RemoteStream H V D}
    (h : (system parse).ReachableVia NoEscape s) (hpc : s.pc = .sendingBinary) (hrun : Leads parse s t) :
    BlockedSince s t :=
  (hrun.invariant (fun _ _ _ hu hblocked _ hst => blockedSince_step hu hblocked hst)
    (streamInv_reachable h) ⟨hpc, rfl, rfl, rfl⟩).2

/-- The client of the first frame leaves: its close is there, and is not processed. -/
theorem first_frame_blocks_run : ∃ t : RemoteStream Nat Nat Nat,
    t.service.notified.map Notification.text = ["on_open", "on_close"] ∧ t.service.processed = [0] ∧
      t.pc = .sendingBinary := by
  have hrun : ((system fun _ => none).exec (initial 8080) firstFrame).map
      (fun s => (s.pc, s.service.notified.map Notification.text, s.service.processed,
        s.operator.serverThread)) = some (.sendingBinary, ["on_open"], [0], some .serving) := by
    decide
  obtain ⟨s, hs, heq⟩ := System.exists_of_exec (initial_reachable 8080) firstFrame_ok hrun
  simp only [Prod.mk.injEq] at heq
  obtain ⟨hpc, hnotified, hprocessed, hserving⟩ := heq
  have hclose : s.step (fun _ => none) (.notify (.closed 7)) =
      some { s with service := s.service.handleWebsocket (.closed 7) } := if_pos hserving
  have hleads : Leads (fun _ => none) s { s with service := s.service.handleWebsocket (.closed 7) } :=
    System.Leads.single (a := .notify (.closed 7)) (fun _ => (nomatch ·)) hclose
  have hblocked := first_frame_blocks hs hpc hleads
  refine ⟨_, ?_, hblocked.processed.trans hprocessed, hblocked.pc⟩
  show (s.service.notified ++ [_]).map Notification.text = _
  rw [List.map_append, hnotified]
  rfl

/-! ## Stopping the service -/

/-- One step, while the server does not serve. -/
theorem Leads.single {parse : String → Option Json} {s t : RemoteStream H V D} {a : StreamAction H V D}
    (hfree : s.operator.serverThread ≠ some .serving) (hst : s.step parse a = some t) : Leads parse s t :=
  System.Leads.single (fun hserving => absurd hserving hfree) hst

/-- A step of the operator in the call of the service thread, or in one of its threads. -/
theorem exists_step_operator (parse : String → Option Json) {s : RemoteStream H V D}
    {operator : WebSocketOperator H (StreamPayload V D)} {a : Action}
    (hst : s.operator.step a = some operator) :
    ∃ a', s.step parse a' = some { s with operator := operator } := by
  cases a with
  | call raises =>
      obtain ⟨call, hcall, hst⟩ := Option.bind_eq_some_iff.mp hst
      refine ⟨.service raises, ?_⟩
      simp only [step, serviceStep, hcall, hst, Option.map_some]
  | server raises => exact ⟨.server raises, by simp only [step, hst, Option.map_some]⟩
  | broadcast binds message => exact ⟨.broadcast binds message, by simp only [step, hst, Option.map_some]⟩

/-- A stop that has returned lets the service thread return. -/
theorem leads_of_finished (parse : String → Option Json) {s : RemoteStream H V D} (hpc : s.pc = .stopping)
    (hcall : s.operator.call = none) (hfree : s.operator.serverThread ≠ some .serving) :
    ∃ t, Leads parse s t ∧ t.pc = .returned := by
  refine ⟨{ s with pc := .returned }, .single (a := .service false) hfree ?_, rfl⟩
  simp only [step, serviceStep, hcall, hpc]

/-- **A stop behind its block returns**: its threads come to their ends, each step being one less to do. -/
theorem leads_of_stopping (parse : String → Option Json) {s : RemoteStream H V D}
    {call : OperatorPc H (StreamPayload V D)} (h : s.operator.Consistent) (hpc : s.pc = .stopping)
    (hcall : s.operator.call = some call) (hstopping : Stopping call) :
    ∃ t, Leads parse s t ∧ t.pc = .returned := by
  induction hn : s.operator.remaining using Nat.strongRecOn generalizing s call with
  | ind n ih =>
      subst hn
      have hfree := (h.stopped call hcall hstopping).1
      obtain ⟨a, operator, hst, -⟩ := exists_step_of_stopping h hcall hstopping
      obtain ⟨hlt, hnext⟩ := remaining_lt h hcall hstopping hst
      have hconsistent := consistent_steps h (steps_of_step hst)
      obtain ⟨a', hst'⟩ := exists_step_operator parse hst
      have hfirst : Leads parse s { s with operator := operator } := .single hfree hst'
      have hrest : ∃ t, Leads parse { s with operator := operator } t ∧ t.pc = .returned := by
        rcases hnext with hnone | ⟨call', hcall', hstopping'⟩
        · refine leads_of_finished parse hpc hnone fun hserving => ?_
          -- the operator has just let the stop return, so its server thread is gone
          have hgone : operator.serverThread = none := by
            refine hconsistent.idle ?_ fun _ hc => by rw [hnone] at hc; cases hc
            exact running_steps h
              (fun c hc => by obtain rfl := Option.some.inj (hcall.symm.trans hc); cases call <;> trivial)
              (.inl (rfl : StreamPc.stopping = .stopping)) (fun hc => by rw [hcall] at hc; cases hc)
              (steps_of_step hst) hnone
          rw [hgone] at hserving
          cases hserving
        · exact ih _ hlt (s := { s with operator := operator }) hconsistent hpc hcall' hstopping' rfl
      obtain ⟨t, hrest, ht⟩ := hrest
      exact ⟨t, hfirst.trans hrest, ht⟩

theorem leads_of_stopServer (parse : String → Option Json) {s : RemoteStream H V D} (h : s.operator.Consistent)
    (hpc : s.pc = .stopping) (hcall : s.operator.call = some .stopServer)
    (hfree : s.operator.serverThread ≠ some .serving) : ∃ t, Leads parse s t ∧ t.pc = .returned := by
  have hst : s.operator.step (.call false) = some (s.operator.stopEndpoint.goTo .joinServer) :=
    (step_call hcall).trans (if_pos (decide_eq_true hfree))
  obtain ⟨a, hst'⟩ := exists_step_operator parse hst
  obtain ⟨t, hrest, ht⟩ := leads_of_stopping parse
    (s := { s with operator := s.operator.stopEndpoint.goTo .joinServer })
    (consistent_steps h (steps_of_step hst)) hpc rfl trivial
  exact ⟨t, (Leads.single hfree hst').trans hrest, ht⟩

/-- **The service can be stopped iff its server does not serve yet.** Once the server serves, `stop` waits for
    the mutex for good, and so does whoever joins the service thread. -/
theorem stop_returns_iff {parse : String → Option Json} {s : RemoteStream H V D}
    (h : (system parse).ReachableVia NoEscape s) (hpc : s.pc = .stopping) :
    (∃ t, Leads parse s t ∧ t.pc = .returned) ↔ s.operator.serverThread ≠ some .serving := by
  have hs := streamInv_reachable h
  constructor
  · rintro ⟨t, hrun, ht⟩ hserving
    obtain ⟨hinv, hserving'⟩ := hrun.invariant
      (fun _ _ _ hu hserving hok hst => serving_step hu hserving hok hst) hs hserving
    have hnone : t.operator.call = none := by
      cases hcall : t.operator.call with
      | none => rfl
      | some call =>
          have hphase := (hinv.call call hcall).trans ht
          cases call <;> cases hphase
    have hgone := hinv.operator.idle (hinv.ended (.inr ht) hnone) fun _ hc => by
      rw [hnone] at hc
      cases hc
    rw [hserving'] at hgone
    cases hgone
  · intro hfree
    cases hcall : s.operator.call with
    | none => exact leads_of_finished parse hpc hcall hfree
    | some call =>
        have hphase := (hs.call call hcall).trans hpc
        cases call with
        | stopTest =>
            cases hrun : s.operator.running with
            | true =>
                have hst : s.operator.step (.call false) =
                    some ({ s.operator with running := false }.goTo .stopServer) :=
                  (step_call hcall).trans (by simp only [callStep, hrun, if_true])
                obtain ⟨a, hst'⟩ := exists_step_operator parse hst
                obtain ⟨t, hrest, ht⟩ := leads_of_stopServer parse
                  (s := { s with operator := { s.operator with running := false }.goTo .stopServer })
                  (consistent_steps hs.operator (steps_of_step hst)) hpc rfl hfree
                exact ⟨t, (Leads.single hfree hst').trans hrest, ht⟩
            | false =>
                have hst : s.operator.step (.call false) = some s.operator.finish :=
                  (step_call hcall).trans (by simp [callStep, hrun])
                obtain ⟨a, hst'⟩ := exists_step_operator parse hst
                obtain ⟨t, hrest, ht⟩ := leads_of_finished parse
                  (s := { s with operator := s.operator.finish }) hpc rfl hfree
                exact ⟨t, (Leads.single hfree hst').trans hrest, ht⟩
        | stopServer => exact leads_of_stopServer parse hs.operator hpc hcall hfree
        | joinServer => exact leads_of_stopping parse hs.operator hpc hcall trivial
        | joinBroadcast => exact leads_of_stopping parse hs.operator hpc hcall trivial
        | resetServer => exact leads_of_stopping parse hs.operator hpc hcall trivial
        | startTest => cases hphase
        | startServer => cases hphase
        | startThreads => cases hphase
        | send hdl payload => cases hphase

/-- Stopped right behind its start, before the server thread has done anything, the service returns. -/
theorem stop_returns_iff_run : ∃ s t : RemoteStream Nat Nat Nat,
    s.operator.serverThread = some .entry ∧ s.pc = .stopping ∧ Leads (fun _ => none) s t ∧
      t.pc = .returned := by
  have hrun : ((system fun _ => none).exec (initial 8080 : RemoteStream Nat Nat Nat)
      (List.replicate 4 (.service false) ++ .stop :: List.replicate 2 (.service false))).map
      (fun s => (s.operator.serverThread, s.pc)) = some (some .entry, .stopping) := by
    decide
  have hok : ∀ a ∈ List.replicate 4 (.service false) ++ .stop :: List.replicate 2 (.service false),
      ∀ s : RemoteStream Nat Nat Nat, s.NoEscape a := by
    intro a ha s _ heq
    subst heq
    simp at ha
  obtain ⟨s, hs, heq⟩ := System.exists_of_exec (initial_reachable 8080) hok hrun
  obtain ⟨hthread, hpc⟩ := Prod.mk.inj heq
  obtain ⟨t, hleads, ht⟩ := (stop_returns_iff hs hpc).mpr (by rw [hthread]; decide)
  exact ⟨s, t, hthread, hpc, hleads, ht⟩

end RemoteStream

end Kufibot
