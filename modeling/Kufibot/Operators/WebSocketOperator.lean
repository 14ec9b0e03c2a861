import Kufibot.Lib.System

/-!
# `Operators.WebSocketOperator` — the websocket server and its mutex

`start` builds the server and launches two threads, one for `runServer` and one that answers discovery
requests; `stop` asks the server to stop and joins both; `sendText` and `sendBinary` hand a payload to it. They
all take `_serverMutex`, and `runServer` keeps it for as long as `_server->run()` runs, which is until somebody
stops the server.

So a call that wants the mutex waits from the moment the server serves (`Steps.serving_of_call`), `stop`
included. A stop that got the mutex before that moment comes to its end (`exists_step_of_stopping`,
`Steps.remaining_lt`).

One thread, that of the service which owns the operator, makes the calls. A block under the mutex is one
step, except that of `run`.
-/

namespace Kufibot

open Lib

/-- The websocketpp endpoint that `_server` points to. -/
structure Endpoint where
  listening : Bool
  stopped : Bool
deriving DecidableEq, Repr

/-- Where the thread of `runServer` is. -/
inductive ServerPc where
  /-- Before the block that listens. -/
  | entry
  /-- The socket is open, `_ready` not yet set. -/
  | setReady
  /-- Before the block that runs the server. -/
  | toRun
  /-- In `_server->run()`; `_serverMutex` is held. -/
  | serving
  /-- Behind the `try`. -/
  | clearReady
  | returned
deriving DecidableEq, Repr

/-- Where the thread of `runBroadcastResponder` is. -/
inductive BroadcastPc where
  /-- Before its socket is bound. -/
  | opening
  /-- At `while (_running.load())`. -/
  | polling
  | returned
deriving DecidableEq, Repr

/-- Where a call of the owner is. -/
inductive OperatorPc (H P : Type) where
  | startTest
  | startServer
  | startThreads
  | stopTest
  | stopServer
  | joinServer
  | joinBroadcast
  | resetServer
  | send (hdl : H) (payload : P)

/-- `H` is `ConnectionHandle`, `P` what is sent. -/
structure WebSocketOperator (H P : Type) where
  port : Nat
  running : Bool
  ready : Bool
  server : Option Endpoint
  /-- `_serverThread` and `_broadcastThread`, while they are joinable. -/
  serverThread : Option ServerPc
  broadcastThread : Option BroadcastPc
  /-- The call that the owner is in. -/
  call : Option (OperatorPc H P)
  /-- What `_server->send` took. -/
  sent : List (H × P)
  /-- The answers to discovery requests. -/
  responses : List String

namespace WebSocketOperator

variable {H P : Type}

/-! ## The calls -/

/-- Only the thread in `run` holds `_serverMutex` from one step to the next. -/
def mutexFree (op : WebSocketOperator H P) : Bool := op.serverThread ≠ some .serving

/-- The call gets to `pc`. -/
def goTo (op : WebSocketOperator H P) (pc : OperatorPc H P) : WebSocketOperator H P :=
  { op with call := some pc }

/-- The call returns. -/
def finish (op : WebSocketOperator H P) : WebSocketOperator H P := { op with call := none }

/-- The block of `stop` under the mutex: `stop_listening` and `stop`. -/
def stopEndpoint (op : WebSocketOperator H P) : WebSocketOperator H P :=
  { op with server := op.server.map fun _ => ⟨false, true⟩ }

/-- The next step of a call that is at `pc`; `raises` tells whether websocketpp throws in it. -/
def callStep (op : WebSocketOperator H P) (raises : Bool) :
    OperatorPc H P → Option (WebSocketOperator H P)
  | .startTest => some (if op.running then op.finish else { op with running := true }.goTo .startServer)
  | .startServer =>
      if op.mutexFree then some ({ op with server := some ⟨false, false⟩ }.goTo .startThreads) else none
  | .startThreads =>
      some { op with broadcastThread := some .opening, serverThread := some .entry }.finish
  | .stopTest => some (if op.running then { op with running := false }.goTo .stopServer else op.finish)
  | .stopServer => if op.mutexFree then some (op.stopEndpoint.goTo .joinServer) else none
  | .joinServer =>
      if op.serverThread = none ∨ op.serverThread = some .returned then
        some ({ op with serverThread := none }.goTo .joinBroadcast)
      else none
  | .joinBroadcast =>
      if op.broadcastThread = none ∨ op.broadcastThread = some .returned then
        some ({ op with broadcastThread := none }.goTo .resetServer)
      else none
  | .resetServer =>
      if op.mutexFree then some { op with server := none, ready := false }.finish else none
  | .send hdl payload =>
      if op.mutexFree then
        some (if op.server.isNone || !op.ready || raises then op.finish
          else { op with sent := op.sent ++ [(hdl, payload)] }.finish)
      else none

/-! ## The threads -/

/-- The thread of `runServer` gets to `pc`. -/
def serverTo (op : WebSocketOperator H P) (pc : ServerPc) : WebSocketOperator H P :=
  { op with serverThread := some pc }

/-- The next step of `runServer`, which is at `pc`; `raises` tells whether an exception leaves the block or
    `run`. As long as the server is not stopped, `run` goes on. -/
def runServer (op : WebSocketOperator H P) (raises : Bool) :
    ServerPc → Option (WebSocketOperator H P)
  | .entry =>
      match op.server with
      | none => some (op.serverTo .returned)
      | some endpoint =>
          if raises then some (op.serverTo .clearReady)
          else some ({ op with server := some { endpoint with listening := true } }.serverTo .setReady)
  | .setReady => some ({ op with ready := true }.serverTo .toRun)
  | .toRun =>
      match op.server with
      | none => some (op.serverTo .clearReady)
      | some endpoint =>
          if raises || endpoint.stopped then some (op.serverTo .clearReady) else some (op.serverTo .serving)
  | .serving =>
      if raises || op.server.any Endpoint.stopped then some (op.serverTo .clearReady) else none
  | .clearReady => some ({ op with ready := false }.serverTo .returned)
  | .returned => none

/-- The answer to a datagram on the broadcast port. -/
def discoveryResponse (port : Nat) (message : String) : Option String :=
  if message = "DISCOVER_WEBSOCKET_SERVER" then some ("WEBSOCKET_SERVER:" ++ toString port) else none

/-- The next step of `runBroadcastResponder`, which is at `pc`: whether its socket can be bound, and the
    message that it receives before the timeout, if any. -/
def runBroadcastResponder (op : WebSocketOperator H P) (binds : Bool) (message : Option String) :
    BroadcastPc → Option (WebSocketOperator H P)
  | .opening => some { op with broadcastThread := some (if binds then .polling else .returned) }
  | .polling =>
      if op.running then
        some { op with responses := op.responses ++ (message.bind (discoveryResponse op.port)).toList }
      else some { op with broadcastThread := some .returned }
  | .returned => none

/-- What the three threads do. -/
inductive Action where
  | call (raises : Bool)
  | server (raises : Bool)
  | broadcast (binds : Bool) (message : Option String)
deriving DecidableEq, Repr

def step (op : WebSocketOperator H P) : Action → Option (WebSocketOperator H P)
  | .call raises => op.call.bind (op.callStep raises)
  | .server raises => op.serverThread.bind (op.runServer raises)
  | .broadcast binds message => op.broadcastThread.bind (op.runBroadcastResponder binds message)

/-- The constructor. -/
def constructed (port : Nat) : WebSocketOperator H P where
  port := port
  running := false
  ready := false
  server := none
  serverThread := none
  broadcastThread := none
  call := none
  sent := []
  responses := []

/-- `run` is not left by an exception. -/
def NoEscape (op : WebSocketOperator H P) (a : Action) : Prop :=
  op.serverThread = some .serving → a ≠ .server true

/-! ## The invariant -/

/-- `start` has been called, and `stop` has not returned. -/
def Launching : OperatorPc H P → Prop
  | .startServer | .startThreads => True
  | _ => False

/-- `stop` has taken the mutex. -/
def Stopping : OperatorPc H P → Prop
  | .joinServer | .joinBroadcast | .resetServer => True
  | _ => False

/-- Between the test of `stop` and its return. -/
def InStop (pc : OperatorPc H P) : Prop := pc = .stopServer ∨ Stopping pc

/-- **What the calls and the threads rely on.** -/
structure Consistent (op : WebSocketOperator H P) : Prop where
  /-- A server that serves has not been stopped. -/
  serving : op.serverThread = some .serving → ∃ endpoint, op.server = some endpoint ∧ endpoint.stopped = false
  /-- A call of `start` that goes on finds no thread. -/
  launching : ∀ pc, op.call = some pc → Launching pc → op.serverThread = none ∧ op.running = true
  /-- The flag is cleared until `stop` returns, and its threads are gone then. -/
  inStop : ∀ pc, op.call = some pc → InStop pc → op.running = false
  idle : op.running = false → (∀ pc, op.call = some pc → ¬ InStop pc) → op.serverThread = none
  /-- Behind its block, `stop` has stopped the server. -/
  stopped : ∀ pc, op.call = some pc → Stopping pc →
    op.serverThread ≠ some .serving ∧ ∀ endpoint, op.server = some endpoint → endpoint.stopped = true
  joined : op.call = some .joinBroadcast ∨ op.call = some .resetServer → op.serverThread = none

/-! ## The steps -/

/-- **Everything a step can be.** -/
inductive Steps (op : WebSocketOperator H P) : Action → WebSocketOperator H P → Prop where
  /-- `start` of a running operator, or `stop` of one that is not running. -/
  | refuse {raises : Bool}
      (h : op.call = some .startTest ∧ op.running = true ∨ op.call = some .stopTest ∧ op.running = false) :
      Steps op (.call raises) op.finish
  | launch {raises : Bool} (hcall : op.call = some .startTest) (hrun : op.running = false) :
      Steps op (.call raises) ({ op with running := true }.goTo .startServer)
  | build {raises : Bool} (hcall : op.call = some .startServer) (hfree : op.serverThread ≠ some .serving) :
      Steps op (.call raises) ({ op with server := some ⟨false, false⟩ }.goTo .startThreads)
  | spawn {raises : Bool} (hcall : op.call = some .startThreads) :
      Steps op (.call raises)
        { op with broadcastThread := some .opening, serverThread := some .entry }.finish
  | clearFlag {raises : Bool} (hcall : op.call = some .stopTest) (hrun : op.running = true) :
      Steps op (.call raises) ({ op with running := false }.goTo .stopServer)
  | stopServer {raises : Bool} (hcall : op.call = some .stopServer)
      (hfree : op.serverThread ≠ some .serving) :
      Steps op (.call raises) (op.stopEndpoint.goTo .joinServer)
  | joinServer {raises : Bool} (hcall : op.call = some .joinServer) :
      Steps op (.call raises) ({ op with serverThread := none }.goTo .joinBroadcast)
  | joinBroadcast {raises : Bool} (hcall : op.call = some .joinBroadcast) :
      Steps op (.call raises) ({ op with broadcastThread := none }.goTo .resetServer)
  | reset {raises : Bool} (hcall : op.call = some .resetServer) :
      Steps op (.call raises) { op with server := none, ready := false }.finish
  /-- A payload is refused, or taken. -/
  | send {raises : Bool} {hdl : H} {payload : P} {sent : List (H × P)}
      (hcall : op.call = some (.send hdl payload)) (hfree : op.serverThread ≠ some .serving) :
      Steps op (.call raises) { op with sent := sent }.finish
  | listen {endpoint : Endpoint} (hpc : op.serverThread = some .entry) (hserver : op.server = some endpoint) :
      Steps op (.server false)
        ({ op with server := some { endpoint with listening := true } }.serverTo .setReady)
  | setReady {raises : Bool} (hpc : op.serverThread = some .setReady) :
      Steps op (.server raises) ({ op with ready := true }.serverTo .toRun)
  | serve {endpoint : Endpoint} (hpc : op.serverThread = some .toRun) (hserver : op.server = some endpoint)
      (hstopped : endpoint.stopped = false) : Steps op (.server false) (op.serverTo .serving)
  /-- `runServer` goes to its end; from `run` because of an exception or of a stop. -/
  | leave {raises : Bool} {pc : ServerPc} (hpc : op.serverThread ≠ none)
      (hnext : pc = .clearReady ∧ op.serverThread ≠ some .returned ∧ op.serverThread ≠ some .clearReady ∨
        pc = .returned ∧ op.serverThread = some .entry)
      (hserving : op.serverThread = some .serving →
        raises = true ∨ ∃ endpoint, op.server = some endpoint ∧ endpoint.stopped = true) :
      Steps op (.server raises) (op.serverTo pc)
  | clearReady {raises : Bool} (hpc : op.serverThread = some .clearReady) :
      Steps op (.server raises) ({ op with ready := false }.serverTo .returned)
  | broadcast {binds : Bool} {message : Option String} (thread : Option BroadcastPc)
      (responses : List String) :
      Steps op (.broadcast binds message) { op with broadcastThread := thread, responses := responses }

theorem steps_of_call {op t : WebSocketOperator H P} {raises : Bool} {pc : OperatorPc H P}
    (hcall : op.call = some pc) (hst : op.callStep raises pc = some t) : Steps op (.call raises) t := by
  have hfree : ∀ {x}, (if op.mutexFree then some x else none) = some t →
      op.serverThread ≠ some .serving ∧ x = t := by
    intro x h
    obtain ⟨hm, h⟩ := Option.ite_none_right_eq_some.mp h
    exact ⟨of_decide_eq_true hm, Option.some.inj h⟩
  cases pc with
  | startTest =>
      obtain rfl := Option.some.inj hst
      split
      · rename_i hrun; exact .refuse (.inl ⟨hcall, hrun⟩)
      · rename_i hrun; exact .launch hcall (Bool.eq_false_iff.mpr hrun)
  | startServer => obtain ⟨hm, rfl⟩ := hfree hst; exact .build hcall hm
  | startThreads => obtain rfl := Option.some.inj hst; exact .spawn hcall
  | stopTest =>
      obtain rfl := Option.some.inj hst
      split
      · rename_i hrun; exact .clearFlag hcall hrun
      · rename_i hrun; exact .refuse (.inr ⟨hcall, Bool.eq_false_iff.mpr hrun⟩)
  | stopServer => obtain ⟨hm, rfl⟩ := hfree hst; exact .stopServer hcall hm
  | joinServer =>
      obtain ⟨-, hst⟩ := Option.ite_none_right_eq_some.mp hst
      obtain rfl := Option.some.inj hst
      exact .joinServer hcall
  | joinBroadcast =>
      obtain ⟨-, hst⟩ := Option.ite_none_right_eq_some.mp hst
      obtain rfl := Option.some.inj hst
      exact .joinBroadcast hcall
  | resetServer => obtain ⟨-, rfl⟩ := hfree hst; exact .reset hcall
  | send hdl payload =>
      obtain ⟨hm, rfl⟩ := hfree hst
      split
      · exact @Steps.send _ _ op raises hdl payload op.sent hcall hm
      · exact .send hcall hm

theorem steps_of_runServer {op t : WebSocketOperator H P} {raises : Bool} {pc : ServerPc}
    (hpc : op.serverThread = some pc) (hst : op.runServer raises pc = some t) :
    Steps op (.server raises) t := by
  have hsome : op.serverThread ≠ none := by simp [hpc]
  cases pc with
  | entry =>
      simp only [runServer] at hst
      split at hst
      · cases hst
        exact .leave hsome (.inr ⟨rfl, hpc⟩) (by simp [hpc])
      · rename_i endpoint hserver
        cases raises with
        | true => cases hst; exact .leave hsome (.inl ⟨rfl, by simp [hpc], by simp [hpc]⟩) (fun _ => .inl rfl)
        | false => cases hst; exact .listen hpc hserver
  | setReady => cases hst; exact .setReady hpc
  | toRun =>
      have hleave : Steps op (.server raises) (op.serverTo .clearReady) :=
        .leave hsome (.inl ⟨rfl, by simp [hpc], by simp [hpc]⟩) (by simp [hpc])
      simp only [runServer] at hst
      split at hst
      · cases hst; exact hleave
      · rename_i endpoint hserver
        split at hst
        · cases hst; exact hleave
        · rename_i hgo
          cases hst
          obtain ⟨rfl, hstopped⟩ : raises = false ∧ endpoint.stopped = false := by simpa using hgo
          exact .serve hpc hserver hstopped
  | serving =>
      obtain ⟨hend, hst⟩ := Option.ite_none_right_eq_some.mp hst
      cases hst
      refine .leave hsome (.inl ⟨rfl, by simp [hpc], by simp [hpc]⟩) fun _ => ?_
      rcases Bool.or_eq_true_iff.mp hend with h | h
      · exact .inl h
      · obtain ⟨endpoint, hserver, hstopped⟩ := (Option.any_eq_true _ _).mp h
        exact .inr ⟨endpoint, hserver, hstopped⟩
  | clearReady => cases hst; exact .clearReady hpc
  | returned => cases hst

theorem steps_of_step {op t : WebSocketOperator H P} {a : Action} (hst : op.step a = some t) :
    Steps op a t := by
  cases a with
  | call raises =>
      obtain ⟨pc, hcall, hst⟩ := Option.bind_eq_some_iff.mp hst
      exact steps_of_call hcall hst
  | server raises =>
      obtain ⟨pc, hpc, hst⟩ := Option.bind_eq_some_iff.mp hst
      exact steps_of_runServer hpc hst
  | broadcast binds message =>
      obtain ⟨pc, hpc, hst⟩ := Option.bind_eq_some_iff.mp hst
      cases pc with
      | opening => cases hst; exact .broadcast _ op.responses
      | polling =>
          simp only [runBroadcastResponder] at hst
          split at hst
          · cases hst; exact .broadcast op.broadcastThread _
          · cases hst; exact .broadcast _ op.responses
      | returned => cases hst

/-! ## What the steps keep -/

theorem consistent_constructed (port : Nat) : (constructed port : WebSocketOperator H P).Consistent :=
  ⟨(nomatch ·), fun _ => (nomatch ·), fun _ => (nomatch ·), fun _ _ => rfl, fun _ => (nomatch ·), fun _ => rfl⟩

/-- No call is in progress that has been let in by `start` or `stop`. -/
theorem Consistent.finish {op : WebSocketOperator H P}
    (hserving : op.serverThread = some .serving →
      ∃ endpoint, op.server = some endpoint ∧ endpoint.stopped = false)
    (hidle : op.running = false → op.serverThread = none) : op.finish.Consistent where
  serving := hserving
  launching _ := (nomatch ·)
  inStop _ := (nomatch ·)
  idle hrun _ := hidle hrun
  stopped _ := (nomatch ·)
  joined h := by rcases h with h | h <;> cases h

/-- The server thread moves: what the calls rely on is kept if the thread was there before and the server is
    the same up to `listening`. -/
theorem Consistent.server {op t : WebSocketOperator H P} (h : op.Consistent)
    (hpc : op.serverThread ≠ none) (hrun : t.running = op.running) (hcall : t.call = op.call)
    (hserving : t.serverThread = some .serving →
      ∃ endpoint, t.server = some endpoint ∧ endpoint.stopped = false)
    (hserver : ∀ endpoint, t.server = some endpoint →
      ∃ before, op.server = some before ∧ endpoint.stopped = before.stopped) : t.Consistent where
  serving := hserving
  launching pc hc hl := absurd (h.launching pc (hcall ▸ hc) hl).1 hpc
  inStop pc hc hs := hrun ▸ h.inStop pc (hcall ▸ hc) hs
  idle hr hq := absurd (h.idle (hrun ▸ hr) (hcall ▸ hq)) hpc
  stopped pc hc hs := by
    have hstopped := (h.stopped pc (hcall ▸ hc) hs).2
    have hall : ∀ endpoint, t.server = some endpoint → endpoint.stopped = true := by
      intro endpoint hendpoint
      obtain ⟨before, hbefore, heq⟩ := hserver endpoint hendpoint
      rw [heq]
      exact hstopped before hbefore
    refine ⟨fun hserv => ?_, hall⟩
    obtain ⟨endpoint, hendpoint, hfalse⟩ := hserving hserv
    rw [hall endpoint hendpoint] at hfalse
    cases hfalse
  joined hc := absurd (h.joined (hcall ▸ hc)) hpc

theorem consistent_steps {op t : WebSocketOperator H P} {a : Action} (h : op.Consistent)
    (hst : Steps op a t) : t.Consistent := by
  have hsame : ∀ endpoint, op.server = some endpoint →
      ∃ before, op.server = some before ∧ endpoint.stopped = before.stopped :=
    fun endpoint hendpoint => ⟨endpoint, hendpoint, rfl⟩
  cases hst with
  | refuse hcall =>
      refine .finish h.serving fun hrun => ?_
      rcases hcall with ⟨_, hr⟩ | ⟨hcall, _⟩
      · rw [hrun] at hr; cases hr
      · refine h.idle hrun fun pc hpc hin => ?_
        obtain rfl := Option.some.inj (hcall.symm.trans hpc)
        rcases hin with hin | hin <;> cases hin
  | launch hcall hrun =>
      have hnone : op.serverThread = none := by
        refine h.idle hrun fun pc hpc hin => ?_
        obtain rfl := Option.some.inj (hcall.symm.trans hpc)
        rcases hin with hin | hin <;> cases hin
      refine ⟨h.serving, fun _ _ _ => ⟨hnone, rfl⟩, ?_, (nomatch ·), ?_, fun _ => hnone⟩
      · rintro _ ⟨⟩ (hin | hin) <;> cases hin
      · rintro _ ⟨⟩ hin; cases hin
  | build hcall hfree =>
      obtain ⟨hnone, hrun⟩ := h.launching _ hcall trivial
      refine ⟨fun hserv => absurd hserv hfree, fun _ _ _ => ⟨hnone, hrun⟩, ?_, fun _ _ => hnone, ?_,
        fun _ => hnone⟩
      · rintro _ ⟨⟩ (hin | hin) <;> cases hin
      · rintro _ ⟨⟩ hin; cases hin
  | spawn hcall =>
      have hrun := (h.launching _ hcall trivial).2
      exact .finish (nomatch ·) fun hfalse => by rw [hrun] at hfalse; cases hfalse
  | clearFlag hcall hrun =>
      refine ⟨h.serving, ?_, fun _ _ _ => rfl, fun _ hq => absurd (.inl rfl) (hq _ rfl), ?_, ?_⟩
      · rintro _ ⟨⟩ hin; cases hin
      · rintro _ ⟨⟩ hin; cases hin
      · rintro (hc | hc) <;> cases hc
  | stopServer hcall hfree =>
      have hfalse := h.inStop _ hcall (.inl rfl)
      refine ⟨fun hserv => absurd hserv hfree, ?_, fun _ _ _ => hfalse,
        fun _ hq => absurd (.inr trivial) (hq _ rfl), fun _ _ _ => ⟨hfree, ?_⟩, ?_⟩
      · rintro _ ⟨⟩ hin; cases hin
      · intro endpoint hendpoint
        obtain ⟨_, _, rfl⟩ := Option.map_eq_some_iff.mp hendpoint
        rfl
      · rintro (hc | hc) <;> cases hc
  | joinServer hcall =>
      have hfalse := h.inStop _ hcall (.inr trivial)
      have hstopped := (h.stopped _ hcall trivial).2
      refine ⟨(nomatch ·), ?_, fun _ _ _ => hfalse, fun _ _ => rfl, fun _ _ _ => ⟨(nomatch ·), hstopped⟩,
        fun _ => rfl⟩
      rintro _ ⟨⟩ hin; cases hin
  | joinBroadcast hcall =>
      have hfalse := h.inStop _ hcall (.inr trivial)
      have hnone := h.joined (.inl hcall)
      refine ⟨h.serving, ?_, fun _ _ _ => hfalse, fun _ _ => hnone,
        fun _ _ _ => h.stopped _ hcall trivial, fun _ => hnone⟩
      rintro _ ⟨⟩ hin; cases hin
  | reset hcall =>
      have hnone := h.joined (.inr hcall)
      refine .finish (fun hserv => ?_) fun _ => hnone
      have hserv : op.serverThread = some .serving := hserv
      rw [hnone] at hserv
      cases hserv
  | send hcall hfree =>
      refine .finish (fun hserv => absurd hserv hfree) fun hrun => h.idle hrun fun pc hpc hin => ?_
      obtain rfl := Option.some.inj (hcall.symm.trans hpc)
      rcases hin with hin | hin <;> cases hin
  | listen hpc hserver =>
      refine h.server (by simp [hpc]) rfl rfl (nomatch ·) fun endpoint hendpoint => ?_
      exact ⟨_, hserver, by cases hendpoint; rfl⟩
  | setReady hpc => exact h.server (by simp [hpc]) rfl rfl (nomatch ·) hsame
  | serve hpc hserver hstopped =>
      exact h.server (by simp [hpc]) rfl rfl (fun _ => ⟨_, hserver, hstopped⟩) hsame
  | leave hpc hnext hserving =>
      refine h.server hpc rfl rfl (fun hserv => ?_) hsame
      rcases hnext with ⟨rfl, _⟩ | ⟨rfl, _⟩ <;> cases hserv
  | clearReady hpc => exact h.server (by simp [hpc]) rfl rfl (nomatch ·) hsame
  | broadcast thread responses => exact ⟨h.serving, h.launching, h.inStop, h.idle, h.stopped, h.joined⟩

/-! ## Waiting for the mutex -/

/-- The next statement of the call locks `_serverMutex`. -/
def WantsMutex : OperatorPc H P → Prop
  | .startServer | .stopServer | .resetServer | .send _ _ => True
  | _ => False

/-- **While the server serves**, nothing is sent, a call that wants the mutex stays where it is, and the server
    goes on serving unless an exception leaves `run`. -/
theorem Steps.serving {op t : WebSocketOperator H P} {a : Action} (h : op.Consistent)
    (hserving : op.serverThread = some .serving) (hok : op.NoEscape a) (hst : Steps op a t) :
    t.serverThread = some .serving ∧ t.sent = op.sent ∧
      ∀ pc, op.call = some pc → WantsMutex pc → t.call = some pc := by
  have hother : ∀ {pc : OperatorPc H P}, op.call = some pc → ¬ WantsMutex pc →
      ∀ pc', op.call = some pc' → WantsMutex pc' → t.call = some pc' := by
    intro pc hcall hnot pc' hcall' hwants
    obtain rfl := Option.some.inj (hcall.symm.trans hcall')
    exact absurd hwants hnot
  have hmove : ∀ {pc : ServerPc}, op.serverThread = some pc → pc ≠ .serving → False :=
    fun hpc hne => hne (Option.some.inj (hpc.symm.trans hserving))
  cases hst with
  | refuse hcall => rcases hcall with ⟨hcall, _⟩ | ⟨hcall, _⟩ <;> exact ⟨hserving, rfl, hother hcall id⟩
  | launch hcall _ => exact ⟨hserving, rfl, hother hcall id⟩
  | build _ hfree => exact absurd hserving hfree
  | spawn hcall =>
      have hnone := (h.launching _ hcall trivial).1
      rw [hserving] at hnone
      cases hnone
  | clearFlag hcall _ => exact ⟨hserving, rfl, hother hcall id⟩
  | stopServer _ hfree => exact absurd hserving hfree
  | joinServer hcall => exact absurd hserving (h.stopped _ hcall trivial).1
  | joinBroadcast hcall => exact absurd hserving (h.stopped _ hcall trivial).1
  | reset hcall => exact absurd hserving (h.stopped _ hcall trivial).1
  | send _ hfree => exact absurd hserving hfree
  | listen hpc _ => exact (hmove hpc (by decide)).elim
  | setReady hpc => exact (hmove hpc (by decide)).elim
  | serve hpc _ _ => exact (hmove hpc (by decide)).elim
  | leave _ _ hend =>
      rcases hend hserving with rfl | ⟨endpoint, hendpoint, hstopped⟩
      · exact absurd rfl (hok hserving)
      · obtain ⟨endpoint', hendpoint', hfalse⟩ := h.serving hserving
        obtain rfl := Option.some.inj (hendpoint.symm.trans hendpoint')
        rw [hstopped] at hfalse
        cases hfalse
  | clearReady hpc => exact (hmove hpc (by decide)).elim
  | broadcast thread responses => exact ⟨hserving, rfl, fun _ hcall _ => hcall⟩

/-! ## The end of a stop -/

/-- The steps that a stop has left. -/
def callRest : OperatorPc H P → Nat
  | .stopServer => 4
  | .joinServer => 3
  | .joinBroadcast => 2
  | .resetServer => 1
  | _ => 0

/-- The steps that the threads have left, at most, once they are to end. -/
def serverRest : ServerPc → Nat
  | .entry => 4
  | .setReady => 3
  | .toRun | .serving => 2
  | .clearReady => 1
  | .returned => 0

def broadcastRest : BroadcastPc → Nat
  | .opening => 2
  | .polling => 1
  | .returned => 0

/-- What is left to do until a stop returns. -/
def remaining (op : WebSocketOperator H P) : Nat :=
  op.call.elim 0 callRest + op.serverThread.elim 0 serverRest + op.broadcastThread.elim 0 broadcastRest

theorem step_call {op : WebSocketOperator H P} {raises : Bool} {pc : OperatorPc H P}
    (hcall : op.call = some pc) : op.step (.call raises) = op.callStep raises pc := by
  simp [step, hcall]

theorem step_server {op : WebSocketOperator H P} {raises : Bool} {pc : ServerPc}
    (hpc : op.serverThread = some pc) : op.step (.server raises) = op.runServer raises pc := by
  simp [step, hpc]

theorem step_broadcast {op : WebSocketOperator H P} {binds : Bool} {message : Option String}
    {pc : BroadcastPc} (hpc : op.broadcastThread = some pc) :
    op.step (.broadcast binds message) = op.runBroadcastResponder binds message pc := by
  simp [step, hpc]

/-- **A stop behind its block is never stuck.** -/
theorem exists_step_of_stopping {op : WebSocketOperator H P} {pc : OperatorPc H P} (h : op.Consistent)
    (hcall : op.call = some pc) (hpc : Stopping pc) : ∃ a t, op.step a = some t ∧ op.NoEscape a := by
  obtain ⟨hfree, hstopped⟩ := h.stopped pc hcall hpc
  have hok : ∀ a, op.NoEscape a := fun a hserving => absurd hserving hfree
  cases pc with
  | joinServer =>
      by_cases hgone : op.serverThread = none ∨ op.serverThread = some .returned
      · exact ⟨.call false, _, (step_call hcall).trans (if_pos hgone), hok _⟩
      · obtain ⟨hsome, hlive⟩ := not_or.mp hgone
        obtain ⟨p, hp⟩ := Option.ne_none_iff_exists'.mp hsome
        have hserver : ∃ t, op.runServer false p = some t := by
          cases p with
          | entry => simp only [runServer]; split <;> exact ⟨_, rfl⟩
          | setReady => exact ⟨_, rfl⟩
          | toRun =>
              simp only [runServer]
              split
              · exact ⟨_, rfl⟩
              · split <;> exact ⟨_, rfl⟩
          | serving => exact absurd hp hfree
          | clearReady => exact ⟨_, rfl⟩
          | returned => exact absurd hp hlive
        obtain ⟨t, ht⟩ := hserver
        exact ⟨.server false, t, (step_server hp).trans ht, hok _⟩
  | joinBroadcast =>
      by_cases hgone : op.broadcastThread = none ∨ op.broadcastThread = some .returned
      · exact ⟨.call false, _, (step_call hcall).trans (if_pos hgone), hok _⟩
      · obtain ⟨hsome, hlive⟩ := not_or.mp hgone
        obtain ⟨p, hp⟩ := Option.ne_none_iff_exists'.mp hsome
        have hbroadcast : ∃ t, op.runBroadcastResponder true none p = some t := by
          cases p with
          | opening => exact ⟨_, rfl⟩
          | polling => simp only [runBroadcastResponder]; split <;> exact ⟨_, rfl⟩
          | returned => exact absurd hp hlive
        obtain ⟨t, ht⟩ := hbroadcast
        exact ⟨.broadcast true none, t, (step_broadcast hp).trans ht, hok _⟩
  | resetServer =>
      have hmutex : op.mutexFree = true := decide_eq_true hfree
      exact ⟨.call false, _, (step_call hcall).trans (if_pos hmutex), hok _⟩
  | startTest => cases hpc
  | startServer => cases hpc
  | startThreads => cases hpc
  | stopTest => cases hpc
  | stopServer => cases hpc
  | send hdl payload => cases hpc

/-- The thread of a stopped server comes closer to its end. -/
theorem serverRest_lt {op t : WebSocketOperator H P} {raises : Bool} {pc : ServerPc}
    (hserving : pc ≠ .serving)
    (hstopped : ∀ endpoint, op.server = some endpoint → endpoint.stopped = true)
    (hst : op.runServer raises pc = some t) :
    t.call = op.call ∧ t.broadcastThread = op.broadcastThread ∧
      ∃ pc', t.serverThread = some pc' ∧ serverRest pc' < serverRest pc := by
  cases pc with
  | entry =>
      simp only [runServer] at hst
      split at hst
      · cases hst; exact ⟨rfl, rfl, _, rfl, by decide⟩
      · cases raises <;> cases hst <;> exact ⟨rfl, rfl, _, rfl, by decide⟩
  | setReady => cases hst; exact ⟨rfl, rfl, _, rfl, by decide⟩
  | toRun =>
      simp only [runServer] at hst
      split at hst
      · cases hst; exact ⟨rfl, rfl, _, rfl, by decide⟩
      · rename_i endpoint hserver
        rw [hstopped endpoint hserver, Bool.or_true, if_pos rfl] at hst
        cases hst
        exact ⟨rfl, rfl, _, rfl, by decide⟩
  | serving => exact absurd rfl hserving
  | clearReady => cases hst; exact ⟨rfl, rfl, _, rfl, by decide⟩
  | returned => cases hst

/-- So does the other thread once the flag is cleared. -/
theorem broadcastRest_lt {op t : WebSocketOperator H P} {binds : Bool} {message : Option String}
    {pc : BroadcastPc} (hrun : op.running = false)
    (hst : op.runBroadcastResponder binds message pc = some t) :
    t.call = op.call ∧ t.serverThread = op.serverThread ∧
      ∃ pc', t.broadcastThread = some pc' ∧ broadcastRest pc' < broadcastRest pc := by
  cases pc with
  | opening => cases hst; cases binds <;> exact ⟨rfl, rfl, _, rfl, by decide⟩
  | polling =>
      simp only [runBroadcastResponder, hrun] at hst
      cases hst
      exact ⟨rfl, rfl, _, rfl, by decide⟩
  | returned => cases hst

/-- **Every step of a thread brings a stop behind its block closer to its end.** -/
theorem remaining_lt {op t : WebSocketOperator H P} {a : Action} {pc : OperatorPc H P} (h : op.Consistent)
    (hcall : op.call = some pc) (hpc : Stopping pc) (hst : op.step a = some t) :
    t.remaining < op.remaining ∧ (t.call = none ∨ ∃ pc', t.call = some pc' ∧ Stopping pc') := by
  obtain ⟨hfree, hstopped⟩ := h.stopped pc hcall hpc
  cases a with
  | call raises =>
      rw [step_call hcall] at hst
      cases pc with
      | joinServer =>
          obtain ⟨-, hst⟩ := Option.ite_none_right_eq_some.mp hst
          cases hst
          refine ⟨?_, .inr ⟨_, rfl, trivial⟩⟩
          show 2 + 0 + op.broadcastThread.elim 0 broadcastRest < op.remaining
          rw [remaining, hcall]
          simp only [Option.elim_some, callRest]
          omega
      | joinBroadcast =>
          obtain ⟨-, hst⟩ := Option.ite_none_right_eq_some.mp hst
          cases hst
          refine ⟨?_, .inr ⟨_, rfl, trivial⟩⟩
          show 1 + op.serverThread.elim 0 serverRest + 0 < op.remaining
          rw [remaining, hcall]
          simp only [Option.elim_some, callRest]
          omega
      | resetServer =>
          obtain ⟨-, hst⟩ := Option.ite_none_right_eq_some.mp hst
          cases hst
          refine ⟨?_, .inl rfl⟩
          show 0 + op.serverThread.elim 0 serverRest + op.broadcastThread.elim 0 broadcastRest < op.remaining
          rw [remaining, hcall]
          simp only [Option.elim_some, callRest]
          omega
      | startTest => cases hpc
      | startServer => cases hpc
      | startThreads => cases hpc
      | stopTest => cases hpc
      | stopServer => cases hpc
      | send hdl payload => cases hpc
  | server raises =>
      obtain ⟨p, hp, hst⟩ := Option.bind_eq_some_iff.mp hst
      obtain ⟨hc, hb, p', hp', hlt⟩ := serverRest_lt (fun hserv => hfree (hserv ▸ hp)) hstopped hst
      refine ⟨?_, .inr ⟨pc, hc.trans hcall, hpc⟩⟩
      rw [remaining, remaining, hc, hb, hp, hp']
      simp only [Option.elim_some]
      omega
  | broadcast binds message =>
      obtain ⟨p, hp, hst⟩ := Option.bind_eq_some_iff.mp hst
      obtain ⟨hc, hs, p', hp', hlt⟩ := broadcastRest_lt (h.inStop pc hcall (.inr hpc)) hst
      refine ⟨?_, .inr ⟨pc, hc.trans hcall, hpc⟩⟩
      rw [remaining, remaining, hc, hs, hp, hp']
      simp only [Option.elim_some]
      omega

end WebSocketOperator

end Kufibot
