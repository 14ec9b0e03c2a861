import Kufibot.Lib.System
import Kufibot.VoiceAgent.MessageTypes
import Mathlib.Logic.Function.Basic

/-!
# `VoiceAgent.RequestReply` — which request does a reply answer?

`RobotBridge._request_reply` clears the one response cell of the protocol, gives it a new event, sends its
request and waits for that event. Any datagram that comes in fills the cell and sets the event of the most
recent call; nothing in it says which request it answers.

`ForListener` is the condition on a delivery: every call that would return the datagram is the one it
answers. Then each result was sent in answer to its own call (`reply_answers_call`); after any other
delivery a call returns the reply to another one.
-/

namespace Kufibot

open Lib

/-- The two requests of the bridge. -/
inductive RequestKind where
  | sensorData
  | cameraSnapshot
deriving DecidableEq, Repr

namespace RequestKind

/-- The type of the packet that is sent. -/
def request : RequestKind → MessageType
  | .sensorData => .sensorReadRequest
  | .cameraSnapshot => .cameraSnapShotRequest

/-- The type of the packet that answers it. -/
def reply : RequestKind → MessageType
  | .sensorData => .sensorData
  | .cameraSnapshot => .cameraSnapShotResponse

end RequestKind

/-- A datagram from the robot. -/
structure Reply where
  /-- Ghost: the call whose request it answers. -/
  answers : Nat
  type : MessageType
deriving DecidableEq, Repr

inductive CallStatus where
  /-- The request is sent, `_wait_response` has not begun. -/
  | sent
  /-- In `event.wait()`, of the event with this number. -/
  | waiting (event : Nat)
  | returned (result : Option Reply)
  /-- An assertion of `_wait_response` has failed. -/
  | failed
deriving DecidableEq, Repr

structure RequestCall where
  kind : RequestKind
  status : CallStatus
deriving DecidableEq, Repr

/-- The bridge with its protocol, and the datagrams on their way. -/
structure RobotBridge where
  /-- `_response`. -/
  response : Option Reply
  /-- `_event`: each call makes its own, so it is named by the number of the call. -/
  event : Option Nat
  isSet : Nat → Bool
  calls : Nat → Option RequestCall
  /-- How many calls were made; the next one gets this number. -/
  started : Nat
  /-- Requests that the robot has not received yet: the call and the type. -/
  requests : List (Nat × MessageType)
  /-- Replies that the bridge has not received yet. -/
  replies : List Reply

/-- What can happen next. Datagrams are named by their places among those on their way. -/
inductive BridgeAction where
  | call (kind : RequestKind)
  /-- `_wait_response` of call `c` begins. -/
  | wait (c : Nat)
  /-- The robot receives a request and answers it. -/
  | answer (i : Nat)
  | loseRequest (i : Nat)
  | loseReply (i : Nat)
  /-- `datagram_received`. -/
  | deliver (i : Nat)
  /-- The event of call `c` is set, and the call goes on. -/
  | resume (c : Nat)
  | timeout (c : Nat)

namespace RobotBridge

/-- The type of the packet with which the robot answers a request. -/
def replyType : MessageType → Option MessageType
  | .sensorReadRequest => some .sensorData
  | .cameraSnapShotRequest => some .cameraSnapShotResponse
  | _ => none

def setStatus (s : RobotBridge) (c : Nat) (call : RequestCall) (status : CallStatus) : RobotBridge :=
  { s with calls := Function.update s.calls c (some { call with status := status }) }

/-- `_clear_response` and `send_message` of a new call. -/
def requestReply (kind : RequestKind) (s : RobotBridge) : RobotBridge :=
  { s with
    response := none
    event := some s.started
    calls := Function.update s.calls s.started (some ⟨kind, .sent⟩)
    started := s.started + 1
    requests := s.requests ++ [(s.started, kind.request)] }

/-- `_wait_response` up to `await`. -/
def waitResponse (c : Nat) (call : RequestCall) (s : RobotBridge) : RobotBridge :=
  match s.event with
  | some event => s.setStatus c call (.waiting event)
  | none => s.setStatus c call .failed

def datagramReceived (data : Reply) (s : RobotBridge) : RobotBridge :=
  { s with
    response := some data
    isSet := fun event => s.isSet event || s.event == some event }

/-- `_wait_response` behind `await`, and the return of the call. -/
def resumeCall (c : Nat) (call : RequestCall) (s : RobotBridge) : RobotBridge :=
  match s.response with
  | some data => s.setStatus c call (.returned (some data))
  | none => s.setStatus c call .failed

def step (s : RobotBridge) : BridgeAction → Option RobotBridge
  | .call kind => some (s.requestReply kind)
  | .wait c =>
      match s.calls c with
      | some ⟨kind, .sent⟩ => some (s.waitResponse c ⟨kind, .sent⟩)
      | _ => none
  | .answer i =>
      s.requests[i]?.bind fun request =>
        (replyType request.2).map fun type =>
          { s with requests := s.requests.eraseIdx i, replies := s.replies ++ [⟨request.1, type⟩] }
  | .loseRequest i => some { s with requests := s.requests.eraseIdx i }
  | .loseReply i => some { s with replies := s.replies.eraseIdx i }
  | .deliver i =>
      s.replies[i]?.map fun data =>
        { s with replies := s.replies.eraseIdx i }.datagramReceived data
  | .resume c =>
      match s.calls c with
      | some ⟨kind, .waiting event⟩ =>
          if s.isSet event then some (s.resumeCall c ⟨kind, .waiting event⟩) else none
      | _ => none
  | .timeout c =>
      match s.calls c with
      | some ⟨kind, .sent⟩ => some (s.setStatus c ⟨kind, .sent⟩ (.returned none))
      | some ⟨kind, .waiting event⟩ => some (s.setStatus c ⟨kind, .waiting event⟩ (.returned none))
      | _ => none

/-- A bridge that has just been connected. -/
def connected : RobotBridge where
  response := none
  event := none
  isSet _ := false
  calls _ := none
  started := 0
  requests := []
  replies := []

/-- The bridge, its callers, the network and the robot. -/
def system : System RobotBridge BridgeAction where
  init s := s = connected
  step := step

/-! ## A reply answers its own request -/

/-- **Every result was sent in answer to the call that returned it**, and has the type it asked for. -/
def AnswersOwn (s : RobotBridge) : Prop :=
  ∀ c call data, s.calls c = some call → call.status = .returned (some data) →
    data.answers = c ∧ data.type = call.kind.reply

/-- Call `c` returns the content of the cell if it is the next to go on. -/
def Listening (s : RobotBridge) (c : Nat) : Prop :=
  ∃ call, s.calls c = some call ∧ (call.status = .sent ∨
    ∃ event, call.status = .waiting event ∧ (s.event = some event ∨ s.isSet event = true))

/-- A reply is delivered only while every call that listens is the one it answers. -/
def ForListener (s : RobotBridge) : BridgeAction → Prop
  | .deliver i => ∀ data, s.replies[i]? = some data → ∀ c, s.Listening c → c = data.answers
  | _ => True

/-! ## What a step can do -/

/-- How the status of a call may change. -/
inductive NextStatus (s : RobotBridge) (call : RequestCall) : CallStatus → Prop where
  | waiting {event : Nat} (hcall : call.status = .sent) (hevent : s.event = some event) :
      NextStatus s call (.waiting event)
  | returned {event : Nat} {data : Reply} (hcall : call.status = .waiting event)
      (hset : s.isSet event = true) (hdata : s.response = some data) :
      NextStatus s call (.returned (some data))
  | timeout : NextStatus s call (.returned none)
  | failed : NextStatus s call .failed

inductive Steps (s : RobotBridge) : BridgeAction → RobotBridge → Prop where
  | call {kind : RequestKind} : Steps s (.call kind) (s.requestReply kind)
  /-- A call goes on. -/
  | status {a : BridgeAction} {c : Nat} {call : RequestCall} {status : CallStatus}
      (hcall : s.calls c = some call) (hstatus : NextStatus s call status) :
      Steps s a (s.setStatus c call status)
  /-- Datagrams get lost, or the robot answers one. -/
  | network {a : BridgeAction} {requests : List (Nat × MessageType)} {replies : List Reply}
      (hrequests : ∀ x ∈ requests, x ∈ s.requests)
      (hreplies : ∀ r ∈ replies, r ∈ s.replies ∨
        ∃ x ∈ s.requests, x.1 = r.answers ∧ replyType x.2 = some r.type) :
      Steps s a { s with requests := requests, replies := replies }
  | deliver {i : Nat} {data : Reply} (hdata : s.replies[i]? = some data) :
      Steps s (.deliver i) ({ s with replies := s.replies.eraseIdx i }.datagramReceived data)

theorem steps_of_step {s t : RobotBridge} {a : BridgeAction} (h : s.step a = some t) : Steps s a t := by
  cases a with
  | call kind => cases h; exact .call
  | wait c =>
      simp only [step] at h
      split at h
      · rename_i kind hcall
        cases h
        unfold waitResponse
        split
        · rename_i event hevent
          exact .status hcall (.waiting rfl hevent)
        · exact .status hcall .failed
      · cases h
  | answer i =>
      obtain ⟨request, hrequest, h⟩ := Option.bind_eq_some_iff.mp h
      obtain ⟨type, htype, rfl⟩ := Option.map_eq_some_iff.mp h
      refine .network (fun x hx => List.mem_of_mem_eraseIdx hx) fun r hr => ?_
      rcases List.mem_append.mp hr with hr | hr
      · exact .inl hr
      · rw [List.mem_singleton.mp hr]
        exact .inr ⟨request, List.mem_of_getElem? hrequest, rfl, htype⟩
  | loseRequest i =>
      cases h
      exact .network (fun x hx => List.mem_of_mem_eraseIdx hx) fun r hr => .inl hr
  | loseReply i =>
      cases h
      exact .network (fun x hx => hx) fun r hr => .inl (List.mem_of_mem_eraseIdx hr)
  | deliver i =>
      obtain ⟨data, hdata, rfl⟩ := Option.map_eq_some_iff.mp h
      exact .deliver hdata
  | resume c =>
      simp only [step] at h
      split at h
      · rename_i kind event hcall
        obtain ⟨hset, h⟩ := Option.ite_none_right_eq_some.mp h
        cases h
        unfold resumeCall
        split
        · rename_i data hdata
          exact .status hcall (.returned rfl hset hdata)
        · exact .status hcall .failed
      · cases h
  | timeout c =>
      simp only [step] at h
      split at h
      · rename_i kind hcall; cases h; exact .status hcall .timeout
      · rename_i kind event hcall; cases h; exact .status hcall .timeout
      · cases h

/-- A call after the step was there before, with the same request, or is the new one. -/
theorem calls_setStatus {s : RobotBridge} {c c' : Nat} {call call' : RequestCall} {status : CallStatus}
    (h : (s.setStatus c call status).calls c' = some call') :
    (c' = c ∧ call' = { call with status := status }) ∨ (c' ≠ c ∧ s.calls c' = some call') := by
  by_cases hc : c' = c
  · subst hc
    have h : some { call with status := status } = some call' := by
      simpa [setStatus] using h
    exact .inl ⟨rfl, (Option.some.inj h).symm⟩
  · exact .inr ⟨hc, by simpa [setStatus, hc] using h⟩

theorem calls_requestReply {s : RobotBridge} {kind : RequestKind} {c : Nat} {call : RequestCall}
    (h : (s.requestReply kind).calls c = some call) :
    (c = s.started ∧ call = ⟨kind, .sent⟩) ∨ s.calls c = some call := by
  by_cases hc : c = s.started
  · subst hc
    have h : some ⟨kind, .sent⟩ = some call := by simpa [requestReply] using h
    exact .inl ⟨rfl, (Option.some.inj h).symm⟩
  · exact .inr (by simpa [requestReply, hc] using h)

/-! ## What a reply is about -/

/-- The call exists and asked for this type. -/
def AskedFor (s : RobotBridge) (c : Nat) (type : MessageType) : Prop :=
  ∃ call, s.calls c = some call ∧ type = call.kind.reply

structure ReplyInv (s : RobotBridge) : Prop where
  fresh : ∀ c, s.started ≤ c → s.calls c = none
  /-- The most recent call has an event. -/
  event : ∀ c call, s.calls c = some call → s.event.isSome
  requests : ∀ x ∈ s.requests, ∃ call, s.calls x.1 = some call ∧ x.2 = call.kind.request
  replies : ∀ r ∈ s.replies, s.AskedFor r.answers r.type
  response : ∀ r, s.response = some r → s.AskedFor r.answers r.type
  results : ∀ c call r, s.calls c = some call → call.status = .returned (some r) →
    s.AskedFor r.answers r.type

theorem replyType_request (kind : RequestKind) : replyType kind.request = some kind.reply := by
  cases kind <;> rfl

/-- A call keeps its request, whatever becomes of its status. -/
theorem calls_setStatus_of_some {s : RobotBridge} {c c' : Nat} {call call' : RequestCall}
    {status : CallStatus} (hcall : s.calls c = some call) (hcall' : s.calls c' = some call') :
    ∃ call'', (s.setStatus c call status).calls c' = some call'' ∧ call''.kind = call'.kind := by
  by_cases hc : c' = c
  · subst hc
    have hcalls : call = call' := Option.some.inj (hcall.symm.trans hcall')
    subst hcalls
    exact ⟨{ call with status := status }, by simp [setStatus], rfl⟩
  · exact ⟨call', by simpa [setStatus, hc] using hcall', rfl⟩

theorem askedFor_setStatus {s : RobotBridge} {c c' : Nat} {call : RequestCall} {status : CallStatus}
    {type : MessageType} (hcall : s.calls c = some call) (h : s.AskedFor c' type) :
    (s.setStatus c call status).AskedFor c' type := by
  obtain ⟨call', hcall', htype⟩ := h
  obtain ⟨call'', hcall'', hkind⟩ := calls_setStatus_of_some hcall hcall'
  exact ⟨call'', hcall'', by rw [hkind]; exact htype⟩

/-- A new call gets a number of its own, so the calls before it stay as they are. -/
theorem calls_requestReply_of_some {s : RobotBridge} (h : ReplyInv s) (kind : RequestKind) {c : Nat}
    {call : RequestCall} (hcall : s.calls c = some call) :
    (s.requestReply kind).calls c = some call := by
  have hc : c ≠ s.started := by
    rintro rfl
    rw [h.fresh _ (Nat.le_refl _)] at hcall
    cases hcall
  simpa [requestReply, hc] using hcall

theorem replyInv_requestReply {s : RobotBridge} (h : ReplyInv s) (kind : RequestKind) :
    ReplyInv (s.requestReply kind) := by
  have hasked : ∀ {c : Nat} {type : MessageType}, s.AskedFor c type →
      (s.requestReply kind).AskedFor c type :=
    fun ⟨call, hcall, htype⟩ => ⟨call, calls_requestReply_of_some h kind hcall, htype⟩
  constructor
  · intro c hc
    have hc : s.started + 1 ≤ c := hc
    have hne : c ≠ s.started := by omega
    simpa [requestReply, hne] using h.fresh c (by omega)
  · intro _ _ _
    rfl
  · intro x hx
    rcases List.mem_append.mp hx with hx | hx
    · obtain ⟨call, hcall, htype⟩ := h.requests x hx
      exact ⟨call, calls_requestReply_of_some h kind hcall, htype⟩
    · rw [List.mem_singleton.mp hx]
      exact ⟨⟨kind, .sent⟩, by simp [requestReply], rfl⟩
  · exact fun r hr => hasked (h.replies r hr)
  · intro _ hr
    cases hr
  · intro c call r hcall hstatus
    rcases calls_requestReply hcall with ⟨-, rfl⟩ | hcall
    · cases hstatus
    · exact hasked (h.results c call r hcall hstatus)

theorem replyInv_setStatus {s : RobotBridge} {c : Nat} {call : RequestCall} {status : CallStatus}
    (h : ReplyInv s) (hcall : s.calls c = some call) (hstatus : NextStatus s call status) :
    ReplyInv (s.setStatus c call status) := by
  constructor
  · intro c' hc'
    have hne : c' ≠ c := by
      rintro rfl
      rw [h.fresh _ hc'] at hcall
      cases hcall
    simpa [setStatus, hne] using h.fresh c' hc'
  · exact fun _ _ _ => h.event c call hcall
  · intro x hx
    obtain ⟨call', hcall', htype⟩ := h.requests x hx
    obtain ⟨call'', hcall'', hkind⟩ := calls_setStatus_of_some hcall hcall'
    exact ⟨call'', hcall'', by rw [hkind]; exact htype⟩
  · exact fun r hr => askedFor_setStatus hcall (h.replies r hr)
  · exact fun r hr => askedFor_setStatus hcall (h.response r hr)
  · intro c' call' r hcall' hresult
    refine askedFor_setStatus hcall ?_
    rcases calls_setStatus hcall' with ⟨-, rfl⟩ | ⟨-, hcall'⟩
    · -- the result is the content of the cell
      have hresult : status = .returned (some r) := hresult
      subst hresult
      cases hstatus with
      | returned _ _ hdata => exact h.response r hdata
    · exact h.results c' call' r hcall' hresult

theorem replyInv_step {s t : RobotBridge} {a : BridgeAction} (h : ReplyInv s) (hst : Steps s a t) :
    ReplyInv t := by
  cases hst with
  | @call kind => exact replyInv_requestReply h kind
  | status hcall hstatus => exact replyInv_setStatus h hcall hstatus
  | @network _ requests replies hrequests hreplies =>
      refine ⟨h.fresh, h.event, fun x hx => h.requests x (hrequests x hx), fun r hr => ?_, h.response,
        h.results⟩
      rcases hreplies r hr with hr | ⟨x, hx, hanswers, htype⟩
      · exact h.replies r hr
      · obtain ⟨call, hcall, hrequest⟩ := h.requests x hx
        rw [hrequest, replyType_request] at htype
        exact ⟨call, by rw [← hanswers]; exact hcall, (Option.some.inj htype).symm⟩
  | @deliver i data hdata =>
      refine ⟨h.fresh, h.event, h.requests, fun r hr => h.replies r (List.mem_of_mem_eraseIdx hr), ?_,
        h.results⟩
      rintro r ⟨⟩
      exact h.replies data (List.mem_of_getElem? hdata)

theorem replyInv_reachable {s : RobotBridge} (h : system.Reachable s) : ReplyInv s := by
  refine h.invariant ?_ fun s a t hs _ hst => ?_
  · rintro _ rfl
    refine ⟨fun _ _ => rfl, fun _ _ => (nomatch ·), ?_, ?_, fun _ => (nomatch ·), fun _ _ _ => (nomatch ·)⟩
    · exact fun _ hx => absurd hx List.not_mem_nil
    · exact fun _ hr => absurd hr List.not_mem_nil
  · exact replyInv_step hs (steps_of_step hst)

/-! ## Under `ForListener` the cell is for whoever listens -/

structure CellInv (s : RobotBridge) : Prop where
  cell : ∀ data, s.response = some data → ∀ c, s.Listening c → c = data.answers
  own : ∀ c call data, s.calls c = some call → call.status = .returned (some data) → data.answers = c

theorem cellInv_step {s t : RobotBridge} {a : BridgeAction} (h : CellInv s) (hok : s.ForListener a)
    (hst : Steps s a t) : CellInv t := by
  cases hst with
  | @call kind =>
      constructor
      · intro _ hdata
        cases hdata
      · intro c call data hcall hstatus
        rcases calls_requestReply hcall with ⟨-, rfl⟩ | hcall
        · cases hstatus
        · exact h.own c call data hcall hstatus
  | @status _ c call status hcall hstatus =>
      constructor
      · rintro data hdata c' ⟨call', hcall', hlisten⟩
        refine h.cell data hdata c' ?_
        rcases calls_setStatus hcall' with ⟨rfl, rfl⟩ | ⟨-, hcall'⟩
        · -- only a call that begins to wait goes on listening
          have hlisten : status = .sent ∨ ∃ event, status = .waiting event ∧
              (s.event = some event ∨ s.isSet event = true) := hlisten
          cases hstatus with
          | waiting hsent _ => exact ⟨call, hcall, .inl hsent⟩
          | _ => simp at hlisten
        · exact ⟨call', hcall', hlisten⟩
      · intro c' call' data hcall' hresult
        rcases calls_setStatus hcall' with ⟨rfl, rfl⟩ | ⟨-, hcall'⟩
        · have hresult : status = .returned (some data) := hresult
          subst hresult
          cases hstatus with
          | @returned event _ hwaiting hset hdata =>
              exact (h.cell data hdata c' ⟨call, hcall, .inr ⟨event, hwaiting, .inr hset⟩⟩).symm
        · exact h.own c' call' data hcall' hresult
  | network _ _ => exact ⟨h.cell, h.own⟩
  | @deliver i data hdata =>
      refine ⟨?_, h.own⟩
      rintro data' ⟨⟩ c ⟨call, hcall, hlisten⟩
      refine hok data hdata c ⟨call, hcall, ?_⟩
      -- the event that was just set is the one of the most recent call
      rcases hlisten with hsent | ⟨event, hwaiting, hevent | hset⟩
      · exact .inl hsent
      · exact .inr ⟨event, hwaiting, .inl hevent⟩
      · refine .inr ⟨event, hwaiting, ?_⟩
        rcases Bool.or_eq_true_iff.mp hset with hset | hevent
        · exact .inr hset
        · exact .inl (beq_iff_eq.mp hevent)

theorem answersOwn_of_forListener {s : RobotBridge} (h : system.ReachableVia ForListener s) :
    s.AnswersOwn := by
  have hcell : CellInv s := by
    refine h.invariant ?_ fun s a t hs hok hst => ?_
    · rintro _ rfl
      exact ⟨fun _ => (nomatch ·), fun _ _ _ => (nomatch ·)⟩
    · exact cellInv_step hs hok (steps_of_step hst)
  intro c call data hcall hstatus
  have hown := hcell.own c call data hcall hstatus
  obtain ⟨call', hcall', htype⟩ := (replyInv_reachable h.reachable).results c call data hcall hstatus
  rw [hown, hcall] at hcall'
  cases hcall'
  exact ⟨hown, htype⟩

/-! ## Any other delivery gives a call the reply to another one -/

/-- A call that is in `event.wait()` of a set event returns the content of the cell. -/
theorem returned_of_resume {s : RobotBridge} {c event : Nat} {call : RequestCall} {data : Reply}
    (hcall : s.calls c = some call) (hwaiting : call.status = .waiting event)
    (hset : s.isSet event = true) (hdata : s.response = some data) :
    ∃ u, s.step (.resume c) = some u ∧
      u.calls c = some { call with status := .returned (some data) } := by
  obtain ⟨kind, status⟩ := call
  have hwaiting : status = .waiting event := hwaiting
  subst hwaiting
  refine ⟨s.resumeCall c ⟨kind, .waiting event⟩, by simp [step, hcall, hset], ?_⟩
  simp [resumeCall, hdata, setStatus]

/-- `_wait_response` of a call that begins after its event was set does not wait. -/
theorem returned_of_wait {s : RobotBridge} {c event : Nat} {call : RequestCall} {data : Reply}
    (hcall : s.calls c = some call) (hsent : call.status = .sent) (hevent : s.event = some event)
    (hset : s.isSet event = true) (hdata : s.response = some data) :
    ∃ u, system.exec s [.wait c, .resume c] = some u ∧
      u.calls c = some { call with status := .returned (some data) } := by
  obtain ⟨kind, status⟩ := call
  have hsent : status = .sent := hsent
  subst hsent
  let t : RobotBridge := s.setStatus c ⟨kind, .sent⟩ (.waiting event)
  have hwait : s.step (.wait c) = some t := by simp [step, hcall, waitResponse, hevent, t]
  have htcall : t.calls c = some ⟨kind, .waiting event⟩ := by simp [t, setStatus]
  obtain ⟨u, hresume, hu⟩ := returned_of_resume (s := t) htcall rfl hset hdata
  exact ⟨u, by simp [System.exec, system, hwait, hresume], hu⟩

theorem not_answersOwn {s : RobotBridge} {c : Nat} {call : RequestCall} {data : Reply}
    (hcall : s.calls c = some { call with status := .returned (some data) }) (hc : c ≠ data.answers) :
    ¬ s.AnswersOwn :=
  fun h => hc (h c _ data hcall rfl).1.symm

/-- After a delivery that is not `ForListener`, some call returns the reply to another one. -/
theorem answersOther_of_deliver {s t : RobotBridge} {a : BridgeAction} (hs : system.Reachable s)
    (hbad : ¬ s.ForListener a) (hst : s.step a = some t) :
    ∃ as u, system.exec t as = some u ∧ ¬ u.AnswersOwn := by
  cases a with
  | deliver i =>
      simp only [ForListener, not_forall] at hbad
      obtain ⟨data, hdata, c, ⟨call, hcall, hlisten⟩, hc⟩ := hbad
      have ht : t = { s with replies := s.replies.eraseIdx i }.datagramReceived data := by
        simpa [step, hdata] using hst.symm
      subst ht
      rcases hlisten with hsent | ⟨event, hwaiting, hevent⟩
      · -- the current event is set, and the call waits for that one
        obtain ⟨event, hevent⟩ :=
          Option.isSome_iff_exists.mp ((replyInv_reachable hs).event c call hcall)
        obtain ⟨u, hexec, hu⟩ :=
          returned_of_wait (s := { s with replies := s.replies.eraseIdx i }.datagramReceived data)
            hcall hsent hevent (by simp [datagramReceived, hevent]) rfl
        exact ⟨_, u, hexec, not_answersOwn hu hc⟩
      · have hset : (s.isSet event || s.event == some event) = true := by
          rcases hevent with hevent | hset
          · simp [hevent]
          · simp [hset]
        obtain ⟨u, hresume, hu⟩ :=
          returned_of_resume (s := { s with replies := s.replies.eraseIdx i }.datagramReceived data)
            hcall hwaiting hset rfl
        exact ⟨[.resume c], u, by simp [System.exec, system, hresume], not_answersOwn hu hc⟩
  | _ => exact absurd trivial hbad

/-- **Whose reply a call returns.** In a run whose deliveries are all for the call that listens, every
    result was sent in answer to the call that returned it. After any other delivery the run can go on so
    that a call returns the reply to another one. -/
theorem reply_answers_call (s : RobotBridge) :
    (system.ReachableVia ForListener s → s.AnswersOwn) ∧
      ∀ a t, system.Reachable s → ¬ s.ForListener a → s.step a = some t →
        ∃ as u, system.exec t as = some u ∧ ¬ u.AnswersOwn :=
  ⟨answersOwn_of_forListener, fun _ _ hs hbad hst => answersOther_of_deliver hs hbad hst⟩

/-! ## A late reply -/

/-- The sensor data call is answered, but the answer is still on its way when it times out; the snapshot
    call is the next one. -/
def afterTimeout : List BridgeAction :=
  [.call .sensorData, .wait 0, .answer 0, .timeout 0, .call .cameraSnapshot, .wait 1]

/-- **The snapshot call returns the sensor data** that the call before it did not wait for. -/
theorem late_reply_returned : ∃ s, system.Reachable s ∧ ¬ s.AnswersOwn := by
  have hrun : (system.exec connected (afterTimeout ++ [.deliver 0, .resume 1])).map (fun s => s.calls 1) =
      some (some ⟨.cameraSnapshot, .returned (some ⟨0, .sensorData⟩)⟩) := rfl
  obtain ⟨s, hs, hcall⟩ :=
    System.exists_of_exec (.init rfl : system.Reachable connected) (fun _ _ _ => trivial) hrun
  refine ⟨s, hs, fun hown => ?_⟩
  have hanswers : (0 : Nat) = 1 := (hown 1 _ _ hcall rfl).1
  omega

/-- Both directions at work: a call alone gets its own reply, and the late one is not for its listener. -/
theorem reply_answers_call_runs :
    (∃ s : RobotBridge, s.calls 0 = some ⟨.sensorData, .returned (some ⟨0, .sensorData⟩)⟩ ∧ s.AnswersOwn) ∧
      ∃ (s t : RobotBridge) (as : List BridgeAction) (u : RobotBridge),
        s.step (.deliver 0) = some t ∧ system.exec t as = some u ∧ ¬ u.AnswersOwn := by
  constructor
  · let alone : List BridgeAction := [.call .sensorData, .wait 0, .answer 0]
    have halone : ∀ a ∈ alone, ∀ u : RobotBridge, u.ForListener a := by
      intro a ha u
      simp only [alone, List.mem_cons, List.not_mem_nil, or_false] at ha
      rcases ha with rfl | rfl | rfl <;> trivial
    have hrun : (system.exec connected alone).map (fun s => (s.replies, s.calls 0, s.event, s.started)) =
        some ([⟨0, .sensorData⟩], some ⟨.sensorData, .waiting 0⟩, some 0, 1) := rfl
    obtain ⟨s, hs, hstate⟩ := System.exists_of_exec (.init rfl) halone hrun
    simp only [Prod.mk.injEq] at hstate
    obtain ⟨hreplies, hcall, hevent, hstarted⟩ := hstate
    have hok : s.ForListener (.deliver 0) := by
      rintro data hdata c ⟨call, hc, -⟩
      have hdata' : s.replies[0]? = some ⟨0, .sensorData⟩ := by rw [hreplies]; rfl
      cases hdata.symm.trans hdata'
      show c = 0
      by_contra hne
      -- no other call was made
      have hfresh := (replyInv_reachable hs.reachable).fresh c (by rw [hstarted]; omega)
      rw [hfresh] at hc
      cases hc
    let t : RobotBridge := { s with replies := s.replies.eraseIdx 0 }.datagramReceived ⟨0, .sensorData⟩
    have hst : s.step (.deliver 0) = some t := by simp [step, hreplies, t]
    have ht : system.ReachableVia ForListener t := .step hs hok hst
    obtain ⟨u, hresume, hu⟩ := returned_of_resume (s := t) hcall rfl (by simp [t, datagramReceived, hevent]) rfl
    exact ⟨u, hu, (reply_answers_call u).1 (.step ht (a := .resume 0) trivial hresume)⟩
  · have hrun : (system.exec connected afterTimeout).map (fun s => (s.replies, s.calls 1, s.event)) =
        some ([⟨0, .sensorData⟩], some ⟨.cameraSnapshot, .waiting 1⟩, some 1) := rfl
    obtain ⟨s, hs, hstate⟩ :=
      System.exists_of_exec (.init rfl : system.Reachable connected) (fun _ _ _ => trivial) hrun
    simp only [Prod.mk.injEq] at hstate
    obtain ⟨hreplies, hcall, hevent⟩ := hstate
    have hlate : ¬ s.ForListener (.deliver 0) := by
      intro hok
      have hlisten : s.Listening 1 := ⟨_, hcall, .inr ⟨1, rfl, .inl hevent⟩⟩
      have hanswers : (1 : Nat) = 0 := hok ⟨0, .sensorData⟩ (by rw [hreplies]; rfl) 1 hlisten
      omega
    have hst : s.step (.deliver 0) = some ({ s with replies := s.replies.eraseIdx 0 }.datagramReceived
        ⟨0, .sensorData⟩) := by simp [step, hreplies]
    obtain ⟨as, u, hexec, hother⟩ := (reply_answers_call s).2 _ _ hs hlate hst
    exact ⟨s, _, as, u, hst, hexec, hother⟩

end RobotBridge

end Kufibot
