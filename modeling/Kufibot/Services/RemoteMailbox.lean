import Kufibot.Services.RemoteConnection

/-!
# `Services.RemoteMailbox` — is the last notification of a client processed?

`MailboxInv` follows one notification through the slot: while it is in the slot it is the last one and
`_hdl` is its handle; while it is processed, the statements that are left lead to the link it asks for;
behind the reset the link is that one. All of this rests on nothing being put into the slot between its
read and its reset.
-/

namespace Kufibot

open Lib

/-- The AI mode that a publication calls for. -/
def RemotePublication.aiMode : RemotePublication → Option Bool
  | .aiModeOnCall => some true
  | .aiModeOffCall => some false
  | _ => none

/-- The AI mode called for last. -/
def lastAiMode (published : List RemotePublication) : Option Bool :=
  (published.filterMap RemotePublication.aiMode).getLast?

theorem lastAiMode_append (published : List RemotePublication) (p : RemotePublication) :
    lastAiMode (published ++ [p]) = p.aiMode.or (lastAiMode published) := by
  unfold lastAiMode
  rw [List.filterMap_append]
  cases p <;> simp [RemotePublication.aiMode]

/-- The link that a processed notification leaves: a close has unsubscribed the service and switched AI
    mode on, an open has subscribed it and switched AI mode off. -/
structure LinkFor {H : Type} (n : Notification H) (l : RemoteLink H) : Prop where
  hdl : ∀ h, l.hdl = some h → h = n.hdl
  close : n.text = "on_close" →
    l.perception = false ∧ l.robotController = false ∧ lastAiMode l.published = some true
  opened : n.text = "on_open" →
    l.perception = true ∧ l.robotController = true ∧ lastAiMode l.published = some false

variable {H V D : Type} {parse : String → Option Json}

namespace RemoteConnectionService

/-- The last notification has been processed, and the link is the one it asks for. -/
structure Done (s : RemoteConnectionService H V D) : Prop where
  last : ∀ n, s.notified.getLast? = some n → s.notified.length - 1 ∈ s.processed ∧ LinkFor n s.link
  first : s.notified = [] → s.link.hdl = none

/-- **No notification is lost**: a waiting service with an empty slot has processed the last one. -/
def NothingLost (s : RemoteConnectionService H V D) : Prop :=
  s.pc = .waiting → s.socketMessage = none → s.Done

/-- The slot has been read and is going to be reset. -/
def Processing (s : RemoteConnectionService H V D) : Prop :=
  (∃ index steps, s.pc = .process index steps) ∨ s.pc = .resetSlot

/-- No notification falls between the read of the slot and its reset, as long as the service runs. -/
def Timely (s : RemoteConnectionService H V D) : RemoteAction H V D → Prop
  | .notify _ => s.running = true → ¬ s.Processing
  | _ => True

/-! ## What the statements do to the link -/

theorem foldl_hdl {steps : List RemoteStep} (h : .resetHdl ∉ steps) (l : RemoteLink H) :
    (steps.foldl RemoteStep.apply l).hdl = l.hdl := by
  induction steps generalizing l with
  | nil => rfl
  | cons x steps ih =>
      obtain ⟨hx, hsteps⟩ := List.ne_and_not_mem_of_not_mem_cons h
      rw [List.foldl_cons, ih hsteps]
      cases x with
      | resetHdl => exact absurd rfl hx
      | _ => rfl

theorem resetHdl_not_mem_messageSteps {message : Json} {steps : List RemoteStep}
    (h : messageSteps message = some steps) : .resetHdl ∉ steps := by
  unfold messageSteps at h
  split at h
  · obtain ⟨v, -, h⟩ := Option.bind_eq_some_iff.mp h
    obtain ⟨talkieValue, -, h⟩ := Option.bind_eq_some_iff.mp h
    cases h
    unfold talkieSteps
    split
    · simp
    · split <;> simp
  · split at h
    · obtain ⟨config, -, h⟩ := Option.bind_eq_some_iff.mp h
      obtain ⟨v, -, h⟩ := Option.bind_eq_some_iff.mp h
      obtain ⟨ssid, -, h⟩ := Option.bind_eq_some_iff.mp h
      obtain ⟨w, -, h⟩ := Option.bind_eq_some_iff.mp h
      obtain ⟨password, -, h⟩ := Option.bind_eq_some_iff.mp h
      cases h
      simp [wifiSteps]
    · split at h
      · obtain ⟨insert, -, h⟩ := Option.bind_eq_some_iff.mp h
        obtain ⟨v, -, h⟩ := Option.bind_eq_some_iff.mp h
        obtain ⟨input, -, h⟩ := Option.bind_eq_some_iff.mp h
        obtain ⟨w, -, h⟩ := Option.bind_eq_some_iff.mp h
        obtain ⟨output, -, h⟩ := Option.bind_eq_some_iff.mp h
        cases h
        simp
      · obtain ⟨data, -, h⟩ := Option.bind_eq_some_iff.mp h
        cases h
        simp

/-- **What a notification leads to**: all its statements together leave the link it asks for. -/
theorem linkFor_socketSteps {n : Notification H} {l : RemoteLink H} {steps : List RemoteStep}
    (hsteps : socketSteps parse n.text = some steps) (hhdl : l.hdl = some n.hdl) :
    LinkFor n (steps.foldl RemoteStep.apply l) := by
  have hother : ∀ h, (some n.hdl : Option H) = some h → h = n.hdl := fun _ h => (Option.some.inj h).symm
  unfold socketSteps at hsteps
  by_cases hopen : n.text = "on_open"
  · rw [if_pos hopen] at hsteps
    cases hsteps
    refine ⟨?_, fun hclose => ?_, fun _ => ⟨rfl, rfl, ?_⟩⟩
    · show ∀ h, l.hdl = some h → h = n.hdl
      rw [hhdl]
      exact hother
    · rw [hopen] at hclose
      exact absurd hclose (by decide)
    · show lastAiMode (l.published ++ [_] ++ [_]) = _
      rw [lastAiMode_append]
      rfl
  · rw [if_neg hopen] at hsteps
    by_cases hclose : n.text = "on_close"
    · rw [if_pos hclose] at hsteps
      cases hsteps
      refine ⟨fun _ h => (nomatch h), fun _ => ⟨rfl, rfl, ?_⟩, fun h => absurd h hopen⟩
      show lastAiMode (l.published ++ [_] ++ [_]) = _
      rw [lastAiMode_append, lastAiMode_append]
      rfl
    · rw [if_neg hclose] at hsteps
      obtain ⟨message, -, hsteps⟩ := Option.bind_eq_some_iff.mp hsteps
      refine ⟨?_, fun h => absurd h hclose, fun h => absurd h hopen⟩
      rw [foldl_hdl (resetHdl_not_mem_messageSteps hsteps), hhdl]
      exact hother

/-! ## The invariant under `Timely` -/

structure MailboxInv (s : RemoteConnectionService H V D) : Prop where
  /-- The slot holds the last notification, and `_hdl` its handle. -/
  latest : ∀ r, s.socketMessage = some r → ¬ s.Processing → ∃ n, s.notified.getLast? = some n ∧
    r.index + 1 = s.notified.length ∧ r.text = n.text ∧ s.link.hdl = some n.hdl
  waiting : s.pc = .waiting ∨ s.pc = .runningTest ∨ s.pc = .slotTest → s.socketMessage = none → s.Done
  /-- What is left to do leads to the link that the last notification asks for. -/
  processing : ∀ index steps, s.pc = .process index steps → s.running = true →
    index + 1 = s.notified.length ∧
      ∀ n, s.notified.getLast? = some n → LinkFor n (steps.foldl RemoteStep.apply s.link)
  resetting : s.pc = .resetSlot → s.running = true → s.Done
  testing : s.pc = .frameTest ∨ s.pc = .sendFrame ∨ s.pc = .loopTest → s.running = true →
    s.socketMessage = none → s.Done

theorem mailboxInv_notify {s : RemoteConnectionService H V D} {n : Notification H}
    (hok : s.running = true → ¬ s.Processing) : MailboxInv (s.handleWebsocket n) := by
  constructor
  · rintro r ⟨⟩ -
    exact ⟨n, by simp [handleWebsocket], by simp [handleWebsocket], rfl, rfl⟩
  · intro _ hslot
    cases hslot
  · intro index steps hpc hrun
    exact absurd (.inl ⟨index, steps, hpc⟩) (hok hrun)
  · intro hpc hrun
    exact absurd (.inr hpc) (hok hrun)
  · intro _ _ hslot
    cases hslot

/-- The service goes on from a point where it does not touch the slot. -/
theorem not_processing {s : RemoteConnectionService H V D} {pc : RemotePc} (h : s.pc = pc)
    (hprocess : ∀ index steps, pc ≠ .process index steps) (hreset : pc ≠ .resetSlot) : ¬ s.Processing := by
  rintro (⟨index, steps, hpc⟩ | hpc)
  · exact hprocess index steps (h.symm.trans hpc)
  · exact hreset (h.symm.trans hpc)

/-- The service moves on without touching the slot. -/
theorem mailboxInv_move {s : RemoteConnectionService H V D} {pc : RemotePc} (h : MailboxInv s)
    (hidle : ¬ s.Processing) (hprocess : ∀ index steps, pc ≠ .process index steps)
    (hreset : pc ≠ .resetSlot)
    (hwaiting : pc = .waiting ∨ pc = .runningTest ∨ pc = .slotTest → s.socketMessage = none → s.Done)
    (htesting : pc = .frameTest ∨ pc = .sendFrame ∨ pc = .loopTest → s.running = true →
      s.socketMessage = none → s.Done) : MailboxInv { s with pc := pc } where
  latest r hr _ := h.latest r hr hidle
  waiting hpc hslot := ⟨(hwaiting hpc hslot).last, (hwaiting hpc hslot).first⟩
  processing index steps hpc := absurd hpc (hprocess index steps)
  resetting hpc := absurd hpc hreset
  testing hpc hrun hslot := ⟨(htesting hpc hrun hslot).last, (htesting hpc hrun hslot).first⟩

/-- While a message is processed, only what is left to do is promised. -/
theorem mailboxInv_of_process {s : RemoteConnectionService H V D} {index : Nat} {steps : List RemoteStep}
    (hpc : s.pc = .process index steps)
    (hlink : s.running = true → index + 1 = s.notified.length ∧
      ∀ n, s.notified.getLast? = some n → LinkFor n (steps.foldl RemoteStep.apply s.link)) :
    MailboxInv s := by
  constructor
  · intro r _ hnot
    exact absurd (.inl ⟨_, _, hpc⟩) hnot
  · rw [hpc]
    rintro (h | h | h) <;> cases h
  · intro index' steps' h
    obtain ⟨rfl, rfl⟩ := RemotePc.process.inj (hpc.symm.trans h)
    exact hlink
  · intro h
    cases hpc.symm.trans h
  · rw [hpc]
    rintro (h | h | h) <;> cases h

/-- The slot is read: it holds the last notification. -/
theorem mailboxInv_read {s : RemoteConnectionService H V D} {received : ReceivedMessage}
    {steps : List RemoteStep} (h : MailboxInv s) (hidle : ¬ s.Processing)
    (hslot : s.socketMessage = some received) (hsteps : socketSteps parse received.text = some steps) :
    MailboxInv { s with pc := .process received.index steps } := by
  obtain ⟨n, hlast, hindex, htext, hhdl⟩ := h.latest received hslot hidle
  rw [htext] at hsteps
  refine mailboxInv_of_process rfl fun _ => ⟨hindex, fun n' hn' => ?_⟩
  obtain rfl : n = n' := Option.some.inj (hlast.symm.trans hn')
  exact linkFor_socketSteps hsteps hhdl

/-- One statement of the processing. -/
theorem mailboxInv_statement {s : RemoteConnectionService H V D} {index : Nat} {x : RemoteStep}
    {steps : List RemoteStep} {frame : Option V} (h : MailboxInv s)
    (hpc : s.pc = .process index (x :: steps)) :
    MailboxInv { s with link := x.apply s.link, frame := frame, pc := .process index steps } :=
  mailboxInv_of_process rfl (h.processing index (x :: steps) hpc)

/-- The processing is over. -/
theorem mailboxInv_processed {s : RemoteConnectionService H V D} {index : Nat} (h : MailboxInv s)
    (hpc : s.pc = .process index []) :
    MailboxInv { s with processed := s.processed ++ [index], pc := .resetSlot } := by
  constructor
  · intro r _ hnot
    exact absurd (.inr rfl) hnot
  · rintro (hpc | hpc | hpc) <;> cases hpc
  · intro _ _ hpc
    cases hpc
  · intro _ hrun
    obtain ⟨hindex, hlink⟩ := h.processing index [] hpc hrun
    refine ⟨fun n hn => ⟨List.mem_append_right _ ?_, hlink n hn⟩, fun hnil => ?_⟩
    · have hindex : s.notified.length - 1 = index := by omega
      exact List.mem_singleton.mpr hindex
    · have hnil : s.notified = [] := hnil
      rw [hnil] at hindex
      cases hindex
  · rintro (hpc | hpc | hpc) <;> cases hpc

/-- The service moves on to a point where nothing is promised. -/
theorem mailboxInv_leave {s : RemoteConnectionService H V D} {pc : RemotePc} (h : MailboxInv s)
    (hidle : ¬ s.Processing) (hpc : pc = .exited ∨ pc = .readSlot ∨ pc = .crashed) :
    MailboxInv { s with pc := pc } := by
  rcases hpc with rfl | rfl | rfl
  all_goals exact mailboxInv_move h hidle (by simp) (by simp) (by simp) (by simp)

/-- The slot is reset. -/
theorem mailboxInv_reset {s : RemoteConnectionService H V D} (h : MailboxInv s)
    (hpc : s.pc = .resetSlot) : MailboxInv { s with socketMessage := none, pc := .frameTest } := by
  refine ⟨fun _ => (nomatch ·), ?_, fun _ _ => (nomatch ·), (nomatch ·), fun _ hrun _ => ?_⟩
  · rintro (hp | hp | hp) <;> cases hp
  · exact ⟨(h.resetting hpc hrun).last, (h.resetting hpc hrun).first⟩

/-- A frame goes to the client. -/
theorem mailboxInv_send {s : RemoteConnectionService H V D} {sent : List (H × V × Option D)}
    {frame : Option V} {sensorData : Option D} (h : MailboxInv s) (hpc : s.pc = .sendFrame) :
    MailboxInv { s with sent := sent, frame := frame, sensorData := sensorData, pc := .loopTest } := by
  have hidle := not_processing hpc (by simp) (by simp)
  refine ⟨fun r hr _ => h.latest r hr hidle, ?_, fun _ _ => (nomatch ·), (nomatch ·),
    fun _ hrun hslot => ?_⟩
  · rintro (hp | hp | hp) <;> cases hp
  · have hdone := h.testing (.inr (.inl hpc)) hrun hslot
    exact ⟨hdone.last, hdone.first⟩

theorem mailboxInv_service {s t : RemoteConnectionService H V D} (h : MailboxInv s)
    (hst : ServiceSteps parse s t) : MailboxInv t := by
  cases hst with
  | wait hpc hrun =>
      refine mailboxInv_move h (not_processing hpc (by simp) (by simp)) (by simp) (by simp) (fun _ => ?_)
        (by simp)
      exact h.testing (.inr (.inr hpc)) hrun
  | wake hpc =>
      refine mailboxInv_move h (not_processing hpc (by simp) (by simp)) (by simp) (by simp) (fun _ => ?_)
        (by simp)
      exact h.waiting (.inl hpc)
  | testSlot hpc _ =>
      refine mailboxInv_move h (not_processing hpc (by simp) (by simp)) (by simp) (by simp) (fun _ => ?_)
        (by simp)
      exact h.waiting (.inr (.inl hpc))
  | exit hpc _ =>
      rcases hpc with hpc | hpc
      · exact mailboxInv_leave h (not_processing hpc (by simp) (by simp)) (.inl rfl)
      · exact mailboxInv_leave h (not_processing hpc (by simp) (by simp)) (.inl rfl)
  | toSlot hpc => exact mailboxInv_leave h (not_processing hpc (by simp) (by simp)) (.inr (.inl rfl))
  | noMessage hpc =>
      refine mailboxInv_move h (not_processing hpc (by simp) (by simp)) (by simp) (by simp) (by simp)
        fun _ _ => ?_
      exact h.waiting (.inr (.inr hpc))
  | read hpc hslot hsteps =>
      exact mailboxInv_read h (not_processing hpc (by simp) (by simp)) hslot hsteps
  | crash hpc _ _ => exact mailboxInv_leave h (not_processing hpc (by simp) (by simp)) (.inr (.inr rfl))
  | statement hpc => exact mailboxInv_statement h hpc
  | processed hpc => exact mailboxInv_processed h hpc
  | reset hpc => exact mailboxInv_reset h hpc
  | toFrame hpc =>
      refine mailboxInv_move h (not_processing hpc (by simp) (by simp)) (by simp) (by simp) (by simp)
        fun _ => ?_
      exact h.testing (.inl hpc)
  | noFrame hpc =>
      refine mailboxInv_move h (not_processing hpc (by simp) (by simp)) (by simp) (by simp) (by simp)
        fun _ => ?_
      exact h.testing (.inl hpc)
  | send hpc _ _ => exact mailboxInv_send h hpc

/-- The invariant does not read the frame and the sensor data, and a stop makes it weaker. -/
theorem mailboxInv_other {s : RemoteConnectionService H V D} {running : Bool} {frame : Option V}
    {sensorData : Option D} (h : MailboxInv s) (hrun : running = true → s.running = true) :
    MailboxInv { s with running := running, frame := frame, sensorData := sensorData } where
  latest := h.latest
  waiting hpc hslot := ⟨(h.waiting hpc hslot).last, (h.waiting hpc hslot).first⟩
  processing index steps hpc hr := h.processing index steps hpc (hrun hr)
  resetting hpc hr := ⟨(h.resetting hpc (hrun hr)).last, (h.resetting hpc (hrun hr)).first⟩
  testing hpc hr hslot := ⟨(h.testing hpc (hrun hr) hslot).last, (h.testing hpc (hrun hr) hslot).first⟩

theorem mailboxInv_step {s t : RemoteConnectionService H V D} {a : RemoteAction H V D}
    (h : MailboxInv s) (hok : s.Timely a) (hst : s.step parse a = some t) : MailboxInv t := by
  cases a with
  | notify n => cases hst; exact mailboxInv_notify hok
  | frame v => cases hst; exact mailboxInv_other h id
  | sensorData d => cases hst; exact mailboxInv_other h id
  | stop => cases hst; exact mailboxInv_other h (nomatch ·)
  | service => exact mailboxInv_service h (serviceSteps_of_serviceFunction hst)

theorem mailboxInv_reachable {s : RemoteConnectionService H V D}
    (h : (system parse).ReachableVia Timely s) : MailboxInv s := by
  refine h.invariant ?_ fun s a t hs hok hst => ?_
  · rintro _ rfl
    refine ⟨fun _ => (nomatch ·), ?_, fun _ _ => (nomatch ·), (nomatch ·), fun _ _ _ => ?_⟩
    · rintro (hp | hp | hp) <;> cases hp
    · exact ⟨fun _ => (nomatch ·), fun _ => rfl⟩
  · exact mailboxInv_step hs hok (show s.step parse a = some t from hst)

/-! ## Any other notification is lost -/

/-- Only notifications that have happened are in the slot or have been processed. -/
structure IndexInv (s : RemoteConnectionService H V D) : Prop where
  slot : ∀ r, s.socketMessage = some r → r.index < s.notified.length
  process : ∀ index steps, s.pc = .process index steps → index < s.notified.length
  processed : ∀ index ∈ s.processed, index < s.notified.length

/-- A step that moves on without processing anything. -/
theorem indexInv_move {s : RemoteConnectionService H V D} {pc : RemotePc} (h : IndexInv s)
    (hpc : ∀ index steps, pc ≠ .process index steps) : IndexInv { s with pc := pc } :=
  ⟨h.slot, fun index steps hp => absurd hp (hpc index steps), h.processed⟩

theorem indexInv_service {s t : RemoteConnectionService H V D} (h : IndexInv s)
    (hst : ServiceSteps parse s t) : IndexInv t := by
  cases hst with
  | read _ hslot _ =>
      refine ⟨h.slot, ?_, h.processed⟩
      rintro index steps ⟨⟩
      exact h.slot _ hslot
  | @statement index x steps hpc =>
      refine ⟨h.slot, ?_, h.processed⟩
      rintro _ _ ⟨⟩
      exact h.process index _ hpc
  | @processed index hpc =>
      refine ⟨h.slot, fun _ _ => (nomatch ·), fun i hi => ?_⟩
      rcases List.mem_append.mp hi with hi | hi
      · exact h.processed i hi
      · rw [List.mem_singleton.mp hi]
        exact h.process index [] hpc
  | reset _ => exact ⟨fun _ => (nomatch ·), fun _ _ => (nomatch ·), h.processed⟩
  | send _ _ _ => exact ⟨h.slot, fun _ _ => (nomatch ·), h.processed⟩
  | wait _ _ | wake _ | testSlot _ _ | exit _ _ | toSlot _ | noMessage _ | crash _ _ _ | toFrame _
  | noFrame _ => exact indexInv_move h (by simp)

theorem indexInv_reachable {s : RemoteConnectionService H V D} (h : (system parse).Reachable s) :
    IndexInv s := by
  refine h.invariant ?_ fun s a t hs _ hst => ?_
  · rintro _ rfl
    exact ⟨fun _ => (nomatch ·), fun _ _ => (nomatch ·), fun _ hx => absurd hx List.not_mem_nil⟩
  · have hst : s.step parse a = some t := hst
    cases a with
    | notify n =>
        cases hst
        have hlen : (s.handleWebsocket n).notified.length = s.notified.length + 1 := by
          simp [handleWebsocket]
        constructor
        · rintro r ⟨⟩
          rw [hlen]
          exact Nat.lt_succ_self _
        · intro index steps hpc
          have := hs.process index steps hpc
          omega
        · intro index hindex
          have := hs.processed index hindex
          omega
    | frame v => cases hst; exact ⟨hs.slot, hs.process, hs.processed⟩
    | sensorData d => cases hst; exact ⟨hs.slot, hs.process, hs.processed⟩
    | stop => cases hst; exact ⟨hs.slot, hs.process, hs.processed⟩
    | service => exact indexInv_service hs (serviceSteps_of_serviceFunction hst)

variable (parse) in
/-- From the reset of the slot the service thread alone comes to wait with an empty slot. -/
theorem waits_of_resetSlot {s : RemoteConnectionService H V D} (hpc : s.pc = .resetSlot)
    (hrun : s.running = true) :
    ∃ k u, (system parse).exec s (List.replicate k .service) = some u ∧ u.pc = .waiting ∧
      u.socketMessage = none ∧ u.notified = s.notified ∧ u.processed = s.processed := by
  by_cases hsend : s.frame.isSome = true ∧ s.link.hdl.isSome = true
  · obtain ⟨v, hv⟩ := Option.isSome_iff_exists.mp hsend.1
    obtain ⟨hdl, hhdl⟩ := Option.isSome_iff_exists.mp hsend.2
    refine ⟨4, { s with
      socketMessage := none
      sent := s.sent ++ [(hdl, v, s.sensorData)]
      frame := none
      sensorData := none
      pc := .waiting }, ?_, rfl, rfl, rfl, rfl⟩
    simp [System.exec, system, step, serviceFunction, hpc, hrun, hv, hhdl]
  · refine ⟨3, { s with socketMessage := none, pc := .waiting }, ?_, rfl, rfl, rfl, rfl⟩
    simp [System.exec, system, step, serviceFunction, hpc, hrun, hsend]

variable (parse) in
/-- So it does from inside the processing, of which it marks the notification it has read. -/
theorem waits_of_process {s : RemoteConnectionService H V D} {index : Nat} {steps : List RemoteStep}
    (hpc : s.pc = .process index steps) (hrun : s.running = true) :
    ∃ k u, (system parse).exec s (List.replicate k .service) = some u ∧ u.pc = .waiting ∧
      u.socketMessage = none ∧ u.notified = s.notified ∧ u.processed = s.processed ++ [index] := by
  induction steps generalizing s with
  | nil =>
      obtain ⟨k, u, hexec, hu⟩ := waits_of_resetSlot parse
        (s := { s with processed := s.processed ++ [index], pc := .resetSlot }) rfl hrun
      refine ⟨k + 1, u, ?_, hu⟩
      simpa [List.replicate_succ, System.exec, system, step, serviceFunction, hpc] using hexec
  | cons x steps ih =>
      obtain ⟨k, u, hexec, hu⟩ := ih
        (s := { s with link := x.apply s.link, frame := x.applyFrame s.frame, pc := .process index steps })
        rfl hrun
      refine ⟨k + 1, u, ?_, hu⟩
      simpa [List.replicate_succ, System.exec, system, step, serviceFunction, hpc] using hexec

theorem lost_of_not_timely {s t : RemoteConnectionService H V D} {a : RemoteAction H V D}
    (hs : (system parse).Reachable s) (hbad : ¬ s.Timely a) (hst : s.step parse a = some t) :
    ∃ k u, (system parse).exec t (List.replicate k .service) = some u ∧ ¬ u.NothingLost := by
  cases a with
  | notify n =>
      cases hst
      simp only [Timely, Classical.not_imp, Classical.not_not] at hbad
      obtain ⟨hrun, hprocessing⟩ := hbad
      have hindex := indexInv_reachable hs
      -- the number of the new notification is none of those that are marked
      have hlost : ∀ u : RemoteConnectionService H V D, u.pc = .waiting → u.socketMessage = none →
          u.notified = (s.handleWebsocket n).notified → s.notified.length ∉ u.processed →
          ¬ u.NothingLost := by
        intro u hpc hslot hnotified hnot hnothing
        have hlast : u.notified.getLast? = some n := by rw [hnotified]; simp [handleWebsocket]
        have hmem := ((hnothing hpc hslot).last n hlast).1
        rw [hnotified] at hmem
        simp only [handleWebsocket, List.length_append, List.length_singleton,
          Nat.add_sub_cancel] at hmem
        exact hnot hmem
      rcases hprocessing with ⟨index, steps, hpc⟩ | hpc
      · have hpc : (s.handleWebsocket n).pc = .process index steps := hpc
        obtain ⟨k, u, hexec, hupc, huslot, hunotified, huprocessed⟩ := waits_of_process parse hpc hrun
        refine ⟨k, u, hexec, hlost u hupc huslot hunotified fun hmem => ?_⟩
        rw [huprocessed] at hmem
        rcases List.mem_append.mp hmem with hmem | hmem
        · have := hindex.processed _ hmem
          omega
        · have := hindex.process index steps hpc
          rw [List.mem_singleton] at hmem
          omega
      · obtain ⟨k, u, hexec, hupc, huslot, hunotified, huprocessed⟩ := waits_of_resetSlot parse
          (s := s.handleWebsocket n) hpc hrun
        refine ⟨k, u, hexec, hlost u hupc huslot hunotified fun hmem => ?_⟩
        rw [huprocessed] at hmem
        have := hindex.processed _ hmem
        omega
  | frame v => exact absurd trivial hbad
  | sensorData d => exact absurd trivial hbad
  | stop => exact absurd trivial hbad
  | service => exact absurd trivial hbad

/-- **When no notification is lost.** If no notification falls between the read of the slot and its reset,
    a waiting service with an empty slot has always processed the last one, `_hdl` is none or its handle,
    and subscriptions and AI mode are what it asks for; and after any other notification the service thread
    alone gets to a state where this fails. -/
theorem last_notification_timely (parse : String → Option Json) (s : RemoteConnectionService H V D) :
    ((system parse).ReachableVia Timely s → s.NothingLost) ∧
      ∀ a t, (system parse).Reachable s → ¬ s.Timely a → s.step parse a = some t →
        ∃ k u, (system parse).exec t (List.replicate k .service) = some u ∧ ¬ u.NothingLost :=
  ⟨fun h hpc => (mailboxInv_reachable h).waiting (.inl hpc), fun _ _ hs hbad hst =>
    lost_of_not_timely hs hbad hst⟩

/-! ## Two runs -/

/-- No message of these runs is parsed. -/
def noParse : String → Option Json := fun _ => none

/-- The service in its first wait. -/
def waiting : RemoteConnectionService Nat Unit Unit := { initial with pc := .waiting }

theorem waiting_reachable : (system noParse).ReachableVia Timely waiting :=
  .step (.init rfl) (a := .service) trivial rfl

/-- The service alone goes on. -/
def goesOn (k : Nat) : List (RemoteAction Nat Unit Unit) := List.replicate k .service

theorem timely_goesOn (k : Nat) :
    ∀ a ∈ goesOn k, ∀ u : RemoteConnectionService Nat Unit Unit, u.Timely a := by
  intro a ha u
  rw [List.eq_of_mem_replicate ha]
  trivial

/-- **A close is lost.** Client 0 closes while its open is being processed: the service waits with an empty
    slot, subscribed and with AI mode switched off. -/
theorem last_notification_lost : ∃ s : RemoteConnectionService Nat Unit Unit,
    (system noParse).Reachable s ∧ ¬ s.NothingLost := by
  have hrun : ((system noParse).exec waiting
      ([.notify (.opened 0)] ++ goesOn 5 ++ [.notify (.closed 0)] ++ goesOn 8)).map
      (fun s => (s.pc, s.socketMessage, s.notified, s.processed, s.link.perception)) =
        some (.waiting, none, [.opened 0, .closed 0], [0], true) := rfl
  obtain ⟨s, hs, hstate⟩ :=
    System.exists_of_exec waiting_reachable.reachable (fun _ _ _ => trivial) hrun
  simp only [Prod.mk.injEq] at hstate
  obtain ⟨hpc, hslot, hnotified, hprocessed, -⟩ := hstate
  refine ⟨s, hs, fun hnothing => ?_⟩
  have hmem := ((hnothing hpc hslot).last (.closed 0) (by rw [hnotified]; rfl)).1
  rw [hnotified, hprocessed] at hmem
  simp at hmem

/-- Both directions at work: an open alone is processed before the service waits again, and a close while
    it is being processed is lost. -/
theorem last_notification_timely_runs :
    (∃ s : RemoteConnectionService Nat Unit Unit, s.pc = .waiting ∧ s.socketMessage = none ∧
      s.notified = [.opened 0] ∧ s.NothingLost) ∧
      ∃ (s t u : RemoteConnectionService Nat Unit Unit) (k : Nat),
        s.step noParse (.notify (.closed 0)) = some t ∧
          (system noParse).exec t (goesOn k) = some u ∧ ¬ u.NothingLost := by
  have hopened : (system noParse).ReachableVia Timely (waiting.handleWebsocket (.opened 0)) := by
    refine .step waiting_reachable (a := .notify (.opened 0)) (fun _ => ?_) rfl
    exact not_processing (show waiting.pc = .waiting from rfl) (by simp) (by simp)
  constructor
  · have hrun : ((system noParse).exec (waiting.handleWebsocket (.opened 0)) (goesOn 13)).map
        (fun s => (s.pc, s.socketMessage, s.notified)) = some (.waiting, none, [.opened 0]) := rfl
    obtain ⟨s, hs, hstate⟩ := System.exists_of_exec hopened (timely_goesOn 13) hrun
    simp only [Prod.mk.injEq] at hstate
    obtain ⟨hpc, hslot, hnotified⟩ := hstate
    exact ⟨s, hpc, hslot, hnotified, (last_notification_timely noParse s).1 hs⟩
  · have hrun : ((system noParse).exec (waiting.handleWebsocket (.opened 0)) (goesOn 5)).map
        (fun s => (s.pc, s.running)) =
          some (.process 0 [.sleep 3000, .publish .aiModeOffCall, .subscribeToPerception,
            .subscribeToRobotController], true) := rfl
    obtain ⟨s, hs, hstate⟩ := System.exists_of_exec hopened (timely_goesOn 5) hrun
    obtain ⟨hpc, hrunning⟩ := Prod.mk.inj hstate
    have hlate : ¬ s.Timely (.notify (.closed 0)) := fun h => h hrunning (.inl ⟨_, _, hpc⟩)
    obtain ⟨k, u, hexec, hlost⟩ := (last_notification_timely noParse s).2 _ _ hs.reachable hlate rfl
    exact ⟨s, _, u, k, rfl, hexec, hlost⟩

end RemoteConnectionService

end Kufibot
