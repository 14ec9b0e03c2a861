import Kufibot.Services.RemoteMessages

/-!
# `Services.RemoteReads` — which texts end the service thread

`service_function` reads `_socketMessage` up to three times, all without the mutex: to compare it with
`on_open`, to compare it with `on_close`, and to parse it. A handler may put another text into the slot in
between. `RemoteConnectionService.serviceFunction` reads once, which is the same while no handler is called
(`exec_reads`); here each read is a step, and an atomic one.

Nothing in `service_function` catches an exception, so one that leaves the thread ends the process. A text
that stays in the slot is processed iff it is harmless. Over a run, the thread goes on iff the parser is given
harmless messages only (`no_client_crashes_iff`): two harmless texts crash it, if the second one is
`on_open` and comes behind the first comparison. What the subscribers do with a publication is their own.
-/

namespace Kufibot

open Lib

/-- The read of the slot that comes next. -/
inductive SlotRead where
  | openTest
  | closeTest
  | parse
deriving DecidableEq, Repr

/-- The service, and how far it has got at `readSlot`. -/
structure RemoteReader (H V D : Type) where
  service : RemoteConnectionService H V D
  next : SlotRead

namespace RemoteReader

variable {H V D : Type}

/-- One of the branches is taken. -/
def process (received : ReceivedMessage) (steps : List RemoteStep) (s : RemoteReader H V D) :
    RemoteReader H V D where
  service := { s.service with pc := .process received.index steps }
  next := .openTest

/-- An exception leaves the thread. -/
def crash (s : RemoteReader H V D) : RemoteReader H V D where
  service := { s.service with pc := .crashed }
  next := .openTest

/-- One read of the slot, which holds this. -/
def readSlot (parse : String → Option Json) (received : ReceivedMessage) (s : RemoteReader H V D) :
    RemoteReader H V D :=
  match s.next with
  | .openTest =>
      if received.text = "on_open" then s.process received onOpenSteps else { s with next := .closeTest }
  | .closeTest =>
      if received.text = "on_close" then s.process received onCloseSteps else { s with next := .parse }
  | .parse =>
      match (parse received.text).bind messageSteps with
      | some steps => s.process received steps
      | none => s.crash

/-- The next step of `service_function`. -/
def serviceFunction (parse : String → Option Json) (s : RemoteReader H V D) : Option (RemoteReader H V D) :=
  match s.service.pc with
  | .readSlot => s.service.socketMessage.map fun received => s.readSlot parse received
  | _ => (s.service.serviceFunction parse).map fun service => { s with service }

def step (parse : String → Option Json) (s : RemoteReader H V D) :
    RemoteAction H V D → Option (RemoteReader H V D)
  | .service => s.serviceFunction parse
  | a => (s.service.step parse a).map fun service => { s with service }

/-- The service among its clients, its publishers and whoever stops it. -/
def system (parse : String → Option Json) : System (RemoteReader H V D) (RemoteAction H V D) where
  init s := s = ⟨.initial, .openTest⟩
  step := step parse

/-! ## Steps -/

section Steps

variable {parse : String → Option Json} {s t : RemoteReader H V D}

theorem serviceFunction_readSlot (hpc : s.service.pc = .readSlot) :
    s.serviceFunction parse = s.service.socketMessage.map fun received => s.readSlot parse received := by
  rw [serviceFunction, hpc]

theorem serviceFunction_of_ne (hpc : s.service.pc ≠ .readSlot) :
    s.serviceFunction parse = (s.service.serviceFunction parse).map fun service => { s with service } := by
  unfold serviceFunction
  split
  · rename_i hread
    exact absurd hread hpc
  · rfl

/-- **What a read can be.** -/
inductive Reads (parse : String → Option Json) (received : ReceivedMessage) (s : RemoteReader H V D) :
    RemoteReader H V D → Prop where
  | opened (hnext : s.next = .openTest) (htext : received.text = "on_open") :
      Reads parse received s (s.process received onOpenSteps)
  | notOpened (hnext : s.next = .openTest) (htext : received.text ≠ "on_open") :
      Reads parse received s { s with next := .closeTest }
  | closed (hnext : s.next = .closeTest) (htext : received.text = "on_close") :
      Reads parse received s (s.process received onCloseSteps)
  | notClosed (hnext : s.next = .closeTest) (htext : received.text ≠ "on_close") :
      Reads parse received s { s with next := .parse }
  | parsed {steps : List RemoteStep} (hnext : s.next = .parse)
      (hsteps : (parse received.text).bind messageSteps = some steps) :
      Reads parse received s (s.process received steps)
  | thrown (hnext : s.next = .parse) (hsteps : (parse received.text).bind messageSteps = none) :
      Reads parse received s s.crash

theorem reads_readSlot (parse : String → Option Json) (received : ReceivedMessage)
    (s : RemoteReader H V D) : Reads parse received s (s.readSlot parse received) := by
  unfold readSlot
  cases hnext : s.next with
  | openTest =>
      simp only
      split
      · rename_i htext; exact .opened hnext htext
      · rename_i htext; exact .notOpened hnext htext
  | closeTest =>
      simp only
      split
      · rename_i htext; exact .closed hnext htext
      · rename_i htext; exact .notClosed hnext htext
  | parse =>
      simp only
      split
      · rename_i hsteps; exact .parsed hnext hsteps
      · rename_i hsteps; exact .thrown hnext hsteps

/-- **Everything a step of the service thread can be**: a read of the slot, or a step of the service. -/
theorem serviceFunction_cases (hstep : s.serviceFunction parse = some t) :
    (s.service.pc = .readSlot ∧ ∃ received, s.service.socketMessage = some received ∧
      Reads parse received s t) ∨
    (s.service.pc ≠ .readSlot ∧ t.service.pc ≠ .crashed ∧ t.next = s.next ∧
      s.service.serviceFunction parse = some t.service) := by
  by_cases hpc : s.service.pc = .readSlot
  · rw [serviceFunction_readSlot hpc] at hstep
    obtain ⟨received, hslot, rfl⟩ := Option.map_eq_some_iff.mp hstep
    exact .inl ⟨hpc, received, hslot, reads_readSlot parse received s⟩
  · rw [serviceFunction_of_ne hpc] at hstep
    obtain ⟨service, hservice, rfl⟩ := Option.map_eq_some_iff.mp hstep
    refine .inr ⟨hpc, ?_, rfl, hservice⟩
    -- only at the slot does the service throw
    intro hcrashed
    cases RemoteConnectionService.serviceSteps_of_serviceFunction hservice with
    | read hpc' | crash hpc' => exact hpc hpc'
    | _ => cases hcrashed

end Steps

/-! ## A text that stays in the slot -/

section Alone

variable {parse : String → Option Json}

/-- The one read of the service. -/
theorem service_readSlot {s : RemoteConnectionService H V D} (hpc : s.pc = .readSlot)
    {received : ReceivedMessage} (hslot : s.socketMessage = some received) :
    s.serviceFunction parse = some (match socketSteps parse received.text with
      | some steps => { s with pc := .process received.index steps }
      | none => { s with pc := .crashed }) := by
  cases s
  cases hpc
  cases hslot
  rfl

variable (parse) in
/-- **The reads together** are the read of the service, if no handler is called in between. -/
theorem exec_reads {s : RemoteReader H V D} (hpc : s.service.pc = .readSlot) (hnext : s.next = .openTest)
    {received : ReceivedMessage} (hslot : s.service.socketMessage = some received) :
    ∃ n, (system parse).exec s (List.replicate n .service) =
      (s.service.serviceFunction parse).map fun service => { service, next := .openTest } := by
  have hstep : ∀ (u : RemoteReader H V D) (n : Nat), u.service = s.service →
      (system parse).exec u (List.replicate (n + 1) .service) =
        (system parse).exec (u.readSlot parse received) (List.replicate n .service) := by
    intro u n hu
    show (u.serviceFunction parse).bind _ = _
    rw [serviceFunction_readSlot (hu ▸ hpc), hu, hslot]
    rfl
  rw [service_readSlot hpc hslot, Option.map_some, socketSteps]
  by_cases hopen : received.text = "on_open"
  · refine ⟨0 + 1, ?_⟩
    rw [if_pos hopen, hstep s _ rfl, readSlot, hnext]
    simp only [if_pos hopen]
    rfl
  by_cases hclose : received.text = "on_close"
  · refine ⟨0 + 1 + 1, ?_⟩
    rw [if_neg hopen, if_pos hclose, hstep s _ rfl, readSlot, hnext]
    simp only [if_neg hopen]
    refine (hstep ⟨s.service, .closeTest⟩ 0 rfl).trans ?_
    rw [readSlot]
    simp only [if_pos hclose]
    rfl
  · refine ⟨0 + 1 + 1 + 1, ?_⟩
    rw [if_neg hopen, if_neg hclose, hstep s _ rfl, readSlot, hnext]
    simp only [if_neg hopen]
    refine (hstep ⟨s.service, .closeTest⟩ (0 + 1) rfl).trans ?_
    rw [readSlot]
    simp only [if_neg hclose]
    refine (hstep ⟨s.service, .parse⟩ 0 rfl).trans ?_
    rw [readSlot]
    cases (parse received.text).bind messageSteps <;> rfl

/-- The service thread goes on until it has processed the slot, and is about to reset it. -/
def Processes (parse : String → Option Json) (s : RemoteReader H V D) (index : Nat) : Prop :=
  ∃ n t, (system parse).exec s (List.replicate n .service) = some t ∧ t.service.pc = .resetSlot ∧
    t.service.processed = s.service.processed ++ [index]

/-- Statements do not fail. -/
theorem processes_of_process {index : Nat} {steps : List RemoteStep} {s : RemoteReader H V D}
    (hpc : s.service.pc = .process index steps) : Processes parse s index := by
  have hne : s.service.pc ≠ .readSlot := by
    rw [hpc]
    exact (nomatch ·)
  induction steps generalizing s with
  | nil =>
      refine ⟨1, { s with service :=
        { s.service with processed := s.service.processed ++ [index], pc := .resetSlot } }, ?_, rfl, rfl⟩
      show ((s.serviceFunction parse).bind _) = _
      rw [serviceFunction_of_ne hne, RemoteConnectionService.serviceFunction, hpc]
      rfl
  | cons x steps ih =>
      obtain ⟨n, t, hexec, hreset, hprocessed⟩ := ih (s := { s with service := { s.service with
        link := x.apply s.service.link, frame := x.applyFrame s.service.frame
        pc := .process index steps } }) rfl (nomatch ·)
      refine ⟨n + 1, t, ?_, hreset, hprocessed⟩
      show ((s.serviceFunction parse).bind _) = _
      rw [serviceFunction_of_ne hne, RemoteConnectionService.serviceFunction, hpc]
      exact hexec

/-- No branch takes the text in the slot: the thread still reads it, or has crashed. -/
def Doomed (parse : String → Option Json) (s : RemoteReader H V D) : Prop :=
  s.service.pc = .crashed ∨ (s.service.pc = .readSlot ∧ ∃ received,
    s.service.socketMessage = some received ∧ ¬ Harmless parse received.text)

theorem doomed_service {s t : RemoteReader H V D} (h : Doomed parse s)
    (hstep : s.serviceFunction parse = some t) : Doomed parse t := by
  rcases serviceFunction_cases hstep with ⟨hpc, received, hslot, hreads⟩ | ⟨hpc, _, _, hservice⟩
  · rcases h with hcrashed | ⟨_, received', hslot', hharmful⟩
    · exact absurd (hpc.symm.trans hcrashed) (nomatch ·)
    cases hslot.symm.trans hslot'
    cases hreads with
    | opened _ htext => exact absurd (.inl htext) hharmful
    | closed _ htext => exact absurd (.inr (.inl htext)) hharmful
    | notOpened | notClosed => exact .inr ⟨hpc, received, hslot, hharmful⟩
    | parsed _ hsteps =>
        obtain ⟨message, hparse, hmessage⟩ := Option.bind_eq_some_iff.mp hsteps
        exact absurd (.inr (.inr ⟨message, hparse, (exists_messageSteps_iff message).mp ⟨_, hmessage⟩⟩))
          hharmful
    | thrown => exact .inl rfl
  · rcases h with hcrashed | ⟨hread, _⟩
    · rw [RemoteConnectionService.serviceFunction, hcrashed] at hservice
      cases hservice
    · exact absurd hread hpc

/-- **A text that stays is processed** iff it is harmless. -/
theorem processes_iff {s : RemoteReader H V D} (hpc : s.service.pc = .readSlot) (hnext : s.next = .openTest)
    {index : Nat} {text : String} (hslot : s.service.socketMessage = some ⟨index, text⟩) :
    Processes parse s index ↔ Harmless parse text := by
  constructor
  · rintro ⟨n, t, hexec, hreset, -⟩
    by_contra hharmful
    have hdoomed : ∀ (n : Nat) (u : RemoteReader H V D), Doomed parse u →
        (system parse).exec u (List.replicate n .service) = some t → Doomed parse t := by
      intro n
      induction n with
      | zero => intro u hu h; cases h; exact hu
      | succ n ih =>
          intro u hu h
          obtain ⟨v, hv, hrest⟩ := Option.bind_eq_some_iff.mp h
          exact ih v (doomed_service hu hv) hrest
    rcases hdoomed n s (.inr ⟨hpc, _, hslot, hharmful⟩) hexec with hcrashed | ⟨hread, _⟩
    · exact absurd (hreset.symm.trans hcrashed) (nomatch ·)
    · exact absurd (hreset.symm.trans hread) (nomatch ·)
  · intro hharmless
    obtain ⟨steps, hsteps⟩ := (exists_socketSteps_iff parse text).mpr hharmless
    obtain ⟨n, hread⟩ := exec_reads parse hpc hnext hslot
    rw [service_readSlot hpc hslot, hsteps] at hread
    have hprocesses : Processes parse ⟨{ s.service with pc := .process index steps }, .openTest⟩ index :=
      processes_of_process rfl
    obtain ⟨m, t, hexec, hreset, hprocessed⟩ := hprocesses
    refine ⟨n + m, t, ?_, hreset, hprocessed⟩
    rw [List.replicate_add, System.exec_append, hread]
    exact hexec

end Alone

/-! ## Runs -/

section Runs

variable {parse : String → Option Json} {s t : RemoteReader H V D}

/-- What the parser is given, if this is its step, is a harmless message. -/
def ParsesHarmless (parse : String → Option Json) (s : RemoteReader H V D) : RemoteAction H V D → Prop
  | .service => s.service.pc = .readSlot → s.next = .parse → ∀ received,
      s.service.socketMessage = some received →
        ∃ message, parse received.text = some message ∧ HarmlessMessage message
  | _ => True

theorem crashed_step_iff {a : RemoteAction H V D} (hs : s.service.pc ≠ .crashed)
    (hstep : s.step parse a = some t) : t.service.pc ≠ .crashed ↔ ParsesHarmless parse s a := by
  cases a with
  | notify | frame | sensorData | stop =>
      cases hstep
      exact iff_of_true hs trivial
  | service =>
      rcases serviceFunction_cases hstep with ⟨hpc, received, hslot, hreads⟩ | ⟨hpc, hgoesOn, -, -⟩
      · have hmessage : ((parse received.text).bind messageSteps).isSome ↔
            ∃ message, parse received.text = some message ∧ HarmlessMessage message := by
          rw [Option.isSome_iff_exists]
          simp only [Option.bind_eq_some_iff, ← exists_messageSteps_iff]
          exact ⟨fun ⟨steps, message, hparse, h⟩ => ⟨message, hparse, steps, h⟩,
            fun ⟨message, hparse, steps, h⟩ => ⟨steps, message, hparse, h⟩⟩
        have hone : ParsesHarmless parse s .service ↔ (s.next = .parse →
            ∃ message, parse received.text = some message ∧ HarmlessMessage message) := by
          constructor
          · exact fun h hnext => h hpc hnext received hslot
          · intro h _ hnext received' hslot'
            cases hslot.symm.trans hslot'
            exact h hnext
        rw [hone, ← hmessage]
        cases hreads with
        | opened hnext | closed hnext =>
            exact iff_of_true (nomatch ·) fun hparse => absurd (hnext.symm.trans hparse) (nomatch ·)
        | notOpened hnext | notClosed hnext =>
            exact iff_of_true hs fun hparse => absurd (hnext.symm.trans hparse) (nomatch ·)
        | parsed _ hsteps => exact iff_of_true (nomatch ·) fun _ => hsteps ▸ rfl
        | thrown hnext hsteps =>
            rw [hsteps]
            exact iff_of_false (fun h => h rfl) fun h => absurd (h hnext) (nomatch ·)
      · exact iff_of_true hgoesOn fun hread => absurd hread hpc

/-- No handler is called between the reads, and the text that begins to be read is harmless. -/
def UndisturbedAndHarmless (parse : String → Option Json) (s : RemoteReader H V D) :
    RemoteAction H V D → Prop
  | .notify _ => s.service.pc = .readSlot → s.next = .openTest
  | .service => s.service.pc = .readSlot → s.next = .openTest → ∀ received,
      s.service.socketMessage = some received → Harmless parse received.text
  | _ => True

/-- What the reads so far have found is still true of the text. -/
structure ReadSoFar (parse : String → Option Json) (s : RemoteReader H V D) : Prop where
  goesOn : s.service.pc ≠ .crashed
  begins : s.service.pc ≠ .readSlot → s.next = .openTest
  found : s.service.pc = .readSlot → s.next ≠ .openTest → ∃ received,
    s.service.socketMessage = some received ∧ Harmless parse received.text ∧ received.text ≠ "on_open" ∧
      (s.next = .parse → received.text ≠ "on_close")

theorem readSoFar_step {a : RemoteAction H V D} (hs : ReadSoFar parse s)
    (hok : UndisturbedAndHarmless parse s a) (hstep : s.step parse a = some t) : ReadSoFar parse t := by
  cases a with
  | notify n =>
      cases hstep
      exact ⟨hs.goesOn, hs.begins, fun hpc hnext => absurd (hok hpc) hnext⟩
  | frame | sensorData | stop => cases hstep; exact ⟨hs.goesOn, hs.begins, hs.found⟩
  | service =>
      rcases serviceFunction_cases hstep with
        ⟨hpc, received, hslot, hreads⟩ | ⟨hpc, hgoesOn, hnext, hservice⟩
      · have hfound : s.next ≠ .openTest → Harmless parse received.text ∧ received.text ≠ "on_open" ∧
            (s.next = .parse → received.text ≠ "on_close") := by
          intro hnext
          obtain ⟨received', hslot', hfound⟩ := hs.found hpc hnext
          cases hslot.symm.trans hslot'
          exact hfound
        have hprocess : ∀ steps, ReadSoFar parse (s.process received steps) := fun steps =>
          ⟨(nomatch ·), fun _ => rfl, fun hread => absurd hread (nomatch ·)⟩
        cases hreads with
        | opened | closed | parsed => exact hprocess _
        | notOpened hnext htext =>
            refine ⟨hs.goesOn, fun hread => absurd hpc hread, fun _ _ => ⟨received, hslot, ?_, htext, ?_⟩⟩
            · exact hok hpc hnext received hslot
            · exact fun hparse => absurd hparse (nomatch ·)
        | notClosed hnext htext =>
            obtain ⟨hharmless, hopen, -⟩ := hfound (by rw [hnext]; exact (nomatch ·))
            exact ⟨hs.goesOn, fun hread => absurd hpc hread,
              fun _ _ => ⟨received, hslot, hharmless, hopen, fun _ => htext⟩⟩
        | thrown hnext hsteps =>
            -- a harmless text that is neither of the two is a harmless message
            obtain ⟨hharmless, hopen, hclose⟩ := hfound (by rw [hnext]; exact (nomatch ·))
            obtain ⟨message, hparse, hmessage⟩ :=
              (hharmless.resolve_left hopen).resolve_left (hclose hnext)
            obtain ⟨steps, hmessageSteps⟩ := (exists_messageSteps_iff message).mpr hmessage
            rw [hparse, Option.bind_some, hmessageSteps] at hsteps
            cases hsteps
      · have hbegins : t.next = .openTest := hnext.trans (hs.begins hpc)
        exact ⟨hgoesOn, fun _ => hbegins, fun _ hne => absurd hbegins hne⟩

end Runs

/-- **No client crashes the robot, when exactly.** For every byte string that is in the slot when it begins to
    be read and stays there, the service thread processes it iff it is harmless. Over a whole run, no
    exception leaves the thread iff the parser is given harmless messages only; and that is so if no handler is
    called between the reads, and each text that begins to be read is harmless. -/
theorem no_client_crashes_iff (parse : String → Option Json) :
    (∀ (s : RemoteReader H V D) (index : Nat) (bytes : List UInt8), s.service.pc = .readSlot →
      s.next = .openTest → s.service.socketMessage = some ⟨index, ofBytes bytes⟩ →
      (Processes parse s index ↔ Harmless parse (ofBytes bytes))) ∧
    (∀ (s t : RemoteReader H V D) (tr : List (RemoteReader H V D × RemoteAction H V D)),
      (system parse).init s → (system parse).Run s tr t →
      ((∀ u ∈ System.visited tr t, u.service.pc ≠ .crashed) ↔ ∀ x ∈ tr, ParsesHarmless parse x.1 x.2) ∧
      ((∀ x ∈ tr, UndisturbedAndHarmless parse x.1 x.2) →
        ∀ u ∈ System.visited tr t, u.service.pc ≠ .crashed)) := by
  refine ⟨fun s index bytes hpc hnext hslot => processes_iff hpc hnext hslot, fun s t tr hinit hrun => ?_⟩
  have hs : s.service.pc ≠ .crashed := by
    rw [hinit]
    exact (nomatch ·)
  constructor
  · exact hrun.forall_iff (I := fun _ => True) (P := fun s => s.service.pc ≠ .crashed) (fun _ _ => True)
      (fun _ _ _ _ _ => trivial) (fun _ _ _ _ hs _ hst => crashed_step_iff hs hst) trivial hs
      fun _ _ => trivial
  · intro hok u hu
    have hstart : ReadSoFar parse s := by
      rw [hinit]
      exact ⟨(nomatch ·), fun _ => rfl, fun hread => absurd hread (nomatch ·)⟩
    have hstep : ∀ (s : RemoteReader H V D) a t, ReadSoFar parse s → UndisturbedAndHarmless parse s a →
        (system parse).step s a = some t → ReadSoFar parse t := fun _ _ _ => readSoFar_step
    exact (hrun.invariantVia hstep hstart hok u hu).goesOn

/-! ### Texts -/

/-- The message arrives, and the service thread goes on until it has read it once and twice, and parses it. -/
def oneMessage (text : String) : List (RemoteAction Unit Unit Unit) :=
  .notify (.message () text) :: List.replicate 7 .service

/-- The message arrives, and a client opens before it is parsed. -/
def messageAndOpen (text : String) : List (RemoteAction Unit Unit Unit) :=
  .notify (.message () text) :: List.replicate 6 .service ++ [.notify (.opened ()), .service]

/-- The text of a talk with a number. -/
def numberTalk : String := "\x7b\"talkie\":5\x7d"

/-- A parser, on that text, on `{}` and on `null`, and on any text that it does not accept. -/
def parseSome (text : String) : Option Json :=
  if text = numberTalk then some (.object [("talkie", .int 5)])
  else if text = "\x7b\x7d" then some (.object [])
  else if text = ofBytes [110, 117, 108, 108] then some .null
  else none

/-- Nothing has happened yet. -/
def start : RemoteReader Unit Unit Unit := ⟨.initial, .openTest⟩

/-- **The service crashes**: a member of the wrong type ends the service, and so does a text that is no JSON,
    or a client that opens between the reads of another one's message. -/
theorem client_crashes :
    ((system parseSome).exec start (oneMessage numberTalk)).map (·.service.pc) = some .crashed ∧
      ((system parseSome).exec start (oneMessage "hello")).map (·.service.pc) = some .crashed ∧
      ((system parseSome).exec start (messageAndOpen "\x7b\x7d")).map (·.service.pc) = some .crashed :=
  ⟨rfl, rfl, rfl⟩

/-- The slot holds these bytes, and is about to be read. -/
def reading (bytes : List UInt8) : RemoteReader Unit Unit Unit where
  service := { (.initial : RemoteConnectionService Unit Unit Unit) with
    pc := .readSlot, socketMessage := some ⟨0, ofBytes bytes⟩ }
  next := .openTest

/-- `null` is an empty command, and `hello` is none. A client that opens gets as far as its first statement. -/
theorem null_processed :
    Processes parseSome (reading [110, 117, 108, 108]) 0 ∧
      ¬ Processes parseSome (reading [104, 101, 108, 108, 111]) 0 ∧
      ∃ tr t, (system parseSome).Run start tr t ∧ t.service.pc = .process 0 onOpenSteps ∧
        ∀ u ∈ System.visited tr t, u.service.pc ≠ .crashed := by
  obtain ⟨hslot, hrun⟩ := no_client_crashes_iff (H := Unit) (V := Unit) (D := Unit) parseSome
  refine ⟨(hslot _ 0 _ rfl rfl rfl).mpr (.inr (.inr ⟨.null, rfl, ?_⟩)), fun h => ?_, ?_⟩
  · show ∀ name control, (none : Option String) = some name → _
    exact fun _ _ => (nomatch ·)
  · rcases (hslot _ 0 _ rfl rfl rfl).mp h with h | h | ⟨message, h, _⟩
    · exact absurd h (by decide)
    · exact absurd h (by decide)
    · cases h
  · have hopened : (system parseSome).Run start _ _ :=
      .snoc (.snoc (.snoc (.snoc (.snoc (.snoc .nil (a := .notify (.opened ())) rfl)
        (a := .service) rfl) (a := .service) rfl) (a := .service) rfl) (a := .service) rfl)
        (a := .service) rfl
    refine ⟨_, _, hopened, rfl, (hrun _ _ _ rfl hopened).2 ?_⟩
    simp only [List.forall_mem_append, List.forall_mem_singleton]
    -- only the last step finds the service at the slot
    refine ⟨⟨⟨⟨⟨⟨List.forall_mem_nil _, ?_⟩, ?_⟩, ?_⟩, ?_⟩, ?_⟩, ?_⟩
    all_goals intro hpc
    case refine_6 =>
      intro _ received hreceived
      cases hreceived
      exact .inl rfl
    all_goals cases hpc

end RemoteReader

end Kufibot
