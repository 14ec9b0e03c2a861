import Kufibot.Lib.System
import Kufibot.Services.InteractiveChat

/-!
# `Services.ChatThread` — accepting the next query

`llm_query` sets `_queryRunning` and starts a detached thread in `LlamaOperator::chat`; the flag is cleared
by the callback, when `generateResponse` passes it `<end>`. A thread that generates does so on every way
out of its loop, so the thread of the last query that was accepted still has it to do while the flag is set
(`Pending`). But `chat` returns early from an empty query, without a callback: then the flag stays set, and
no query is accepted any more (`chat_never_locks`).

The callback clears the flag first, and works on the rest of the text after that, without a lock. Its branch of
`<end>` is therefore three steps of the thread.

`exit` and `GGML_ABORT`, which the loop also has, end the process; they lead to no state.
-/

namespace Kufibot

open Lib InteractiveChatService

/-- Where a thread stands in `LlamaOperator::chat`. -/
inductive ChatPc where
  | entered
  /-- At the head of the loop of `generateResponse`. -/
  | loop
  /-- Before the callback with a piece. -/
  | callback (piece : Bytes)
  /-- Before the callback with `<end>`. -/
  | ending
  /-- In the branch of `<end>`, before the text that is left is published. The callback returns from it to the
      loop, or to the end of `generateResponse` if the loop is over. -/
  | closing (loopOver : Bool)
  /-- Before `accumulated_text.clear()`. -/
  | clearing (loopOver : Bool)
  | leaving
  | returned
deriving DecidableEq, Repr

structure ChatThread where
  query : Bytes
  pc : ChatPc := .entered
deriving DecidableEq, Repr

/-- What the model samples. -/
inductive Sampled where
  | endOfGeneration
  | piece (text : Bytes)

/-- The service, its `LlamaOperator`, and the threads, the oldest first. -/
structure ChatSystem where
  service : InteractiveChatService
  /-- `Service::_running`. -/
  running : Bool
  /-- `LlamaOperator::_running`. -/
  generating : Bool
  threads : List ChatThread

inductive ChatAction where
  /-- `AIModeOnCall`, and whether the service could be initialized and is enabled. -/
  | start (started : Bool)
  /-- The two calls of `AIModeOffCall`. -/
  | stopGenerateResponse
  | stop
  | query (text : Bytes)
  /-- The next step of a thread, and what it samples there. -/
  | thread (i : Nat) (sampled : Sampled)

namespace ChatSystem

variable (operator : EmbeddingOperator)

def Accepts (s : ChatSystem) : Prop := s.service.queryRunning = false ∧ s.running = true

/-- `llm_query`, under `_dataMutex`. -/
def llmQuery (s : ChatSystem) (text : Bytes) : ChatSystem :=
  if s.service.queryRunning then s
  else if !s.running then s
  else
    { s with
      service := { s.service with queryRunning := true }
      threads := s.threads ++ [{ query := text }] }

def goTo (s : ChatSystem) (i : Nat) (thread : ChatThread) (pc : ChatPc) : ChatSystem :=
  { s with threads := s.threads.set i { thread with pc } }

/-- The callback with a piece that is not `<end>`. -/
def callback (s : ChatSystem) (response : Bytes) : ChatSystem :=
  { s with service := s.service.queryResponseCallback operator response }

/-- The three steps of the callback with `<end>`. -/
def clearFlag (s : ChatSystem) : ChatSystem := { s with service := { s.service with queryRunning := false } }

def publishRemaining (s : ChatSystem) : ChatSystem :=
  { s with service := s.service.publishRemaining operator }

def clearText (s : ChatSystem) : ChatSystem := { s with service := { s.service with accumulatedText := [] } }

/-- The next step of `chat` and of `generateResponse`. -/
def chat (s : ChatSystem) (i : Nat) (thread : ChatThread) (sampled : Sampled) : Option ChatSystem :=
  match thread.pc with
  | .entered =>
      let s := { s with generating := true }
      if thread.query.isEmpty then some (s.goTo i thread .returned) else some (s.goTo i thread .loop)
  | .loop =>
      if s.generating then
        match sampled with
        | .endOfGeneration => some (s.goTo i thread .ending)
        | .piece text => some (s.goTo i thread (.callback text))
      else some (s.goTo i thread .ending)
  | .callback text =>
      if text = endToken then some (s.clearFlag.goTo i thread (.closing false))
      else some ((s.callback operator text).goTo i thread .loop)
  | .ending => some (s.clearFlag.goTo i thread (.closing true))
  | .closing loopOver => some ((s.publishRemaining operator).goTo i thread (.clearing loopOver))
  | .clearing loopOver => some (s.clearText.goTo i thread (if loopOver then .leaving else .loop))
  | .leaving => some (s.goTo i thread .returned)
  | .returned => none

def step (s : ChatSystem) : ChatAction → Option ChatSystem
  | .start started => some { s with running := s.running || started }
  | .stopGenerateResponse => some { s with generating := false }
  | .stop => some { s with running := false }
  | .query text => some (s.llmQuery text)
  | .thread i sampled =>
      match s.threads[i]? with
      | none => none
      | some thread => s.chat operator i thread sampled

def constructed (emotionalList : List EmotionalGesture) (reactionalList : List ReactionalGesture) :
    ChatSystem where
  service := .constructed emotionalList reactionalList
  running := false
  generating := false
  threads := []

def system : System ChatSystem ChatAction where
  init s := ∃ emotionalList reactionalList, s = constructed emotionalList reactionalList
  step := step operator

/-! ## The thread that will clear the flag -/

/-- The thread has its `<end>` still to do. -/
def Pending (thread : ChatThread) : Prop :=
  match thread.pc with
  | .entered => thread.query ≠ []
  | .loop | .callback _ | .ending => True
  | .closing loopOver | .clearing loopOver => loopOver = false
  | .leaving | .returned => False

/-- While a query runs, a thread will clear the flag. -/
def Cleared (s : ChatSystem) : Prop :=
  s.service.queryRunning = true → ∃ thread ∈ s.threads, Pending thread

/-- Every query that is accepted says something. -/
def QueriesNonempty (s : ChatSystem) : ChatAction → Prop
  | .query text => s.Accepts → text ≠ []
  | _ => True

def Idle (s : ChatSystem) : Prop := ∀ thread ∈ s.threads, thread.pc = .returned

variable {operator}

theorem queryRunning_callback_of_ne (s : InteractiveChatService) {response : Bytes}
    (h : response ≠ endToken) :
    (s.queryResponseCallback operator response).queryRunning = s.queryRunning := by
  unfold InteractiveChatService.queryResponseCallback
  rw [if_neg h]
  rfl

theorem queryRunning_publishRemaining (s : InteractiveChatService) :
    (s.publishRemaining operator).queryRunning = s.queryRunning := by
  unfold InteractiveChatService.publishRemaining
  split
  · dsimp only
    split <;> rfl
  · rfl

/-- A thread that moves on while it is pending, or was not, leaves the flag covered. -/
theorem Cleared.goTo {s : ChatSystem} (h : s.Cleared) {i : Nat} {thread : ChatThread}
    (hthread : s.threads[i]? = some thread) {pc : ChatPc}
    (hpc : Pending thread → Pending { thread with pc }) : (s.goTo i thread pc).Cleared := by
  intro hrunning
  obtain ⟨other, hmem, hpending⟩ := h hrunning
  obtain ⟨j, hj⟩ := List.getElem?_of_mem hmem
  show ∃ other ∈ s.threads.set i { thread with pc }, _
  have hlt : i < s.threads.length := (List.getElem?_eq_some_iff.mp hthread).1
  by_cases hij : i = j
  · subst hij
    cases hthread.symm.trans hj
    exact ⟨{ thread with pc }, List.mem_set hlt _, hpc hpending⟩
  · refine ⟨other, List.mem_of_getElem? (i := j) ?_, hpending⟩
    rw [List.getElem?_set_ne hij]
    exact hj

/-- A flag that has just been cleared needs no thread. -/
theorem Cleared.of_clearFlag {s : ChatSystem} {i : Nat} {thread : ChatThread} {pc : ChatPc} :
    (s.clearFlag.goTo i thread pc).Cleared := by
  intro hrunning
  cases hrunning

/-- **A step of a thread**: on every way out of the loop the flag is cleared before the thread leaves. -/
theorem Cleared.chat {s t : ChatSystem} (h : s.Cleared) {i : Nat} {thread : ChatThread} {sampled : Sampled}
    (hthread : s.threads[i]? = some thread) (hchat : s.chat operator i thread sampled = some t) :
    t.Cleared := by
  unfold ChatSystem.chat at hchat
  cases hpc : thread.pc with
  | entered =>
      rw [hpc] at hchat
      simp only at hchat
      have hgenerating : ({ s with generating := true } : ChatSystem).Cleared := h
      split at hchat
      · rename_i hempty
        cases hchat
        refine hgenerating.goTo hthread fun hpending => ?_
        rw [Pending, hpc] at hpending
        exact absurd (List.isEmpty_iff.mp hempty) hpending
      · cases hchat
        exact hgenerating.goTo hthread fun _ => trivial
  | loop =>
      rw [hpc] at hchat
      simp only at hchat
      split at hchat
      · cases sampled with
        | endOfGeneration => cases hchat; exact h.goTo hthread fun _ => trivial
        | piece text => cases hchat; exact h.goTo hthread fun _ => trivial
      · cases hchat
        exact h.goTo hthread fun _ => trivial
  | callback text =>
      rw [hpc] at hchat
      simp only at hchat
      split at hchat
      · cases hchat
        exact .of_clearFlag
      · rename_i htext
        cases hchat
        have hcallback : (s.callback operator text).Cleared := fun hrunning =>
          h ((queryRunning_callback_of_ne s.service htext).symm.trans hrunning)
        exact hcallback.goTo hthread fun _ => trivial
  | ending =>
      rw [hpc] at hchat
      cases hchat
      exact .of_clearFlag
  | closing loopOver =>
      rw [hpc] at hchat
      cases hchat
      have hpublished : (s.publishRemaining operator).Cleared := fun hrunning =>
        h ((queryRunning_publishRemaining s.service).symm.trans hrunning)
      refine hpublished.goTo hthread fun hpending => ?_
      rw [Pending, hpc] at hpending
      exact hpending
  | clearing loopOver =>
      rw [hpc] at hchat
      cases hchat
      have hcleared : s.clearText.Cleared := h
      refine hcleared.goTo hthread fun hpending => ?_
      rw [Pending, hpc] at hpending
      subst hpending
      trivial
  | leaving =>
      rw [hpc] at hchat
      cases hchat
      refine h.goTo hthread fun hpending => ?_
      rw [Pending, hpc] at hpending
      exact hpending
  | returned =>
      rw [hpc] at hchat
      cases hchat

theorem Cleared.llmQuery {s : ChatSystem} (h : s.Cleared) {text : Bytes}
    (htext : s.Accepts → text ≠ []) : (s.llmQuery text).Cleared := by
  unfold ChatSystem.llmQuery
  split
  · exact h
  · rename_i hquery
    split
    · exact h
    · rename_i hrunning
      have haccepts : s.Accepts := ⟨by simpa using hquery, by simpa using hrunning⟩
      intro _
      exact ⟨{ query := text }, List.mem_append_right _ List.mem_cons_self, htext haccepts⟩

theorem Cleared.step {s t : ChatSystem} {a : ChatAction} (h : s.Cleared) (hok : QueriesNonempty s a)
    (hstep : (system operator).step s a = some t) : t.Cleared := by
  cases a with
  | start started => cases hstep; exact h
  | stopGenerateResponse => cases hstep; exact h
  | stop => cases hstep; exact h
  | query text => cases hstep; exact h.llmQuery hok
  | thread i sampled =>
      cases hthread : s.threads[i]? with
      | none =>
          simp only [system, ChatSystem.step, hthread] at hstep
          cases hstep
      | some thread =>
          simp only [system, ChatSystem.step, hthread] at hstep
          exact h.chat hthread hstep

theorem cleared {s : ChatSystem} (h : (system operator).ReachableVia QueriesNonempty s) : s.Cleared := by
  refine h.invariant (I := Cleared) ?_ fun s a t hs hok hst => hs.step hok hst
  rintro _ ⟨emotionalList, reactionalList, rfl⟩
  exact (nomatch ·)

/-- The thread of an empty query returns, and the flag stays. -/
theorem empty_query_locks {s : ChatSystem} (hidle : s.Idle) (haccepts : s.Accepts) (sampled : Sampled) :
    ∃ t, (system operator).exec s [.query [], .thread s.threads.length sampled] = some t ∧
      t.Idle ∧ t.service.queryRunning = true := by
  have hquery : s.llmQuery [] = { s with
      service := { s.service with queryRunning := true }
      threads := s.threads ++ [{ query := [] }] } := by
    unfold llmQuery
    rw [haccepts.1, haccepts.2]
    rfl
  have hthread : (s.llmQuery []).threads[s.threads.length]? = some { query := [] } := by
    rw [hquery]
    exact List.getElem?_concat_length
  refine ⟨({ s.llmQuery [] with generating := true }).goTo s.threads.length { query := [] } .returned,
    ?_, fun thread hmem => ?_, ?_⟩
  · show ((system operator).step (s.llmQuery []) (.thread s.threads.length sampled)).bind _ = _
    simp only [system, ChatSystem.step, hthread]
    rfl
  · have hthreads : (({ s.llmQuery [] with generating := true } : ChatSystem).goTo s.threads.length
        { query := [] } .returned).threads = s.threads ++ [{ query := [], pc := .returned }] := by
      show (s.llmQuery []).threads.set _ _ = _
      rw [hquery]
      simp
    rw [hthreads] at hmem
    rcases List.mem_append.mp hmem with hmem | hmem
    · exact hidle thread hmem
    · rw [List.mem_singleton.mp hmem]
  · show (s.llmQuery []).service.queryRunning = true
    rw [hquery]

/-- **The chat does not lock up, when exactly.** If every query that is accepted says something, then in
    every state without a running chat thread the next query to a running service is accepted; an empty one
    that is accepted in such a state locks the chat. -/
theorem chat_never_locks (operator : EmbeddingOperator) :
    (∀ s, (system operator).ReachableVia QueriesNonempty s → s.Idle →
      s.service.queryRunning = false ∧ (s.running = true → s.Accepts)) ∧
    (∀ s, (system operator).Reachable s → s.Idle → s.Accepts →
      ∃ t, (system operator).exec s [.query [], .thread s.threads.length .endOfGeneration] = some t ∧
        t.Idle ∧ t.service.queryRunning = true) := by
  refine ⟨fun s hs hidle => ?_, fun s _ hidle haccepts => empty_query_locks hidle haccepts _⟩
  have hflag : s.service.queryRunning = false := by
    rw [Bool.eq_false_iff]
    intro hrunning
    obtain ⟨thread, hmem, hpending⟩ := cleared hs hrunning
    rw [Pending, hidle thread hmem] at hpending
    exact hpending
  exact ⟨hflag, fun hrunning => ⟨hflag, hrunning⟩⟩

theorem idle_of_phases {s : ChatSystem} (h : (s.threads.map (·.pc)).all (· = .returned)) : s.Idle := by
  intro thread hmem
  have hpc := List.all_eq_true.mp h thread.pc (List.mem_map_of_mem hmem)
  exact of_decide_eq_true hpc

/-- An empty query to a service that was just started. -/
def emptyQuery : List ChatAction := [.start true, .query [], .thread 0 .endOfGeneration]

/-- **The chat is locked**: no chat thread runs, and no query is accepted. -/
theorem empty_query_locked : ∃ s, (system noEmbeddings).Reachable s ∧ s.Idle ∧ s.running = true ∧
    s.service.queryRunning = true ∧
    ∀ text, (system noEmbeddings).step s (.query text) = some s := by
  have hexec : ((system noEmbeddings).exec (constructed [] []) emptyQuery).map
      (fun s => (s.threads.map (·.pc), s.running, s.service.queryRunning)) =
        some ([.returned], true, true) := rfl
  obtain ⟨s, hs, hstate⟩ := System.exists_of_exec
    (.init ⟨[], [], rfl⟩ : (system noEmbeddings).Reachable _) (fun _ _ _ => trivial) hexec
  simp only [Prod.mk.injEq] at hstate
  obtain ⟨hthreads, hrunning, hquery⟩ := hstate
  refine ⟨s, hs, idle_of_phases (by rw [hthreads]; rfl), hrunning, hquery, fun text => ?_⟩
  show some (s.llmQuery text) = some s
  rw [llmQuery, if_pos hquery]

/-- A query that the model answers with nothing. -/
def answeredQuery : List ChatAction :=
  [.start true, .query [72, 105]] ++ List.replicate 6 (.thread 0 .endOfGeneration)

theorem answered_query_accepts : ∃ s, (system noEmbeddings).ReachableVia QueriesNonempty s ∧
    s.threads.map (·.query) = [[72, 105]] ∧ s.Accepts := by
  have hexec : ((system noEmbeddings).exec (constructed [] []) answeredQuery).map
      (fun s => (s.threads, s.running)) = some ([{ query := [72, 105], pc := .returned }], true) := rfl
  have hnonempty : ∀ a ∈ answeredQuery, ∀ s, QueriesNonempty s a := by
    intro a ha s
    cases a with
    | query text =>
        intro _ htext
        subst htext
        simp [answeredQuery] at ha
    | _ => trivial
  obtain ⟨s, hs, hstate⟩ := System.exists_of_exec
    (.init ⟨[], [], rfl⟩ : (system noEmbeddings).ReachableVia QueriesNonempty _) hnonempty hexec
  obtain ⟨hthreads, hrunning⟩ := Prod.mk.inj hstate
  have hidle : s.Idle := idle_of_phases (by rw [hthreads]; rfl)
  refine ⟨s, hs, by rw [hthreads]; rfl, ?_⟩
  exact ((chat_never_locks noEmbeddings).1 s hs hidle).2 hrunning

end ChatSystem

end Kufibot
