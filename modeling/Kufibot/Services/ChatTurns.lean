import Kufibot.Operators.LlamaOperator
import Kufibot.Services.ChatThread

/-!
# `Services.ChatTurns` — one reply after another

Every accepted query has a thread of its own, and all of them work on one `LlamaOperator`: its context and its
messages have no lock. What keeps the threads apart is `_queryRunning`, which is set when a query is accepted
and cleared when the callback gets `<end>`.

So one thread at a time is in the model (`one_thread_generates`), unless the model itself writes `<end>` as a
piece. But the thread that has passed its `<end>` has not written the reply into the messages yet, and the
next query can be accepted already. The prompts are the conversation so far iff no thread formats its prompt
in that gap (`prompts_in_turn_iff`).

`AIModeOffCall` clears the flag that the loop of `generateResponse` tests, and `chat` sets it again when its
thread begins: the stop is lost on a query whose thread has not begun yet, and only on it
(`reply_after_stop_iff`).
-/

namespace Kufibot

open Lib InteractiveChatService

/-- The thread may use the context of the model, now or later. -/
def ChatPc.active : ChatPc → Bool
  | .entered | .loop | .callback _ | .ending => true
  | .closing loopOver | .clearing loopOver => !loopOver
  | .leaving | .returned => false

/-- The thread has asked its question, and has not written the reply into the messages yet. -/
def ChatPc.replying : ChatPc → Bool
  | .loop | .callback _ | .ending | .closing _ | .clearing _ | .leaving => true
  | .entered | .returned => false

/-- The thread is at the head of its loop, or will come back to it. -/
def ChatPc.inLoop : ChatPc → Bool
  | .loop | .callback _ => true
  | .closing loopOver | .clearing loopOver => !loopOver
  | .entered | .ending | .leaving | .returned => false

theorem ChatPc.active_of_inLoop {pc : ChatPc} (h : pc.inLoop = true) : pc.active = true := by
  cases pc with
  | loop | callback _ => rfl
  | closing _ | clearing _ => exact h
  | entered | ending | leaving | returned => cases h

/-- The thread does not hand over `<end>` as a piece of its reply. -/
def ChatPc.NoEnd : ChatPc → Prop
  | .callback piece => piece ≠ endToken
  | .closing loopOver | .clearing loopOver => loopOver = true
  | _ => True

namespace ChatSystem

variable (operator : EmbeddingOperator)

/-! ## What a thread can do -/

/-- Everything the next step of thread `i` can be. -/
inductive Chats (s : ChatSystem) (i : Nat) (thread : ChatThread) : Sampled → ChatSystem → Prop where
  /-- `if (userInput.empty()) return;` -/
  | skip {sampled : Sampled} (hpc : thread.pc = .entered) (hquery : thread.query = []) :
      Chats s i thread sampled (({ s with generating := true } : ChatSystem).goTo i thread .returned)
  | ask {sampled : Sampled} (hpc : thread.pc = .entered) (hquery : thread.query ≠ []) :
      Chats s i thread sampled (({ s with generating := true } : ChatSystem).goTo i thread .loop)
  | endOfGeneration (hpc : thread.pc = .loop) (hgenerating : s.generating = true) :
      Chats s i thread .endOfGeneration (s.goTo i thread .ending)
  | piece {text : Bytes} (hpc : thread.pc = .loop) (hgenerating : s.generating = true) :
      Chats s i thread (.piece text) (s.goTo i thread (.callback text))
  | stopped {sampled : Sampled} (hpc : thread.pc = .loop) (hgenerating : s.generating = false) :
      Chats s i thread sampled (s.goTo i thread .ending)
  | callback {sampled : Sampled} {text : Bytes} (hpc : thread.pc = .callback text) (htext : text ≠ endToken) :
      Chats s i thread sampled ((s.callback operator text).goTo i thread .loop)
  | endPiece {sampled : Sampled} (hpc : thread.pc = .callback endToken) :
      Chats s i thread sampled (s.clearFlag.goTo i thread (.closing false))
  | ending {sampled : Sampled} (hpc : thread.pc = .ending) :
      Chats s i thread sampled (s.clearFlag.goTo i thread (.closing true))
  | closing {sampled : Sampled} {loopOver : Bool} (hpc : thread.pc = .closing loopOver) :
      Chats s i thread sampled ((s.publishRemaining operator).goTo i thread (.clearing loopOver))
  | clearing {sampled : Sampled} {loopOver : Bool} (hpc : thread.pc = .clearing loopOver) :
      Chats s i thread sampled (s.clearText.goTo i thread (if loopOver then .leaving else .loop))
  | leaving {sampled : Sampled} (hpc : thread.pc = .leaving) :
      Chats s i thread sampled (s.goTo i thread .returned)

variable {operator} {s t : ChatSystem} {i : Nat} {thread : ChatThread} {sampled : Sampled}

theorem chats_of_chat (h : s.chat operator i thread sampled = some t) :
    Chats operator s i thread sampled t := by
  unfold ChatSystem.chat at h
  cases hpc : thread.pc with
  | entered =>
      rw [hpc] at h
      simp only at h
      split at h
      · rename_i hquery
        cases h
        exact .skip hpc (List.isEmpty_iff.mp hquery)
      · rename_i hquery
        cases h
        exact .ask hpc (fun hnil => hquery (List.isEmpty_iff.mpr hnil))
  | loop =>
      rw [hpc] at h
      simp only at h
      split at h
      · rename_i hgenerating
        cases sampled with
        | endOfGeneration => cases h; exact .endOfGeneration hpc hgenerating
        | piece text => cases h; exact .piece hpc hgenerating
      · rename_i hgenerating
        cases h
        exact .stopped hpc (Bool.eq_false_iff.mpr hgenerating)
  | callback text =>
      rw [hpc] at h
      simp only at h
      split at h
      · rename_i htext
        subst htext
        cases h
        exact .endPiece hpc
      · rename_i htext
        cases h
        exact .callback hpc htext
  | ending => rw [hpc] at h; cases h; exact .ending hpc
  | closing loopOver => rw [hpc] at h; cases h; exact .closing hpc
  | clearing loopOver => rw [hpc] at h; cases h; exact .clearing hpc
  | leaving => rw [hpc] at h; cases h; exact .leaving hpc
  | returned => rw [hpc] at h; cases h

/-- A thread steps, and leaves the others alone. -/
theorem thread_of_step {a : ChatAction} (hst : s.step operator a = some t) (ha : a = .thread i sampled) :
    ∃ thread, s.threads[i]? = some thread ∧ Chats operator s i thread sampled t := by
  subst ha
  simp only [step] at hst
  split at hst
  · cases hst
  · rename_i thread hthread
    exact ⟨thread, hthread, chats_of_chat hst⟩

/-- The threads behind a step of thread `i`: it has gone on to `pc`. -/
theorem threads_goTo (hthread : s.threads[i]? = some thread) {pc : ChatPc} (j : Nat) :
    (s.goTo i thread pc).threads[j]? = if i = j then some { thread with pc } else s.threads[j]? := by
  show (s.threads.set i { thread with pc })[j]? = _
  rw [List.getElem?_set]
  split
  · rw [if_pos (List.getElem?_eq_some_iff.mp hthread).1]
  · rfl

/-- A thread behind the step of thread `i` is the one that has gone on, or another one as it was. -/
theorem thread_goTo (hthread : s.threads[i]? = some thread) {pc : ChatPc} {j : Nat} {other : ChatThread}
    (h : (s.goTo i thread pc).threads[j]? = some other) :
    (i = j ∧ other = { thread with pc }) ∨ (i ≠ j ∧ s.threads[j]? = some other) := by
  rw [threads_goTo hthread] at h
  split at h
  · rename_i hij
    exact .inl ⟨hij, (Option.some.inj h).symm⟩
  · rename_i hij
    exact .inr ⟨hij, h⟩

/-- A thread of an accepted query, or one that was there before. -/
theorem thread_query {text : Bytes} {j : Nat} {other : ChatThread}
    (h : (s.llmQuery text).threads[j]? = some other) :
    s.threads[j]? = some other ∨
      (s.Accepts ∧ j = s.threads.length ∧ other = { query := text }) := by
  unfold llmQuery at h
  split at h
  · exact .inl h
  · rename_i hquery
    split at h
    · exact .inl h
    · rename_i hrunning
      have haccepts : s.Accepts := ⟨Bool.eq_false_iff.mpr hquery, by simpa using hrunning⟩
      have h : (s.threads ++ [{ query := text }])[j]? = some other := h
      rw [List.getElem?_append] at h
      split at h
      · exact .inl h
      · rename_i hlength
        obtain ⟨hj, hother⟩ := List.getElem?_eq_some_iff.mp h
        have hj : j = s.threads.length := by
          simp only [List.length_cons, List.length_nil] at hj
          omega
        subst hj
        simp at hother
        exact .inr ⟨haccepts, rfl, hother.symm⟩

/-! ## One thread at a time -/

/-- The model does not write `<end>` as a piece of its reply. -/
def NoEndPiece (_ : ChatSystem) : ChatAction → Prop
  | .thread _ (.piece text) => text ≠ endToken
  | _ => True

/-- At most one thread may use the context of the model, and the flag is set meanwhile. -/
structure OneActive (s : ChatSystem) : Prop where
  unique : ∀ (i j : Nat) (ti tj : ChatThread), s.threads[i]? = some ti → s.threads[j]? = some tj →
    ti.pc.active = true → tj.pc.active = true → i = j
  flag : ∀ (i : Nat) (thread : ChatThread), s.threads[i]? = some thread → thread.pc.active = true →
    s.service.queryRunning = true
  piece : ∀ (i : Nat) (thread : ChatThread), s.threads[i]? = some thread → thread.pc.NoEnd

/-- A thread goes on. The flag is kept, unless the only active thread stops being active. -/
theorem OneActive.goTo {u : ChatSystem} (h : OneActive s) (hthread : s.threads[i]? = some thread)
    {pc : ChatPc} (hthreads : u.threads = (s.goTo i thread pc).threads)
    (hactive : pc.active = true → thread.pc.active = true) (hpiece : pc.NoEnd)
    (hflag : u.service.queryRunning = s.service.queryRunning ∨
      thread.pc.active = true ∧ pc.active = false) : OneActive u := by
  have hcases : ∀ {j : Nat} {other : ChatThread}, u.threads[j]? = some other →
      (i = j ∧ other = { thread with pc }) ∨ (i ≠ j ∧ s.threads[j]? = some other) := by
    intro j other hother
    rw [hthreads] at hother
    exact thread_goTo hthread hother
  refine ⟨fun j k tj tk hj hk haj hak => ?_, fun j other hother ha => ?_, fun j other hother => ?_⟩
  · rcases hcases hj with ⟨rfl, rfl⟩ | ⟨_, hj⟩ <;> rcases hcases hk with ⟨rfl, rfl⟩ | ⟨_, hk⟩
    · rfl
    · exact h.unique _ _ _ _ hthread hk (hactive haj) hak
    · exact h.unique _ _ _ _ hj hthread haj (hactive hak)
    · exact h.unique _ _ _ _ hj hk haj hak
  · rcases hcases hother with ⟨rfl, rfl⟩ | ⟨hij, hother⟩
    · rcases hflag with hflag | ⟨_, hpc⟩
      · rw [hflag]
        exact h.flag _ _ hthread (hactive ha)
      · rw [show pc.active = true from ha] at hpc
        cases hpc
    · rcases hflag with hflag | ⟨hpc, _⟩
      · rw [hflag]
        exact h.flag _ _ hother ha
      · exact absurd (h.unique _ _ _ _ hthread hother hpc ha) hij
  · rcases hcases hother with ⟨rfl, rfl⟩ | ⟨_, hother⟩
    · exact hpiece
    · exact h.piece _ _ hother

/-- **A step of a thread.** -/
theorem OneActive.chats (h : OneActive s) (hthread : s.threads[i]? = some thread)
    (hpiece : ∀ text, sampled = .piece text → text ≠ endToken)
    (hst : Chats operator s i thread sampled t) : OneActive t := by
  have hnoEnd := h.piece _ _ hthread
  cases hst with
  | skip hpc _ | ask hpc _ => exact h.goTo hthread rfl (fun _ => by rw [hpc]; rfl) trivial (.inl rfl)
  | endOfGeneration hpc _ | stopped hpc _ =>
      exact h.goTo hthread rfl (fun _ => by rw [hpc]; rfl) trivial (.inl rfl)
  | piece hpc _ => exact h.goTo hthread rfl (fun _ => by rw [hpc]; rfl) (hpiece _ rfl) (.inl rfl)
  | callback hpc htext =>
      exact h.goTo hthread rfl (fun _ => by rw [hpc]; rfl) trivial
        (.inl (queryRunning_callback_of_ne s.service htext))
  | endPiece hpc =>
      rw [hpc] at hnoEnd
      exact absurd rfl hnoEnd
  | ending hpc => exact h.goTo hthread rfl nofun rfl (.inr ⟨by rw [hpc]; rfl, rfl⟩)
  | closing hpc =>
      rw [hpc] at hnoEnd
      obtain rfl : _ = true := hnoEnd
      exact h.goTo hthread rfl nofun rfl (.inl (queryRunning_publishRemaining s.service))
  | clearing hpc =>
      rw [hpc] at hnoEnd
      obtain rfl : _ = true := hnoEnd
      exact h.goTo hthread rfl nofun trivial (.inl rfl)
  | leaving hpc => exact h.goTo hthread rfl nofun trivial (.inl rfl)

/-- **A query is accepted** only while no thread is active. -/
theorem OneActive.query (h : OneActive s) (text : Bytes) : OneActive (s.llmQuery text) := by
  by_cases haccepts : s.Accepts
  · have hidle : ∀ (j : Nat) (other : ChatThread), s.threads[j]? = some other → other.pc.active = false := by
      intro j other hother
      refine Bool.eq_false_iff.mpr fun ha => ?_
      have hflag := h.flag _ _ hother ha
      rw [haccepts.1] at hflag
      cases hflag
    have hflag : (s.llmQuery text).service.queryRunning = true := by
      unfold llmQuery
      rw [haccepts.1, haccepts.2]
      rfl
    have hnew : ∀ {j : Nat} {other : ChatThread}, (s.llmQuery text).threads[j]? = some other →
        other.pc.active = true → j = s.threads.length := by
      intro j other hother ha
      rcases thread_query hother with hother | ⟨_, hj, _⟩
      · rw [hidle _ _ hother] at ha
        cases ha
      · exact hj
    refine ⟨fun j k tj tk hj hk haj hak => ?_, fun _ _ _ _ => hflag, fun j other hother => ?_⟩
    · exact (hnew hj haj).trans (hnew hk hak).symm
    · rcases thread_query hother with hother | ⟨_, _, rfl⟩
      · exact h.piece _ _ hother
      · trivial
  · have hsame : s.llmQuery text = s := by
      unfold llmQuery
      split
      · rfl
      · rename_i hquery
        split
        · rfl
        · rename_i hrunning
          exact absurd ⟨Bool.eq_false_iff.mpr hquery, by simpa using hrunning⟩ haccepts
    rw [hsame]
    exact h

theorem OneActive.step {a : ChatAction} (h : OneActive s) (hok : s.NoEndPiece a)
    (hst : s.step operator a = some t) : OneActive t := by
  cases a with
  | start started => cases hst; exact ⟨h.unique, h.flag, h.piece⟩
  | stopGenerateResponse => cases hst; exact ⟨h.unique, h.flag, h.piece⟩
  | stop => cases hst; exact ⟨h.unique, h.flag, h.piece⟩
  | query text => cases hst; exact h.query text
  | thread i sampled =>
      obtain ⟨thread, hthread, hchats⟩ := thread_of_step hst rfl
      refine h.chats hthread (fun text htext => ?_) hchats
      subst htext
      exact hok

theorem oneActive_reachable (h : (system operator).ReachableVia NoEndPiece s) : OneActive s := by
  refine h.invariant (I := OneActive) ?_ fun s a t hs hok hst => hs.step hok hst
  rintro _ ⟨emotionalList, reactionalList, rfl⟩
  exact ⟨nofun, nofun, nofun⟩

/-- **One thread at a time is in the model.** As long as the model does not write `<end>` itself, at most one
    thread has entered `chat`, or is about to, and has not got its `<end>` yet. -/
theorem one_thread_generates (h : (system operator).ReachableVia NoEndPiece s) {i j : Nat}
    {ti tj : ChatThread} (hi : s.threads[i]? = some ti) (hj : s.threads[j]? = some tj)
    (hti : ti.pc.active = true) (htj : tj.pc.active = true) : i = j :=
  (oneActive_reachable h).unique i j ti tj hi hj hti htj

/-- The first reply is over, and the second query is accepted before its thread has returned. -/
def secondQuery : List ChatAction :=
  [.start true, .query [72, 105]] ++ List.replicate 5 (.thread 0 .endOfGeneration) ++ [.query [89, 111]]

theorem secondQuery_noEndPiece : ∀ a ∈ secondQuery, ∀ s, NoEndPiece s a := by
  simp [secondQuery, NoEndPiece]

theorem one_thread_generates_second : ∃ s, (system noEmbeddings).ReachableVia NoEndPiece s ∧
    s.threads.map (·.pc) = [.leaving, .entered] ∧
    ∀ (i j : Nat) (ti tj : ChatThread), s.threads[i]? = some ti → s.threads[j]? = some tj →
      ti.pc.active = true → tj.pc.active = true → i = j := by
  have hexec : ((system noEmbeddings).exec (constructed [] []) secondQuery).map
      (fun s => s.threads.map (·.pc)) = some [.leaving, .entered] := rfl
  obtain ⟨s, hs, hthreads⟩ := System.exists_of_exec
    (.init ⟨[], [], rfl⟩ : (system noEmbeddings).ReachableVia NoEndPiece _) secondQuery_noEndPiece hexec
  exact ⟨s, hs, hthreads, fun i j ti tj hi hj => one_thread_generates hs hi hj⟩

end ChatSystem

/-! ## The conversation -/

/-- A prompt that a thread formats. -/
structure ChatPrompt where
  /-- Ghost: the turns that are over. -/
  turns : List Turn
  query : Bytes
  messages : List ChatMessage

/-- **The prompt is the conversation so far**: every query that was answered, with its whole reply, and then
    the one that is asked. -/
def ChatPrompt.InTurn (systemMessage : Bytes) (p : ChatPrompt) : Prop :=
  p.messages = conversationOf systemMessage p.turns p.query

/-- The chat, and what its threads share in the `LlamaOperator`. -/
structure Conversation where
  chat : ChatSystem
  systemMessage : Bytes
  messages : List ChatMessage
  /-- The pieces that each thread has appended to its `response`. -/
  pieces : Nat → List Bytes
  /-- Ghost: the turns that are over. -/
  turns : List Turn
  /-- Ghost: the prompts that were formatted. -/
  prompts : List ChatPrompt

namespace Conversation

variable (operator : EmbeddingOperator)

/-- `response` of thread `i`. -/
def response (c : Conversation) (i : Nat) : Bytes := (c.pieces i).flatten

/-- `_messages` with the input of this turn. -/
def withInput (c : Conversation) (userInput : Bytes) : List ChatMessage :=
  ({ systemMessage := c.systemMessage, nCtx := 0, messages := c.messages } : LlamaOperator).conversation
    userInput

/-- What the next step of thread `i` does to the messages. -/
def write (c : Conversation) (i : Nat) (thread : ChatThread) (sampled : Sampled) : Conversation :=
  match thread.pc with
  | .entered =>
      if thread.query.isEmpty then c
      else
        { c with
          messages := c.withInput thread.query
          prompts := c.prompts ++ [⟨c.turns, thread.query, c.withInput thread.query⟩] }
  | .loop =>
      match sampled with
      | .piece text =>
          if c.chat.generating then
            { c with pieces := Function.update c.pieces i (c.pieces i ++ [text]) }
          else c
      | .endOfGeneration => c
  | .leaving =>
      { c with
        messages := c.messages ++ [⟨"assistant", cString (c.response i)⟩]
        turns := c.turns ++ [(thread.query, c.response i)] }
  | .callback _ | .ending | .closing _ | .clearing _ | .returned => c

def step (c : Conversation) (a : ChatAction) : Option Conversation :=
  match c.chat.step operator a with
  | none => none
  | some chat =>
      match a with
      | .thread i sampled =>
          match c.chat.threads[i]? with
          | none => none
          | some thread => some { c.write i thread sampled with chat := chat }
      | _ => some { c with chat := chat }

def constructed (emotionalList : List EmotionalGesture) (reactionalList : List ReactionalGesture)
    (systemMessage : Bytes) : Conversation where
  chat := .constructed emotionalList reactionalList
  systemMessage
  messages := []
  pieces _ := []
  turns := []
  prompts := []

def system : System Conversation ChatAction where
  init c := ∃ emotionalList reactionalList systemMessage,
    c = constructed emotionalList reactionalList systemMessage
  step := step operator

/-- Every prompt is the conversation at its time. -/
def InTurn (c : Conversation) : Prop := ∀ p ∈ c.prompts, p.InTurn c.systemMessage

/-- A thread formats its prompt only when no other one is still replying. -/
def AsksInTurn (c : Conversation) : ChatAction → Prop
  | .thread i _ => ∀ thread, c.chat.threads[i]? = some thread → thread.pc = .entered → thread.query ≠ [] →
      ∀ other ∈ c.chat.threads, other.pc.replying = false
  | _ => True

/-! ### What a step does -/

variable {operator} {c d : Conversation} {i : Nat} {thread : ChatThread} {sampled : Sampled}

/-- A step of the conversation is one of the chat; a thread also writes. -/
theorem chat_of_step {a : ChatAction} (hst : c.step operator a = some d) :
    c.chat.step operator a = some d.chat ∧
      ((∃ i sampled thread, a = .thread i sampled ∧ c.chat.threads[i]? = some thread ∧
          ChatSystem.Chats operator c.chat i thread sampled d.chat ∧
          d = { c.write i thread sampled with chat := d.chat }) ∨
        (∀ i sampled, a ≠ .thread i sampled) ∧ d = { c with chat := d.chat }) := by
  unfold step at hst
  cases hchat : c.chat.step operator a with
  | none => rw [hchat] at hst; cases hst
  | some chat =>
      rw [hchat] at hst
      cases a with
      | thread i sampled =>
          obtain ⟨thread, hthread, hchats⟩ := ChatSystem.thread_of_step hchat rfl
          simp only [hthread] at hst
          cases hst
          exact ⟨rfl, .inl ⟨i, sampled, thread, rfl, hthread, hchats, rfl⟩⟩
      | start _ | stopGenerateResponse | stop | query _ =>
          cases hst
          exact ⟨rfl, .inr ⟨nofun, rfl⟩⟩

end Conversation

namespace ChatSystem

/-! ### Who is replying -/

/-- Thread `i` is replying to this query. -/
def Replies (s : ChatSystem) (i : Nat) (query : Bytes) : Prop :=
  ∃ thread, s.threads[i]? = some thread ∧ thread.pc.replying = true ∧ thread.query = query

variable {s : ChatSystem} {i j : Nat} {thread : ChatThread} {pc : ChatPc} {query : Bytes}

theorem not_replies_iff : (∀ i query, ¬ s.Replies i query) ↔
    ∀ thread ∈ s.threads, thread.pc.replying = false := by
  constructor
  · intro h thread hmem
    obtain ⟨i, hi⟩ := List.getElem?_of_mem hmem
    exact Bool.eq_false_iff.mpr fun hreplying => h i thread.query ⟨thread, hi, hreplying, rfl⟩
  · rintro h i query ⟨thread, hthread, hreplying, _⟩
    rw [h thread (List.mem_of_getElem? hthread)] at hreplying
    cases hreplying

/-- The threads that are replying behind a step of thread `i`: the others as they were, and `i` as `pc` says. -/
theorem replies_goTo (hthread : s.threads[i]? = some thread) :
    (s.goTo i thread pc).Replies j query ↔
      (i = j ∧ pc.replying = true ∧ thread.query = query) ∨ (i ≠ j ∧ s.Replies j query) := by
  constructor
  · rintro ⟨other, hother, hreplying, hquery⟩
    rcases thread_goTo hthread hother with ⟨rfl, rfl⟩ | ⟨hij, hother⟩
    · exact .inl ⟨rfl, hreplying, hquery⟩
    · exact .inr ⟨hij, other, hother, hreplying, hquery⟩
  · rintro (⟨rfl, hreplying, hquery⟩ | ⟨hij, other, hother, hreplying, hquery⟩)
    · exact ⟨_, (threads_goTo hthread i).trans (if_pos rfl), hreplying, hquery⟩
    · exact ⟨other, (threads_goTo hthread j).trans ((if_neg hij).trans hother), hreplying, hquery⟩

/-- Thread `i` itself, before its step. -/
theorem replies_self (hthread : s.threads[i]? = some thread) :
    s.Replies i query ↔ thread.pc.replying = true ∧ thread.query = query := by
  constructor
  · rintro ⟨other, hother, hreplying⟩
    cases hthread.symm.trans hother
    exact hreplying
  · exact fun h => ⟨thread, hthread, h⟩

/-- A step that neither begins a reply nor closes one. -/
theorem replies_goTo_same (hthread : s.threads[i]? = some thread)
    (hpc : pc.replying = thread.pc.replying) : (s.goTo i thread pc).Replies j query ↔ s.Replies j query := by
  rw [replies_goTo hthread]
  by_cases hij : i = j
  · subst hij
    rw [replies_self hthread, hpc]
    simp
  · simp [hij]

/-- An accepted query has no reply yet. -/
theorem replies_query (text : Bytes) : (s.llmQuery text).Replies j query ↔ s.Replies j query := by
  constructor
  · rintro ⟨other, hother, hreplying, hquery⟩
    rcases thread_query hother with hother | ⟨_, _, rfl⟩
    · exact ⟨other, hother, hreplying, hquery⟩
    · cases hreplying
  · rintro ⟨other, hother, hreplying, hquery⟩
    refine ⟨other, ?_, hreplying, hquery⟩
    unfold llmQuery
    split
    · exact hother
    · split
      · exact hother
      · exact (List.getElem?_append_left (List.getElem?_eq_some_iff.mp hother).1).trans hother

end ChatSystem

namespace Conversation

variable {operator : EmbeddingOperator} {c d : Conversation} {i : Nat} {thread : ChatThread}
  {sampled : Sampled}

/-! ### One thread is replying -/

/-- The messages are those of the turns that are over, and of the thread that is replying. -/
structure TurnInv (c : Conversation) : Prop where
  unique : ∀ {i j : Nat} {p q : Bytes}, c.chat.Replies i p → c.chat.Replies j q → i = j
  open_turn : ∀ {i : Nat} {query : Bytes}, c.chat.Replies i query →
    c.messages = conversationOf c.systemMessage c.turns query
  closed : (∀ i query, ¬ c.chat.Replies i query) →
    c.messages = if c.turns.isEmpty then [] else exchanged c.systemMessage c.turns
  prompts : c.InTurn

/-- A step that leaves the messages alone, and the threads that are replying. -/
theorem TurnInv.frame (h : TurnInv c) {chat : ChatSystem}
    (hreplies : ∀ j query, chat.Replies j query ↔ c.chat.Replies j query) :
    TurnInv { c with chat := chat } := by
  refine ⟨fun hp hq => ?_, fun hquery => ?_, fun hnone => ?_, h.prompts⟩
  · exact h.unique ((hreplies _ _).mp hp) ((hreplies _ _).mp hq)
  · exact h.open_turn ((hreplies _ _).mp hquery)
  · exact h.closed fun j query hquery => hnone j query ((hreplies _ _).mpr hquery)

/-- The pieces of an open reply are not part of the invariant. -/
theorem TurnInv.pieces (h : TurnInv c) (pieces : Nat → List Bytes) : TurnInv { c with pieces := pieces } :=
  ⟨h.unique, h.open_turn, h.closed, h.prompts⟩

theorem withInput_eq (h : TurnInv c) (hnone : ∀ i query, ¬ c.chat.Replies i query) (userInput : Bytes) :
    c.withInput userInput = conversationOf c.systemMessage c.turns userInput :=
  LlamaOperator.After.conversation ⟨rfl, rfl, h.closed hnone⟩ userInput

/-- The turn that is over is the last one that was exchanged. -/
theorem exchanged_append (systemMessage : Bytes) (turns : List Turn) (query reply : Bytes) :
    exchanged systemMessage (turns ++ [(query, reply)]) =
      conversationOf systemMessage turns query ++ [⟨"assistant", cString reply⟩] := by
  unfold conversationOf exchanged
  rw [List.flatMap_append]
  simp

/-- **A thread asks** while nobody is replying: it opens the next turn. -/
theorem TurnInv.ask (h : TurnInv c) (hthread : c.chat.threads[i]? = some thread)
    (hnone : ∀ i query, ¬ c.chat.Replies i query) :
    TurnInv { c with
      messages := c.withInput thread.query
      prompts := c.prompts ++ [⟨c.turns, thread.query, c.withInput thread.query⟩]
      chat := ({ c.chat with generating := true } : ChatSystem).goTo i thread .loop } := by
  have hprompt := withInput_eq h hnone thread.query
  have hreplies : ∀ {j : Nat} {query : Bytes},
      (({ c.chat with generating := true } : ChatSystem).goTo i thread .loop).Replies j query →
      i = j ∧ thread.query = query := by
    intro j query hquery
    rcases (ChatSystem.replies_goTo (s := { c.chat with generating := true }) hthread).mp hquery with
      ⟨hij, _, hquery⟩ | ⟨_, hquery⟩
    · exact ⟨hij, hquery⟩
    · exact absurd hquery (hnone _ _)
  refine ⟨fun hp hq => (hreplies hp).1.symm.trans (hreplies hq).1, fun hquery => ?_, fun hnobody => ?_, ?_⟩
  · rw [← (hreplies hquery).2]
    exact hprompt
  · refine absurd ?_ (hnobody i thread.query)
    exact (ChatSystem.replies_goTo (s := { c.chat with generating := true }) hthread).mpr
      (.inl ⟨rfl, rfl, rfl⟩)
  · exact List.forall_mem_append.mpr ⟨h.prompts, List.forall_mem_singleton.mpr hprompt⟩

/-- **A thread leaves**: its turn is over, and nobody else is replying. -/
theorem TurnInv.leave (h : TurnInv c) (hthread : c.chat.threads[i]? = some thread)
    (hpc : thread.pc.replying = true) :
    TurnInv { c with
      messages := c.messages ++ [⟨"assistant", cString (c.response i)⟩]
      turns := c.turns ++ [(thread.query, c.response i)]
      chat := c.chat.goTo i thread .returned } := by
  have hself : c.chat.Replies i thread.query := (ChatSystem.replies_self hthread).mpr ⟨hpc, rfl⟩
  have hnone : ∀ j query, ¬ (c.chat.goTo i thread .returned).Replies j query := by
    intro j query hquery
    rcases (ChatSystem.replies_goTo hthread).mp hquery with ⟨_, hreplying, _⟩ | ⟨hij, hquery⟩
    · cases hreplying
    · exact hij (h.unique hself hquery)
  refine ⟨fun hp _ => absurd hp (hnone _ _), fun hquery => absurd hquery (hnone _ _), fun _ => ?_, h.prompts⟩
  have hne : (c.turns ++ [(thread.query, c.response i)]).isEmpty = false :=
    List.isEmpty_eq_false_iff.mpr (List.append_ne_nil_of_right_ne_nil _ (List.cons_ne_nil _ _))
  show c.messages ++ _ = _
  rw [if_neg (Bool.eq_false_iff.mp hne), exchanged_append, h.open_turn hself]

/-- **A step** in which no thread asks out of turn. -/
theorem TurnInv.step {a : ChatAction} (h : TurnInv c) (hok : c.AsksInTurn a)
    (hst : c.step operator a = some d) : TurnInv d := by
  obtain ⟨hchat, hthread | ⟨hother, hd⟩⟩ := chat_of_step hst
  · obtain ⟨i, sampled, thread, rfl, hthread, hchats, hd⟩ := hthread
    rw [hd]
    unfold write
    generalize d.chat = chat at hchats
    cases hchats with
    | skip hpc hquery =>
        rw [hpc, hquery]
        exact h.frame fun j query =>
          ChatSystem.replies_goTo_same (s := { c.chat with generating := true }) hthread (by rw [hpc]; rfl)
    | ask hpc hquery =>
        have hempty : thread.query.isEmpty = false := List.isEmpty_eq_false_iff.mpr hquery
        rw [hpc, hempty]
        exact h.ask hthread (ChatSystem.not_replies_iff.mpr (hok thread hthread hpc hquery))
    | endOfGeneration hpc hgenerating =>
        rw [hpc]
        exact h.frame fun j query => ChatSystem.replies_goTo_same hthread (by rw [hpc]; rfl)
    | piece hpc hgenerating =>
        rw [hpc, hgenerating]
        exact (h.frame fun j query =>
          ChatSystem.replies_goTo_same hthread (by rw [hpc]; rfl)).pieces _
    | stopped hpc hgenerating =>
        rw [hpc, hgenerating]
        cases sampled <;>
          exact h.frame fun j query => ChatSystem.replies_goTo_same hthread (by rw [hpc]; rfl)
    | callback hpc _ =>
        rw [hpc]
        exact h.frame fun j query => ChatSystem.replies_goTo_same
          (s := c.chat.callback operator _) hthread (by rw [hpc]; rfl)
    | endPiece hpc | ending hpc =>
        rw [hpc]
        exact h.frame fun j query => ChatSystem.replies_goTo_same
          (s := c.chat.clearFlag) hthread (by rw [hpc]; rfl)
    | closing hpc =>
        rw [hpc]
        exact h.frame fun j query => ChatSystem.replies_goTo_same
          (s := c.chat.publishRemaining operator) hthread (by rw [hpc]; rfl)
    | @clearing _ loopOver hpc =>
        rw [hpc]
        exact h.frame fun j query => ChatSystem.replies_goTo_same
          (s := c.chat.clearText) hthread (by rw [hpc]; cases loopOver <;> rfl)
    | leaving hpc =>
        rw [hpc]
        exact h.leave hthread (by rw [hpc]; rfl)
  · rw [hd]
    generalize d.chat = chat at hchat
    cases a with
    | thread i sampled => exact absurd rfl (hother i sampled)
    | start started => cases hchat; exact h.frame fun _ _ => Iff.rfl
    | stopGenerateResponse => cases hchat; exact h.frame fun _ _ => Iff.rfl
    | stop => cases hchat; exact h.frame fun _ _ => Iff.rfl
    | query text => cases hchat; exact h.frame fun _ _ => ChatSystem.replies_query text

/-- **A prompt out of turn** has the question of the other thread in front of its own. -/
theorem TurnInv.not_inTurn {a : ChatAction} (h : TurnInv c) (hbad : ¬ c.AsksInTurn a)
    (hst : c.step operator a = some d) : ¬ d.InTurn := by
  obtain ⟨hchat, hthread | ⟨hother, hd⟩⟩ := chat_of_step hst
  · obtain ⟨i, sampled, thread, rfl, hthread, hchats, hd⟩ := hthread
    have hask : thread.pc = .entered ∧ thread.query ≠ [] ∧
        ¬ ∀ other ∈ c.chat.threads, other.pc.replying = false := by
      by_contra hno
      refine hbad fun other hother hpc hquery => ?_
      cases hthread.symm.trans hother
      by_contra hreplying
      exact hno ⟨hpc, hquery, hreplying⟩
    obtain ⟨hpc, hquery, hreplying⟩ := hask
    rw [← ChatSystem.not_replies_iff] at hreplying
    simp only [not_forall, not_not] at hreplying
    obtain ⟨j, query, hreplies⟩ := hreplying
    have hempty : thread.query.isEmpty = false := List.isEmpty_eq_false_iff.mpr hquery
    have hmessages := h.open_turn hreplies
    have hprompt : c.withInput thread.query =
        conversationOf c.systemMessage c.turns query ++ [⟨"user", cString thread.query⟩] := by
      unfold withInput LlamaOperator.conversation
      have hne : (conversationOf c.systemMessage c.turns query).isEmpty = false :=
        List.isEmpty_eq_false_iff.mpr (List.append_ne_nil_of_right_ne_nil _ (List.cons_ne_nil _ _))
      simp only [hmessages, hne, Bool.false_and, Bool.false_eq_true, if_false]
    intro hinTurn
    rw [hd] at hinTurn
    unfold write at hinTurn
    rw [hpc, hempty] at hinTurn
    have hlast : c.withInput thread.query = conversationOf c.systemMessage c.turns thread.query :=
      hinTurn ⟨c.turns, thread.query, c.withInput thread.query⟩
        (List.mem_append_right _ (List.mem_singleton.mpr rfl))
    have hlength := congrArg List.length (hprompt.symm.trans hlast)
    simp [conversationOf] at hlength
  · cases a with
    | thread i sampled => exact absurd rfl (hother i sampled)
    | start _ | stopGenerateResponse | stop | query _ => exact absurd trivial hbad

theorem turnInv_constructed (emotionalList : List EmotionalGesture)
    (reactionalList : List ReactionalGesture) (systemMessage : Bytes) :
    TurnInv (constructed emotionalList reactionalList systemMessage) := by
  have hnone : ∀ i query,
      ¬ (constructed emotionalList reactionalList systemMessage).chat.Replies i query := by
    rintro i query ⟨thread, hthread, _⟩
    cases hthread
  exact ⟨fun hp _ => absurd hp (hnone _ _), fun hp => absurd hp (hnone _ _), fun _ => rfl, nofun⟩

/-- **The prompts are the conversation so far**, in every state of a run, iff no thread formats its prompt
    while another one is still replying: between `<end>`, which opens the door to the next query, and
    `push_back` of the reply. -/
theorem prompts_in_turn_iff {tr : List (Conversation × ChatAction)} (hinit : (system operator).init c)
    (hrun : (system operator).Run c tr d) :
    (∀ u ∈ System.visited tr d, u.InTurn) ↔ ∀ x ∈ tr, x.1.AsksInTurn x.2 := by
  obtain ⟨emotionalList, reactionalList, systemMessage, rfl⟩ := hinit
  refine hrun.forall_iff_of_strong (P := TurnInv) (fun _ _ => True) AsksInTurn
    (fun u hu => hu.prompts) (fun u a v hu _ hok hst => hu.step hok hst)
    (fun u a v hu hbad hst => hu.not_inTurn hbad hst)
    (turnInv_constructed emotionalList reactionalList systemMessage) fun _ _ => trivial

/-- The second query is asked while the first reply is not in the messages yet. -/
theorem prompts_in_turn_second : ∃ d tr,
    (system noEmbeddings).Run (constructed [] [] []) tr d ∧
      tr.map Prod.snd = ChatSystem.secondQuery ++ [.thread 1 .endOfGeneration] ∧
      d.prompts.map ChatPrompt.messages = [[⟨"user", [72, 105]⟩], [⟨"user", [72, 105]⟩, ⟨"user", [89, 111]⟩]] ∧
      ¬ ∀ x ∈ tr, x.1.AsksInTurn x.2 := by
  have hexec : ((system noEmbeddings).exec (constructed [] [] [])
      (ChatSystem.secondQuery ++ [.thread 1 .endOfGeneration])).map (fun d => (d.systemMessage, d.prompts)) =
      some ([], [⟨[], [72, 105], [⟨"user", [72, 105]⟩]⟩,
        ⟨[], [89, 111], [⟨"user", [72, 105]⟩, ⟨"user", [89, 111]⟩]⟩]) := rfl
  obtain ⟨d, hd, hshown⟩ := Option.map_eq_some_iff.mp hexec
  obtain ⟨hmessage, hprompts⟩ := Prod.mk.inj hshown
  obtain ⟨tr, hrun, hacts⟩ := System.Run.of_exec hd
  refine ⟨d, tr, hrun, hacts, by rw [hprompts]; rfl, fun hok => ?_⟩
  have hinTurn := (prompts_in_turn_iff ⟨[], [], [], rfl⟩ hrun).mpr hok d
    (List.mem_append_right _ (List.mem_singleton.mpr rfl))
  have hsecond := hinTurn ⟨[], [89, 111], [⟨"user", [72, 105]⟩, ⟨"user", [89, 111]⟩]⟩ (by simp [hprompts])
  rw [hmessage] at hsecond
  exact absurd (congrArg List.length hsecond) (by decide)

end Conversation

namespace ChatSystem

/-! ## A reply after the stop -/

/-- A thread is at the head of its loop, and the test of `_running` lets it go on with its reply. -/
def Speaks (s : ChatSystem) : Prop := s.generating = true ∧ ∃ thread ∈ s.threads, thread.pc = .loop

/-- The mode is not switched on again. -/
def NotStarted (_ : ChatSystem) (a : ChatAction) : Prop := ∀ started, a ≠ .start started

theorem notStarted_thread (s : ChatSystem) (i : Nat) (sampled : Sampled) : s.NotStarted (.thread i sampled) := by
  intro started h
  cases h

/-- The thread goes on after the stop: it has not begun yet, or the stop was lost on it already. -/
def GoesOn (s : ChatSystem) (thread : ChatThread) : Prop :=
  (thread.pc = .entered ∧ thread.query ≠ []) ∨
    (s.generating = true ∧ (thread.pc = .loop ∨ ∃ piece, thread.pc = .callback piece))

/-- The chat is over: no query is accepted, none is asked, and who is in the loop finds the stop. -/
structure Over (s : ChatSystem) : Prop where
  running : s.running = false
  asked : ∀ thread ∈ s.threads, thread.pc = .entered → thread.query = []
  stopped : (∀ thread ∈ s.threads, thread.pc.inLoop = false) ∨
    (s.generating = false ∧ ∀ thread ∈ s.threads, thread.pc ≠ .entered)

theorem Over.not_speaks {s : ChatSystem} (h : Over s) : ¬ s.Speaks := by
  rintro ⟨hgenerating, thread, hmem, hpc⟩
  rcases h.stopped with hloop | ⟨hstopped, _⟩
  · have hin := hloop thread hmem
    rw [hpc] at hin
    cases hin
  · rw [hstopped] at hgenerating
    cases hgenerating

theorem mem_goTo {s : ChatSystem} {i : Nat} {thread other : ChatThread} {pc : ChatPc}
    (h : other ∈ (s.goTo i thread pc).threads) : other = { thread with pc } ∨ other ∈ s.threads :=
  (List.mem_or_eq_of_mem_set h).symm

/-- A thread goes on, and finds the stop. -/
theorem Over.goTo {s u : ChatSystem} {i : Nat} {thread : ChatThread} {pc : ChatPc} (h : Over s)
    (hrunning : u.running = s.running) (hthreads : u.threads = (s.goTo i thread pc).threads)
    (hentered : pc ≠ .entered)
    (hstopped : (pc.inLoop = false ∧ ∀ thread ∈ s.threads, thread.pc.inLoop = false) ∨
      (u.generating = false ∧ ∀ thread ∈ s.threads, thread.pc ≠ .entered)) : Over u := by
  have hmem : ∀ {other : ChatThread}, other ∈ u.threads →
      other = { thread with pc } ∨ other ∈ s.threads := fun hother => mem_goTo (hthreads ▸ hother)
  refine ⟨hrunning.trans h.running, fun other hother hpc => ?_, ?_⟩
  · rcases hmem hother with rfl | hother
    · exact absurd hpc hentered
    · exact h.asked other hother hpc
  · rcases hstopped with ⟨hpc, hloop⟩ | ⟨hgenerating, hnone⟩
    · refine .inl fun other hother => ?_
      rcases hmem hother with rfl | hother
      · exact hpc
      · exact hloop other hother
    · refine .inr ⟨hgenerating, fun other hother => ?_⟩
      rcases hmem hother with rfl | hother
      · exact hentered
      · exact hnone other hother

section After

variable {operator : EmbeddingOperator} {s t : ChatSystem} {i : Nat} {thread : ChatThread}
  {sampled : Sampled}

theorem Over.chats (h : Over s) (hmem : thread ∈ s.threads) (hst : Chats operator s i thread sampled t) :
    Over t := by
  cases hst with
  | skip hpc hquery =>
      rcases h.stopped with hloop | ⟨_, hnone⟩
      · exact h.goTo rfl rfl nofun (.inl ⟨rfl, hloop⟩)
      · exact absurd hpc (hnone thread hmem)
  | ask hpc hquery => exact absurd (h.asked thread hmem hpc) hquery
  | endOfGeneration hpc hgenerating | piece hpc hgenerating =>
      exact absurd ⟨hgenerating, thread, hmem, hpc⟩ h.not_speaks
  | stopped hpc _ | ending hpc | leaving hpc =>
      rcases h.stopped with hloop | hnone
      · exact h.goTo rfl rfl nofun (.inl ⟨rfl, hloop⟩)
      · exact h.goTo rfl rfl nofun (.inr hnone)
  | callback hpc _ | endPiece hpc | closing hpc =>
      -- the thread stays in its loop, or out of it
      rcases h.stopped with hloop | hnone
      · have hin := hloop thread hmem
        rw [hpc] at hin
        exact h.goTo rfl rfl nofun (.inl ⟨hin, hloop⟩)
      · exact h.goTo rfl rfl nofun (.inr hnone)
  | @clearing _ loopOver hpc =>
      rcases h.stopped with hloop | hnone
      · have hin := hloop thread hmem
        rw [hpc] at hin
        obtain rfl : loopOver = true := by simpa [ChatPc.inLoop] using hin
        exact h.goTo rfl rfl nofun (.inl ⟨rfl, hloop⟩)
      · exact h.goTo rfl rfl (by cases loopOver <;> nofun) (.inr hnone)

theorem Over.step {a : ChatAction} (h : Over s) (hok : s.NotStarted a) (hst : s.step operator a = some t) :
    Over t := by
  cases a with
  | start started => exact absurd rfl (hok started)
  | stopGenerateResponse =>
      cases hst
      exact ⟨h.running, h.asked, h.stopped.imp id fun hnone => ⟨rfl, hnone.2⟩⟩
  | stop => cases hst; exact ⟨rfl, h.asked, h.stopped⟩
  | query text =>
      cases hst
      have hsame : s.llmQuery text = s := by
        unfold llmQuery
        rw [h.running]
        split <;> rfl
      rw [hsame]
      exact h
  | thread i sampled =>
      obtain ⟨thread, hthread, hchats⟩ := thread_of_step hst rfl
      exact h.chats (List.mem_of_getElem? hthread) hchats

/-- A thread that has not begun yet keeps all others out of the loop. -/
theorem OneActive.over (h : OneActive s) (hrunning : s.running = false)
    (hnone : ∀ thread ∈ s.threads, ¬ s.GoesOn thread) : Over s := by
  refine ⟨hrunning, fun thread hmem hpc => ?_, ?_⟩
  · by_contra hquery
    exact hnone thread hmem (.inl ⟨hpc, hquery⟩)
  · by_cases hgenerating : s.generating = true
    · refine .inl fun thread hmem => ?_
      obtain ⟨i, hi⟩ := List.getElem?_of_mem hmem
      have hnoEnd := h.piece i thread hi
      cases hpc : thread.pc with
      | loop => exact absurd (.inr ⟨hgenerating, .inl hpc⟩) (hnone thread hmem)
      | callback piece => exact absurd (.inr ⟨hgenerating, .inr ⟨piece, hpc⟩⟩) (hnone thread hmem)
      | closing loopOver | clearing loopOver =>
          rw [hpc] at hnoEnd
          obtain rfl : loopOver = true := hnoEnd
          rfl
      | entered | ending | leaving | returned => rfl
    · by_cases hentered : ∃ thread ∈ s.threads, thread.pc = .entered
      · obtain ⟨first, hfirst, hpc⟩ := hentered
        obtain ⟨i, hi⟩ := List.getElem?_of_mem hfirst
        have halone : ∀ thread ∈ s.threads, thread.pc.active = true → thread = first := by
          intro thread hmem hactive
          obtain ⟨j, hj⟩ := List.getElem?_of_mem hmem
          obtain rfl := h.unique i j first thread hi hj (by rw [hpc]; rfl) hactive
          exact Option.some.inj (hj.symm.trans hi)
        refine .inl fun thread hmem => Bool.eq_false_iff.mpr fun hin => ?_
        obtain rfl := halone thread hmem (ChatPc.active_of_inLoop hin)
        rw [hpc] at hin
        cases hin
      · exact .inr ⟨Bool.eq_false_iff.mpr hgenerating, fun thread hmem hpc => hentered ⟨thread, hmem, hpc⟩⟩

/-- Such a thread comes to the head of its loop, and goes on there. -/
theorem GoesOn.speaks (hmem : thread ∈ s.threads) (hnoEnd : thread.pc.NoEnd) (h : s.GoesOn thread) :
    ∃ t, (system operator).Leads NotStarted s t ∧ t.Speaks := by
  obtain ⟨i, hi⟩ := List.getElem?_of_mem hmem
  have hstep : ∀ {t : ChatSystem}, s.chat operator i thread .endOfGeneration = some t →
      (system operator).step s (.thread i .endOfGeneration) = some t := by
    intro t ht
    show s.step operator (.thread i .endOfGeneration) = some t
    simp only [ChatSystem.step, hi]
    exact ht
  have hin : ∀ u : ChatSystem, u.threads = s.threads →
      ∃ other ∈ (u.goTo i thread .loop).threads, other.pc = .loop := by
    intro u hu
    refine ⟨_, List.mem_set ?_ { thread with pc := .loop }, rfl⟩
    rw [hu]
    exact (List.getElem?_eq_some_iff.mp hi).1
  rcases h with ⟨hpc, hquery⟩ | ⟨hgenerating, hpc | ⟨piece, hpc⟩⟩
  · refine ⟨_, .single (a := .thread i .endOfGeneration) (notStarted_thread s i _) (hstep ?_), rfl,
      hin { s with generating := true } rfl⟩
    have hempty : thread.query.isEmpty = false := List.isEmpty_eq_false_iff.mpr hquery
    unfold ChatSystem.chat
    simp only [hpc, hempty, Bool.false_eq_true, if_false]
  · exact ⟨s, .refl s, hgenerating, thread, hmem, hpc⟩
  · refine ⟨(s.callback operator piece).goTo i thread .loop,
      .single (a := .thread i .endOfGeneration) (notStarted_thread s i _) (hstep ?_), hgenerating,
      hin (s.callback operator piece) rfl⟩
    rw [hpc] at hnoEnd
    unfold ChatSystem.chat
    simp only [hpc]
    exact if_neg hnoEnd

/-- **The stop is lost** iff a thread has not begun yet, or is in its loop with the flag set: once the service
    has stopped, and until it is started again, some steps lead to a thread that goes on with its reply iff
    there is such a thread. -/
theorem reply_after_stop_iff (h : (system operator).ReachableVia NoEndPiece s)
    (hrunning : s.running = false) :
    (∃ t, (system operator).Leads NotStarted s t ∧ t.Speaks) ↔ ∃ thread ∈ s.threads, s.GoesOn thread := by
  constructor
  · rintro ⟨t, hleads, hspeaks⟩
    by_contra hnone
    have hover : Over s := (oneActive_reachable h).over hrunning
      fun thread hmem hgoesOn => hnone ⟨thread, hmem, hgoesOn⟩
    exact (hleads.invariant (I := Over) (fun u a v hu hok hst => hu.step hok hst) hover).not_speaks hspeaks
  · rintro ⟨thread, hmem, hgoesOn⟩
    obtain ⟨i, hi⟩ := List.getElem?_of_mem hmem
    exact hgoesOn.speaks hmem ((oneActive_reachable h).piece i thread hi)

/-- The mode is switched off before the thread of the query has begun. -/
def stoppedQuery : List ChatAction := [.start true, .query [72, 105], .stopGenerateResponse, .stop]

theorem stoppedQuery_noEndPiece : ∀ a ∈ stoppedQuery, ∀ s, NoEndPiece s a := by
  simp [stoppedQuery, NoEndPiece]

theorem reply_after_stop_query : ∃ s, (system noEmbeddings).ReachableVia NoEndPiece s ∧
    s.generating = false ∧ s.running = false ∧
    ∃ t, (system noEmbeddings).Leads NotStarted s t ∧ t.Speaks := by
  have hexec : ((system noEmbeddings).exec (constructed [] []) stoppedQuery).map
      (fun s => (s.generating, s.running, s.threads)) = some (false, false, [⟨[72, 105], .entered⟩]) := rfl
  obtain ⟨s, hs, hshown⟩ := System.exists_of_exec
    (.init ⟨[], [], rfl⟩ : (system noEmbeddings).ReachableVia NoEndPiece _) stoppedQuery_noEndPiece hexec
  obtain ⟨hgenerating, hshown⟩ := Prod.mk.inj hshown
  obtain ⟨hrunning, hthreads⟩ := Prod.mk.inj hshown
  refine ⟨s, hs, hgenerating, hrunning, (reply_after_stop_iff hs hrunning).mpr ?_⟩
  exact ⟨⟨[72, 105], .entered⟩, by rw [hthreads]; exact List.mem_singleton.mpr rfl, .inl ⟨rfl, nofun⟩⟩

end After

end ChatSystem

end Kufibot
