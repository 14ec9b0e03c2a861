import Kufibot.Services.ChatTurns

/-!
# `Services.ChatReplies` — replies that do not mix

`accumulated_text` of the callback is one variable for all threads, and has no lock. A thread that gets `<end>`
clears `_queryRunning` first, and publishes and clears the text after that. So the next query can be accepted,
and its thread can hand over pieces, while the text is still that of the reply before: then the two replies mix
(`replies_mix`).

As long as a thread works on the text only when every earlier one is through with it (`SpeaksInTurn`), the
replies come in one after the other, in the order of the queries and each closed by `<end>`, however the
threads are interleaved otherwise (`replies_do_not_mix`). This is what the properties of a single reply in
`Services.InteractiveChat` assume of the calls before it. A callback with a piece is one step here: the flag is
set while it runs, so no other thread but one that is still at its `<end>` works on the text then.
-/

namespace Kufibot

open Lib InteractiveChatService

/-! ## What the callback gets -/

/-- What a thread with these pieces has handed to the callback; `<end>` counts when the rest of the text has
    been published. -/
def ChatThread.heard (pieces : List Bytes) (thread : ChatThread) : List Bytes :=
  match thread.pc with
  | .entered => []
  | .loop | .ending | .closing true | .clearing false => pieces
  | .callback _ | .closing false => pieces.dropLast
  | .clearing true | .leaving => pieces ++ [endToken]
  | .returned => if thread.query.isEmpty then [] else pieces ++ [endToken]

/-- The next step of the thread works on `accumulated_text`. -/
def ChatPc.touchesText : ChatPc → Bool
  | .callback _ | .closing _ | .clearing _ => true
  | .entered | .loop | .ending | .leaving | .returned => false

/-- The thread has cleared the flag, and is not through with the text yet. -/
def ChatPc.finishing : ChatPc → Bool
  | .closing _ | .clearing _ => true
  | .entered | .loop | .callback _ | .ending | .leaving | .returned => false

/-- The thread has published the rest of the text, and clears it next. -/
def ChatPc.clears : ChatPc → Bool
  | .clearing _ => true
  | .entered | .loop | .callback _ | .ending | .closing _ | .leaving | .returned => false

theorem ChatPc.finishing_of_clears {pc : ChatPc} (h : pc.clears = true) : pc.finishing = true := by
  cases pc with
  | clearing _ => rfl
  | _ => cases h

namespace InteractiveChatService

variable {operator : EmbeddingOperator}

theorem receive_append (s : InteractiveChatService) (tokens tokens' : List Bytes) :
    s.receive operator (tokens ++ tokens') = (s.receive operator tokens).receive operator tokens' :=
  List.foldl_append

theorem receive_concat (s : InteractiveChatService) (tokens : List Bytes) (token : Bytes) :
    s.receive operator (tokens ++ [token]) = (s.receive operator tokens).queryResponseCallback operator token :=
  receive_append s tokens [token]

/-- What is published at `<end>` does not depend on the flag. -/
theorem publishRemaining_withFlag (s : InteractiveChatService) (running : Bool) :
    ({ s with queryRunning := running } : InteractiveChatService).publishRemaining operator =
      { s.publishRemaining operator with queryRunning := running } := by
  unfold publishRemaining
  dsimp only
  split
  · split <;> rfl
  · rfl

/-- The text that has been published is still there. -/
theorem publishRemaining_accumulatedText (s : InteractiveChatService) :
    (s.publishRemaining operator).accumulatedText = s.accumulatedText := by
  unfold publishRemaining
  dsimp only
  split
  · split <;> rfl
  · rfl

/-- The callback with `<end>`, in one step. -/
theorem queryResponseCallback_endToken (s : InteractiveChatService) :
    s.queryResponseCallback operator endToken =
      { s.publishRemaining operator with queryRunning := false, accumulatedText := [] } := by
  unfold queryResponseCallback
  rw [if_pos rfl]
  dsimp only
  rw [publishRemaining_withFlag]

variable (operator) in
/-- The gestures to choose from stay. -/
theorem receive_lists (s : InteractiveChatService) (tokens : List Bytes) :
    (s.receive operator tokens).emotionalList = s.emotionalList ∧
      (s.receive operator tokens).reactionalList = s.reactionalList := by
  induction tokens generalizing s with
  | nil => exact ⟨rfl, rfl⟩
  | cons token tokens ih =>
      have hcallback : (s.queryResponseCallback operator token).emotionalList = s.emotionalList ∧
          (s.queryResponseCallback operator token).reactionalList = s.reactionalList := by
        unfold queryResponseCallback publishRemaining
        dsimp only
        split
        · split
          · split <;> exact ⟨rfl, rfl⟩
          · exact ⟨rfl, rfl⟩
        · exact ⟨rfl, rfl⟩
      obtain ⟨hemotional, hreactional⟩ := ih (s.queryResponseCallback operator token)
      exact ⟨hemotional.trans hcallback.1, hreactional.trans hcallback.2⟩

/-! ### A service that lags behind -/

/-- The service is as `expected`, apart from the flag; and while a thread has published the rest of its text and
    not cleared it yet, apart from this text, which is gone in `expected`. -/
def Follows (expected s : InteractiveChatService) (clearing : Prop) : Prop :=
  ∃ running text, s = { expected with queryRunning := running, accumulatedText := text } ∧
    (¬ clearing → text = expected.accumulatedText) ∧ (clearing → expected.accumulatedText = [])

variable {expected s : InteractiveChatService} {clearing clearing' : Prop}

theorem Follows.withFlag (h : Follows expected s clearing) (running : Bool) (hiff : clearing' ↔ clearing) :
    Follows expected { s with queryRunning := running } clearing' := by
  obtain ⟨_, text, rfl, hkept, hgone⟩ := h
  exact ⟨running, text, rfl, fun hno => hkept (mt hiff.mpr hno), fun hyes => hgone (hiff.mp hyes)⟩

theorem Follows.eq (h : Follows expected s clearing) (hno : ¬ clearing) :
    ∃ running, s = { expected with queryRunning := running } := by
  obtain ⟨running, text, rfl, hkept, -⟩ := h
  exact ⟨running, by rw [hkept hno]⟩

/-- A piece. -/
theorem Follows.piece (h : Follows expected s clearing) (hno : ¬ clearing) (hno' : ¬ clearing') {text : Bytes}
    (htext : text ≠ endToken) :
    Follows (expected.queryResponseCallback operator text) (s.queryResponseCallback operator text) clearing' := by
  obtain ⟨running, rfl⟩ := h.eq hno
  refine ⟨running, _, ?_, fun _ => rfl, fun hyes => absurd hyes hno'⟩
  unfold queryResponseCallback
  rw [if_neg htext, if_neg htext]
  rfl

/-- The first half of `<end>`, behind the flag. -/
theorem Follows.publish (h : Follows expected s clearing) (hno : ¬ clearing) (hyes : clearing') :
    Follows (expected.queryResponseCallback operator endToken) (s.publishRemaining operator) clearing' := by
  obtain ⟨running, rfl⟩ := h.eq hno
  have hkept : (expected.publishRemaining operator).accumulatedText = expected.accumulatedText :=
    publishRemaining_accumulatedText expected
  refine ⟨running, expected.accumulatedText, ?_, fun hno' => absurd hyes hno', fun _ => ?_⟩
  · rw [publishRemaining_withFlag, queryResponseCallback_endToken, ← hkept]
  · rw [queryResponseCallback_endToken]

/-- The second half. -/
theorem Follows.clear (h : Follows expected s clearing) (hyes : clearing) :
    Follows expected { s with accumulatedText := [] } clearing' := by
  obtain ⟨running, text, rfl, -, hgone⟩ := h
  exact ⟨running, [], rfl, fun _ => (hgone hyes).symm, fun _ => hgone hyes⟩

end InteractiveChatService

namespace Conversation

def heardFrom (c : Conversation) (i : Nat) : List Bytes :=
  match c.chat.threads[i]? with
  | none => []
  | some thread => thread.heard (c.pieces i)

/-- The replies so far, one after the other in the order of the queries. -/
def heard (c : Conversation) : List Bytes :=
  (List.range c.chat.threads.length).flatMap c.heardFrom

/-- The model does not write `<end>` as a piece of its reply, and a thread works on the text only when every
    earlier one is through with it. -/
def SpeaksInTurn (c : Conversation) (a : ChatAction) : Prop :=
  c.chat.NoEndPiece a ∧ ∀ i sampled thread, a = .thread i sampled → c.chat.threads[i]? = some thread →
    thread.pc.touchesText = true → ∀ j < i, ∀ other, c.chat.threads[j]? = some other →
      other.pc.finishing = false

/-- A thread has published the rest of its text, and not cleared it yet. -/
def Clearing (c : Conversation) : Prop :=
  ∃ (i : Nat) (thread : ChatThread), c.chat.threads[i]? = some thread ∧ thread.pc.clears = true

variable {operator : EmbeddingOperator} {c d : Conversation} {i : Nat} {thread : ChatThread}
  {sampled : Sampled}

/-! ## Who may speak -/

/-- Only the last thread may call back with a piece; and behind a thread that is at its `<end>`, no other one
    has been heard. -/
structure Serial (c : Conversation) : Prop where
  last : ∀ {i : Nat} {thread : ChatThread}, c.chat.threads[i]? = some thread → thread.pc.active = true →
    i + 1 = c.chat.threads.length
  finishing : ∀ {i j : Nat} {thread : ChatThread}, c.chat.threads[i]? = some thread →
    thread.pc.finishing = true → i < j → c.heardFrom j = []
  asked : ∀ {i : Nat} {thread : ChatThread}, c.chat.threads[i]? = some thread → thread.pc ≠ .entered →
    thread.pc ≠ .returned → thread.query ≠ []
  fresh : ∀ {i : Nat}, (∀ thread, c.chat.threads[i]? = some thread → thread.pc = .entered) →
    c.pieces i = []
  pending : ∀ {i : Nat} {thread : ChatThread} {text : Bytes}, c.chat.threads[i]? = some thread →
    thread.pc = .callback text → ∃ front, c.pieces i = front ++ [text]

/-- There is no thread behind the last one. -/
theorem Serial.heardFrom_of_active (h : Serial c) (hthread : c.chat.threads[i]? = some thread)
    (hactive : thread.pc.active = true) {j : Nat} (hij : i < j) : c.heardFrom j = [] := by
  have hlast := h.last hthread hactive
  rw [heardFrom, List.getElem?_eq_none (by omega)]

variable (operator) in
/-- What a step does to the service, and which tokens it hands over. -/
inductive TextStep (s : InteractiveChatService) (pc pc' : ChatPc) :
    InteractiveChatService → List Bytes → Prop where
  | keep (running : Bool) (hpc : pc.clears = false) (hpc' : pc'.clears = false) :
      TextStep s pc pc' { s with queryRunning := running } []
  | piece {text : Bytes} (htext : text ≠ endToken) (hpc : pc = .callback text) (hpc' : pc' = .loop) :
      TextStep s pc pc' (s.queryResponseCallback operator text) [text]
  | publish (hpc : pc = .closing true) (hpc' : pc' = .clearing true) :
      TextStep s pc pc' (s.publishRemaining operator) [endToken]
  | clear (hpc : pc = .clearing true) : TextStep s pc pc' { s with accumulatedText := [] } []

variable (operator) in
/-- A step of thread `i` to `pc`, behind which it has the pieces `after`; it hands `tokens` to the
    callback. -/
structure Advance (c d : Conversation) (i : Nat) (thread : ChatThread) (pc : ChatPc)
    (after tokens : List Bytes) : Prop where
  threads : d.chat.threads = (c.chat.goTo i thread pc).threads
  pieces : d.pieces = Function.update c.pieces i after
  text : TextStep operator c.chat.service thread.pc pc d.chat.service tokens
  active : pc.active = true → thread.pc.active = true
  finishing : pc.finishing = true → thread.pc.active = true ∨ thread.pc.finishing = true
  entered : pc ≠ .entered
  asked : pc ≠ .returned → thread.query ≠ []
  pending : ∀ text, pc = .callback text → ∃ front, after = front ++ [text]
  heard : ({ thread with pc } : ChatThread).heard after = thread.heard (c.pieces i) ++ tokens

/-- Only what is sampled is written down. -/
theorem pieces_write (hsampled : thread.pc = .loop → c.chat.generating = true → sampled = .endOfGeneration) :
    (c.write i thread sampled).pieces = Function.update c.pieces i (c.pieces i) := by
  rw [Function.update_eq_self]
  unfold write
  cases hpc : thread.pc with
  | entered => simp only; split <;> rfl
  | loop =>
      cases sampled with
      | endOfGeneration => rfl
      | piece text =>
          have hstopped : c.chat.generating ≠ true := fun hgenerating =>
            Sampled.noConfusion (hsampled hpc hgenerating)
          simp only [if_neg hstopped]
  | _ => rfl

/-- **A step of a thread**: it hands over at most one token. -/
theorem advance_of_chats {chat : ChatSystem} (h : Serial c) (hthread : c.chat.threads[i]? = some thread)
    (hnoEnd : thread.pc.NoEnd) (hst : ChatSystem.Chats operator c.chat i thread sampled chat) :
    ∃ pc after tokens,
      Advance operator c { c.write i thread sampled with chat := chat } i thread pc after tokens := by
  have hkept : ∀ {pc : ChatPc}, thread.pc = pc → pc ≠ .loop →
      (c.write i thread sampled).pieces = Function.update c.pieces i (c.pieces i) := by
    rintro _ rfl hpc
    exact pieces_write fun hloop => absurd hloop hpc
  have hasked : ∀ {pc : ChatPc}, thread.pc = pc → pc ≠ .entered → pc ≠ .returned → thread.query ≠ [] := by
    rintro _ rfl
    exact h.asked hthread
  cases hst with
  | skip hpc hquery =>
      refine ⟨.returned, c.pieces i, [], rfl, hkept hpc nofun, .keep _ (by rw [hpc]; rfl) rfl, nofun, nofun,
        nofun, fun hne => absurd rfl hne, nofun, ?_⟩
      simp only [ChatThread.heard, hpc, hquery]
      rfl
  | ask hpc hquery =>
      have hfresh : c.pieces i = [] := h.fresh fun other hother => by
        cases hthread.symm.trans hother
        exact hpc
      refine ⟨.loop, c.pieces i, [], rfl, hkept hpc nofun, .keep _ (by rw [hpc]; rfl) rfl,
        fun _ => by rw [hpc]; rfl, nofun, nofun, fun _ => hquery, nofun, ?_⟩
      simp only [ChatThread.heard, hpc, hfresh]
      rfl
  | endOfGeneration hpc hgenerating =>
      refine ⟨.ending, c.pieces i, [], rfl, pieces_write fun _ _ => rfl, .keep _ (by rw [hpc]; rfl) rfl,
        fun _ => by rw [hpc]; rfl, nofun, nofun, fun _ => hasked hpc nofun nofun, nofun, ?_⟩
      simp only [ChatThread.heard, hpc, List.append_nil]
  | @piece text hpc hgenerating =>
      refine ⟨.callback text, c.pieces i ++ [text], [], rfl, ?_, .keep _ (by rw [hpc]; rfl) rfl,
        fun _ => by rw [hpc]; rfl, nofun, nofun, fun _ => hasked hpc nofun nofun, fun text' htext => ?_, ?_⟩
      · unfold write
        rw [hpc, hgenerating]
        rfl
      · cases htext
        exact ⟨_, rfl⟩
      · simp only [ChatThread.heard, hpc, List.append_nil, List.dropLast_concat]
  | stopped hpc hgenerating =>
      have hstopped : c.chat.generating ≠ true := by
        rw [hgenerating]
        exact Bool.false_ne_true
      refine ⟨.ending, c.pieces i, [], rfl, pieces_write fun _ hyes => absurd hyes hstopped,
        .keep _ (by rw [hpc]; rfl) rfl, fun _ => by rw [hpc]; rfl, nofun, nofun,
        fun _ => hasked hpc nofun nofun, nofun, ?_⟩
      simp only [ChatThread.heard, hpc, List.append_nil]
  | @callback _ text hpc htext =>
      obtain ⟨front, hfront⟩ := h.pending hthread hpc
      refine ⟨.loop, c.pieces i, [text], rfl, hkept hpc nofun, .piece htext hpc rfl, fun _ => by rw [hpc]; rfl,
        nofun, nofun, fun _ => hasked hpc nofun nofun, nofun, ?_⟩
      simp only [ChatThread.heard, hpc, hfront, List.dropLast_concat]
  | endPiece hpc =>
      rw [hpc] at hnoEnd
      exact absurd rfl hnoEnd
  | ending hpc =>
      refine ⟨.closing true, c.pieces i, [], rfl, hkept hpc nofun, .keep false (by rw [hpc]; rfl) rfl, nofun,
        fun _ => .inl (by rw [hpc]; rfl), nofun, fun _ => hasked hpc nofun nofun, nofun, ?_⟩
      simp only [ChatThread.heard, hpc, List.append_nil]
  | closing hpc =>
      rw [hpc] at hnoEnd
      obtain rfl : _ = true := hnoEnd
      refine ⟨.clearing true, c.pieces i, [endToken], rfl, hkept hpc nofun, .publish hpc rfl, nofun,
        fun _ => .inr (by rw [hpc]; rfl), nofun, fun _ => hasked hpc nofun nofun, nofun, ?_⟩
      simp only [ChatThread.heard, hpc]
  | clearing hpc =>
      rw [hpc] at hnoEnd
      obtain rfl : _ = true := hnoEnd
      refine ⟨.leaving, c.pieces i, [], rfl, hkept hpc nofun, .clear hpc, nofun, nofun, nofun,
        fun _ => hasked hpc nofun nofun, nofun, ?_⟩
      simp only [ChatThread.heard, hpc, List.append_nil]
  | leaving hpc =>
      have hempty : thread.query.isEmpty = false := List.isEmpty_eq_false_iff.mpr (hasked hpc nofun nofun)
      refine ⟨.returned, c.pieces i, [], rfl, hkept hpc nofun, .keep _ (by rw [hpc]; rfl) rfl, nofun, nofun,
        nofun, fun hne => absurd rfl hne, nofun, ?_⟩
      simp only [ChatThread.heard, hpc, hempty, List.append_nil]
      rfl

section Advance

variable {pc : ChatPc} {after tokens : List Bytes}

/-- A thread behind the step: the one that has stepped, or another one as it was. -/
theorem Advance.cases_thread (h : Advance operator c d i thread pc after tokens)
    (hthread : c.chat.threads[i]? = some thread) {j : Nat} {other : ChatThread}
    (hother : d.chat.threads[j]? = some other) :
    (i = j ∧ other = { thread with pc } ∧ d.pieces j = after) ∨
      (i ≠ j ∧ c.chat.threads[j]? = some other ∧ d.pieces j = c.pieces j) := by
  rw [h.threads] at hother
  rw [h.pieces]
  rcases ChatSystem.thread_goTo hthread hother with ⟨rfl, rfl⟩ | ⟨hij, hother⟩
  · exact .inl ⟨rfl, rfl, Function.update_self ..⟩
  · exact .inr ⟨hij, hother, Function.update_of_ne (Ne.symm hij) ..⟩

theorem Advance.length (h : Advance operator c d i thread pc after tokens) :
    d.chat.threads.length = c.chat.threads.length := by
  rw [h.threads]
  exact List.length_set

theorem Advance.heardFrom (h : Advance operator c d i thread pc after tokens)
    (hthread : c.chat.threads[i]? = some thread) (j : Nat) :
    d.heardFrom j = if i = j then c.heardFrom i ++ tokens else c.heardFrom j := by
  unfold Conversation.heardFrom
  rw [h.threads, h.pieces, ChatSystem.threads_goTo hthread]
  by_cases hij : i = j
  · subst hij
    simp only [if_true, Function.update_self, hthread]
    exact h.heard
  · simp only [if_neg hij, Function.update_of_ne (Ne.symm hij)]

/-- A token is handed over by a step that works on the text. -/
theorem TextStep.touchesText {s s' : InteractiveChatService} {pc pc' : ChatPc}
    (h : TextStep operator s pc pc' s' tokens) (htokens : tokens ≠ []) : pc.touchesText = true := by
  cases h with
  | keep | clear => exact absurd rfl htokens
  | piece _ hpc | publish hpc => rw [hpc]; rfl

/-- Earlier threads are through with the text when thread `i` works on it. -/
def OthersThrough (c : Conversation) (i : Nat) (thread : ChatThread) : Prop :=
  thread.pc.touchesText = true → ∀ j < i, ∀ other, c.chat.threads[j]? = some other →
    other.pc.finishing = false

theorem Serial.advance (hserial : Serial c) (hthread : c.chat.threads[i]? = some thread)
    (h : Advance operator c d i thread pc after tokens) (hthrough : c.OthersThrough i thread) : Serial d := by
  refine ⟨fun hother hactive => ?_, fun {i' j'} _ hother hfinishing hlt => ?_,
    fun hother hentered hreturned => ?_, fun {j} hentered => ?_, fun hother hpc => ?_⟩
  · rw [h.length]
    rcases h.cases_thread hthread hother with ⟨rfl, rfl, _⟩ | ⟨_, hother, _⟩
    · exact hserial.last hthread (h.active hactive)
    · exact hserial.last hother hactive
  · rw [h.heardFrom hthread]
    rcases h.cases_thread hthread hother with ⟨rfl, rfl, _⟩ | ⟨_, hother, _⟩
    · rw [if_neg hlt.ne]
      rcases h.finishing hfinishing with hactive | hfinishing
      · exact hserial.heardFrom_of_active hthread hactive hlt
      · exact hserial.finishing hthread hfinishing hlt
    · split
      · rename_i hij
        subst hij
        -- the thread that steps is the later one, so it has nothing to say
        have htokens : tokens = [] := by
          by_contra htokens
          have hearlier := hthrough (h.text.touchesText htokens) i' hlt _ hother
          rw [hfinishing] at hearlier
          cases hearlier
        rw [htokens, List.append_nil]
        exact hserial.finishing hother hfinishing hlt
      · exact hserial.finishing hother hfinishing hlt
  · rcases h.cases_thread hthread hother with ⟨_, rfl, _⟩ | ⟨_, hother, _⟩
    · exact h.asked hreturned
    · exact hserial.asked hother hentered hreturned
  · by_cases hij : i = j
    · subst hij
      have hself : d.chat.threads[i]? = some { thread with pc } := by
        rw [h.threads, ChatSystem.threads_goTo hthread, if_pos rfl]
      exact absurd (hentered _ hself) h.entered
    · rw [h.pieces, Function.update_of_ne (Ne.symm hij)]
      refine hserial.fresh fun other hother => hentered other ?_
      rw [h.threads, ChatSystem.threads_goTo hthread, if_neg hij]
      exact hother
  · rcases h.cases_thread hthread hother with ⟨_, rfl, hpieces⟩ | ⟨_, hother, hpieces⟩
    · rw [hpieces]
      exact h.pending _ hpc
    · rw [hpieces]
      exact hserial.pending hother hpc

/-- Behind a thread that hands over a token nobody has been heard. -/
theorem Advance.heardFrom_later (h : Advance operator c d i thread pc after tokens) (hserial : Serial c)
    (hthread : c.chat.threads[i]? = some thread) (htokens : tokens ≠ []) {j : Nat} (hij : i < j) :
    c.heardFrom j = [] := by
  have htext := h.text
  generalize d.chat.service = s' at htext
  cases htext with
  | keep | clear => exact absurd rfl htokens
  | piece _ hpc => exact hserial.heardFrom_of_active hthread (by rw [hpc]; rfl) hij
  | publish hpc => exact hserial.finishing hthread (by rw [hpc]; rfl) hij

/-- The replies up to thread `i` are all there are, if nobody behind it has been heard. -/
theorem heard_of_later (hi : i < c.chat.threads.length) (hlater : ∀ j, i < j → c.heardFrom j = []) :
    c.heard = (List.range i).flatMap c.heardFrom ++ c.heardFrom i := by
  obtain ⟨k, hk⟩ := Nat.exists_eq_add_of_le (Nat.succ_le_of_lt hi)
  have hrest : ((List.range k).map (i.succ + ·)).flatMap c.heardFrom = [] := by
    rw [List.flatMap_map, List.flatMap_eq_nil_iff]
    exact fun j _ => hlater _ (by omega)
  rw [heard, hk, List.range_add, List.flatMap_append, hrest, List.append_nil, List.range_succ,
    List.flatMap_append, List.flatMap_singleton]

/-- **The tokens come at the end** of all replies so far. -/
theorem Advance.heard_eq (h : Advance operator c d i thread pc after tokens) (hserial : Serial c)
    (hthread : c.chat.threads[i]? = some thread) : d.heard = c.heard ++ tokens := by
  by_cases htokens : tokens = []
  · unfold Conversation.heard
    rw [h.length, htokens, List.append_nil]
    refine congrArg (fun f => (List.range c.chat.threads.length).flatMap f) (funext fun j => ?_)
    rw [h.heardFrom hthread, htokens, List.append_nil]
    split
    · rename_i hij
      rw [hij]
    · rfl
  · have hi := (List.getElem?_eq_some_iff.mp hthread).1
    have hlater : ∀ j, i < j → c.heardFrom j = [] := fun j => h.heardFrom_later hserial hthread htokens
    have hlater' : ∀ j, i < j → d.heardFrom j = [] := fun j hij => by
      rw [h.heardFrom hthread, if_neg hij.ne, hlater j hij]
    have hearlier : (List.range i).flatMap d.heardFrom = (List.range i).flatMap c.heardFrom := by
      refine List.flatMap_congr fun j hj => ?_
      rw [h.heardFrom hthread, if_neg (List.mem_range.mp hj).ne']
    rw [heard_of_later hi hlater, heard_of_later (h.length ▸ hi) hlater', hearlier, h.heardFrom hthread,
      if_pos rfl, List.append_assoc]

end Advance

/-! ## Whose text it is -/

section Clearing

variable {pc : ChatPc} {after tokens : List Bytes}

theorem Advance.clearing_iff (h : Advance operator c d i thread pc after tokens)
    (hthread : c.chat.threads[i]? = some thread) (hpc : pc.clears = thread.pc.clears) :
    d.Clearing ↔ c.Clearing := by
  have hsame : ∀ j : Nat, (d.chat.threads[j]?).map (fun other => other.pc.clears) =
      (c.chat.threads[j]?).map (fun other => other.pc.clears) := by
    intro j
    rw [h.threads, ChatSystem.threads_goTo hthread]
    split
    · rename_i hij
      subst hij
      rw [hthread]
      exact congrArg some hpc
    · rfl
  have hiff : ∀ e : Conversation, e.Clearing ↔
      ∃ j : Nat, (e.chat.threads[j]?).map (fun other => other.pc.clears) = some true := fun e => by
    simp only [Clearing, Option.map_eq_some_iff]
  rw [hiff, hiff]
  exact exists_congr fun j => by rw [hsame]

/-- Nobody has a text to clear when a thread hands over a token. -/
theorem not_clearing_of_later (hnoEnd : ∀ (j : Nat) (other : ChatThread), c.chat.threads[j]? = some other →
    other.pc.NoEnd) (hthread : c.chat.threads[i]? = some thread) (hthrough : c.OthersThrough i thread)
    (hclears : thread.pc.clears = false) (htouches : thread.pc.touchesText = true)
    (hlater : ∀ j, i < j → c.heardFrom j = []) : ¬ c.Clearing := by
  rintro ⟨j, other, hother, hclearing⟩
  rcases Nat.lt_trichotomy j i with hji | rfl | hij
  · have hfinishing := hthrough htouches j hji other hother
    rw [ChatPc.finishing_of_clears hclearing] at hfinishing
    cases hfinishing
  · cases hthread.symm.trans hother
    rw [hclears] at hclearing
    cases hclearing
  · -- a later thread that has published its `<end>` has been heard
    have hheard := hlater j hij
    rw [heardFrom, hother] at hheard
    have hother_noEnd := hnoEnd j other hother
    cases hpc : other.pc with
    | clearing loopOver =>
        rw [hpc] at hother_noEnd
        obtain rfl : loopOver = true := hother_noEnd
        simp [ChatThread.heard, hpc] at hheard
    | _ =>
        rw [hpc] at hclearing
        cases hclearing

end Clearing

/-! ## The query -/

theorem threads_query (s : ChatSystem) (text : Bytes) :
    (s.llmQuery text).threads = s.threads ∨
      (s.Accepts ∧ (s.llmQuery text).threads = s.threads ++ [{ query := text }]) := by
  unfold ChatSystem.llmQuery
  split
  · exact .inl rfl
  · rename_i hquery
    split
    · exact .inl rfl
    · rename_i hrunning
      exact .inr ⟨⟨Bool.eq_false_iff.mpr hquery, by simpa using hrunning⟩, rfl⟩

/-- What another thread has been heard does not change when a query is accepted, and the new one is silent. -/
theorem heardFrom_query (text : Bytes) (j : Nat) :
    ({ c with chat := c.chat.llmQuery text } : Conversation).heardFrom j = c.heardFrom j := by
  rcases threads_query c.chat text with hsame | ⟨_, happended⟩
  · unfold heardFrom
    rw [hsame]
  · unfold heardFrom
    rw [happended]
    by_cases hj : j < c.chat.threads.length
    · rw [List.getElem?_append_left hj]
    · rw [List.getElem?_append_right (Nat.le_of_not_lt hj), List.getElem?_eq_none (Nat.le_of_not_lt hj)]
      cases j - c.chat.threads.length <;> rfl

/-- A thread that an accepted query starts is at its beginning. -/
theorem clearing_query (text : Bytes) :
    ({ c with chat := c.chat.llmQuery text } : Conversation).Clearing ↔ c.Clearing := by
  constructor
  · rintro ⟨j, other, hother, hclears⟩
    rcases ChatSystem.thread_query hother with hother | ⟨_, _, rfl⟩
    · exact ⟨j, other, hother, hclears⟩
    · cases hclears
  · rintro ⟨j, other, hother, hclears⟩
    refine ⟨j, other, ?_, hclears⟩
    rcases threads_query c.chat text with hsame | ⟨_, happended⟩
    · exact hsame ▸ hother
    · exact happended ▸ (List.getElem?_append_left (List.getElem?_eq_some_iff.mp hother).1).trans hother

/-- **A query is accepted** behind the last thread, which is not active any more. -/
theorem Serial.query (h : Serial c) (hone : ChatSystem.OneActive c.chat) (text : Bytes) :
    Serial { c with chat := c.chat.llmQuery text } := by
  have hquery : ∀ {j : Nat} {other : ChatThread}, (c.chat.llmQuery text).threads[j]? = some other →
      c.chat.threads[j]? = some other ∨
        (c.chat.Accepts ∧ j = c.chat.threads.length ∧ other = { query := text }) := ChatSystem.thread_query
  have hlength : (c.chat.llmQuery text).threads.length = c.chat.threads.length ∨
      c.chat.Accepts ∧ (c.chat.llmQuery text).threads.length = c.chat.threads.length + 1 := by
    rcases threads_query c.chat text with hsame | ⟨haccepts, happended⟩
    · exact .inl (by rw [hsame])
    · exact .inr ⟨haccepts, by rw [happended, List.length_append]; rfl⟩
  refine ⟨fun hother ha => ?_, fun hother hfinishing hij => ?_, fun hother hentered hreturned => ?_,
    fun hentered => ?_, fun hother hpc => ?_⟩
  · rcases hquery hother with hother | ⟨haccepts, rfl, _⟩
    · rcases hlength with hsame | ⟨haccepts, _⟩
      · exact (h.last hother ha).trans hsame.symm
      · -- the flag is set while a thread is active
        have hflag := hone.flag _ _ hother ha
        rw [haccepts.1] at hflag
        cases hflag
    · rcases hlength with hsame | ⟨_, hnew⟩
      · have hlt := (List.getElem?_eq_some_iff.mp hother).1
        exact absurd (hsame ▸ hlt) (Nat.lt_irrefl _)
      · exact hnew.symm
  · rw [heardFrom_query]
    rcases hquery hother with hother | ⟨_, _, rfl⟩
    · exact h.finishing hother hfinishing hij
    · cases hfinishing
  · rcases hquery hother with hother | ⟨_, _, rfl⟩
    · exact h.asked hother hentered hreturned
    · exact absurd rfl hentered
  · refine h.fresh fun other hother => hentered other ?_
    rcases threads_query c.chat text with hsame | ⟨_, happended⟩
    · exact hsame ▸ hother
    · exact happended ▸ (List.getElem?_append_left (List.getElem?_eq_some_iff.mp hother).1).trans hother
  · rcases hquery hother with hother | ⟨_, _, rfl⟩
    · exact h.pending hother hpc
    · cases hpc

/-- The new thread has not said anything. -/
theorem heard_query (text : Bytes) : ({ c with chat := c.chat.llmQuery text } : Conversation).heard =
    c.heard := by
  have hfrom : ({ c with chat := c.chat.llmQuery text } : Conversation).heardFrom = c.heardFrom :=
    funext (heardFrom_query text)
  unfold heard
  rw [hfrom]
  rcases threads_query c.chat text with hsame | ⟨_, happended⟩
  · rw [hsame]
  · have hnew : c.heardFrom c.chat.threads.length = [] := by
      rw [heardFrom, List.getElem?_eq_none (Nat.le_refl _)]
    rw [happended, List.length_append, List.length_singleton, List.range_succ, List.flatMap_append,
      List.flatMap_singleton, hnew, List.append_nil]

theorem service_query (s : ChatSystem) (text : Bytes) : ∃ running,
    (s.llmQuery text).service = { s.service with queryRunning := running } := by
  unfold ChatSystem.llmQuery
  split
  · exact ⟨_, rfl⟩
  · split
    · exact ⟨_, rfl⟩
    · exact ⟨true, rfl⟩

/-! ## Runs -/

variable (operator) in
/-- The service follows one that gets the replies one after the other. -/
structure Served (c : Conversation) : Prop where
  one : ChatSystem.OneActive c.chat
  serial : Serial c
  service : ∃ emotionalList reactionalList, Follows
    ((InteractiveChatService.constructed emotionalList reactionalList).receive operator c.heard)
    c.chat.service c.Clearing

/-- **A step of a thread**: whatever token it hands over, the service gets at the end of all others. -/
theorem Served.advance (h : Served operator c) {pc : ChatPc} {after tokens : List Bytes}
    (hthread : c.chat.threads[i]? = some thread) (hadvance : Advance operator c d i thread pc after tokens)
    (hthrough : c.OthersThrough i thread) (hone : ChatSystem.OneActive d.chat) : Served operator d := by
  obtain ⟨emotionalList, reactionalList, hfollows⟩ := h.service
  refine ⟨hone, h.serial.advance hthread hadvance hthrough, emotionalList, reactionalList, ?_⟩
  rw [hadvance.heard_eq h.serial hthread]
  have hlater : tokens ≠ [] → ∀ j, i < j → c.heardFrom j = [] :=
    fun htokens j => hadvance.heardFrom_later h.serial hthread htokens
  have hiff := hadvance.clearing_iff hthread
  have hclearing : pc.clears = true → d.Clearing := fun hclears =>
    ⟨i, { thread with pc }, by rw [hadvance.threads, ChatSystem.threads_goTo hthread, if_pos rfl], hclears⟩
  have htext := hadvance.text
  generalize d.chat.service = service at htext
  cases htext with
  | keep running hpc hpc' =>
      rw [List.append_nil]
      exact hfollows.withFlag running (hiff (hpc'.trans hpc.symm))
  | piece htext hpc hpc' =>
      have hno : ¬ c.Clearing := not_clearing_of_later h.one.piece hthread hthrough (by rw [hpc]; rfl)
        (by rw [hpc]; rfl) (hlater (List.cons_ne_nil _ _))
      have hno' : ¬ d.Clearing := mt (hiff (by rw [hpc, hpc']; rfl)).mp hno
      rw [receive_concat]
      exact hfollows.piece hno hno' htext
  | publish hpc hpc' =>
      have hno : ¬ c.Clearing := not_clearing_of_later h.one.piece hthread hthrough (by rw [hpc]; rfl)
        (by rw [hpc]; rfl) (hlater (List.cons_ne_nil _ _))
      rw [receive_concat]
      exact hfollows.publish hno (hclearing (by rw [hpc']; rfl))
  | clear hpc =>
      rw [List.append_nil]
      exact hfollows.clear ⟨i, thread, hthread, by rw [hpc]; rfl⟩

/-- A step of the chat that no thread takes part in. -/
theorem Served.frame (h : Served operator c) {chat : ChatSystem} (hthreads : chat.threads = c.chat.threads)
    (hservice : chat.service = c.chat.service) : Served operator { c with chat := chat } := by
  obtain ⟨service, running, generating, threads⟩ := chat
  cases hthreads
  cases hservice
  exact ⟨⟨h.one.unique, h.one.flag, h.one.piece⟩,
    ⟨h.serial.last, h.serial.finishing, h.serial.asked, h.serial.fresh, h.serial.pending⟩, h.service⟩

theorem Served.query (h : Served operator c) (text : Bytes) :
    Served operator { c with chat := c.chat.llmQuery text } := by
  obtain ⟨emotionalList, reactionalList, hfollows⟩ := h.service
  refine ⟨h.one.query text, h.serial.query h.one text, emotionalList, reactionalList, ?_⟩
  obtain ⟨running, hquery⟩ := service_query c.chat text
  rw [heard_query text]
  exact hquery ▸ hfollows.withFlag running (clearing_query text)

theorem Served.step {a : ChatAction} (h : Served operator c) (hok : c.SpeaksInTurn a)
    (hst : c.step operator a = some d) : Served operator d := by
  obtain ⟨hchat, hthread | ⟨hother, hd⟩⟩ := chat_of_step hst
  · obtain ⟨i, sampled, thread, rfl, hthread, hchats, hd⟩ := hthread
    obtain ⟨pc, after, tokens, hadvance⟩ :=
      advance_of_chats h.serial hthread (h.one.piece i thread hthread) hchats
    rw [← hd] at hadvance
    exact h.advance hthread hadvance (hok.2 i sampled thread rfl hthread) (h.one.step hok.1 hchat)
  · rw [hd]
    generalize d.chat = chat at hchat
    cases a with
    | thread i sampled => exact absurd rfl (hother i sampled)
    | start started => cases hchat; exact h.frame rfl rfl
    | stopGenerateResponse => cases hchat; exact h.frame rfl rfl
    | stop => cases hchat; exact h.frame rfl rfl
    | query text => cases hchat; exact h.query text

theorem served (h : (system operator).ReachableVia SpeaksInTurn c) : Served operator c := by
  refine h.invariant (I := Served operator) ?_ fun u a v hu hok hst => hu.step hok hst
  rintro _ ⟨emotionalList, reactionalList, systemMessage, rfl⟩
  refine ⟨⟨nofun, nofun, nofun⟩, ⟨nofun, nofun, nofun, fun _ => rfl, nofun⟩, emotionalList, reactionalList,
    false, [], rfl, fun _ => rfl, fun _ => rfl⟩

/-- The service that gets the replies one after the other. -/
def alone (operator : EmbeddingOperator) (c : Conversation) : InteractiveChatService :=
  (InteractiveChatService.constructed c.chat.service.emotionalList c.chat.service.reactionalList).receive
    operator c.heard

/-- **Replies do not mix**, as long as the model does not write `<end>` itself, and a thread works on the text
    only when every earlier one is through with it: the published messages are those of a service that gets the
    replies one after the other, in the order of the queries, each with its pieces in their order, and closed
    by `<end>` once it is over. So is the text that is kept, unless a thread is about to clear it. -/
theorem replies_do_not_mix (h : (system operator).ReachableVia SpeaksInTurn c) :
    c.chat.service.published = (c.alone operator).published ∧
      (¬ c.Clearing → c.chat.service.accumulatedText = (c.alone operator).accumulatedText) := by
  obtain ⟨emotionalList, reactionalList, running, text, hservice, hkept, -⟩ := (served h).service
  have halone : c.alone operator =
      (InteractiveChatService.constructed emotionalList reactionalList).receive operator c.heard := by
    obtain ⟨hemotional, hreactional⟩ :=
      receive_lists operator (InteractiveChatService.constructed emotionalList reactionalList) c.heard
    unfold alone
    rw [hservice]
    dsimp only
    rw [hemotional, hreactional]
    rfl
  rw [halone, hservice]
  exact ⟨rfl, hkept⟩

/-- A test for the condition. -/
def speaksInTurn (c : Conversation) : ChatAction → Bool
  | .thread i sampled =>
      (match sampled with
        | .piece text => text ≠ endToken
        | .endOfGeneration => true) &&
      (!(c.chat.threads[i]?).any (fun thread => thread.pc.touchesText) ||
        (c.chat.threads.take i).all fun other => !other.pc.finishing)
  | _ => true

theorem speaksInTurn_of_test (c : Conversation) (a : ChatAction) (h : c.speaksInTurn a = true) :
    c.SpeaksInTurn a := by
  cases a with
  | thread i sampled =>
      obtain ⟨hpiece, hthrough⟩ := Bool.and_eq_true_iff.mp h
      constructor
      · cases sampled with
        | endOfGeneration => trivial
        | piece text => exact (of_decide_eq_true hpiece : text ≠ endToken)
      · intro i' sampled' thread ha hthread htouches j hj other hother
        cases ha
        rw [hthread, Option.any_some, htouches, Bool.not_true, Bool.false_or, List.all_eq_true] at hthrough
        have hmem : other ∈ c.chat.threads.take i :=
          List.mem_of_getElem? ((List.getElem?_take_of_lt hj).trans hother)
        simpa using hthrough other hmem
  | start _ | stopGenerateResponse | stop | query _ => exact ⟨trivial, nofun⟩

/-- The second query is accepted, and its thread begins, while the first thread is still at its `<end>`; the
    second thread hands over a piece when the first one is through with it. -/
def secondReply : List ChatAction :=
  [.start true, .query [72, 105], .thread 0 .endOfGeneration, .thread 0 .endOfGeneration,
    .thread 0 .endOfGeneration, .query [89, 111], .thread 1 .endOfGeneration, .thread 1 (.piece [72, 105]),
    .thread 0 .endOfGeneration, .thread 0 .endOfGeneration, .thread 1 .endOfGeneration]

theorem replies_do_not_mix_second : ∃ c, (system noEmbeddings).ReachableVia SpeaksInTurn c ∧
    c.heard = [endToken, [72, 105]] ∧ c.chat.service.published = (c.alone noEmbeddings).published ∧
      (¬ c.Clearing → c.chat.service.accumulatedText = (c.alone noEmbeddings).accumulatedText) := by
  have hexec : (((system noEmbeddings).guard speaksInTurn).exec (constructed [] [] []) secondReply).map heard =
      some [endToken, [72, 105]] := rfl
  obtain ⟨c, hc, hheard⟩ := System.exists_of_exec_guard speaksInTurn_of_test
    (.init ⟨[], [], [], rfl⟩ : (system noEmbeddings).ReachableVia SpeaksInTurn _) hexec
  exact ⟨c, hc, hheard, replies_do_not_mix hc⟩

/-- "Merhaba" and " Selam": no sentence ends in them. -/
def merhaba : Bytes := [77, 101, 114, 104, 97, 98, 97]

def selam : Bytes := [32, 83, 101, 108, 97, 109]

/-- A piece of the second reply comes before the rest of the first one is published. -/
def mixedReplies : List ChatAction :=
  [.start true, .query [72, 105], .thread 0 .endOfGeneration, .thread 0 (.piece merhaba),
    .thread 0 .endOfGeneration, .thread 0 .endOfGeneration, .thread 0 .endOfGeneration, .query [89, 111],
    .thread 1 .endOfGeneration, .thread 1 (.piece selam), .thread 1 .endOfGeneration,
    .thread 0 .endOfGeneration]

/-- A piece in which no sentence ends is kept. -/
theorem callback_keeps {s : InteractiveChatService} {text : Bytes} (htext : text ≠ endToken)
    (h : nextSentence (s.accumulatedText ++ text) = none) :
    s.queryResponseCallback operator text = { s with accumulatedText := s.accumulatedText ++ text } := by
  unfold queryResponseCallback
  rw [if_neg htext, scanLoop_of_none h]
  simp [publishAll]

/-- **Out of turn they mix**: "Merhaba Selam" is published as the end of the first reply. -/
theorem replies_mix : ∃ c, (system noEmbeddings).ReachableVia (fun c a => c.chat.NoEndPiece a) c ∧
    c.heard = [merhaba, endToken, selam] ∧
    c.chat.service.published.map (fun r => (r.sentence, r.endMarker)) = [(merhaba ++ selam, true)] := by
  let asked : InteractiveChatService := { InteractiveChatService.constructed [] [] with queryRunning := true }
  have hexec : ((system noEmbeddings).exec (constructed [] [] []) mixedReplies).map
      (fun c => (c.heard, c.chat.service)) = some ([merhaba, endToken, selam],
        ((asked.queryResponseCallback noEmbeddings merhaba).queryResponseCallback noEmbeddings
          selam).publishRemaining noEmbeddings) := rfl
  have hnoEnd : ∀ a ∈ mixedReplies, ∀ c : Conversation, c.chat.NoEndPiece a := by
    simp [mixedReplies, ChatSystem.NoEndPiece, endToken, merhaba, selam]
  obtain ⟨c, hc, hshown⟩ := System.exists_of_exec
    (.init ⟨[], [], [], rfl⟩ : (system noEmbeddings).ReachableVia (fun c a => c.chat.NoEndPiece a) _) hnoEnd hexec
  obtain ⟨hheard, hservice⟩ := Prod.mk.inj hshown
  refine ⟨c, hc, hheard, ?_⟩
  rw [hservice, callback_keeps (s := asked) (by decide) rfl, callback_keeps (by decide) rfl]
  rfl

end Conversation

end Kufibot
