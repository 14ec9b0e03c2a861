import Mathlib.Algebra.Order.Ring.Rat
import Mathlib.Tactic.NormNum
import Kufibot.Lib.Text
import Kufibot.Messages.Gestures

/-!
# `Services.InteractiveChat` — a streamed reply, sentence by sentence

The language model calls back with pieces of its reply, cut at any byte, and with `<end>`.
`query_response_callback` collects them and publishes every sentence as soon as it is complete: a run of
`.`, `!` or `?` with a space behind it, or at the end of what has come so far. What is shorter than four
bytes holds the rest back, and waits for more text.

The pieces between two ends are conserved (`streamed_reply_conserved`). At the end, what is left over is
published with the end marker if it is long enough, and a marker without text if there is nothing left; for
what is shorter there is neither (`end_marker_iff`).
-/

namespace Kufibot

open Lib Lib.Text

/-- `std::string`. -/
abbrev Bytes := List UInt8

/-- `.`, `!` and `?`. -/
def isMark (b : UInt8) : Bool := b == 46 || b == 33 || b == 63

/-- What `\\s` matches. -/
def isSpace (b : UInt8) : Bool := b == 32 || b == 9 || b == 10 || b == 11 || b == 12 || b == 13

/-- What `trim` cuts off. -/
def isBlank (b : UInt8) : Bool := b == 32 || b == 9 || b == 10 || b == 13

theorem isSpace_of_isBlank (b : UInt8) (h : isBlank b = true) : isSpace b = true := by
  simp only [isBlank, Bool.or_eq_true, beq_iff_eq] at h
  rcases h with ((rfl | rfl) | rfl) | rfl <;> rfl

theorem isSpace_of_isMark (b : UInt8) (h : isMark b = true) : isSpace b = false := by
  simp only [isMark, Bool.or_eq_true, beq_iff_eq] at h
  rcases h with (rfl | rfl) | rfl <;> rfl

/-- No mark is trimmed. -/
theorem isBlank_of_isMark {b : UInt8} (h : isMark b = true) : isBlank b = false := by
  simp only [isMark, Bool.or_eq_true, beq_iff_eq] at h
  rcases h with (rfl | rfl) | rfl <;> rfl

/-- `<end>`. -/
def endToken : Bytes := [60, 101, 110, 100, 62]

/-- The embedding model. -/
structure EmbeddingOperator where
  calculateEmbeddings : Bytes → List ℚ
  getSimilarity : List ℚ → List ℚ → ℚ

/-- `LLMResponseData` as the chat builds it; a gesture of `none` is left as it was constructed. -/
structure ChatResponse where
  sentence : Bytes
  endMarker : Bool
  emotionalGesture : Option EmotionalGesture := none
  emotionSimilarity : ℚ := 0
  reactionalGesture : Option ReactionalGesture := none
  reactionSimilarity : ℚ := 0
deriving DecidableEq

structure InteractiveChatService where
  emotionalList : List EmotionalGesture
  reactionalList : List ReactionalGesture
  queryRunning : Bool := false
  /-- The `static` variable of the callback. -/
  accumulatedText : Bytes := []
  published : List ChatResponse := []

/-! ## The best match -/

/-- The loop of the `find_sentence_` functions: the first entry of the greatest similarity over one half. -/
def bestMatch {α : Type} (similarity : α → ℚ) (list : List α) : Option α × ℚ :=
  list.foldl
    (fun best entry =>
      if similarity entry > best.2 ∧ similarity entry > 1 / 2 then (some entry, similarity entry)
      else best)
    (none, 0)

section Callback

variable (operator : EmbeddingOperator)

namespace InteractiveChatService

def findSentenceEmotion (s : InteractiveChatService) (sentence : Bytes) : Option EmotionalGesture × ℚ :=
  let embeddings := operator.calculateEmbeddings sentence
  bestMatch (fun emotion => operator.getSimilarity embeddings emotion.embedding) s.emotionalList

def findSentenceReaction (s : InteractiveChatService) (sentence : Bytes) :
    Option ReactionalGesture × ℚ :=
  let embeddings := operator.calculateEmbeddings sentence
  bestMatch (fun reaction => operator.getSimilarity embeddings reaction.embedding) s.reactionalList

/-- The message for a sentence. -/
def response (s : InteractiveChatService) (sentence : Bytes) (endMarker : Bool) : ChatResponse :=
  let emotion := s.findSentenceEmotion operator sentence
  let reaction := s.findSentenceReaction operator sentence
  { sentence, endMarker
    emotionalGesture := emotion.1
    emotionSimilarity := emotion.2
    reactionalGesture := reaction.1
    reactionSimilarity := reaction.2 }

end InteractiveChatService

/-! ## The callback -/

/-- One round of the loop: the sentence to publish, and the remaining text; `none` leaves the loop. -/
def nextSentence (remainingText : Bytes) : Option (Bytes × Bytes) :=
  match searchRun isMark isSpace remainingText with
  | none => none
  | some m =>
      let sentenceEndPos := m.position + m.run
      let trimmedSentence := trim isBlank (remainingText.take sentenceEndPos)
      if 4 ≤ trimmedSentence.length then
        let remainingText := remainingText.drop sentenceEndPos
        some (trimmedSentence,
          if 0 < m.spaces then remainingText.drop (m.spaces - 1) else remainingText)
      else none

/-- What a match cuts a text into; of its spaces all but the last are dropped. -/
theorem cut_match (before run spaces after : Bytes) :
    let text := before ++ (run ++ spaces ++ after)
    let rest := text.drop (before.length + run.length)
    text.take (before.length + run.length) = before ++ run ∧
      (if 0 < spaces.length then rest.drop (spaces.length - 1) else rest) =
        spaces.drop (spaces.length - 1) ++ after := by
  intro text rest
  have htext : text = before ++ run ++ (spaces ++ after) := by
    show before ++ (run ++ spaces ++ after) = _
    rw [List.append_assoc run, List.append_assoc before]
  have hrest : rest = spaces ++ after := by
    show text.drop (before.length + run.length) = _
    rw [htext, ← List.length_append, List.drop_left]
  refine ⟨?_, ?_⟩
  · rw [htext, ← List.length_append, List.take_left]
  · rw [hrest]
    split
    · exact List.drop_append_of_le_length (Nat.sub_le _ _)
    · rename_i hempty
      rw [List.length_eq_zero_iff.mp (Nat.eq_zero_of_not_pos hempty)]
      rfl

/-- **A round** cuts a sentence off, with all that is visible of it, and leaves a shorter text. -/
theorem nextSentence_spec {text sentence rest : Bytes} (h : nextSentence text = some (sentence, rest)) :
    visible isSpace text = visible isSpace sentence ++ visible isSpace rest ∧
      trim isBlank sentence = sentence ∧ 4 ≤ sentence.length ∧ rest.length < text.length := by
  unfold nextSentence at h
  cases hsearch : searchRun isMark isSpace text with
  | none => rw [hsearch] at h; cases h
  | some m =>
      rw [hsearch] at h
      simp only [Option.ite_none_right_eq_some] at h
      obtain ⟨hlength, h⟩ := h
      obtain ⟨rfl, rfl⟩ := Prod.mk.inj (Option.some.inj h)
      obtain ⟨before, run, spaces, after, rfl, hmatch, rfl⟩ := searchRun_spec hsearch
      obtain ⟨htake, hspaces⟩ := cut_match before run spaces after
      have hinvisible : visible isSpace spaces = [] := visible_eq_nil hmatch.blanks
      have hinvisible' : visible isSpace (spaces.drop (spaces.length - 1)) = [] :=
        visible_eq_nil fun c hc => hmatch.blanks c (List.mem_of_mem_drop hc)
      rw [htake] at hlength
      simp only
      rw [htake, hspaces]
      refine ⟨?_, trim_trim _ _, hlength, ?_⟩
      · rw [visible_trim isSpace_of_isBlank, visible_append, visible_append, visible_append,
          visible_append, visible_append, hinvisible, hinvisible', List.append_nil, List.nil_append,
          List.append_assoc]
      · have hrun := List.length_pos_iff.mpr hmatch.run_ne_nil
        simp only [List.length_append, List.length_drop]
        omega

/-- The loop: the sentences it publishes, and the text that remains. -/
def scanLoop (remainingText : Bytes) : List Bytes × Bytes :=
  match h : nextSentence remainingText with
  | none => ([], remainingText)
  | some (sentence, rest) =>
      have := (nextSentence_spec h).2.2.2
      let scanned := scanLoop rest
      (sentence :: scanned.1, scanned.2)
termination_by remainingText.length

namespace InteractiveChatService

def publishAll (s : InteractiveChatService) (responses : List ChatResponse) : InteractiveChatService :=
  { s with published := s.published ++ responses }

/-- "Process any remaining text before clearing": what `query_response_callback` publishes at `<end>`. -/
def publishRemaining (s : InteractiveChatService) : InteractiveChatService :=
  if !s.accumulatedText.isEmpty then
    let trimmedSentence := trim isBlank s.accumulatedText
    if 4 ≤ trimmedSentence.length then
      s.publishAll [s.response operator trimmedSentence true]
    else s
  else s.publishAll [{ sentence := [], endMarker := true }]

/-- `query_response_callback`. -/
def queryResponseCallback (s : InteractiveChatService) (response : Bytes) : InteractiveChatService :=
  if response = endToken then
    let s := { s with queryRunning := false }
    let s := s.publishRemaining operator
    { s with accumulatedText := [] }
  else
    let scanned := scanLoop (s.accumulatedText ++ response)
    let s := s.publishAll (scanned.1.map fun sentence => s.response operator sentence false)
    { s with accumulatedText := scanned.2 }

/-- The calls of the callback, one for each piece. -/
def receive (s : InteractiveChatService) (responses : List Bytes) : InteractiveChatService :=
  responses.foldl (queryResponseCallback operator) s

end InteractiveChatService

/-! ## Nothing is lost -/

theorem scanLoop_of_none {text : Bytes} (h : nextSentence text = none) : scanLoop text = ([], text) := by
  rw [scanLoop]
  split
  · rfl
  · rename_i heq
    rw [h] at heq
    cases heq

theorem scanLoop_of_some {text sentence rest : Bytes} (h : nextSentence text = some (sentence, rest)) :
    scanLoop text = (sentence :: (scanLoop rest).1, (scanLoop rest).2) := by
  rw [scanLoop]
  split
  · rename_i heq
    rw [h] at heq
    cases heq
  · rename_i heq
    rw [h] at heq
    cases heq
    rfl

/-- What is visible in the sentences is what is visible in what they were cut from. -/
theorem scanLoop_spec (text : Bytes) :
    visible isSpace ((scanLoop text).1.flatten) ++ visible isSpace (scanLoop text).2 =
        visible isSpace text ∧
      ∀ sentence ∈ (scanLoop text).1, trim isBlank sentence = sentence ∧ 4 ≤ sentence.length := by
  induction text using scanLoop.induct with
  | case1 text h =>
      rw [scanLoop_of_none h]
      exact ⟨rfl, fun _ => (nomatch ·)⟩
  | case2 text sentence rest h _ ih =>
      obtain ⟨hvisible, htrim, hlength, -⟩ := nextSentence_spec h
      rw [scanLoop_of_some h]
      refine ⟨?_, List.forall_mem_cons.mpr ⟨⟨htrim, hlength⟩, ih.2⟩⟩
      rw [List.flatten_cons, visible_append, List.append_assoc, ih.1, hvisible]

namespace InteractiveChatService

/-- What a text says, without the spaces. -/
def sentences (responses : List ChatResponse) : Bytes := responses.flatMap (·.sentence)

theorem sentences_append (responses responses' : List ChatResponse) :
    sentences (responses ++ responses') = sentences responses ++ sentences responses' :=
  List.flatMap_append

/-- A sentence that is published while the reply comes in. -/
structure Streamed (response : ChatResponse) : Prop where
  trimmed : trim isBlank response.sentence = response.sentence
  length : 4 ≤ response.sentence.length
  endMarker : response.endMarker = false

variable {operator}

theorem accumulatedText_callback {s : InteractiveChatService} {response : Bytes}
    (hend : response ≠ endToken) :
    (s.queryResponseCallback operator response).accumulatedText =
      (scanLoop (s.accumulatedText ++ response)).2 := by
  unfold queryResponseCallback
  rw [if_neg hend]

variable (operator) in
/-- **One piece**: the visible characters go to new sentences and to the text that is kept. -/
theorem callback_streams {s : InteractiveChatService} {response : Bytes} (hend : response ≠ endToken) :
    ∃ responses, (s.queryResponseCallback operator response).published = s.published ++ responses ∧
      visible isSpace (sentences responses) ++
          visible isSpace (s.queryResponseCallback operator response).accumulatedText =
        visible isSpace (s.accumulatedText ++ response) ∧
      ∀ r ∈ responses, Streamed r := by
  obtain ⟨hvisible, hsentences⟩ := scanLoop_spec (s.accumulatedText ++ response)
  unfold queryResponseCallback
  rw [if_neg hend]
  refine ⟨_, rfl, ?_, fun r hr => ?_⟩
  · show visible isSpace (sentences _) ++ visible isSpace (scanLoop _).2 = _
    rw [← hvisible]
    congr 2
    rw [sentences, List.flatMap_map]
    exact List.flatMap_id
  · obtain ⟨sentence, hsentence, rfl⟩ := List.mem_map.mp hr
    obtain ⟨htrim, hlength⟩ := hsentences sentence hsentence
    exact ⟨htrim, hlength, rfl⟩

variable (operator) in
/-- The same for all pieces. -/
theorem receive_streams {s : InteractiveChatService} {tokens : List Bytes}
    (hend : ∀ token ∈ tokens, token ≠ endToken) :
    ∃ responses, (s.receive operator tokens).published = s.published ++ responses ∧
      visible isSpace (sentences responses) ++
          visible isSpace (s.receive operator tokens).accumulatedText =
        visible isSpace (s.accumulatedText ++ tokens.flatten) ∧
      ∀ r ∈ responses, Streamed r := by
  induction tokens generalizing s with
  | nil =>
      refine ⟨[], (List.append_nil _).symm, ?_, fun _ => (nomatch ·)⟩
      rw [List.flatten_nil, List.append_nil]
      rfl
  | cons token tokens ih =>
      obtain ⟨htoken, htokens⟩ := List.forall_mem_cons.mp hend
      obtain ⟨responses, hpublished, hvisible, hstreamed⟩ :=
        callback_streams operator (s := s) htoken
      obtain ⟨responses', hpublished', hvisible', hstreamed'⟩ :=
        ih (s := s.queryResponseCallback operator token) htokens
      refine ⟨responses ++ responses', ?_, ?_, List.forall_mem_append.mpr ⟨hstreamed, hstreamed'⟩⟩
      · rw [← List.append_assoc, ← hpublished]
        exact hpublished'
      · show visible isSpace (sentences (responses ++ responses')) ++ visible isSpace
          ((s.queryResponseCallback operator token).receive operator tokens).accumulatedText = _
        rw [sentences_append, visible_append, List.append_assoc, hvisible', visible_append,
          ← List.append_assoc, hvisible, List.flatten_cons, ← visible_append, List.append_assoc]

/-- The service as it is constructed, with the gestures that it chooses from. -/
def constructed (emotionalList : List EmotionalGesture) (reactionalList : List ReactionalGesture) :
    InteractiveChatService where
  emotionalList
  reactionalList

/-- Calls after which a reply starts: none, or the last of them was the end of the one before. -/
def BetweenReplies (history : List Bytes) : Prop := history = [] ∨ ∃ earlier, history = earlier ++ [endToken]

theorem accumulatedText_end (s : InteractiveChatService) :
    (s.queryResponseCallback operator endToken).accumulatedText = [] := by
  unfold queryResponseCallback
  rw [if_pos rfl]

theorem BetweenReplies.accumulatedText {history : List Bytes} (h : BetweenReplies history)
    (emotionalList : List EmotionalGesture) (reactionalList : List ReactionalGesture) :
    ((constructed emotionalList reactionalList).receive operator history).accumulatedText = [] := by
  rcases h with rfl | ⟨earlier, rfl⟩
  · rfl
  · rw [receive, List.foldl_append]
    exact accumulatedText_end _

/-- **Streamed replies lose no text.** However the reply is cut into pieces, what is visible of them is what
    is visible of the published sentences and then of the text that is kept; each of these sentences is
    trimmed, long enough and without the end marker, and every round of the loop leaves a shorter text. -/
theorem streamed_reply_conserved (operator : EmbeddingOperator) (emotionalList : List EmotionalGesture)
    (reactionalList : List ReactionalGesture) {history tokens : List Bytes}
    (hhistory : BetweenReplies history) (hend : ∀ token ∈ tokens, token ≠ endToken) :
    let s₀ := (constructed emotionalList reactionalList).receive operator history
    let s := s₀.receive operator tokens
    (∃ responses, s.published = s₀.published ++ responses ∧
      visible isSpace (sentences responses) ++ visible isSpace s.accumulatedText =
        visible isSpace tokens.flatten ∧
      ∀ r ∈ responses, Streamed r) ∧
    ∀ text sentence rest, nextSentence text = some (sentence, rest) → rest.length < text.length := by
  intro s₀ s
  refine ⟨?_, fun text sentence rest h => (nextSentence_spec h).2.2.2⟩
  obtain ⟨responses, hpublished, hvisible, hstreamed⟩ := receive_streams operator (s := s₀) hend
  have hempty : s₀.accumulatedText = [] := hhistory.accumulatedText emotionalList reactionalList
  rw [hempty, List.nil_append] at hvisible
  exact ⟨responses, hpublished, hvisible, hstreamed⟩

/-- `Merhaba! Nas` and `ılsın?`, cut inside a letter. -/
def greeting : List Bytes :=
  [[77, 101, 114, 104, 97, 98, 97, 33, 32, 78, 97, 115, 196], [177, 108, 115, 196, 177, 110, 63]]

/-- A model without embeddings. -/
def noEmbeddings : EmbeddingOperator where
  calculateEmbeddings _ := []
  getSimilarity _ _ := 0

theorem greeting_conserved :
    ∃ responses, ((constructed [] []).receive noEmbeddings greeting).published = responses ∧
      visible isSpace (sentences responses) ++
          visible isSpace ((constructed [] []).receive noEmbeddings greeting).accumulatedText =
        visible isSpace greeting.flatten := by
  obtain ⟨⟨responses, hpublished, hvisible, -⟩, -⟩ :=
    streamed_reply_conserved noEmbeddings [] [] (.inl rfl : BetweenReplies [])
      (by decide : ∀ token ∈ greeting, token ≠ endToken)
  exact ⟨responses, hpublished, hvisible⟩

/-! ## The end of a reply -/

/-- **A reply that is closed**: one message has the end marker, it is the last, and everything visible has
    been said. -/
def Closed (tokens : List Bytes) (responses : List ChatResponse) : Prop :=
  (∃ earlier last, responses = earlier ++ [last] ∧ last.endMarker = true ∧
    ∀ r ∈ earlier, r.endMarker = false) ∧
  visible isSpace (sentences responses) = visible isSpace tokens.flatten

variable (operator) in
/-- What the end publishes. -/
theorem callback_end (s : InteractiveChatService) :
    (s.accumulatedText = [] ∧ (s.queryResponseCallback operator endToken).published =
      s.published ++ [{ sentence := [], endMarker := true }]) ∨
    (4 ≤ (trim isBlank s.accumulatedText).length ∧ ∃ last,
      (s.queryResponseCallback operator endToken).published = s.published ++ [last] ∧
      last.sentence = trim isBlank s.accumulatedText ∧ last.endMarker = true) ∨
    (s.accumulatedText ≠ [] ∧ (trim isBlank s.accumulatedText).length < 4 ∧
      (s.queryResponseCallback operator endToken).published = s.published) := by
  unfold queryResponseCallback publishRemaining
  rw [if_pos rfl]
  cases hempty : s.accumulatedText with
  | nil => exact .inl ⟨rfl, rfl⟩
  | cons b rest =>
      by_cases hlength : 4 ≤ (trim isBlank (b :: rest)).length
      · refine .inr (.inl ⟨hlength, s.response operator (trim isBlank (b :: rest)) true, ?_, rfl, rfl⟩)
        simp only [List.isEmpty_cons, Bool.not_false, if_true, if_pos hlength]
        rfl
      · refine .inr (.inr ⟨List.cons_ne_nil _ _, not_le.mp hlength, ?_⟩)
        simp only [List.isEmpty_cons, Bool.not_false, if_true, if_neg hlength]

/-- **A reply is closed, when exactly**: the text that is kept when the end comes is empty, or long enough to
    be a sentence. -/
theorem end_marker_iff (operator : EmbeddingOperator) (emotionalList : List EmotionalGesture)
    (reactionalList : List ReactionalGesture) {history tokens : List Bytes}
    (hhistory : BetweenReplies history) (hend : ∀ token ∈ tokens, token ≠ endToken) :
    let s₀ := (constructed emotionalList reactionalList).receive operator history
    let s := s₀.receive operator tokens
    (∃ responses, (s.queryResponseCallback operator endToken).published = s₀.published ++ responses ∧
      Closed tokens responses) ↔
      s.accumulatedText = [] ∨ 4 ≤ (trim isBlank s.accumulatedText).length := by
  intro s₀ s
  obtain ⟨responses, hpublished, hvisible, hstreamed⟩ := receive_streams operator (s := s₀) hend
  have hempty : s₀.accumulatedText = [] := hhistory.accumulatedText emotionalList reactionalList
  rw [hempty, List.nil_append] at hvisible
  have hmarkers : ∀ r ∈ responses, r.endMarker = false := fun r hr => (hstreamed r hr).endMarker
  rcases s.callback_end operator with
    ⟨hkept, hpublished'⟩ | ⟨hlength, last, hpublished', hsentence, hmarker⟩ | ⟨hkept, hlength, hpublished'⟩
  · refine ⟨fun _ => .inl hkept, fun _ => ⟨responses ++ [⟨[], true, none, 0, none, 0⟩], ?_, ?_⟩⟩
    · rw [hpublished', hpublished, List.append_assoc]
    · refine ⟨⟨responses, _, rfl, rfl, hmarkers⟩, ?_⟩
      rw [hkept] at hvisible
      rw [sentences_append, visible_append]
      exact hvisible
  · refine ⟨fun _ => .inr hlength, fun _ => ⟨responses ++ [last], ?_, ?_⟩⟩
    · rw [hpublished', hpublished, List.append_assoc]
    · refine ⟨⟨responses, last, rfl, hmarker, hmarkers⟩, ?_⟩
      have hlast : sentences [last] = trim isBlank s.accumulatedText := by
        rw [← hsentence]
        exact List.append_nil _
      rw [sentences_append, visible_append, hlast, visible_trim isSpace_of_isBlank]
      exact hvisible
  · constructor
    · rintro ⟨responses', hpublished'', ⟨earlier, last, rfl, hmarker, -⟩, -⟩
      -- no message of the reply has the marker
      rw [hpublished', hpublished] at hpublished''
      have hlast : last ∈ responses := by
        rw [List.append_cancel_left hpublished'']
        exact List.mem_append_right _ List.mem_cons_self
      rw [hmarkers last hlast] at hmarker
      cases hmarker
    · rintro (h | h)
      · exact absurd h hkept
      · omega

/-- The reply `Hi`. -/
def shortReply : List Bytes := [[72, 105]]

/-- A first piece without a sentence is kept, and nothing is published. -/
theorem receive_of_nextSentence_eq_none {piece : Bytes} (hend : piece ≠ endToken)
    (h : nextSentence piece = none) :
    (constructed [] []).receive noEmbeddings [piece] =
      { constructed [] [] with accumulatedText := piece } := by
  show (constructed [] []).queryResponseCallback noEmbeddings piece = _
  have htext : (constructed [] []).accumulatedText ++ piece = piece := rfl
  unfold queryResponseCallback
  rw [if_neg hend, htext, scanLoop_of_none h]
  rfl

/-- **The promise is broken**: `Hi` is never said, and no end marker is sent. -/
theorem short_reply_not_closed :
    (((constructed [] []).receive noEmbeddings shortReply).queryResponseCallback noEmbeddings
      endToken).published = [] ∧
    ¬ ∃ responses, (((constructed [] []).receive noEmbeddings shortReply).queryResponseCallback
      noEmbeddings endToken).published = [] ++ responses ∧ Closed shortReply responses := by
  have hpublished : (((constructed [] []).receive noEmbeddings shortReply).queryResponseCallback
      noEmbeddings endToken).published = [] := by
    rw [shortReply, receive_of_nextSentence_eq_none (by decide) (by decide)]
    rfl
  refine ⟨hpublished, ?_⟩
  rintro ⟨responses, h, ⟨earlier, last, rfl, -⟩, -⟩
  rw [hpublished] at h
  simp at h

/-- A sentence that is complete when the end comes leaves nothing behind. -/
theorem greeting_closed :
    ∃ responses, (((constructed [] []).receive noEmbeddings greeting).queryResponseCallback noEmbeddings
      endToken).published = responses ∧ Closed greeting responses := by
  have hkept : ((constructed [] []).receive noEmbeddings greeting).accumulatedText = [] := by
    have hfirst : nextSentence [77, 101, 114, 104, 97, 98, 97, 33, 32, 78, 97, 115, 196] =
        some ([77, 101, 114, 104, 97, 98, 97, 33], [32, 78, 97, 115, 196]) := by decide
    have hnone : nextSentence [32, 78, 97, 115, 196] = none := by decide
    have hsecond : nextSentence [32, 78, 97, 115, 196, 177, 108, 115, 196, 177, 110, 63] =
        some ([78, 97, 115, 196, 177, 108, 115, 196, 177, 110, 63], []) := by decide
    have hempty : nextSentence [] = none := rfl
    rw [receive, greeting, List.foldl_cons, List.foldl_cons, List.foldl_nil,
      accumulatedText_callback (by decide), accumulatedText_callback (by decide)]
    show (scanLoop ((scanLoop [77, 101, 114, 104, 97, 98, 97, 33, 32, 78, 97, 115, 196]).2 ++ _)).2 = []
    rw [scanLoop_of_some hfirst, scanLoop_of_none hnone]
    show (scanLoop [32, 78, 97, 115, 196, 177, 108, 115, 196, 177, 110, 63]).2 = []
    rw [scanLoop_of_some hsecond, scanLoop_of_none hempty]
  obtain ⟨responses, hpublished, hclosed⟩ :=
    (end_marker_iff noEmbeddings [] [] (.inl rfl : BetweenReplies [])
      (by decide : ∀ token ∈ greeting, token ≠ endToken)).mpr (.inl hkept)
  exact ⟨responses, hpublished, hclosed⟩

end InteractiveChatService

end Callback

end Kufibot
