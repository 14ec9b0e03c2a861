import Kufibot.Services.InteractiveChat

/-!
# `Services.RagReply` — an answer of the database, sentence by sentence

`divideAndPublish` cuts an answer at its runs of `.`, `!` and `?` and publishes the pieces, trimmed. It takes
for the last sentence every one that reads like the last. So an answer is published whole, with one end
marker, exactly if nothing but whitespace follows its last run of marks and no sentence before the last one
reads like it (`reply_whole_iff`).

Whitespace is what the function trims.
-/

namespace Kufibot

open Lib.Text

/-- What `RagService` matches its sentences with. -/
structure RagGestures where
  emotionalList : List EmotionalGesture
  reactionalList : List ReactionalGesture

/-! ## The functions -/

/-- The matches of `[^.!?]*[.!?]+`, trimmed; an empty one is left out. -/
def splitIntoSentences (paragraph : Bytes) : List Bytes :=
  ((pieces isMark paragraph).map (trim isBlank)).filter fun sentence => !sentence.isEmpty

namespace RagGestures

variable (operator : EmbeddingOperator)

def findSentenceEmotion (s : RagGestures) (sentence : Bytes) : Option EmotionalGesture × ℚ :=
  let embeddings := operator.calculateEmbeddings sentence
  bestMatch (fun emotion => operator.getSimilarity embeddings emotion.embedding) s.emotionalList

def findSentenceReaction (s : RagGestures) (sentence : Bytes) : Option ReactionalGesture × ℚ :=
  let embeddings := operator.calculateEmbeddings sentence
  bestMatch (fun reaction => operator.getSimilarity embeddings reaction.embedding) s.reactionalList

/-- One round of the loop: the message for a sentence. -/
def message (s : RagGestures) (sentences : List Bytes) (sentence : Bytes) : ChatResponse :=
  let emotionPair := s.findSentenceEmotion operator sentence
  let reactionPair := s.findSentenceReaction operator sentence
  { sentence
    emotionalGesture := emotionPair.1
    emotionSimilarity := emotionPair.2
    reactionalGesture := reactionPair.1
    reactionSimilarity := reactionPair.2
    endMarker := some sentence == sentences.getLast? }

/-- The messages that are published, in order. -/
def divideAndPublish (s : RagGestures) (response : Bytes) : List ChatResponse :=
  let sentences := splitIntoSentences response
  sentences.map (s.message operator sentences)

end RagGestures

/-! ## What is published -/

/-- **The sentences** are the pieces of the cut, none is left out. -/
theorem splitIntoSentences_eq {paragraph tail : Bytes} {ps : List Bytes} (h : Cut isMark paragraph ps tail) :
    splitIntoSentences paragraph = ps.map (trim isBlank) := by
  have hpieces : pieces isMark paragraph = ps := pieces_eq_iff.mpr ⟨tail, h⟩
  unfold splitIntoSentences
  rw [hpieces, List.filter_eq_self]
  intro sentence hsentence
  obtain ⟨piece, hpiece, rfl⟩ := List.mem_map.mp hsentence
  obtain ⟨c, hc, hmark⟩ := h.exists_mark piece hpiece
  have hne := trim_ne_nil hc (isBlank_of_isMark hmark)
  rw [Bool.not_eq_true', List.isEmpty_eq_false_iff]
  exact hne

/-- **A reply that is published whole**: everything visible is said, in sentences that are not empty and
    trimmed, and the last message, and no other, has the end marker. -/
structure PublishedWhole (response : Bytes) (published : List ChatResponse) : Prop where
  ne_nil : published ≠ []
  visible : visible isBlank (InteractiveChatService.sentences published) = visible isBlank response
  trimmed : ∀ r ∈ published, r.sentence ≠ [] ∧ trim isBlank r.sentence = r.sentence
  ends : ∃ earlier last, published = earlier ++ [last] ∧ last.endMarker = true ∧
    ∀ r ∈ earlier, r.endMarker = false

namespace RagGestures

variable (operator : EmbeddingOperator) (s : RagGestures)

section Cut

variable {response tail : Bytes} {ps : List Bytes}

theorem divideAndPublish_eq (h : Cut isMark response ps tail) :
    s.divideAndPublish operator response =
      (ps.map (trim isBlank)).map (s.message operator (ps.map (trim isBlank))) := by
  unfold divideAndPublish
  rw [splitIntoSentences_eq h]

/-- What is visible of the pieces is said. -/
theorem visible_divideAndPublish (h : Cut isMark response ps tail) :
    visible isBlank (InteractiveChatService.sentences (s.divideAndPublish operator response)) =
      visible isBlank ps.flatten := by
  have hsentences : InteractiveChatService.sentences (s.divideAndPublish operator response) =
      (ps.map (trim isBlank)).flatten := by
    rw [s.divideAndPublish_eq operator h, InteractiveChatService.sentences, List.flatMap_map]
    exact List.flatMap_id
  rw [hsentences]
  exact visible_flatten_trim (fun _ => id) ps

/-- All of it, if nothing visible follows the last piece. -/
theorem visible_divideAndPublish_iff (h : Cut isMark response ps tail) :
    visible isBlank (InteractiveChatService.sentences (s.divideAndPublish operator response)) =
      visible isBlank response ↔ ∀ b ∈ tail, isBlank b = true := by
  have hresponse : visible isBlank response = visible isBlank ps.flatten ++ visible isBlank tail := by
    rw [← h.flatten, visible_append]
  -- what the messages leave out is the tail
  rw [s.visible_divideAndPublish operator h, hresponse, ← visible_eq_nil_iff]
  constructor
  · intro heq
    exact List.self_eq_append_right.mp heq
  · intro htail
    rw [htail, List.append_nil]

/-- Every message is trimmed and says something. -/
theorem trimmed_divideAndPublish (h : Cut isMark response ps tail) :
    ∀ r ∈ s.divideAndPublish operator response, r.sentence ≠ [] ∧ trim isBlank r.sentence = r.sentence := by
  intro r hr
  rw [s.divideAndPublish_eq operator h] at hr
  obtain ⟨sentence, hsentence, rfl⟩ := List.mem_map.mp hr
  obtain ⟨piece, hpiece, rfl⟩ := List.mem_map.mp hsentence
  obtain ⟨c, hc, hmark⟩ := h.exists_mark piece hpiece
  exact ⟨trim_ne_nil hc (isBlank_of_isMark hmark), trim_trim isBlank piece⟩

end Cut

/-- The end marker of a message that says one of the sentences. -/
theorem endMarker_message {earlier : List Bytes} {last sentence : Bytes} :
    (s.message operator (earlier ++ [last]) sentence).endMarker = true ↔ sentence = last := by
  show (some sentence == (earlier ++ [last]).getLast?) = true ↔ sentence = last
  rw [List.getLast?_concat, beq_iff_eq, Option.some.injEq]

/-- **The marker is where it belongs**, if no sentence before the last one reads like it. -/
theorem ends_divideAndPublish_iff {response tail : Bytes} {earlier : List Bytes} {last : Bytes}
    (h : Cut isMark response (earlier ++ [last]) tail) :
    (∃ before final, s.divideAndPublish operator response = before ++ [final] ∧
      final.endMarker = true ∧ ∀ r ∈ before, r.endMarker = false) ↔
      ∀ piece ∈ earlier, trim isBlank piece ≠ trim isBlank last := by
  have hpublished := s.divideAndPublish_eq operator h
  rw [List.map_append, List.map_append] at hpublished
  constructor
  · -- a sentence that reads like the last one has the marker too
    rintro ⟨before, final, hsplit, -, hbefore⟩ piece hpiece heq
    obtain ⟨rfl, -⟩ := List.append_inj' (hpublished.symm.trans hsplit) rfl
    have hmarker := hbefore _ (List.mem_map_of_mem (List.mem_map_of_mem hpiece))
    exact Bool.false_ne_true (hmarker.symm.trans ((s.endMarker_message operator).mpr heq))
  · intro hdistinct
    refine ⟨_, _, hpublished, (s.endMarker_message operator).mpr rfl, ?_⟩
    intro r hr
    obtain ⟨sentence, hsentence, rfl⟩ := List.mem_map.mp hr
    obtain ⟨piece, hpiece, rfl⟩ := List.mem_map.mp hsentence
    rw [← Bool.not_eq_true]
    intro hmarker
    exact hdistinct piece hpiece ((s.endMarker_message operator).mp hmarker)

/-- **When a reply is published whole, exactly**: only whitespace follows its last run of marks, and no
    sentence before the last one reads like it. -/
theorem reply_whole_iff (response : Bytes) :
    PublishedWhole response (s.divideAndPublish operator response) ↔
      ∃ earlier last tail, Cut isMark response (earlier ++ [last]) tail ∧
        (∀ b ∈ tail, isBlank b = true) ∧
        ∀ piece ∈ earlier, trim isBlank piece ≠ trim isBlank last := by
  constructor
  · intro hwhole
    obtain ⟨ps, tail, hcut⟩ := exists_cut isMark response
    rcases List.eq_nil_or_concat' ps with rfl | ⟨earlier, last, rfl⟩
    · -- without a piece nothing is published
      exact absurd (s.divideAndPublish_eq operator hcut) hwhole.ne_nil
    · refine ⟨earlier, last, tail, ?_, ?_, ?_⟩
      · exact hcut
      · exact (s.visible_divideAndPublish_iff operator hcut).mp hwhole.visible
      · exact (s.ends_divideAndPublish_iff operator hcut).mp hwhole.ends
  · rintro ⟨earlier, last, tail, hcut, htail, hdistinct⟩
    have hends := (s.ends_divideAndPublish_iff operator hcut).mpr hdistinct
    refine ⟨?_, ?_, ?_, hends⟩
    · obtain ⟨before, final, hsplit, -⟩ := hends
      rw [hsplit]
      exact List.concat_ne_nil _ _
    · exact (s.visible_divideAndPublish_iff operator hcut).mpr htail
    · exact s.trimmed_divideAndPublish operator hcut

/-! ### Three replies -/

/-- A service without gestures. -/
def noGestures : RagGestures where
  emotionalList := []
  reactionalList := []

/-- `Hi`. -/
def unfinished : Bytes := [72, 105]

/-- `No. No.` -/
def twice : Bytes := [78, 111, 46, 32, 78, 111, 46]

/-- **The promise is broken**: `Hi` is not published at all, and both sentences of `No. No.` have the end
    marker. -/
theorem reply_not_whole :
    (visible isBlank unfinished = unfinished ∧
      noGestures.divideAndPublish InteractiveChatService.noEmbeddings unfinished = [] ∧
      ¬ PublishedWhole unfinished
        (noGestures.divideAndPublish InteractiveChatService.noEmbeddings unfinished)) ∧
    (noGestures.divideAndPublish InteractiveChatService.noEmbeddings twice).map
        (fun r => (r.sentence, r.endMarker)) = [([78, 111, 46], true), ([78, 111, 46], true)] ∧
      ¬ PublishedWhole twice (noGestures.divideAndPublish InteractiveChatService.noEmbeddings twice) := by
  refine ⟨⟨rfl, rfl, fun hwhole => hwhole.ne_nil rfl⟩, rfl, fun hwhole => ?_⟩
  obtain ⟨earlier, last, hsplit, -, hearlier⟩ := hwhole.ends
  have hfirst : ∃ r ∈ earlier, r.endMarker = true := by
    rcases earlier with _ | ⟨r, earlier⟩
    · cases hsplit
    · injection hsplit with hr
      exact ⟨r, List.mem_cons_self, hr ▸ rfl⟩
  obtain ⟨r, hr, hmarker⟩ := hfirst
  rw [hearlier r hr] at hmarker
  cases hmarker

/-- `Hi. Bye.`, as it is cut. -/
theorem reply_whole_iff_two :
    PublishedWhole [72, 105, 46, 32, 66, 121, 101, 46]
      (noGestures.divideAndPublish InteractiveChatService.noEmbeddings
        [72, 105, 46, 32, 66, 121, 101, 46]) := by
  have hfirst : IsPiece isMark [72, 105] [46] [32, 66, 121, 101, 46] := by
    constructor <;> simp [isMark]
  have hsecond : IsPiece isMark [32, 66, 121, 101] [46] [] := by
    constructor <;> simp [isMark]
  have hcut : Cut isMark [72, 105, 46, 32, 66, 121, 101, 46]
      ([[72, 105, 46]] ++ [[32, 66, 121, 101, 46]]) [] :=
    .piece hfirst (.piece hsecond (.tail (List.forall_mem_nil _)))
  exact (noGestures.reply_whole_iff InteractiveChatService.noEmbeddings _).mpr
    ⟨_, _, _, hcut, List.forall_mem_nil _, by decide⟩

end RagGestures

end Kufibot
