import Mathlib.Algebra.Order.Field.Basic
import Kufibot.Lib.FirstBest
import Kufibot.Services.RagReply
import Kufibot.VoiceAgent.Mimic

/-!
# `Services.BestMatch` — from a sentence to the motion

The chat and the database answer each search two lists for the gesture that fits a sentence best, and
`makeMimic` takes the better one of the two. Both searches find the first of the best entries above one half
(`bestMatch_eq`), so together they find that of both lists.

But where nothing is found, the gestures of the response stay as they were constructed, with whatever number
is in memory, and both similarities are 0: `makeMimic` then performs the emotion of that number. So a response
leads to the right motion exactly if there is an entry that fits, or no emotion has a motion
(`best_match_performed_iff`).
-/

namespace Kufibot

open Lib

/-- The message as it arrives. A gesture that was not assigned has the number in `memory`; the text and the
    directive are not read for the motion. -/
def ChatResponse.delivered (memory : LLMResponseData) (r : ChatResponse) : LLMResponseData :=
  { memory with
    endMarker := r.endMarker
    emotion := (r.emotionalGesture.map fun gesture => gesture.emotion.value).getD memory.emotion
    emotionSimilarity := Binary32.ofRat r.emotionSimilarity
    reaction := (r.reactionalGesture.map fun gesture => gesture.reaction.value).getD memory.reaction
    reactionSimilarity := Binary32.ofRat r.reactionSimilarity }

/-! ## What should be performed -/

/-- An entry of either list. -/
abbrev GestureEntry := EmotionalGesture ⊕ ReactionalGesture

def GestureEntry.gesture : GestureEntry → Gesture
  | .inl entry => .emotional entry.emotion
  | .inr entry => .reactional entry.reaction

def GestureEntry.embedding : GestureEntry → List ℚ
  | .inl entry => entry.embedding
  | .inr entry => entry.embedding

/-- How well an entry fits the sentence. -/
def EmbeddingOperator.fit (operator : EmbeddingOperator) (sentence : Bytes) (entry : GestureEntry) : ℚ :=
  operator.getSimilarity (operator.calculateEmbeddings sentence) entry.embedding

/-- The emotions, and then the reactions. -/
def entries (emotionalList : List EmotionalGesture) (reactionalList : List ReactionalGesture) :
    List GestureEntry :=
  emotionalList.map .inl ++ reactionalList.map .inr

/-- **The gesture to perform**: that of the first entry of the greatest similarity, if it is above one half. -/
def bestGesture (operator : EmbeddingOperator) (sentence : Bytes) (list : List GestureEntry) : Option Gesture :=
  (firstBest (1 / 2) (operator.fit sentence) list).map GestureEntry.gesture

namespace ExpressionService

/-- The motion of a gesture, or none at all, with perception stopped. -/
def mimicOf (s : ExpressionService) : Option Gesture → ExpressionService
  | some gesture => s.performed gesture
  | none => (s.publish .stopPerceptionRequest).publish .startPerceptionRequest

end ExpressionService

/-! ## What is found -/

/-- The test of a search: an entry that is better than the best one, and above one half. -/
theorem better_iff {α : Type} (similarity : α → ℚ) (best : Option α) (entry : α) :
    (similarity entry > best.elim 0 similarity ∧ similarity entry > 1 / 2) ↔
      1 / 2 < similarity entry ∧ ∀ b ∈ best, similarity b < similarity entry := by
  cases best with
  | none =>
      constructor
      · rintro ⟨_, habove⟩
        exact ⟨habove, fun b hb => (nomatch hb)⟩
      · rintro ⟨habove, _⟩
        exact ⟨lt_trans one_half_pos habove, habove⟩
  | some b =>
      constructor
      · rintro ⟨hbetter, habove⟩
        refine ⟨habove, fun c hc => ?_⟩
        cases hc
        exact hbetter
      · rintro ⟨habove, hbetter⟩
        exact ⟨hbetter b rfl, habove⟩

/-- **A search** finds the first of the best entries above one half, with its similarity. -/
theorem bestMatch_eq {α : Type} (similarity : α → ℚ) (list : List α) :
    bestMatch similarity list =
      (firstBest (1 / 2) similarity list, (firstBest (1 / 2) similarity list).elim 0 similarity) := by
  induction list using List.reverseRecOn with
  | nil => rfl
  | append_singleton list entry ih =>
      have hround : bestMatch similarity (list ++ [entry]) =
          if similarity entry > (bestMatch similarity list).2 ∧ similarity entry > 1 / 2 then
            (some entry, similarity entry)
          else bestMatch similarity list := by
        unfold bestMatch
        rw [List.foldl_append]
        rfl
      rw [hround, firstBest_concat, ih]
      simp only [better_iff]
      split_ifs
      · rfl
      · rfl

/-- A response with what the two searches have found. -/
structure ChatResponse.Matched (operator : EmbeddingOperator) (sentence : Bytes)
    (emotionalList : List EmotionalGesture) (reactionalList : List ReactionalGesture) (r : ChatResponse) :
    Prop where
  emotional : (r.emotionalGesture, r.emotionSimilarity) =
    bestMatch (fun e => operator.fit sentence (.inl e)) emotionalList
  reactional : (r.reactionalGesture, r.reactionSimilarity) =
    bestMatch (fun e => operator.fit sentence (.inr e)) reactionalList

theorem matched_response (operator : EmbeddingOperator) (sentence : Bytes) (chat : InteractiveChatService)
    (endMarker : Bool) : (chat.response operator sentence endMarker).Matched operator sentence
      chat.emotionalList chat.reactionalList := ⟨rfl, rfl⟩

theorem matched_message (operator : EmbeddingOperator) (sentence : Bytes) (rag : RagGestures)
    (sentences : List Bytes) : (rag.message operator sentences sentence).Matched operator sentence
      rag.emotionalList rag.reactionalList := ⟨rfl, rfl⟩

/-! ## What is performed -/

theorem delivered_similarities (memory : LLMResponseData) (r : ChatResponse) :
    (r.delivered memory).reactionSimilarity > (r.delivered memory).emotionSimilarity ↔
      r.emotionSimilarity < r.reactionSimilarity :=
  WithBot.coe_lt_coe.trans WithTop.coe_lt_coe

namespace ExpressionService

/-- Of an emotion that is as good as the reaction, the number counts. -/
theorem makeMimic_number {response : LLMResponseData}
    (h : ¬ response.reactionSimilarity > response.emotionSimilarity) (s : ExpressionService) :
    s.makeMimic response = s.mimicOf ((enumerator EmotionType.declared response.emotion).map .emotional) := by
  simp only [makeMimic, if_neg h, executeEmotionalMotion]
  cases enumerator EmotionType.declared response.emotion with
  | none => rfl
  | some emotion => rfl

end ExpressionService

section Matched

variable {operator : EmbeddingOperator} {sentence : Bytes} {emotionalList : List EmotionalGesture}
  {reactionalList : List ReactionalGesture} {r : ChatResponse}

/-- **The motion of the best entry is performed**, and if there is none, that of the number in memory. -/
theorem makeMimic_delivered (h : r.Matched operator sentence emotionalList reactionalList)
    (memory : LLMResponseData) (s : ExpressionService) :
    s.makeMimic (r.delivered memory) =
      s.mimicOf ((bestGesture operator sentence (entries emotionalList reactionalList)).or
        ((enumerator EmotionType.declared memory.emotion).map .emotional)) := by
  obtain ⟨hemotion, hemotionSimilarity⟩ := Prod.mk.inj (h.emotional.trans (bestMatch_eq _ _))
  obtain ⟨hreaction, hreactionSimilarity⟩ := Prod.mk.inj (h.reactional.trans (bestMatch_eq _ _))
  have hsimilarities := delivered_similarities memory r
  rw [hemotionSimilarity, hreactionSimilarity] at hsimilarities
  unfold bestGesture entries
  rw [firstBest_append, firstBest_map, firstBest_map]
  cases he : firstBest (1 / 2) (fun e => operator.fit sentence (.inl e)) emotionalList with
  | none =>
      rw [he] at hemotion hsimilarities
      cases hr : firstBest (1 / 2) (fun e => operator.fit sentence (.inr e)) reactionalList with
      | none =>
          -- the emotion was not assigned
          rw [hr] at hsimilarities
          rw [s.makeMimic_number (fun hlt => lt_irrefl _ (hsimilarities.mp hlt))]
          simp only [ChatResponse.delivered, hemotion]
          rfl
      | some reaction =>
          rw [hr] at hreaction hsimilarities
          have habove := (firstBest_spec hr).2.1
          refine s.makeMimic_reactional (hsimilarities.mpr (lt_trans one_half_pos habove)) ?_
          simp only [ChatResponse.delivered, hreaction]
          rfl
  | some emotion =>
      rw [he] at hemotion hsimilarities
      have habove := (firstBest_spec he).2.1
      have hnumber : (r.delivered memory).emotion = emotion.emotion.value := by
        simp only [ChatResponse.delivered, hemotion]
        rfl
      cases hr : firstBest (1 / 2) (fun e => operator.fit sentence (.inr e)) reactionalList with
      | none =>
          rw [hr] at hsimilarities
          have hneg : ¬ operator.fit sentence (.inl emotion) < 0 := not_lt_of_gt (lt_trans one_half_pos habove)
          exact s.makeMimic_emotional (fun hlt => hneg (hsimilarities.mp hlt)) hnumber
      | some reaction =>
          rw [hr] at hreaction hsimilarities
          by_cases hlt : operator.fit sentence (.inl emotion) < operator.fit sentence (.inr reaction)
          · simp only [Option.map_some, betterOf, if_pos hlt]
            refine s.makeMimic_reactional (hsimilarities.mpr hlt) ?_
            simp only [ChatResponse.delivered, hreaction]
            rfl
          · simp only [Option.map_some, betterOf, if_neg hlt]
            exact s.makeMimic_emotional (fun h => hlt (hsimilarities.mp h)) hnumber

end Matched

namespace ExpressionService

theorem length_executeJointPositions (positions : JointPositions) (s : ExpressionService) :
    (s.executeJointPositions positions).published.length = s.published.length + 1 :=
  List.length_append

theorem length_foldl_executeJointPositions (sequence : List MotionSequenceItem) (s : ExpressionService) :
    s.published.length ≤
      (sequence.foldl (fun s item => s.executeJointPositions item.joints) s).published.length := by
  induction sequence generalizing s with
  | nil => exact le_rfl
  | cons item sequence ih =>
      have hstep := s.length_executeJointPositions item.joints
      have hrest := ih (s.executeJointPositions item.joints)
      rw [List.foldl_cons]
      omega

/-- A motion publishes something. -/
theorem length_executeMotionSequence (baseJoints : JointPositions) (sequence : List MotionSequenceItem)
    (s : ExpressionService) :
    s.published.length < (s.executeMotionSequence baseJoints sequence).published.length := by
  have hbase := s.length_executeJointPositions baseJoints
  unfold executeMotionSequence
  simp only
  split_ifs
  · omega
  · have hfold := length_foldl_executeJointPositions sequence (s.executeJointPositions baseJoints)
    have hidle : ∀ t : ExpressionService, t.setIdlePosition.published.length = t.published.length + 1 :=
      fun t => List.length_append
    rw [hidle]
    omega

theorem performed_emotional (emotion : EmotionType) (s : ExpressionService) :
    s.performed (.emotional emotion) =
      ((s.publish .stopPerceptionRequest).executeMotion (s.emotionalMotions emotion)).publish
        .startPerceptionRequest := rfl

/-- A configured motion is more than no motion. -/
theorem performed_ne {emotion : EmotionType} {motion : MotionDefinition} {s : ExpressionService}
    (h : s.emotionalMotions emotion = some motion) : s.performed (.emotional emotion) ≠ s.mimicOf none := by
  intro heq
  have hlength := congrArg (fun t => t.published.length) heq
  have hmotion : s.performed (.emotional emotion) =
      ((s.publish .stopPerceptionRequest).executeMotionSequence motion.joints motion.sequence).publish
        .startPerceptionRequest := by
    rw [performed_emotional, h]
    rfl
  have hpublish : ∀ (t : ExpressionService) (p : ExpressionPublication),
      (t.publish p).published.length = t.published.length + 1 := fun _ _ => List.length_append
  have hmore := (s.publish .stopPerceptionRequest).length_executeMotionSequence motion.joints motion.sequence
  simp only [hmotion, mimicOf, hpublish] at hlength hmore
  omega

/-- What is in memory does not matter iff it is not used, or leads to no motion. -/
theorem mimicOf_or_iff (best : Option Gesture) (s : ExpressionService) :
    (∀ memory : LLMResponseData,
        s.mimicOf (best.or ((enumerator EmotionType.declared memory.emotion).map .emotional)) =
          s.mimicOf best) ↔
      best ≠ none ∨ ∀ emotion, s.emotionalMotions emotion = none := by
  constructor
  · intro h
    by_contra hcon
    push Not at hcon
    obtain ⟨rfl, emotion, hemotion⟩ := hcon
    obtain ⟨motion, hmotion⟩ := Option.ne_none_iff_exists'.mp hemotion
    let memory : LLMResponseData :=
      { sentence := "", emotion := emotion.value, reaction := 0, directive := "", endMarker := false
        emotionSimilarity := 0, reactionSimilarity := 0, directiveSimilarity := 0 }
    have hmemory := h memory
    rw [EmotionType.enumerator_value] at hmemory
    exact performed_ne hmotion hmemory
  · rintro (hbest | hempty) memory
    · obtain ⟨gesture, rfl⟩ := Option.ne_none_iff_exists'.mp hbest
      rfl
    · cases best with
      | some gesture => rfl
      | none =>
          cases enumerator EmotionType.declared memory.emotion with
          | none => rfl
          | some emotion =>
              show s.performed (.emotional emotion) = s.mimicOf none
              rw [performed_emotional, hempty emotion]
              rfl

end ExpressionService

/-- Whatever is in memory, the response leads to the motion of the best entry, and to none if there is no
    entry above one half. -/
def ChatResponse.PerformsBest (operator : EmbeddingOperator) (sentence : Bytes)
    (list : List GestureEntry) (s : ExpressionService) (r : ChatResponse) : Prop :=
  ∀ memory, s.makeMimic (r.delivered memory) = s.mimicOf (bestGesture operator sentence list)

theorem performsBest_iff {operator : EmbeddingOperator} {sentence : Bytes}
    {emotionalList : List EmotionalGesture} {reactionalList : List ReactionalGesture} {r : ChatResponse}
    (h : r.Matched operator sentence emotionalList reactionalList) (s : ExpressionService) :
    r.PerformsBest operator sentence (entries emotionalList reactionalList) s ↔
      (∃ entry ∈ entries emotionalList reactionalList, 1 / 2 < operator.fit sentence entry) ∨
        ∀ emotion, s.emotionalMotions emotion = none := by
  have hfound : bestGesture operator sentence (entries emotionalList reactionalList) ≠ none ↔
      ∃ entry ∈ entries emotionalList reactionalList, 1 / 2 < operator.fit sentence entry := by
    unfold bestGesture
    rw [Ne, Option.map_eq_none_iff, firstBest_eq_none_iff]
    push Not
    rfl
  rw [← hfound, ← s.mimicOf_or_iff]
  apply forall_congr'
  intro memory
  rw [makeMimic_delivered h memory s]

/-- **The best match is performed** for every response of the chat and of the database to a sentence iff
    there is an entry above one half, or no emotion has a motion. -/
theorem best_match_performed_iff (operator : EmbeddingOperator) (sentence : Bytes) (s : ExpressionService) :
    (∀ (chat : InteractiveChatService) (endMarker : Bool),
      (chat.response operator sentence endMarker).PerformsBest operator sentence
          (entries chat.emotionalList chat.reactionalList) s ↔
        (∃ entry ∈ entries chat.emotionalList chat.reactionalList, 1 / 2 < operator.fit sentence entry) ∨
          ∀ emotion, s.emotionalMotions emotion = none) ∧
    ∀ (rag : RagGestures) (sentences : List Bytes),
      (rag.message operator sentences sentence).PerformsBest operator sentence
          (entries rag.emotionalList rag.reactionalList) s ↔
        (∃ entry ∈ entries rag.emotionalList rag.reactionalList, 1 / 2 < operator.fit sentence entry) ∨
          ∀ emotion, s.emotionalMotions emotion = none :=
  ⟨fun chat endMarker => performsBest_iff (matched_response operator sentence chat endMarker) s,
    fun rag sentences => performsBest_iff (matched_message operator sentence rag sentences) s⟩

/-- An embedding model to which nothing is like anything. -/
def unlike : EmbeddingOperator where
  calculateEmbeddings _ := []
  getSimilarity _ _ := 0

/-- A robot that jumps for joy. -/
def joyful : ExpressionService where
  jointPositionList _ _ := none
  emotionalMotions emotion := if emotion = .happy then some ⟨"jump", "", 500, fun _ => none, []⟩ else none
  reactionalMotions _ := none
  currentPositions _ := none
  published := []

/-- **A motion out of nothing**: no entry fits, and the robot performs the emotion whose number is in
    memory. -/
theorem motion_from_memory : ∃ (chat : InteractiveChatService) (memory : LLMResponseData),
    bestGesture unlike [72, 105, 46] (entries chat.emotionalList chat.reactionalList) = none ∧
      (chat.response unlike [72, 105, 46] false).emotionalGesture = none ∧
      joyful.makeMimic ((chat.response unlike [72, 105, 46] false).delivered memory) =
        joyful.performed (.emotional .happy) ∧
      joyful.performed (.emotional .happy) ≠ joyful.mimicOf none := by
  refine ⟨⟨[], [], false, [], []⟩, ⟨"", 0, 0, "", false, 0, 0, 0⟩, rfl, rfl, rfl, ?_⟩
  exact @ExpressionService.performed_ne .happy ⟨"jump", "", 500, fun _ => none, []⟩ joyful rfl

end Kufibot
