import Kufibot.Services.VoiceAgent
import Kufibot.VoiceAgent.Bridge
import Mathlib.Data.List.TakeWhile

/-!
# `VoiceAgent.Delivery` — an LLM response on its way to the robot

A response is JSON in the string of another JSON text. The robot receives at most 2047 bytes of it; it
converts the numbers of the gestures to `int` and the similarities to `float`.

What fits (`Fits`) arrives intact, and nothing else does (`intact_iff_fits`): a longer datagram is cut off,
does not parse and is only logged, and a number that the C++ type does not have becomes another one.
-/

namespace Kufibot

open Lib

namespace LLMResponsePayload

/-- **Exactly one response is published, with the fields of the payload.** -/
def Intact (p : LLMResponsePayload) (output : List VoiceAgentOutput) : Prop :=
  ∃ data : LLMResponseData, output = [.publishLLMResponse data] ∧
    data.sentence = p.sentence ∧ data.emotion = p.emotionalGesture ∧
    data.reaction = p.reactionalGesture ∧ data.directive = p.directive ∧ data.endMarker = p.endMarker ∧
    data.emotionSimilarity = Binary32.ofRat p.emotionSimilarity ∧
    data.reactionSimilarity = Binary32.ofRat p.reactionSimilarity ∧
    data.directiveSimilarity = Binary32.ofRat p.directiveSimilarity

/-- The datagram fits in the buffer, and the numbers fit in their C++ types. -/
structure Fits (datagram : List UInt8) (p : LLMResponsePayload) : Prop where
  size : datagram.length ≤ 2047
  emotionalGesture : FitsInt p.emotionalGesture
  reactionalGesture : FitsInt p.reactionalGesture
  emotionSimilarity : Binary32.Representable p.emotionSimilarity
  reactionSimilarity : Binary32.Representable p.reactionSimilarity
  directiveSimilarity : Binary32.Representable p.directiveSimilarity

/-! ## What is received -/

theorem takeWhile_eq_self {datagram : List UInt8} (h : 0 ∉ datagram) :
    datagram.takeWhile (· ≠ 0) = datagram := by
  refine List.takeWhile_eq_self_iff.mpr fun b hb => ?_
  have hne : b ≠ 0 := by
    rintro rfl
    exact h hb
  exact decide_eq_true hne

/-- What does not fit is cut off. -/
theorem receiveData_eq_take {datagram : List UInt8} (h : 0 ∉ datagram) :
    UdpServerSocket.receiveData datagram = datagram.take 2047 :=
  takeWhile_eq_self fun hzero => h (List.mem_of_mem_take hzero)

section Delivery

variable {repr : ℚ → String} {parse : List UInt8 → Option Json} {dump : Json → String}
  {memory : LLMResponseData} {p : LLMResponsePayload} {s later : VoiceAgentService}

/-- The datagram of a payload. -/
def datagram (repr : ℚ → String) (p : LLMResponsePayload) : List UInt8 :=
  sendMessage repr .llmResponse (.dict p.members)

theorem datagram_eq (repr : ℚ → String) (p : LLMResponsePayload) :
    p.datagram repr =
      encode (Json.chars repr (packet .llmResponse (Json.dumps repr p.toJson))) :=
  utf8_ofList _

theorem zero_not_mem_datagram (hrepr : ∀ q, Printable (repr q).toList) : 0 ∉ p.datagram repr := by
  rw [datagram_eq]
  exact zero_not_mem_encode (Json.printable_chars hrepr _)

theorem datagram_ne_nil (repr : ℚ → String) (p : LLMResponsePayload) : p.datagram repr ≠ [] := by
  intro hnil
  have hlength := length_le_length_encode
    (Json.chars repr (packet .llmResponse (Json.dumps repr p.toJson)))
  rw [← datagram_eq, hnil, packet, Json.chars_object, List.length_append, List.length_append] at hlength
  have hbrace : "\x7b".toList.length = 1 := by decide
  rw [hbrace, List.length_nil] at hlength
  omega

/-- A datagram that arrives in full is published as `received`. -/
theorem processReceivedData_datagram
    (hpayload : parse (utf8 (Json.dumps repr p.toJson)) = some p.toJson)
    (hpacket : parse (p.datagram repr) = some (packet .llmResponse (Json.dumps repr p.toJson))) :
    s.processReceivedData parse dump memory (p.datagram repr) later = [.publishLLMResponse p.received] := by
  have hprocess : VoiceAgentService.processMessage parse dump memory (some .llmResponse)
      (Json.dumps repr p.toJson) s later = some [.publishLLMResponse p.received] := by
    show Option.map _ ((parse (utf8 (Json.dumps repr p.toJson))).bind _) = _
    rw [hpayload, Option.bind_some, ofJson_payload]
    rfl
  unfold VoiceAgentService.processReceivedData
  rw [hpacket]
  show (VoiceAgentService.processMessage parse dump memory (some .llmResponse)
    (Json.dumps repr p.toJson) s later).getD [] = _
  rw [hprocess]
  rfl

theorem receive_of_le (hrepr : ∀ q, Printable (repr q).toList)
    (hpayload : parse (utf8 (Json.dumps repr p.toJson)) = some p.toJson)
    (hpacket : parse (p.datagram repr) = some (packet .llmResponse (Json.dumps repr p.toJson)))
    (hsize : (p.datagram repr).length ≤ 2047) :
    s.receive parse dump memory (p.datagram repr) later = [.publishLLMResponse p.received] := by
  unfold VoiceAgentService.receive
  simp only [receiveData_eq_take (zero_not_mem_datagram hrepr), List.take_of_length_le hsize]
  rw [if_neg (by simpa using datagram_ne_nil repr p)]
  exact processReceivedData_datagram hpayload hpacket

theorem receive_of_lt (hrepr : ∀ q, Printable (repr q).toList)
    (hcut : ∀ n < (p.datagram repr).length, parse ((p.datagram repr).take n) = none)
    (hsize : 2047 < (p.datagram repr).length) :
    s.receive parse dump memory (p.datagram repr) later = [] := by
  unfold VoiceAgentService.receive
  simp only [receiveData_eq_take (zero_not_mem_datagram hrepr)]
  split
  · rfl
  · unfold VoiceAgentService.processReceivedData
    rw [hcut 2047 hsize]
    rfl

/-- **A response arrives intact exactly if it fits.** `nlohmann::json` reads back what was dumped, and does
    not accept the beginning of a JSON object. -/
theorem intact_iff_fits (hrepr : ∀ q, Printable (repr q).toList)
    (hpayload : parse (utf8 (Json.dumps repr p.toJson)) = some p.toJson)
    (hpacket : parse (p.datagram repr) = some (packet .llmResponse (Json.dumps repr p.toJson)))
    (hcut : ∀ n < (p.datagram repr).length, parse ((p.datagram repr).take n) = none) :
    p.Intact (s.receive parse dump memory (p.datagram repr) later) ↔ p.Fits (p.datagram repr) := by
  by_cases hsize : (p.datagram repr).length ≤ 2047
  · rw [receive_of_le hrepr hpayload hpacket hsize]
    constructor
    · rintro ⟨data, hdata, -, hemotion, hreaction, -, -, hsimilarity, hsimilarity', hsimilarity''⟩
      simp only [List.cons.injEq, VoiceAgentOutput.publishLLMResponse.injEq, and_true] at hdata
      subst hdata
      exact ⟨hsize, (bmod_eq_self_iff _).mp hemotion, (bmod_eq_self_iff _).mp hreaction, hsimilarity,
        hsimilarity', hsimilarity''⟩
    · intro hfits
      have hemotion := (bmod_eq_self_iff _).mpr hfits.emotionalGesture
      have hreaction := (bmod_eq_self_iff _).mpr hfits.reactionalGesture
      exact ⟨p.received, rfl, rfl, hemotion, hreaction, rfl, rfl, hfits.emotionSimilarity,
        hfits.reactionSimilarity, hfits.directiveSimilarity⟩
  · rw [receive_of_lt hrepr hcut (by omega)]
    constructor
    · rintro ⟨data, hdata, -⟩
      cases hdata
    · intro hfits
      exact absurd hfits.size hsize

end Delivery

/-! ## Two responses -/

/-- A parser that knows the two texts of a payload. -/
def parseTexts (repr : ℚ → String) (p : LLMResponsePayload) (text : List UInt8) : Option Json :=
  if text = p.datagram repr then some (packet .llmResponse (Json.dumps repr p.toJson))
  else if text = utf8 (Json.dumps repr p.toJson) then some p.toJson
  else none

section Texts

variable (repr : ℚ → String) (p : LLMResponsePayload)

/-- The two texts differ in their third byte. -/
theorem third_byte_datagram : (p.datagram repr)[2]? = some 0x74 := by
  obtain ⟨rest, hrest⟩ := Json.chars_object_cons repr "type" (.int MessageType.llmResponse.value)
    [("payload", .string (Json.dumps repr p.toJson))]
  rw [datagram_eq, packet, hrest, encode_append, List.getElem?_append_left (by decide)]
  decide

theorem third_byte_payload : (utf8 (Json.dumps repr p.toJson))[2]? = some 0x73 := by
  obtain ⟨rest, hrest⟩ :=
    Json.chars_object_cons repr "sentence" (.string p.sentence) p.members.tail
  rw [Json.dumps, utf8_ofList, toJson]
  show (encode (Json.chars repr (.object (("sentence", .string p.sentence) :: p.members.tail))))[2]? = _
  rw [hrest, encode_append, List.getElem?_append_left (by decide)]
  decide

theorem payload_ne_take (n : Nat) : (p.datagram repr).take n ≠ utf8 (Json.dumps repr p.toJson) := by
  intro h
  have hbyte := third_byte_payload repr p
  rw [← h, List.getElem?_take] at hbyte
  split at hbyte
  · rw [third_byte_datagram] at hbyte
    exact absurd hbyte (by decide)
  · cases hbyte

theorem parseTexts_packet :
    parseTexts repr p (p.datagram repr) = some (packet .llmResponse (Json.dumps repr p.toJson)) :=
  if_pos rfl

theorem parseTexts_payload : parseTexts repr p (utf8 (Json.dumps repr p.toJson)) = some p.toJson := by
  have hne := payload_ne_take repr p (p.datagram repr).length
  rw [List.take_length] at hne
  unfold parseTexts
  rw [if_neg fun h => hne h.symm, if_pos rfl]

theorem parseTexts_take {n : Nat} (h : n < (p.datagram repr).length) :
    parseTexts repr p ((p.datagram repr).take n) = none := by
  have hne : (p.datagram repr).take n ≠ p.datagram repr := by
    intro heq
    have hlength := congrArg List.length heq
    rw [List.length_take] at hlength
    omega
  unfold parseTexts
  rw [if_neg hne, if_neg (payload_ne_take repr p n)]

/-- A datagram is at least as long as its sentence. -/
theorem length_sentence_le : p.sentence.toList.length ≤ (p.datagram repr).length := by
  have hstring : ∀ text : String, text.toList.length ≤ (Json.chars repr (.string text)).length := by
    intro text
    rw [Json.chars_string]
    exact Json.length_quote_le text.toList
  have hsentence : (Json.chars repr (.string p.sentence)).length ≤ (Json.chars repr p.toJson).length := by
    rw [toJson]
    exact Json.length_chars_le repr (show ("sentence", Json.string p.sentence) ∈ p.members from
      List.mem_cons_self)
  have hpayload : (Json.chars repr (.string (Json.dumps repr p.toJson))).length ≤
      (Json.chars repr (packet .llmResponse (Json.dumps repr p.toJson))).length := by
    rw [packet]
    exact Json.length_chars_le repr (List.mem_cons_of_mem _ List.mem_cons_self)
  have htext := hstring (Json.dumps repr p.toJson)
  rw [Json.dumps, String.toList_ofList] at htext
  have hbytes :=
    length_le_length_encode (Json.chars repr (packet .llmResponse (Json.dumps repr p.toJson)))
  rw [← datagram_eq] at hbytes
  exact (hstring p.sentence).trans (hsentence.trans (htext.trans (hpayload.trans hbytes)))

end Texts

/-- Python's texts of the two similarities below. -/
def reprOneZero (q : ℚ) : String := if q = 1 then "1.0" else "0.0"

theorem printable_reprOneZero (q : ℚ) : Printable (reprOneZero q).toList := by
  unfold reprOneZero
  split
  · decide
  · decide

/-- A sentence of 2048 letters. -/
def longResponse : LLMResponsePayload where
  sentence := String.ofList (List.replicate 2048 'a')
  emotionSimilarity := 1
  reactionSimilarity := 0

theorem length_longResponse : longResponse.sentence.toList.length = 2048 := by
  show (String.ofList (List.replicate 2048 'a')).toList.length = 2048
  rw [String.toList_ofList, List.length_replicate]

/-- **A long sentence is lost**: the datagram is cut off, and nothing is published. -/
theorem long_response_lost :
    ¬ longResponse.Intact ((⟨none, ""⟩ : VoiceAgentService).receive (parseTexts reprOneZero longResponse)
      (fun _ => "") longResponse.received (longResponse.datagram reprOneZero) ⟨none, ""⟩) := by
  have hsize := length_sentence_le reprOneZero longResponse
  rw [length_longResponse] at hsize
  rw [receive_of_lt printable_reprOneZero (fun n => parseTexts_take _ _) (by omega)]
  rintro ⟨data, hdata, -⟩
  cases hdata

/-- A short one arrives. -/
def shortResponse : LLMResponsePayload where
  sentence := "merhaba"
  emotionSimilarity := 1
  reactionSimilarity := 0

theorem short_response_intact :
    shortResponse.Fits (shortResponse.datagram reprOneZero) ∧
      shortResponse.Intact ((⟨none, ""⟩ : VoiceAgentService).receive (parseTexts reprOneZero shortResponse)
        (fun _ => "") shortResponse.received (shortResponse.datagram reprOneZero) ⟨none, ""⟩) := by
  have hfits : shortResponse.Fits (shortResponse.datagram reprOneZero) := by
    constructor
    · rw [datagram_eq]
      simp only [packet, Json.chars_object, Json.memberChars_cons_cons, Json.memberChars_singleton,
        Json.chars_string, Json.dumps, String.toList_ofList]
      decide +kernel
    · exact ⟨by decide, by decide⟩
    · exact ⟨by decide, by decide⟩
    all_goals decide +kernel
  exact ⟨hfits, (intact_iff_fits printable_reprOneZero (parseTexts_payload _ _) (parseTexts_packet _ _)
    fun n => parseTexts_take _ _).mpr hfits⟩

end LLMResponsePayload

end Kufibot
