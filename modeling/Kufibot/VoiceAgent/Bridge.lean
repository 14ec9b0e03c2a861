import Kufibot.Lib.JsonText
import Kufibot.Messages.Json
import Kufibot.VoiceAgent.MessageTypes

/-!
# `VoiceAgent.Bridge` — what the bridge sends

`make_llm_response_payload` and `RobotBridge.send_message`: a payload is written as JSON, and its text is a
string of the JSON that goes out.
-/

namespace Kufibot

open Lib

/-- The arguments of `make_llm_response_payload`, with its defaults. Similarities are doubles. -/
structure LLMResponsePayload where
  sentence : String
  emotionalGesture : Int := EmotionType.happy.value
  reactionalGesture : Int := ReactionType.talking.value
  directive : String := ""
  endMarker : Bool := true
  emotionSimilarity : ℚ := Float64.round (4 / 5)
  reactionSimilarity : ℚ := Float64.round (7 / 10)
  directiveSimilarity : ℚ := 0
deriving DecidableEq

/-- The members of the dictionary that `make_llm_response_payload` returns. -/
def LLMResponsePayload.members (p : LLMResponsePayload) : List (String × Json) :=
  [("sentence", .string p.sentence), ("emotional_gesture", .int p.emotionalGesture),
    ("reactional_gesture", .int p.reactionalGesture), ("directive", .string p.directive),
    ("end_marker", .bool p.endMarker), ("emotion_similarity", .float p.emotionSimilarity),
    ("reaction_similarity", .float p.reactionSimilarity),
    ("directive_similarity", .float p.directiveSimilarity)]

/-- `make_llm_response_payload`. -/
def LLMResponsePayload.toJson (p : LLMResponsePayload) : Json := .object p.members

/-- A payload is a dictionary, or a string that is sent as it is. -/
inductive MessagePayload where
  | dict (members : List (String × Json))
  | str (text : String)

section Send

variable (repr : ℚ → String)

/-- `payload_str`. -/
def MessagePayload.text : MessagePayload → String
  | .dict members => Json.dumps repr (.object members)
  | .str text => text

def packet (type : MessageType) (payloadStr : String) : Json :=
  .object [("type", .int type.value), ("payload", .string payloadStr)]

/-- `send_message`: the bytes of the datagram. -/
def sendMessage (type : MessageType) (payload : MessagePayload) : List UInt8 :=
  utf8 (Json.dumps repr (packet type (payload.text repr)))

end Send

/-- **What a response becomes on the other side**: the numbers of the gestures in 32 bits, the similarities
    in single precision. -/
def LLMResponsePayload.received (p : LLMResponsePayload) : LLMResponseData where
  sentence := p.sentence
  emotion := p.emotionalGesture.bmod (2 ^ 32)
  reaction := p.reactionalGesture.bmod (2 ^ 32)
  directive := p.directive
  endMarker := p.endMarker
  emotionSimilarity := Binary32.round p.emotionSimilarity
  reactionSimilarity := Binary32.round p.reactionSimilarity
  directiveSimilarity := Binary32.round p.directiveSimilarity

theorem ofJson_payload (memory : LLMResponseData) (p : LLMResponsePayload) :
    LLMResponseData.ofJson memory p.toJson = some p.received := rfl

end Kufibot
