import Mathlib.Data.Int.Notation

/-!
# `VoiceAgent.MessageTypes` — the numbers that go over the wire

The enumerations that both ends of the UDP bridge declare: `message_types.py` gives every member its
number, `public_data_messages.h` and `gesture_defs.h` list the same names in the same order. A C++
enumeration can hold a number that is none of its enumerators'.
-/

namespace Kufibot

/-- The enumerator with this number, of a C++ enumeration that declares these. -/
def enumerator {α : Type} (declared : List α) (n : Int) : Option α :=
  if 0 ≤ n then declared[n.toNat]? else none

/-- `MessageType` of both sides. -/
inductive MessageType where
  | videoFrame
  | sensorData
  | controlData
  | databaseInsertData
  | llmQuery
  | recognizedSpeech
  | llmResponse
  | engageReaction
  | recognizedGesture
  | gesturePerformanceCompleted
  | interactiveChatStarted
  | sensorReadRequest
  | speakRequest
  | updateRAGDatabaseRequest
  | clearRAGDatabaseRequest
  | showRAGDatabaseRequest
  | aiModeOnCall
  | aiModeOffCall
  | stopPerceptionRequest
  | startPerceptionRequest
  | cameraSnapShotRequest
  | cameraSnapShotResponse
deriving DecidableEq, Repr

namespace MessageType

/-- In the order of `public_data_messages.h`. -/
def declared : List MessageType :=
  [videoFrame, sensorData, controlData, databaseInsertData, llmQuery, recognizedSpeech, llmResponse,
    engageReaction, recognizedGesture, gesturePerformanceCompleted, interactiveChatStarted,
    sensorReadRequest, speakRequest, updateRAGDatabaseRequest, clearRAGDatabaseRequest,
    showRAGDatabaseRequest, aiModeOnCall, aiModeOffCall, stopPerceptionRequest, startPerceptionRequest,
    cameraSnapShotRequest, cameraSnapShotResponse]

/-- `int(msg_type)`. -/
def value : MessageType → Int
  | videoFrame => 0
  | sensorData => 1
  | controlData => 2
  | databaseInsertData => 3
  | llmQuery => 4
  | recognizedSpeech => 5
  | llmResponse => 6
  | engageReaction => 7
  | recognizedGesture => 8
  | gesturePerformanceCompleted => 9
  | interactiveChatStarted => 10
  | sensorReadRequest => 11
  | speakRequest => 12
  | updateRAGDatabaseRequest => 13
  | clearRAGDatabaseRequest => 14
  | showRAGDatabaseRequest => 15
  | aiModeOnCall => 16
  | aiModeOffCall => 17
  | stopPerceptionRequest => 18
  | startPerceptionRequest => 19
  | cameraSnapShotRequest => 20
  | cameraSnapShotResponse => 21

/-- Python's number is C++'s. -/
theorem enumerator_value (t : MessageType) : enumerator declared t.value = some t := by
  cases t <;> rfl

end MessageType

inductive EmotionType where
  | happy
  | angry
  | funny
  | serious
  | curious
  | worried
  | surprised
  | confident
deriving DecidableEq, Repr

namespace EmotionType

/-- In the order of `gesture_defs.h`. -/
def declared : List EmotionType :=
  [happy, angry, funny, serious, curious, worried, surprised, confident]

def name : EmotionType → String
  | happy => "happy"
  | angry => "angry"
  | funny => "funny"
  | serious => "serious"
  | curious => "curious"
  | worried => "worried"
  | surprised => "surprised"
  | confident => "confident"

/-- The number that `message_types.py` gives to the member. -/
def value : EmotionType → Int
  | happy => 0
  | angry => 1
  | funny => 2
  | serious => 3
  | curious => 4
  | worried => 5
  | surprised => 6
  | confident => 7

/-- `EmotionType[name]`, and `name in EmotionType.__members__`. -/
def ofName (name : String) : Option EmotionType := declared.find? fun e => e.name == name

/-- Python's number is C++'s. -/
theorem enumerator_value (e : EmotionType) : enumerator declared e.value = some e := by
  cases e <;> rfl

theorem ofName_name (e : EmotionType) : ofName e.name = some e := by
  cases e <;> rfl

theorem name_of_ofName {name : String} {e : EmotionType} (h : ofName name = some e) : e.name = name := by
  simpa using List.find?_some h

end EmotionType

inductive ReactionType where
  | greeting
  | listening
  | talking
  | accepting
  | rejecting
  | thinking
  | agreeing
deriving DecidableEq, Repr

namespace ReactionType

/-- In the order of `gesture_defs.h`. -/
def declared : List ReactionType :=
  [greeting, listening, talking, accepting, rejecting, thinking, agreeing]

def name : ReactionType → String
  | greeting => "greeting"
  | listening => "listening"
  | talking => "talking"
  | accepting => "accepting"
  | rejecting => "rejecting"
  | thinking => "thinking"
  | agreeing => "agreeing"

/-- The number that `message_types.py` gives to the member. -/
def value : ReactionType → Int
  | greeting => 0
  | listening => 1
  | talking => 2
  | accepting => 3
  | rejecting => 4
  | thinking => 5
  | agreeing => 6

/-- `ReactionType[name]`, and `name in ReactionType.__members__`. -/
def ofName (name : String) : Option ReactionType := declared.find? fun r => r.name == name

/-- Python's number is C++'s. -/
theorem enumerator_value (r : ReactionType) : enumerator declared r.value = some r := by
  cases r <;> rfl

theorem ofName_name (r : ReactionType) : ofName r.name = some r := by
  cases r <;> rfl

theorem name_of_ofName {name : String} {r : ReactionType} (h : ofName name = some r) : r.name = name := by
  simpa using List.find?_some h

end ReactionType

end Kufibot
