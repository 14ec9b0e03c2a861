import Kufibot.Lib.Json
import Kufibot.Messages.Gestures

/-!
# `Operators.JsonParser` — the configuration of the robot

`JsonParserOperator` loads the configuration files into twelve stores. Its six loaders treat what is wrong
with a file each in its own way: most catch everything and keep what they have read so far, a line of a
data set that does not parse is skipped, the gestures and the joint angles catch nothing. A loader is a
function from the content of a file to what it fills in; a motion file can also end the process, when a key
is missing that is read from a `const` value.

What the loaders of the AI configuration read behind the model path of the speech processor is caught and
used by nothing here, so it is left out.
-/

namespace Kufibot

open Lib

/-- What `>>` finds in a file. -/
inductive JsonFile where
  | absent
  | malformed
  | parsed (j : Json)

/-- The file system. A file is read as one JSON value, or line by line; a line that is no JSON is `none`. -/
structure Files where
  json : String → JsonFile
  lines : String → Option (List (Option Json))

/-- `inFile >> j`, which throws if there is nothing to parse. -/
def JsonFile.extract : JsonFile → Outcome Json
  | .parsed j => .ok j
  | .absent | .malformed => .error .exception

structure ConfigPaths where
  aiConfig : String := ""
  gestureConfig : String := ""
  jointAngles : String := ""
  motionDefinitions : String := ""
  ragDataset : String := ""
  reactionSet : String := ""
deriving DecidableEq, Repr

structure DatasetRow where
  input : String
  output : String
deriving DecidableEq, Repr

/-- `AiConfig`, the path that is looked at. -/
structure AiConfig where
  speechProcessorModelPath : String := ""
deriving DecidableEq, Repr

/-- The four tables that are filled from one file. -/
structure Motions where
  emotional : EmotionType → Option MotionDefinition
  reactional : ReactionType → Option MotionDefinition
  directive : DirectiveType → Option MotionDefinition
  idlePosition : JointPositions

structure Gestures where
  emotional : List EmotionalGesture := []
  reactional : List ReactionalGesture := []
  directive : List Directive := []

/-- `std::map<ServoMotorJoint, std::map<GestureJointState, GestureJointAngle>>`, by both keys. -/
abbrev JointAngles := ServoMotorJoint × GestureJointState → Option GestureJointAngle

/-! ## Names -/

/-- The enumerator with this name, or the default of the source. -/
def fromString {α : Type} (declared : List α) (name : α → String) (otherwise : α) (str : String) : α :=
  (declared.find? fun a => name a == str).getD otherwise

namespace DirectiveType

def declared : List DirectiveType := [.followFinger, .stopFollow]

def name : DirectiveType → String
  | .followFinger => "followFinger"
  | .stopFollow => "stopFollow"

end DirectiveType

namespace ServoMotorJoint

def declared : List ServoMotorJoint :=
  [.rightArm, .leftArm, .neck, .headLeftRight, .headUpDown, .eyeRight, .eyeLeft]

/-- `to_string(ServoMotorJoint)`. -/
def name : ServoMotorJoint → String
  | .leftArm => "leftArm"
  | .rightArm => "rightArm"
  | .neck => "neck"
  | .headUpDown => "headUpDown"
  | .headLeftRight => "headLeftRight"
  | .eyeLeft => "eyeLeft"
  | .eyeRight => "eyeRight"

end ServoMotorJoint

namespace GestureJointState

def declared : List GestureJointState := [.fulldown, .fullup, .halfdown, .halfup, .middle]

def name : GestureJointState → String
  | .fullup => "fullup"
  | .halfup => "halfup"
  | .middle => "middle"
  | .halfdown => "halfdown"
  | .fulldown => "fulldown"

end GestureJointState

namespace JsonParserOperator

def emotionTypeFromString : String → EmotionType := fromString EmotionType.declared EmotionType.name .angry

def reactionTypeFromString : String → ReactionType :=
  fromString ReactionType.declared ReactionType.name .greeting

def directiveTypeFromString : String → DirectiveType :=
  fromString DirectiveType.declared DirectiveType.name .followFinger

def servoJointFromString : String → ServoMotorJoint :=
  fromString ServoMotorJoint.declared ServoMotorJoint.name .eyeLeft

def gestureStateFromString : String → GestureJointState :=
  fromString GestureJointState.declared GestureJointState.name .fulldown

/-! ## The motion file -/

/-- `j[key]` of a `const` value, as a string. -/
def stringAt (j : Json) (key : String) : Outcome String := do
  let v ← j.constIndex key
  Outcome.ofOption v.asString

/-- `j[key]` of a `const` value, as an `int`. -/
def intAt (j : Json) (key : String) : Outcome Int32 := do
  let v ← j.constIndex key
  Outcome.ofOption (v.asInt.map Int32.ofInt)

/-- An item of a joint map. -/
def parseJoint (item : String × Json) : Outcome (ServoMotorJoint × GestureJointState) := do
  let state ← Outcome.ofOption item.2.asString
  return (servoJointFromString item.1, gestureStateFromString state)

def parseJointPositions (jointsJson : Json) : Outcome JointPositions :=
  (fill parseJoint setEntry (fun _ => none) jointsJson.entries).escaping

/-- The joint map that is `j[key]`, of a `const` value. -/
def jointsAt (j : Json) (key : String) : Outcome JointPositions := do
  let jointsJson ← j.constIndex key
  parseJointPositions jointsJson

def parseMotionSequenceItem (sequenceJson : Json) : Outcome MotionSequenceItem := do
  let time ← intAt sequenceJson "time"
  let joints ← jointsAt sequenceJson "joints"
  return { time, joints }

/-- The sequence, if it exists. -/
def parseSequence (motionJson : Json) : Outcome (List MotionSequenceItem) :=
  if motionJson.contains "sequence" then do
    let sequence ← motionJson.constIndex "sequence"
    (fill parseMotionSequenceItem (fun items item => items ++ [item]) [] sequence.values).escaping
  else return []

/-- `parseEmotionalMotion`, `parseReactionalMotion` and `parseDirectiveMotion`. -/
def parseMotion (motionJson : Json) : Outcome MotionDefinition := do
  let name ← stringAt motionJson "name"
  let description ← stringAt motionJson "description"
  let duration ← intAt motionJson "duration"
  let joints ← jointsAt motionJson "joints"
  let sequence ← parseSequence motionJson
  return { name, description, duration, joints, sequence }

/-- An item of a table of motions; the key is converted first. -/
def parseEntry {α : Type} (typeFromString : String → α) (item : String × Json) :
    Outcome (α × MotionDefinition) := do
  let motion ← parseMotion item.2
  return (typeFromString item.1, motion)

/-- The items of `j["motions"][table]`, none if one of the two is missing. -/
def motionItems (table : String) (j : Json) : List (String × Json) :=
  match (j.member "motions").bind (·.member table) with
  | some items => items.entries
  | none => []

def loadEmotionalMotions (j : Json) (m : Motions) : Filled Motions :=
  let filled := fill (parseEntry emotionTypeFromString) setEntry m.emotional
    (motionItems "emotional_gestures" j)
  ⟨{ m with emotional := filled.store }, filled.outcome⟩

def loadReactionalMotions (j : Json) (m : Motions) : Filled Motions :=
  let filled := fill (parseEntry reactionTypeFromString) setEntry m.reactional
    (motionItems "reactional_gestures" j)
  ⟨{ m with reactional := filled.store }, filled.outcome⟩

def loadDirectiveMotions (j : Json) (m : Motions) : Filled Motions :=
  let filled := fill (parseEntry directiveTypeFromString) setEntry m.directive (motionItems "directives" j)
  ⟨{ m with directive := filled.store }, filled.outcome⟩

def loadIdlePosition (j : Json) (m : Motions) : Filled Motions :=
  match (j.member "default_idle").bind (·.member "joints") with
  | none => ⟨m, .ok ()⟩
  | some joints =>
      match parseJointPositions joints with
      | .ok idlePosition => ⟨{ m with idlePosition }, .ok ()⟩
      | .error e => ⟨m, .error e⟩

/-- The `try` block, behind the parser. -/
def loadMotions (j : Json) (m : Motions) : Filled Motions :=
  (((loadEmotionalMotions j m).andThen (loadReactionalMotions j)).andThen
    (loadDirectiveMotions j)).andThen (loadIdlePosition j)

def loadMotionsFromFile (file : JsonFile) (m : Motions) : Outcome Motions :=
  match file with
  | .absent | .malformed => .ok m
  | .parsed j => (loadMotions j m).caught

/-! ## The other files -/

/-- `j.value(key, "")`. -/
def valueOrEmpty (j : Json) (key : String) : Outcome String :=
  match j with
  | .object _ => Outcome.ofOption (j.valueOr Json.asString key "")
  | _ => .error .exception

/-- The fields that are read, in their order, with what each is read into. -/
def configPathFields : List (String × (ConfigPaths → String → ConfigPaths)) :=
  [("ai_config", fun paths aiConfig => { paths with aiConfig }),
    ("gesture_config", fun paths gestureConfig => { paths with gestureConfig }),
    ("joint_angles", fun paths jointAngles => { paths with jointAngles }),
    ("motion_definitions", fun paths motionDefinitions => { paths with motionDefinitions }),
    ("rag_dataset", fun paths ragDataset => { paths with ragDataset }),
    ("reaction_set", fun paths reactionSet => { paths with reactionSet })]

/-- A field, read into the paths. -/
def readConfigPath (j : Json) (field : String × (ConfigPaths → String → ConfigPaths)) :
    Outcome (ConfigPaths → ConfigPaths) := do
  let path ← valueOrEmpty j field.1
  return fun paths => field.2 paths path

/-- Everything is caught: the fields up to the one that fails are filled in. -/
def loadConfigPaths (file : JsonFile) : ConfigPaths :=
  match file.extract with
  | .error _ => {}
  | .ok j => (fill (readConfigPath j) (fun paths read => read paths) {} configPathFields).store

def loadAiConfig (file : JsonFile) : AiConfig :=
  match file.extract with
  | .error _ => {}
  | .ok j =>
      match j.member "speechPrecessor" with
      | none => {}
      | some sp =>
          match valueOrEmpty sp "modelPath" with
          | .ok modelPath => { speechProcessorModelPath := modelPath }
          | .error _ => {}

/-- A loop over the lines: one that is no JSON is skipped, any other exception ends it. -/
def loadLines {α : Type} (row : Json → Outcome α) (lines : Option (List (Option Json))) : List α :=
  (fill row (fun rows r => rows ++ [r]) [] ((lines.getD []).reduceOption)).store

def loadRagDataset : Option (List (Option Json)) → List DatasetRow :=
  loadLines fun lineJson => do
    let input ← valueOrEmpty lineJson "input"
    let output ← valueOrEmpty lineJson "output"
    return { input, output }

def loadFaceReactions : Option (List (Option Json)) → List FaceReaction :=
  loadLines fun lineJson => do
    let gesture ← valueOrEmpty lineJson "gesture"
    let reaction ← valueOrEmpty lineJson "reaction"
    return { emotion := gesture, reaction }

def parseEmotionalGesture (item : Json) : Outcome EmotionalGesture := do
  let type ← stringAt item "type"
  let tag ← stringAt item "tag"
  let description ← stringAt item "description"
  return { emotion := emotionTypeFromString type, symbol := tag, description }

def parseReactionalGesture (item : Json) : Outcome ReactionalGesture := do
  let type ← stringAt item "type"
  let reply ← stringAt item "reply"
  let tag ← stringAt item "tag"
  let description ← stringAt item "description"
  return { reaction := reactionTypeFromString type, antiReaction := reactionTypeFromString reply,
           symbol := tag, description }

def parseDirective (item : Json) : Outcome Directive := do
  let type ← stringAt item "type"
  let tag ← stringAt item "tag"
  let description ← stringAt item "description"
  return { directive := directiveTypeFromString type, symbol := tag, description }

/-- The loop over `j[key]`, on a value that is not `const`. -/
def loadList {α : Type} (parse : Json → Outcome α) (j : Json) (key : String) : Outcome (List α) := do
  let items ← Outcome.ofOption (j.index key)
  (fill parse (fun list item => list ++ [item]) [] items.values).escaping

/-- Nothing is caught. -/
def loadGesturesFromFile (file : JsonFile) : Outcome Gestures := do
  let j ← file.extract
  let emotional ← loadList parseEmotionalGesture j "emotional_gestures"
  let reactional ← loadList parseReactionalGesture j "reactional_gestures"
  let directive ← loadList parseDirective j "directives"
  return { emotional, reactional, directive }

/-- The angle of a state of a joint; the value is not `const`. -/
def parseJointAngle (item : String × (String × Json)) :
    Outcome ((ServoMotorJoint × GestureJointState) × GestureJointAngle) := do
  let angle ← Outcome.ofOption ((item.2.2.index "angle").bind Json.asInt)
  let symbol ← Outcome.ofOption ((item.2.2.index "name").bind Json.asString)
  return ((servoJointFromString item.1, gestureStateFromString item.2.1), { angle, symbol })

/-- The states of all joints, with the name of their joint. -/
def jointAngleItems (j : Json) : List (String × (String × Json)) :=
  j.entries.flatMap fun joint => joint.2.entries.map fun state => (joint.1, state)

/-- Nothing is caught. -/
def loadJointAnglesFromJson (file : JsonFile) : Outcome JointAngles := do
  let j ← file.extract
  (fill parseJointAngle setEntry (fun _ => none) (jointAngleItems j)).escaping

end JsonParserOperator

/-! ## The operator -/

structure JsonParserOperator where
  ragDataset : Option (List DatasetRow) := none
  emotionalMotions : Option (EmotionType → Option MotionDefinition) := none
  reactionalMotions : Option (ReactionType → Option MotionDefinition) := none
  directiveMotions : Option (DirectiveType → Option MotionDefinition) := none
  idlePosition : Option JointPositions := none
  emotionalList : Option (List EmotionalGesture) := none
  reactionalList : Option (List ReactionalGesture) := none
  directiveList : Option (List Directive) := none
  faceReactionList : Option (List FaceReaction) := none
  jointAngles : Option JointAngles := none
  configPaths : Option ConfigPaths := none
  aiConfig : Option AiConfig := none

namespace JsonParserOperator

/-- `CONFIG_PATHS_FILE`. -/
def configPathsFile : String := "/usr/local/etc/config_paths.json"

def shutdown (_p : JsonParserOperator) : JsonParserOperator := {}

def isReady (p : JsonParserOperator) : Bool :=
  p.ragDataset.isSome && p.emotionalMotions.isSome && p.reactionalMotions.isSome &&
    p.directiveMotions.isSome && p.idlePosition.isSome && p.emotionalList.isSome &&
    p.reactionalList.isSome && p.directiveList.isSome && p.faceReactionList.isSome &&
    p.jointAngles.isSome && p.configPaths.isSome && p.aiConfig.isSome

/-- `_emotionalMotions->empty()`; without a value there is nothing to point to. -/
def emotionalMotionsEmpty (p : JsonParserOperator) : Outcome Bool :=
  match p.emotionalMotions with
  | some table => .ok (EmotionType.declared.all fun emotion => (table emotion).isNone)
  | none => .error .undefined

def noMotions : Motions := ⟨fun _ => none, fun _ => none, fun _ => none, fun _ => none⟩

/-- The motions, and the first test. -/
def initializeMotions (file : JsonFile) (p : JsonParserOperator) : Outcome JsonParserOperator := do
  let motions ← loadMotionsFromFile file noMotions
  let p := { p with
    emotionalMotions := some motions.emotional
    reactionalMotions := some motions.reactional
    directiveMotions := some motions.directive
    idlePosition := some motions.idlePosition }
  if ← p.emotionalMotionsEmpty then
    return { p with
      emotionalMotions := none, reactionalMotions := none, directiveMotions := none, idlePosition := none }
  else return p

/-- The gestures, and the second test, which looks at the motions again. -/
def initializeGestures (file : JsonFile) (p : JsonParserOperator) : Outcome JsonParserOperator := do
  let gestures ← loadGesturesFromFile file
  let p := { p with
    emotionalList := some gestures.emotional
    reactionalList := some gestures.reactional
    directiveList := some gestures.directive }
  if ← p.emotionalMotionsEmpty then
    return { p with emotionalList := none, reactionalList := none, directiveList := none }
  else return p

def initializeJointAngles (file : JsonFile) (p : JsonParserOperator) : Outcome JsonParserOperator := do
  let angles ← loadJointAnglesFromJson file
  let empty := ServoMotorJoint.declared.all fun joint =>
    GestureJointState.declared.all fun state => (angles (joint, state)).isNone
  return { p with jointAngles := if empty then none else some angles }

/-- `initialize`: the new state, and what is returned. -/
def initializeOperator (files : Files) (p : JsonParserOperator) : Outcome (JsonParserOperator × Bool) := do
  let p := p.shutdown
  let paths := loadConfigPaths (files.json configPathsFile)
  if paths.aiConfig = "" then return (p, false)
  let p := { p with
    configPaths := some paths
    ragDataset := some (loadRagDataset (files.lines paths.ragDataset))
    faceReactionList := some (loadFaceReactions (files.lines paths.reactionSet)) }
  let p ← initializeMotions (files.json paths.motionDefinitions) p
  let p ← initializeGestures (files.json paths.gestureConfig) p
  let p ← initializeJointAngles (files.json paths.jointAngles) p
  let aiConfig := loadAiConfig (files.json paths.aiConfig)
  let p := { p with aiConfig := if aiConfig.speechProcessorModelPath = "" then none else some aiConfig }
  return (p, p.isReady)

end JsonParserOperator

end Kufibot
