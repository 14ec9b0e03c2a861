import Kufibot.Lib.JsonWrite
import Kufibot.Operators.Configuration

/-!
# `Operators.MotionFile` — motion files that are written and read back

`writeMotionsToFile` builds a JSON value by assignments: a part that is empty is never assigned to, and is
not in the file. The loader reads back what is there (`parseMotion_writeMotion`), but it expects the joints
of every motion, and of every item of a sequence. `motions_round_trip_iff` shows that a file is read back as
it was written iff none of these is empty.
-/

namespace Kufibot

open Lib

/-- The entries of a `std::map`, in the order of their keys. -/
def mapEntries {α β : Type} (declared : List α) (table : α → Option β) : List (α × β) :=
  declared.filterMap fun a => (table a).map fun b => (a, b)

namespace JsonParserOperator

/-! ## The writer -/

/-- `motionJson["joints"][to_string(joint)] = to_string(state)`, for all joints. -/
def writeJoints (joints : JointPositions) (motionJson : Json) : Json :=
  (mapEntries ServoMotorJoint.declared joints).foldl
    (fun j entry => j.modify "joints" (·.set entry.1.name (.string entry.2.name))) motionJson

def writeSequenceItem (seqItem : MotionSequenceItem) : Json :=
  writeJoints seqItem.joints (Json.null.set "time" (.int seqItem.time.toInt))

def writeSequence (sequence : List MotionSequenceItem) (motionJson : Json) : Json :=
  if sequence.isEmpty then motionJson
  else
    sequence.foldl
      (fun j seqItem => j.modify "sequence" (·.pushBack (writeSequenceItem seqItem))) motionJson

def writeHeader (motion : MotionDefinition) : Json :=
  let motionJson := Json.null.set "name" (.string motion.name)
  let motionJson := motionJson.set "description" (.string motion.description)
  motionJson.set "duration" (.int motion.duration.toInt)

/-- The body of the three loops, which is the same. -/
def writeMotion (motion : MotionDefinition) : Json :=
  writeSequence motion.sequence (writeJoints motion.joints (writeHeader motion))

/-- `j["motions"][kind][key] = motionJson`, for all motions of a table. -/
def writeTable {α : Type} (declared : List α) (name : α → String) (kind : String)
    (table : α → Option MotionDefinition) (j : Json) : Json :=
  (mapEntries declared table).foldl
    (fun j entry => j.modify "motions" (·.modify kind (·.set (name entry.1) (writeMotion entry.2)))) j

def writeEmotionalMotions : (EmotionType → Option MotionDefinition) → Json → Json :=
  writeTable EmotionType.declared EmotionType.name "emotional_gestures"

def writeReactionalMotions : (ReactionType → Option MotionDefinition) → Json → Json :=
  writeTable ReactionType.declared ReactionType.name "reactional_gestures"

def writeDirectiveMotions : (DirectiveType → Option MotionDefinition) → Json → Json :=
  writeTable DirectiveType.declared DirectiveType.name "directives"

def writeIdlePosition (idlePosition : JointPositions) (j : Json) : Json :=
  let j := (mapEntries ServoMotorJoint.declared idlePosition).foldl
    (fun j entry => j.modify "default_idle"
      (·.modify "joints" (·.set entry.1.name (.string entry.2.name)))) j
  let j := j.modify "default_idle" (·.set "name" (.string "idle"))
  j.modify "default_idle" (·.set "description" (.string "Neutral resting position"))

def writeTransitionSettings (j : Json) : Json :=
  let j := j.modify "transition_settings" (·.set "default_transition_time" (.int 500))
  let j := j.modify "transition_settings" (·.set "smooth_interpolation" (.bool true))
  j.modify "transition_settings" (·.set "ease_type" (.string "ease-in-out"))

/-- What `writeMotionsToFile` dumps. -/
def writeMotions (m : Motions) : Json :=
  let j := writeEmotionalMotions m.emotional .null
  let j := writeReactionalMotions m.reactional j
  let j := writeDirectiveMotions m.directive j
  let j := writeIdlePosition m.idlePosition j
  writeTransitionSettings j

end JsonParserOperator

/-! ## Names -/

namespace JsonParserOperator

theorem emotionTypeFromString_name (emotion : EmotionType) :
    emotionTypeFromString emotion.name = emotion := by
  cases emotion <;> rfl

theorem reactionTypeFromString_name (reaction : ReactionType) :
    reactionTypeFromString reaction.name = reaction := by
  cases reaction <;> rfl

theorem directiveTypeFromString_name (directive : DirectiveType) :
    directiveTypeFromString directive.name = directive := by
  cases directive <;> rfl

theorem servoJointFromString_name (joint : ServoMotorJoint) : servoJointFromString joint.name = joint := by
  cases joint <;> rfl

theorem gestureStateFromString_name (state : GestureJointState) :
    gestureStateFromString state.name = state := by
  cases state <;> rfl

end JsonParserOperator

/-! ## Tables -/

section Tables

variable {α β : Type} {declared : List α} {table : α → Option β}

theorem mem_mapEntries (hall : ∀ a, a ∈ declared) {a : α} {b : β} :
    (a, b) ∈ mapEntries declared table ↔ table a = some b := by
  unfold mapEntries
  rw [List.mem_filterMap]
  constructor
  · rintro ⟨a', -, h⟩
    obtain ⟨b', hb', he⟩ := Option.map_eq_some_iff.mp h
    cases he
    exact hb'
  · intro h
    exact ⟨a, hall a, by rw [h]; rfl⟩

/-- No two entries have the same key. -/
theorem nodup_mapEntries (hnodup : declared.Nodup) (f : α → String) (hf : Function.Injective f)
    (g : α × β → Json) :
    (((mapEntries declared table).map fun e => (f e.1, g e)).map Prod.fst).Nodup := by
  have hkeys : ∀ l : List α, (mapEntries l table).map Prod.fst = l.filter fun a => (table a).isSome := by
    intro l
    induction l with
    | nil => rfl
    | cons a l ih =>
        unfold mapEntries at ih ⊢
        cases htable : table a with
        | none => simp [htable, ih]
        | some b => simp [htable, ih]
  have hnames : ((mapEntries declared table).map fun e => (f e.1, g e)).map Prod.fst =
      ((mapEntries declared table).map Prod.fst).map f := by simp
  rw [hnames, hkeys]
  exact (hnodup.filter _).map hf

end Tables

namespace JsonParserOperator

theorem servoMotorJoint_name_injective : Function.Injective ServoMotorJoint.name :=
  Function.LeftInverse.injective servoJointFromString_name

/-- The object of the entries of a table. -/
def tableJson {α β : Type} (declared : List α) (name : α → String) (write : β → Json)
    (table : α → Option β) : Json :=
  .object ((mapEntries declared table).map fun e => (name e.1, write e.2))

/-- There is something in the table. -/
def Occupied {α β : Type} (table : α → Option β) : Prop := ∃ a, (table a).isSome

theorem mapEntries_eq_nil_iff {α β : Type} {declared : List α} {table : α → Option β}
    (hall : ∀ a, a ∈ declared) : mapEntries declared table = [] ↔ ¬Occupied table := by
  rw [List.eq_nil_iff_forall_not_mem]
  constructor
  · rintro h ⟨a, ha⟩
    obtain ⟨b, hb⟩ := Option.isSome_iff_exists.mp ha
    exact h (a, b) ((mem_mapEntries hall).mpr hb)
  · rintro h ⟨a, b⟩ hmem
    exact h ⟨a, by rw [(mem_mapEntries hall).mp hmem]; rfl⟩

/-- **A loop that assigns the entries** of a table, if there are any, builds their object. -/
theorem foldl_entries {α β : Type} {declared : List α} {name : α → String} {write : β → Json}
    {table : α → Option β} (hall : ∀ a, a ∈ declared) (hnodup : declared.Nodup)
    (hname : Function.Injective name) (hoccupied : Occupied table) :
    (mapEntries declared table).foldl (fun (j : Json) e => j.set (name e.1) (write e.2)) .null =
      tableJson declared name write table := by
  have hne : (mapEntries declared table).map (fun e => (name e.1, write e.2)) ≠ [] := by
    rw [Ne, List.map_eq_nil_iff, mapEntries_eq_nil_iff hall]
    exact not_not_intro hoccupied
  have hfold := Json.foldl_set hne (nodup_mapEntries hnodup name hname fun e => write e.2)
  rw [List.foldl_map] at hfold
  exact hfold

/-- What a loop over the written entries finds. -/
theorem mem_entries_tableJson {α β : Type} {declared : List α} {name : α → String} {write : β → Json}
    {table : α → Option β} (hall : ∀ a, a ∈ declared) {item : String × Json} :
    item ∈ (tableJson declared name write table).entries ↔
      ∃ a b, table a = some b ∧ item = (name a, write b) := by
  unfold tableJson
  rw [Json.mem_entries_object, List.mem_map]
  constructor
  · rintro ⟨⟨a, b⟩, hmem, rfl⟩
    exact ⟨a, b, (mem_mapEntries hall).mp hmem, rfl⟩
  · rintro ⟨a, b, htable, rfl⟩
    exact ⟨(a, b), (mem_mapEntries hall).mpr htable, rfl⟩

/-! ## Joints -/

def jointsJson : JointPositions → Json :=
  tableJson ServoMotorJoint.declared ServoMotorJoint.name fun state => .string state.name

theorem mem_declared (joint : ServoMotorJoint) : joint ∈ ServoMotorJoint.declared := by
  cases joint <;> decide

theorem entries_ne_nil {joints : JointPositions} (hoccupied : Occupied joints) :
    mapEntries ServoMotorJoint.declared joints ≠ [] :=
  fun h => (mapEntries_eq_nil_iff mem_declared).mp h hoccupied

theorem writeJoints_of_empty {joints : JointPositions} (h : ¬Occupied joints) (j : Json) :
    writeJoints joints j = j := by
  rw [writeJoints, (mapEntries_eq_nil_iff mem_declared).mpr h]
  rfl

theorem writeJoints_of_occupied {joints : JointPositions} (h : Occupied joints) {j : Json}
    (hj : j.member "joints" = none) : writeJoints joints j = j.set "joints" (jointsJson joints) := by
  have hget : j.get "joints" = .null := by rw [Json.get, hj]; rfl
  have hfold := Json.foldl_modify (fun v (entry : ServoMotorJoint × GestureJointState) =>
    v.set entry.1.name (.string entry.2.name)) "joints" (entries_ne_nil h) j
  rw [writeJoints, hfold, Json.modify, hget, jointsJson, ← foldl_entries mem_declared (by decide)
    servoMotorJoint_name_injective h]

theorem member_writeJoints {joints : JointPositions} (h : Occupied joints) {j : Json}
    (hj : j.member "joints" = none) : (writeJoints joints j).member "joints" = some (jointsJson joints) := by
  rw [writeJoints_of_occupied h hj, Json.member_set, if_pos rfl]

/-- The other members stay. -/
theorem member_writeJoints_of_ne (joints : JointPositions) {j : Json} (hj : j.member "joints" = none)
    {key : String} (hkey : key ≠ "joints") : (writeJoints joints j).member key = j.member key := by
  by_cases h : Occupied joints
  · rw [writeJoints_of_occupied h hj, Json.member_set, if_neg hkey]
  · rw [writeJoints_of_empty h]

/-- **The joints are read back.** -/
theorem parseJointPositions_jointsJson (joints : JointPositions) :
    parseJointPositions (jointsJson joints) = .ok joints := by
  have hread : ∀ joint (state : GestureJointState),
      parseJoint (joint.name, .string state.name) = .ok (joint, state) := by
    intro joint state
    show Except.ok (servoJointFromString joint.name, gestureStateFromString state.name) = _
    rw [servoJointFromString_name, gestureStateFromString_name]
  have hfill : fill parseJoint setEntry (fun _ => none) (jointsJson joints).entries = ⟨joints, .ok ()⟩ := by
    refine fill_table ?_ ?_
    · intro item hitem
      obtain ⟨joint, state, htable, rfl⟩ := (mem_entries_tableJson mem_declared).mp hitem
      exact ⟨joint, state, hread joint state, htable⟩
    · intro joint state htable
      exact ⟨_, (mem_entries_tableJson mem_declared).mpr ⟨joint, state, htable, rfl⟩, hread joint state⟩
  rw [parseJointPositions, hfill]
  rfl

theorem stringAt_of_member {j : Json} {key str : String} (h : j.member key = some (.string str)) :
    stringAt j key = .ok str := by
  rw [stringAt, Json.constIndex_eq_ok.mpr h]
  rfl

theorem intAt_of_member {j : Json} {key : String} {n : Int32} (h : j.member key = some (.int n.toInt)) :
    intAt j key = .ok n := by
  rw [intAt, Json.constIndex_eq_ok.mpr h]
  show Except.ok (Int32.ofInt (n.toInt.bmod (2 ^ 32))) = _
  rw [show n.toInt.bmod (2 ^ 32) = n.toInt from Int32.toInt_bmod n, Int32.ofInt_toInt]

theorem jointsAt_of_member {j : Json} {joints : JointPositions}
    (h : j.member "joints" = some (jointsJson joints)) : jointsAt j "joints" = .ok joints := by
  rw [jointsAt, Json.constIndex_eq_ok.mpr h]
  exact parseJointPositions_jointsJson joints

theorem hasJoints_of_member {j : Json} {joints : JointPositions}
    (h : j.member "joints" = some (jointsJson joints)) : HasJoints j :=
  (jointsAt_reads j).ok.mp ⟨joints, jointsAt_of_member h⟩

/-! ## Items of a sequence -/

/-- What is in an item before its joints are. -/
theorem item_header (time : Int32) : (Json.null.set "time" (.int time.toInt)).member "joints" = none := by
  simp [Json.member_set, Json.member_null]

theorem member_time (item : MotionSequenceItem) :
    (writeSequenceItem item).member "time" = some (.int item.time.toInt) := by
  rw [writeSequenceItem, member_writeJoints_of_ne item.joints (item_header item.time) (by decide),
    Json.member_set, if_pos rfl]

theorem parseMotionSequenceItem_write {item : MotionSequenceItem} (h : Occupied item.joints) :
    parseMotionSequenceItem (writeSequenceItem item) = .ok item := by
  have hjoints : (writeSequenceItem item).member "joints" = some (jointsJson item.joints) :=
    member_writeJoints h (item_header item.time)
  rw [parseMotionSequenceItem, intAt_of_member (member_time item), jointsAt_of_member hjoints]
  rfl

/-- An item that moves no joint is not readable: its joints are not in the file. -/
theorem itemLacksKey_write {item : MotionSequenceItem} (h : ¬Occupied item.joints) :
    ItemLacksKey (writeSequenceItem item) := by
  refine .inr ⟨⟨_, member_time item, trivial⟩, ?_⟩
  rw [writeSequenceItem, writeJoints_of_empty h]
  exact ⟨Json.isObject_set .., item_header item.time⟩

theorem itemReadable_write_iff (item : MotionSequenceItem) :
    ItemReadable (writeSequenceItem item) ↔ Occupied item.joints := by
  constructor
  · rintro ⟨-, joints, hmember, -⟩
    by_contra h
    rw [writeSequenceItem, writeJoints_of_empty h, item_header] at hmember
    cases hmember
  · exact fun h => (parseMotionSequenceItem_reads _).ok.mp ⟨item, parseMotionSequenceItem_write h⟩

/-! ## Motions -/

theorem writeSequence_cons {sequence : List MotionSequenceItem} (hne : sequence ≠ []) {j : Json}
    (hj : j.member "sequence" = none) :
    writeSequence sequence j = j.set "sequence" (.array (sequence.map writeSequenceItem)) := by
  have hget : j.get "sequence" = .null := by rw [Json.get, hj]; rfl
  have hfold := Json.foldl_modify (fun v seqItem => v.pushBack (writeSequenceItem seqItem)) "sequence" hne j
  have hmap : sequence.map writeSequenceItem ≠ [] := mt List.map_eq_nil_iff.mp hne
  rw [writeSequence, if_neg (by simpa using hne), hfold, Json.modify, hget, ← Json.foldl_pushBack hmap,
    List.foldl_map]

theorem member_writeSequence_of_ne (sequence : List MotionSequenceItem) {j : Json}
    (hj : j.member "sequence" = none) {key : String} (hkey : key ≠ "sequence") :
    (writeSequence sequence j).member key = j.member key := by
  by_cases hne : sequence = []
  · rw [hne]
    rfl
  · rw [writeSequence_cons hne hj, Json.member_set, if_neg hkey]

theorem header_isObject (motion : MotionDefinition) : (writeHeader motion).IsObject := by
  unfold writeHeader
  exact Json.isObject_set ..

theorem header_joints (motion : MotionDefinition) : (writeHeader motion).member "joints" = none := by
  simp [writeHeader, Json.member_set, Json.member_null]

/-- Before the sequence is written, there is none. -/
theorem header_sequence (motion : MotionDefinition) :
    (writeJoints motion.joints (writeHeader motion)).member "sequence" = none := by
  rw [member_writeJoints_of_ne motion.joints (header_joints motion) (by decide)]
  simp [writeHeader, Json.member_set, Json.member_null]

/-- The header is found in the motion. -/
theorem member_writeMotion (motion : MotionDefinition) {key : String} (hjoints : key ≠ "joints")
    (hsequence : key ≠ "sequence") : (writeMotion motion).member key = (writeHeader motion).member key := by
  rw [writeMotion, member_writeSequence_of_ne motion.sequence (header_sequence motion) hsequence,
    member_writeJoints_of_ne motion.joints (header_joints motion) hjoints]

theorem member_name (motion : MotionDefinition) :
    (writeMotion motion).member "name" = some (.string motion.name) := by
  rw [member_writeMotion motion (by decide) (by decide)]
  simp [writeHeader, Json.member_set]

theorem member_description (motion : MotionDefinition) :
    (writeMotion motion).member "description" = some (.string motion.description) := by
  rw [member_writeMotion motion (by decide) (by decide)]
  simp [writeHeader, Json.member_set]

theorem member_duration (motion : MotionDefinition) :
    (writeMotion motion).member "duration" = some (.int motion.duration.toInt) := by
  rw [member_writeMotion motion (by decide) (by decide)]
  simp [writeHeader, Json.member_set]

theorem member_joints {motion : MotionDefinition} (h : Occupied motion.joints) :
    (writeMotion motion).member "joints" = some (jointsJson motion.joints) := by
  rw [writeMotion, member_writeSequence_of_ne motion.sequence (header_sequence motion) (by decide),
    member_writeJoints h (header_joints motion)]

theorem member_joints_of_empty {motion : MotionDefinition} (h : ¬Occupied motion.joints) :
    (writeMotion motion).member "joints" = none := by
  rw [writeMotion, member_writeSequence_of_ne motion.sequence (header_sequence motion) (by decide),
    writeJoints_of_empty h, header_joints]

theorem member_sequence_nil {motion : MotionDefinition} (h : motion.sequence = []) :
    (writeMotion motion).member "sequence" = none := by
  rw [writeMotion, h]
  exact header_sequence motion

theorem member_sequence_cons {motion : MotionDefinition} (hne : motion.sequence ≠ []) :
    (writeMotion motion).member "sequence" = some (.array (motion.sequence.map writeSequenceItem)) := by
  rw [writeMotion, writeSequence_cons hne (header_sequence motion), Json.member_set, if_pos rfl]

theorem sequenceItems_write (motion : MotionDefinition) :
    sequenceItems (writeMotion motion) = motion.sequence.map writeSequenceItem := by
  unfold sequenceItems
  by_cases hne : motion.sequence = []
  · rw [member_sequence_nil hne, hne]
    rfl
  · rw [member_sequence_cons hne]
    exact Json.values_array _

/-- Every part of the motion moves a joint. -/
def MovesJoints (motion : MotionDefinition) : Prop :=
  Occupied motion.joints ∧ ∀ item ∈ motion.sequence, Occupied item.joints

theorem motionReadable_write_iff (motion : MotionDefinition) :
    MotionReadable (writeMotion motion) ↔ MovesJoints motion := by
  constructor
  · intro h
    refine ⟨?_, fun item hitem => (itemReadable_write_iff item).mp (h.sequence _ ?_)⟩
    · obtain ⟨joints, hmember, -⟩ := h.joints
      by_contra hempty
      rw [member_joints_of_empty hempty] at hmember
      cases hmember
    · rw [sequenceItems_write]
      exact List.mem_map_of_mem hitem
  · rintro ⟨hjoints, hsequence⟩
    refine ⟨⟨_, member_name motion⟩, ⟨_, member_description motion⟩, ⟨_, member_duration motion, trivial⟩,
      hasJoints_of_member (member_joints hjoints), ?_⟩
    rw [sequenceItems_write, List.forall_mem_map]
    exact fun item hitem => (itemReadable_write_iff item).mpr (hsequence item hitem)

/-- **A missing key**: a motion with a part that moves no joint is written without the joints of it. -/
theorem motionLacksKey_write {motion : MotionDefinition} (h : ¬MovesJoints motion) :
    MotionLacksKey (writeMotion motion) := by
  refine .inr ⟨⟨_, member_name motion⟩, .inr ⟨⟨_, member_description motion⟩, .inr
    ⟨⟨_, member_duration motion, trivial⟩, ?_⟩⟩⟩
  by_cases hjoints : Occupied motion.joints
  · refine .inr ⟨hasJoints_of_member (member_joints hjoints), ?_⟩
    rw [sequenceItems_write]
    by_contra hlacks
    refine h ⟨hjoints, fun item hitem => (itemReadable_write_iff item).mp ?_⟩
    refine forall_readable (List.forall_mem_map.mpr fun item _ => ?_) hlacks _ (List.mem_map_of_mem hitem)
    by_cases hitem : Occupied item.joints
    · exact .inl ((itemReadable_write_iff item).mpr hitem)
    · exact .inr (itemLacksKey_write hitem)
  · refine .inl ⟨?_, member_joints_of_empty hjoints⟩
    rw [writeMotion]
    by_cases hne : motion.sequence = []
    · rw [hne, writeJoints_of_empty hjoints]
      exact header_isObject motion
    · rw [writeSequence_cons hne (header_sequence motion)]
      exact Json.isObject_set ..

theorem parseSequence_write {motion : MotionDefinition}
    (h : ∀ item ∈ motion.sequence, Occupied item.joints) :
    parseSequence (writeMotion motion) = .ok motion.sequence := by
  unfold parseSequence Json.contains
  by_cases hne : motion.sequence = []
  · rw [member_sequence_nil hne, hne]
    rfl
  · have hmember := member_sequence_cons hne
    rw [hmember, if_pos Option.isSome_some, Json.constIndex_eq_ok.mpr hmember]
    have hfill : fill parseMotionSequenceItem (fun items item => items ++ [item]) []
        (motion.sequence.map writeSequenceItem) = ⟨[] ++ motion.sequence, .ok ()⟩ :=
      fill_list [] fun item hitem => parseMotionSequenceItem_write (h item hitem)
    show (fill _ _ [] (Json.array _).values).escaping = _
    rw [Json.values_array, hfill]
    rfl

/-- **A motion is read back**, if every part of it moves a joint. -/
theorem parseMotion_write {motion : MotionDefinition} (h : MovesJoints motion) :
    parseMotion (writeMotion motion) = .ok motion := by
  rw [parseMotion, stringAt_of_member (member_name motion), stringAt_of_member (member_description motion),
    intAt_of_member (member_duration motion), jointsAt_of_member (member_joints h.1),
    parseSequence_write h.2]
  rfl

/-! ## Tables of motions -/

section WriteTable

variable {α : Type} {declared : List α} {name : α → String} {table : α → Option MotionDefinition}

theorem writeTable_of_empty (hall : ∀ a, a ∈ declared) (h : ¬Occupied table) (kind : String) (j : Json) :
    writeTable declared name kind table j = j := by
  rw [writeTable, (mapEntries_eq_nil_iff hall).mpr h]
  rfl

theorem writeTable_of_occupied (hall : ∀ a, a ∈ declared) (h : Occupied table) (kind : String) (j : Json) :
    writeTable declared name kind table j = j.modify "motions" fun motions => motions.modify kind fun v =>
      (mapEntries declared table).foldl (fun v e => v.set (name e.1) (writeMotion e.2)) v := by
  have hne : mapEntries declared table ≠ [] := fun hnil => (mapEntries_eq_nil_iff hall).mp hnil h
  have houter := Json.foldl_modify (fun motions (e : α × MotionDefinition) =>
    motions.modify kind (·.set (name e.1) (writeMotion e.2))) "motions" hne j
  refine houter.trans (congrArg (j.modify "motions") (funext fun motions => ?_))
  exact Json.foldl_modify (fun v (e : α × MotionDefinition) => v.set (name e.1) (writeMotion e.2)) kind hne
    motions

/-- Only `j["motions"]` is assigned to. -/
theorem member_writeTable_of_ne (hall : ∀ a, a ∈ declared) (kind : String) (j : Json) {key : String}
    (hkey : key ≠ "motions") : (writeTable declared name kind table j).member key = j.member key := by
  by_cases h : Occupied table
  · rw [writeTable_of_occupied hall h, Json.member_modify, if_neg hkey]
  · rw [writeTable_of_empty hall h]

/-- The tables of the other kinds stay. -/
theorem bind_member_writeTable_of_ne (hall : ∀ a, a ∈ declared) {kind kind' : String} (hkind : kind' ≠ kind)
    (j : Json) : ((writeTable declared name kind table j).member "motions").bind (·.member kind') =
      (j.member "motions").bind (·.member kind') := by
  by_cases h : Occupied table
  · rw [writeTable_of_occupied hall h, Json.bind_member_modify, Json.member_modify, if_neg hkind,
      Json.get_member]
  · rw [writeTable_of_empty hall h]

theorem motionItems_writeTable_of_ne (hall : ∀ a, a ∈ declared) {kind kind' : String} (hkind : kind' ≠ kind)
    (j : Json) : motionItems kind' (writeTable declared name kind table j) = motionItems kind' j := by
  unfold motionItems
  rw [bind_member_writeTable_of_ne hall hkind]

/-- **The motions of the table**, and no others, are found under its kind. -/
theorem mem_motionItems_writeTable (hall : ∀ a, a ∈ declared) (hnodup : declared.Nodup)
    (hname : Function.Injective name) {kind : String} {j : Json}
    (hj : (j.member "motions").bind (·.member kind) = none) {item : String × Json} :
    item ∈ motionItems kind (writeTable declared name kind table j) ↔
      ∃ a motion, table a = some motion ∧ item = (name a, writeMotion motion) := by
  unfold motionItems
  by_cases h : Occupied table
  · have hget : (j.get "motions").get kind = .null := by
      rw [Json.get, Json.get_member, hj]
      rfl
    rw [writeTable_of_occupied hall h, Json.bind_member_modify, Json.member_modify, if_pos rfl, hget,
      foldl_entries hall hnodup hname h]
    exact mem_entries_tableJson hall
  · rw [writeTable_of_empty hall h, hj]
    constructor
    · intro hmem
      exact absurd hmem List.not_mem_nil
    · rintro ⟨a, motion, htable, -⟩
      exact absurd ⟨a, by rw [htable]; rfl⟩ h

end WriteTable

/-- A table that is found under its kind is read back, if every motion in it can be. -/
theorem fill_motions {α : Type} [DecidableEq α] {name : α → String} {typeFromString : String → α}
    (hname : ∀ a, typeFromString (name a) = a) {table : α → Option MotionDefinition}
    {items : List (String × Json)}
    (hitems : ∀ item, item ∈ items ↔ ∃ a motion, table a = some motion ∧ item = (name a, writeMotion motion))
    (h : ∀ a motion, table a = some motion → MovesJoints motion) :
    fill (parseEntry typeFromString) setEntry (fun _ => none) items = ⟨table, .ok ()⟩ := by
  have hread : ∀ a motion, table a = some motion →
      parseEntry typeFromString (name a, writeMotion motion) = .ok (a, motion) := by
    intro a motion htable
    rw [parseEntry, parseMotion_write (h a motion htable)]
    show Except.ok (typeFromString (name a), motion) = _
    rw [hname]
  refine fill_table ?_ ?_
  · intro item hitem
    obtain ⟨a, motion, htable, rfl⟩ := (hitems item).mp hitem
    exact ⟨a, motion, hread a motion htable, htable⟩
  · intro a motion htable
    exact ⟨_, (hitems _).mpr ⟨a, motion, htable, rfl⟩, hread a motion htable⟩

/-! ## The file -/

theorem writeIdlePosition_eq (idlePosition : JointPositions) (j : Json) :
    writeIdlePosition idlePosition j = j.modify "default_idle" fun v =>
      ((writeJoints idlePosition v).set "name" (.string "idle")).set "description"
        (.string "Neutral resting position") := by
  unfold writeIdlePosition
  by_cases h : Occupied idlePosition
  · have hfold := Json.foldl_modify (fun v (entry : ServoMotorJoint × GestureJointState) =>
      v.modify "joints" (·.set entry.1.name (.string entry.2.name))) "default_idle" (entries_ne_nil h) j
    rw [hfold, Json.modify_modify, Json.modify_modify]
    rfl
  · rw [(mapEntries_eq_nil_iff mem_declared).mpr h, List.foldl_nil, Json.modify_modify]
    simp only [writeJoints_of_empty h]

/-- What the three tables are written into. -/
def writeTables (m : Motions) : Json :=
  writeDirectiveMotions m.directive (writeReactionalMotions m.reactional
    (writeEmotionalMotions m.emotional .null))

theorem member_writeTransitionSettings (j : Json) {key : String} (hkey : key ≠ "transition_settings") :
    (writeTransitionSettings j).member key = j.member key := by
  rw [writeTransitionSettings, Json.member_modify, if_neg hkey, Json.member_modify, if_neg hkey,
    Json.member_modify, if_neg hkey]

/-- The motions of the file are those of the tables. -/
theorem motionItems_writeMotions (kind : String) (m : Motions) :
    motionItems kind (writeMotions m) = motionItems kind (writeTables m) := by
  unfold motionItems writeMotions
  rw [member_writeTransitionSettings _ (by decide), writeIdlePosition_eq, Json.member_modify,
    if_neg (by decide)]
  rfl

theorem mem_declared_emotion (emotion : EmotionType) : emotion ∈ EmotionType.declared := by
  cases emotion <;> decide

theorem mem_declared_reaction (reaction : ReactionType) : reaction ∈ ReactionType.declared := by
  cases reaction <;> decide

theorem mem_declared_directive (directive : DirectiveType) : directive ∈ DirectiveType.declared := by
  cases directive <;> decide

theorem mem_emotional_write {m : Motions} {item : String × Json} :
    item ∈ motionItems "emotional_gestures" (writeMotions m) ↔
      ∃ emotion motion, m.emotional emotion = some motion ∧ item = (emotion.name, writeMotion motion) := by
  rw [motionItems_writeMotions, writeTables, writeDirectiveMotions, writeReactionalMotions,
    motionItems_writeTable_of_ne mem_declared_directive (by decide),
    motionItems_writeTable_of_ne mem_declared_reaction (by decide)]
  exact mem_motionItems_writeTable mem_declared_emotion (by decide)
    (Function.LeftInverse.injective emotionTypeFromString_name) rfl

theorem mem_reactional_write {m : Motions} {item : String × Json} :
    item ∈ motionItems "reactional_gestures" (writeMotions m) ↔
      ∃ reaction motion, m.reactional reaction = some motion ∧
        item = (reaction.name, writeMotion motion) := by
  rw [motionItems_writeMotions, writeTables, writeDirectiveMotions, writeReactionalMotions,
    motionItems_writeTable_of_ne mem_declared_directive (by decide)]
  refine mem_motionItems_writeTable mem_declared_reaction (by decide)
    (Function.LeftInverse.injective reactionTypeFromString_name) ?_
  rw [writeEmotionalMotions, bind_member_writeTable_of_ne mem_declared_emotion (by decide)]
  rfl

theorem mem_directive_write {m : Motions} {item : String × Json} :
    item ∈ motionItems "directives" (writeMotions m) ↔
      ∃ directive motion, m.directive directive = some motion ∧
        item = (directive.name, writeMotion motion) := by
  rw [motionItems_writeMotions, writeTables, writeDirectiveMotions]
  refine mem_motionItems_writeTable mem_declared_directive (by decide)
    (Function.LeftInverse.injective directiveTypeFromString_name) ?_
  rw [writeReactionalMotions, bind_member_writeTable_of_ne mem_declared_reaction (by decide),
    writeEmotionalMotions, bind_member_writeTable_of_ne mem_declared_emotion (by decide)]
  rfl

/-- What the idle position is written as. -/
theorem member_idle_write (m : Motions) :
    ((writeMotions m).member "default_idle").bind (·.member "joints") =
      (writeJoints m.idlePosition .null).member "joints" := by
  have hidle : (writeTables m).get "default_idle" = .null := by
    rw [Json.get, writeTables, writeDirectiveMotions,
      member_writeTable_of_ne mem_declared_directive _ _ (by decide),
      writeReactionalMotions, member_writeTable_of_ne mem_declared_reaction _ _ (by decide),
      writeEmotionalMotions, member_writeTable_of_ne mem_declared_emotion _ _ (by decide)]
    rfl
  show ((writeTransitionSettings (writeIdlePosition m.idlePosition (writeTables m))).member
    "default_idle").bind (·.member "joints") = _
  rw [member_writeTransitionSettings _ (by decide), writeIdlePosition_eq, Json.bind_member_modify, hidle,
    Json.member_set, if_neg (by decide), Json.member_set, if_neg (by decide)]

/-- **The idle position is read back**, into an empty one. -/
theorem loadIdlePosition_write (m : Motions) {before : Motions} (h : before.idlePosition = fun _ => none) :
    loadIdlePosition (writeMotions m) before = ⟨{ before with idlePosition := m.idlePosition }, .ok ()⟩ := by
  unfold loadIdlePosition
  rw [member_idle_write]
  by_cases hoccupied : Occupied m.idlePosition
  · rw [member_writeJoints hoccupied rfl]
    dsimp only
    rw [parseJointPositions_jointsJson]
  · have hempty : m.idlePosition = before.idlePosition := by
      rw [h]
      funext joint
      exact Option.not_isSome_iff_eq_none.mp fun hsome => hoccupied ⟨joint, hsome⟩
    rw [writeJoints_of_empty hoccupied, hempty]
    rfl

/-- **Every motion, and every item of a sequence, moves a joint.** -/
structure AllMove (m : Motions) : Prop where
  emotional : ∀ emotion motion, m.emotional emotion = some motion → MovesJoints motion
  reactional : ∀ reaction motion, m.reactional reaction = some motion → MovesJoints motion
  directive : ∀ directive motion, m.directive directive = some motion → MovesJoints motion

/-- The motions in a file are all readable iff they all move. -/
theorem motionsReadable_write_iff (m : Motions) :
    MotionsReadable (motionsOf (writeMotions m)) ↔ AllMove m := by
  unfold MotionsReadable motionsOf
  simp only [List.forall_mem_append]
  constructor
  · rintro ⟨⟨hemotional, hreactional⟩, hdirective⟩
    refine ⟨fun a motion h => ?_, fun a motion h => ?_, fun a motion h => ?_⟩
    · have hread := hemotional _ (mem_emotional_write.mpr ⟨a, motion, h, rfl⟩)
      exact (motionReadable_write_iff motion).mp hread
    · have hread := hreactional _ (mem_reactional_write.mpr ⟨a, motion, h, rfl⟩)
      exact (motionReadable_write_iff motion).mp hread
    · have hread := hdirective _ (mem_directive_write.mpr ⟨a, motion, h, rfl⟩)
      exact (motionReadable_write_iff motion).mp hread
  · intro h
    refine ⟨⟨fun item hitem => ?_, fun item hitem => ?_⟩, fun item hitem => ?_⟩
    · obtain ⟨a, motion, htable, rfl⟩ := mem_emotional_write.mp hitem
      exact (motionReadable_write_iff motion).mpr (h.emotional a motion htable)
    · obtain ⟨a, motion, htable, rfl⟩ := mem_reactional_write.mp hitem
      exact (motionReadable_write_iff motion).mpr (h.reactional a motion htable)
    · obtain ⟨a, motion, htable, rfl⟩ := mem_directive_write.mp hitem
      exact (motionReadable_write_iff motion).mpr (h.directive a motion htable)

/-- A motion in a file is readable or lacks a key. -/
theorem readable_or_lacks {m : Motions} {item : String × Json} (hitem : item ∈ motionsOf (writeMotions m)) :
    MotionReadable item.2 ∨ MotionLacksKey item.2 := by
  have hmotion : ∃ motion, item.2 = writeMotion motion := by
    rcases List.mem_append.mp hitem with hitem | hitem
    · rcases List.mem_append.mp hitem with hitem | hitem
      · obtain ⟨_, motion, -, rfl⟩ := mem_emotional_write.mp hitem
        exact ⟨motion, rfl⟩
      · obtain ⟨_, motion, -, rfl⟩ := mem_reactional_write.mp hitem
        exact ⟨motion, rfl⟩
    · obtain ⟨_, motion, -, rfl⟩ := mem_directive_write.mp hitem
      exact ⟨motion, rfl⟩
  obtain ⟨motion, hmotion⟩ := hmotion
  rw [hmotion]
  by_cases h : MovesJoints motion
  · exact .inl ((motionReadable_write_iff motion).mpr h)
  · exact .inr (motionLacksKey_write h)

/-- The loader, one table after the other. -/
theorem loadMotions_write {m : Motions} (h : AllMove m) :
    loadMotions (writeMotions m) noMotions = ⟨m, .ok ()⟩ := by
  have hemotional : loadEmotionalMotions (writeMotions m) noMotions =
      ⟨{ noMotions with emotional := m.emotional }, .ok ()⟩ := by
    unfold loadEmotionalMotions noMotions
    rw [fill_motions emotionTypeFromString_name (fun _ => mem_emotional_write) h.emotional]
  have hreactional : loadReactionalMotions (writeMotions m) { noMotions with emotional := m.emotional } =
      ⟨{ noMotions with emotional := m.emotional, reactional := m.reactional }, .ok ()⟩ := by
    unfold loadReactionalMotions noMotions
    rw [fill_motions reactionTypeFromString_name (fun _ => mem_reactional_write) h.reactional]
  have hdirective : loadDirectiveMotions (writeMotions m)
      { noMotions with emotional := m.emotional, reactional := m.reactional } =
      ⟨{ m with idlePosition := fun _ => none }, .ok ()⟩ := by
    unfold loadDirectiveMotions noMotions
    rw [fill_motions directiveTypeFromString_name (fun _ => mem_directive_write) h.directive]
  have hidle : loadIdlePosition (writeMotions m) { m with idlePosition := fun _ => none } = ⟨m, .ok ()⟩ :=
    loadIdlePosition_write m rfl
  rw [loadMotions, Filled.andThen_eq hemotional, Filled.andThen_eq hreactional,
    Filled.andThen_eq hdirective, hidle]

/-- **Motion files round-trip, when exactly.** For all motion tables and every idle position, what the loader
    reads from the written file into empty tables is what was written iff every motion and every item of a
    sequence moves a joint. -/
theorem motions_round_trip_iff (m : Motions) :
    loadMotionsFromFile (.parsed (writeMotions m)) noMotions = .ok m ↔ AllMove m := by
  constructor
  · intro h
    obtain ⟨_, hread⟩ := loadMotions_reads (writeMotions m) noMotions
    have hlacks : ¬MotionsLackKey (motionsOf (writeMotions m)) := (hread.caught_eq_ok.mp h).1
    rw [← motionsReadable_write_iff]
    exact forall_readable (fun _ => readable_or_lacks) hlacks
  · intro h
    show (loadMotions (writeMotions m) noMotions).caught = _
    rw [loadMotions_write h]
    rfl

/-- A table with one motion, which moves no joint. -/
def stillMotion : Motions :=
  { noMotions with emotional := fun emotion =>
      if emotion = .happy then some ⟨"still", "", 0, fun _ => none, []⟩ else none }

/-- **No round trip**: reading the missing joints of the motion ends the process. -/
theorem still_motion_not_read :
    loadMotionsFromFile (.parsed (writeMotions stillMotion)) noMotions ≠ .ok stillMotion := by
  intro h
  have hlacks : loadMotionsFromFile (.parsed (writeMotions stillMotion)) noMotions = .error .assertion := rfl
  rw [hlacks] at h
  cases h

end JsonParserOperator

end Kufibot
