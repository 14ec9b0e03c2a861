import Kufibot.Operators.JsonParser

/-!
# `Operators.Configuration` — which configurations are loaded

`initialize` returns for some contents of the configuration files only. An exception that a loader does not
catch escapes from it, a key that is missing where a `const` value is read ends the process, and the test
behind the gestures looks into the table of motions, which is gone if no motion was loaded.

`MotionReadable` and its parts say what a loader needs to find, `MotionLacksKey` when it runs into a missing
key, and `LoadableConfiguration` what the files together need. `initialize_total_iff` shows that these are
exactly the contents that `initialize` returns for.
-/

namespace Kufibot

open Lib

/-! ## The paths -/

/-- The fields of the file of paths, in the order they are read in. -/
def configKeys : List String :=
  ["ai_config", "gesture_config", "joint_angles", "motion_definitions", "rag_dataset", "reaction_set"]

/-- A field that can be read: a string, or not there. -/
def stringOrMissing (j : Json) (key : String) : Bool :=
  match j.member key with
  | none | some (.string _) => true
  | some _ => false

def stringOrEmpty (j : Json) (key : String) : String := ((j.member key).bind Json.asString).getD ""

/-- The path that the file names: none if a field before it cannot be read. -/
def namedPath (file : JsonFile) (key : String) : String :=
  match file with
  | .parsed (.object members) =>
      if (configKeys.takeWhile (· ≠ key)).all (stringOrMissing (.object members)) then
        stringOrEmpty (.object members) key
      else ""
  | _ => ""

/-! ## Motions -/

/-- Every state is a string. -/
def JointsReadable (joints : Json) : Prop := ∀ entry ∈ joints.entries, ∃ s, entry.2 = .string s

def HasJoints (j : Json) : Prop := ∃ joints, j.member "joints" = some joints ∧ JointsReadable joints

def ItemReadable (item : Json) : Prop := item.HasNumber "time" ∧ HasJoints item

def ItemLacksKey (item : Json) : Prop :=
  item.LacksKey "time" ∨ item.HasNumber "time" ∧ item.LacksKey "joints"

/-- The items of the sequence, none if there is no sequence. -/
def sequenceItems (motion : Json) : List Json := ((motion.member "sequence").map Json.values).getD []

structure MotionReadable (motion : Json) : Prop where
  name : motion.HasString "name"
  description : motion.HasString "description"
  duration : motion.HasNumber "duration"
  joints : HasJoints motion
  sequence : ∀ item ∈ sequenceItems motion, ItemReadable item

/-- The motion is readable up to a key that is missing. -/
def MotionLacksKey (motion : Json) : Prop :=
  motion.LacksKey "name" ∨ motion.HasString "name" ∧
    (motion.LacksKey "description" ∨ motion.HasString "description" ∧
      (motion.LacksKey "duration" ∨ motion.HasNumber "duration" ∧
        (motion.LacksKey "joints" ∨ HasJoints motion ∧
          FirstLacks ItemReadable ItemLacksKey (sequenceItems motion))))

def MotionsReadable (items : List (String × Json)) : Prop := ∀ item ∈ items, MotionReadable item.2

/-- The motions are readable up to one, and that one up to a key that is missing. -/
def MotionsLackKey : List (String × Json) → Prop :=
  FirstLacks (fun item => MotionReadable item.2) (fun item => MotionLacksKey item.2)

/-- The motions of the file, in the order they are read in. -/
def motionsOf (j : Json) : List (String × Json) :=
  JsonParserOperator.motionItems "emotional_gestures" j ++
    JsonParserOperator.motionItems "reactional_gestures" j ++ JsonParserOperator.motionItems "directives" j

/-- **A usable motion file**: its first emotional motion is readable, and no key is found missing. -/
def UsableMotions (file : JsonFile) : Prop :=
  ∃ j, file = .parsed j ∧
    (∃ first rest, JsonParserOperator.motionItems "emotional_gestures" j = first :: rest ∧
      MotionReadable first.2) ∧
    ¬MotionsLackKey (motionsOf j)

/-! ## Gestures and joint angles -/

/-- What a loop over `j[key]` runs over. -/
def listed (j : Json) (key : String) : List Json := ((j.member key).getD .null).values

def GestureReadable (item : Json) : Prop :=
  item.HasString "type" ∧ item.HasString "tag" ∧ item.HasString "description"

def ReactionReadable (item : Json) : Prop :=
  item.HasString "type" ∧ item.HasString "reply" ∧ item.HasString "tag" ∧ item.HasString "description"

def GesturesReadable (file : JsonFile) : Prop :=
  ∃ j, file = .parsed j ∧ j.Subscriptable ∧ (∀ item ∈ listed j "emotional_gestures", GestureReadable item) ∧
    (∀ item ∈ listed j "reactional_gestures", ReactionReadable item) ∧
    ∀ item ∈ listed j "directives", GestureReadable item

def JointAnglesReadable (file : JsonFile) : Prop :=
  ∃ j, file = .parsed j ∧ ∀ item ∈ JsonParserOperator.jointAngleItems j,
    item.2.2.HasNumber "angle" ∧ item.2.2.HasString "name"

/-! ## The configuration -/

/-- **What the files need**, if the file of paths names an AI configuration: the three that are loaded
    behind it are usable. The others can be anything. -/
structure LoadableConfiguration (files : Files) (paths : JsonFile) : Prop where
  motions : UsableMotions (files.json (namedPath paths "motion_definitions"))
  gestures : GesturesReadable (files.json (namedPath paths "gesture_config"))
  jointAngles : JointAnglesReadable (files.json (namedPath paths "joint_angles"))

namespace JsonParserOperator

/-! ## What the loaders read -/

theorem parseJoint_reads (item : String × Json) :
    Reads (parseJoint item) (∃ s, item.2 = .string s) False := by
  have hread := (Reads.ofOption item.2.asString).and_then fun state =>
    Reads.pure (servoJointFromString item.1, gestureStateFromString state)
  refine hread.of_iff ?_ (by simp)
  cases item.2 with
  | string s => exact ⟨fun _ => ⟨s, rfl⟩, fun _ => ⟨⟨s, rfl⟩, trivial⟩⟩
  | _ => exact ⟨fun ⟨⟨_, h⟩, _⟩ => (nomatch h), fun ⟨_, h⟩ => (nomatch h)⟩

theorem parseJointPositions_reads (joints : Json) :
    Reads (parseJointPositions joints) (JointsReadable joints) False :=
  (Reads.fill parseJoint_reads).escaping.of_iff Iff.rfl ⟨fun ⟨_, _, _, _, _, h⟩ => h, False.elim⟩

theorem stringAt_reads (j : Json) (key : String) :
    Reads (stringAt j key) (j.HasString key) (j.LacksKey key) :=
  (Json.member_reads fun v => Reads.ofOption v.asString).of_iff Json.member_string_iff Iff.rfl

theorem intAt_reads (j : Json) (key : String) :
    Reads (intAt j key) (j.HasNumber key) (j.LacksKey key) := by
  have hread : Reads (intAt j key) _ (j.LacksKey key) :=
    Json.member_reads fun v => Reads.ofOption (v.asInt.map Int32.ofInt)
  refine hread.of_iff (Iff.trans ?_ Json.member_number_iff) Iff.rfl
  exact exists_congr fun v => and_congr_right fun _ => by cases v.asInt <;> simp

theorem jointsAt_reads (j : Json) : Reads (jointsAt j "joints") (HasJoints j) (j.LacksKey "joints") :=
  Json.member_reads parseJointPositions_reads

theorem parseMotionSequenceItem_reads (item : Json) :
    Reads (parseMotionSequenceItem item) (ItemReadable item) (ItemLacksKey item) := by
  have hread := (intAt_reads item "time").and_then fun time =>
    (jointsAt_reads item).and_then fun joints => Reads.pure (⟨time, joints⟩ : MotionSequenceItem)
  exact hread.of_iff (by simp [ItemReadable]) (by simp [ItemLacksKey])

theorem parseSequence_reads (motion : Json) :
    Reads (parseSequence motion) (∀ item ∈ sequenceItems motion, ItemReadable item)
      (FirstLacks ItemReadable ItemLacksKey (sequenceItems motion)) := by
  unfold parseSequence Json.contains sequenceItems
  cases hmember : motion.member "sequence" with
  | none =>
      exact (Reads.pure []).of_iff (by simp) ⟨False.elim, not_firstLacks_nil⟩
  | some sequence =>
      rw [if_pos Option.isSome_some, Json.constIndex_eq_ok.mpr hmember]
      exact (Reads.fill parseMotionSequenceItem_reads).escaping

theorem parseMotion_reads (motion : Json) :
    Reads (parseMotion motion) (MotionReadable motion) (MotionLacksKey motion) := by
  have hread := (stringAt_reads motion "name").and_then fun name =>
    (stringAt_reads motion "description").and_then fun description =>
      (intAt_reads motion "duration").and_then fun duration =>
        (jointsAt_reads motion).and_then fun joints =>
          (parseSequence_reads motion).and_then fun sequence =>
            Reads.pure (⟨name, description, duration, joints, sequence⟩ : MotionDefinition)
  refine hread.of_iff ⟨?_, ?_⟩ (by simp [MotionLacksKey])
  · rintro ⟨name, description, duration, joints, sequence, -⟩
    exact ⟨name, description, duration, joints, sequence⟩
  · intro h
    exact ⟨h.name, h.description, h.duration, h.joints, h.sequence, trivial⟩

theorem parseEntry_reads {α : Type} (typeFromString : String → α) (item : String × Json) :
    Reads (parseEntry typeFromString item) (MotionReadable item.2) (MotionLacksKey item.2) := by
  have hread := (parseMotion_reads item.2).and_then fun motion =>
    Reads.pure (typeFromString item.1, motion)
  exact hread.of_iff (by simp) (by simp)

/-- One table of motions, of any kind. -/
theorem parseTable_reads {α : Type} [DecidableEq α] (typeFromString : String → α)
    (table : α → Option MotionDefinition) (items : List (String × Json)) :
    Reads (fill (parseEntry typeFromString) setEntry table items).outcome (MotionsReadable items)
      (MotionsLackKey items) :=
  Reads.fill (parseEntry_reads typeFromString)

theorem loadEmotionalMotions_reads (j : Json) (m : Motions) :
    Reads (loadEmotionalMotions j m).outcome (MotionsReadable (motionItems "emotional_gestures" j))
      (MotionsLackKey (motionItems "emotional_gestures" j)) :=
  parseTable_reads emotionTypeFromString m.emotional _

theorem loadReactionalMotions_reads (j : Json) (m : Motions) :
    Reads (loadReactionalMotions j m).outcome (MotionsReadable (motionItems "reactional_gestures" j))
      (MotionsLackKey (motionItems "reactional_gestures" j)) :=
  parseTable_reads reactionTypeFromString m.reactional _

theorem loadDirectiveMotions_reads (j : Json) (m : Motions) :
    Reads (loadDirectiveMotions j m).outcome (MotionsReadable (motionItems "directives" j))
      (MotionsLackKey (motionItems "directives" j)) :=
  parseTable_reads directiveTypeFromString m.directive _

theorem loadIdlePosition_reads (j : Json) (m : Motions) :
    Reads (loadIdlePosition j m).outcome
      (∀ joints, (j.member "default_idle").bind (·.member "joints") = some joints → JointsReadable joints)
      False := by
  unfold loadIdlePosition
  cases (j.member "default_idle").bind (·.member "joints") with
  | none => exact (Reads.pure ()).of_iff ⟨fun _ _ => (nomatch ·), fun _ => trivial⟩ Iff.rfl
  | some joints =>
      have hread := parseJointPositions_reads joints
      have hiff : JointsReadable joints ↔ ∀ joints', some joints = some joints' → JointsReadable joints' :=
        ⟨fun h _ he => Option.some.inj he ▸ h, fun h => h joints rfl⟩
      rw [← hiff]
      dsimp only
      cases hparse : parseJointPositions joints with
      | ok idlePosition =>
          exact (Reads.pure ()).of_iff ⟨fun _ => hread.ok.mp ⟨_, hparse⟩, fun _ => trivial⟩ Iff.rfl
      | error e =>
          rw [hparse] at hread
          refine ⟨Iff.trans ?_ hread.ok, ?_, fun h => hread.defined (congrArg _ (Except.error.inj h))⟩
          · exact ⟨fun ⟨_, h⟩ => (nomatch h), fun ⟨_, h⟩ => (nomatch h)⟩
          · exact ⟨fun h => hread.assertion.mp (congrArg _ (Except.error.inj h)), False.elim⟩

/-- **The motion file**: the loader runs into an assertion iff a key is found missing in the motions. -/
theorem loadMotions_reads (j : Json) (m : Motions) :
    ∃ readable, Reads (loadMotions j m).outcome readable (MotionsLackKey (motionsOf j)) := by
  have hread := (((loadEmotionalMotions_reads j m).andThen (loadReactionalMotions_reads j)).andThen
    (loadDirectiveMotions_reads j)).andThen (loadIdlePosition_reads j)
  refine ⟨_, hread.of_iff Iff.rfl ?_⟩
  unfold motionsOf MotionsLackKey MotionsReadable
  rw [firstLacks_append, firstLacks_append]
  simp only [and_false, or_false, List.forall_mem_append]

/-- What the motions of the other kinds are read after leaves the emotional ones as they are. -/
theorem loadMotions_emotional (j : Json) (m : Motions) :
    (loadMotions j m).store.emotional =
      (fill (parseEntry emotionTypeFromString) setEntry m.emotional
        (motionItems "emotional_gestures" j)).store := by
  have hidle : ∀ m, (loadIdlePosition j m).store.emotional = m.emotional := by
    intro m
    unfold loadIdlePosition
    cases (j.member "default_idle").bind (·.member "joints") with
    | none => rfl
    | some joints =>
        dsimp only
        cases parseJointPositions joints <;> rfl
  rw [loadMotions, Filled.andThen_store Motions.emotional hidle,
    Filled.andThen_store Motions.emotional fun _ => rfl,
    Filled.andThen_store Motions.emotional fun _ => rfl]
  rfl

/-- The loader returns a table with an emotional motion. -/
theorem loads_emotional_iff (file : JsonFile) :
    (∃ m, loadMotionsFromFile file noMotions = .ok m ∧ ∃ emotion, (m.emotional emotion).isSome) ↔
      UsableMotions file := by
  have hnone : ∀ emotion, ¬(noMotions.emotional emotion).isSome := fun _ => Bool.false_ne_true
  cases file with
  | absent | malformed =>
      refine ⟨?_, fun ⟨_, h, _⟩ => (nomatch h)⟩
      rintro ⟨m, hm, emotion, he⟩
      cases Except.ok.inj hm
      exact absurd he (hnone emotion)
  | parsed j =>
      obtain ⟨_, hread⟩ := loadMotions_reads j noMotions
      have hfirst : (∃ emotion, ((loadMotions j noMotions).store.emotional emotion).isSome) ↔
          ∃ first rest, motionItems "emotional_gestures" j = first :: rest ∧ MotionReadable first.2 := by
        rw [loadMotions_emotional]
        refine exists_fill_table_iff.trans (exists₂_congr fun first _ => and_congr_right fun _ => ?_)
        exact (parseEntry_reads emotionTypeFromString first).ok
      constructor
      · rintro ⟨m, hm, he⟩
        obtain ⟨hlacks, rfl⟩ := hread.caught_eq_ok.mp hm
        exact ⟨j, rfl, hfirst.mp he, hlacks⟩
      · rintro ⟨_, ⟨⟩, hreadable, hlacks⟩
        exact ⟨_, hread.caught_eq_ok.mpr ⟨hlacks, rfl⟩, hfirst.mpr hreadable⟩

theorem parseEmotionalGesture_ok (item : Json) :
    (∃ gesture, parseEmotionalGesture item = .ok gesture) ↔ GestureReadable item := by
  have hread := (stringAt_reads item "type").and_then fun type =>
    (stringAt_reads item "tag").and_then fun tag =>
      (stringAt_reads item "description").and_then fun description =>
        Reads.pure (⟨emotionTypeFromString type, tag, description, []⟩ : EmotionalGesture)
  exact hread.ok.trans (by simp [GestureReadable])

theorem parseReactionalGesture_ok (item : Json) :
    (∃ gesture, parseReactionalGesture item = .ok gesture) ↔ ReactionReadable item := by
  have hread := (stringAt_reads item "type").and_then fun type =>
    (stringAt_reads item "reply").and_then fun reply =>
      (stringAt_reads item "tag").and_then fun tag =>
        (stringAt_reads item "description").and_then fun description =>
          Reads.pure (⟨reactionTypeFromString type, reactionTypeFromString reply, tag, description, []⟩ :
            ReactionalGesture)
  exact hread.ok.trans (by simp [ReactionReadable])

theorem parseDirective_ok (item : Json) :
    (∃ directive, parseDirective item = .ok directive) ↔ GestureReadable item := by
  have hread := (stringAt_reads item "type").and_then fun type =>
    (stringAt_reads item "tag").and_then fun tag =>
      (stringAt_reads item "description").and_then fun description =>
        Reads.pure (⟨directiveTypeFromString type, tag, description, []⟩ : Directive)
  exact hread.ok.trans (by simp [GestureReadable])

theorem loadList_ok {α : Type} {parse : Json → Outcome α} {P : Json → Prop}
    (h : ∀ item, (∃ a, parse item = .ok a) ↔ P item) (j : Json) (key : String) :
    (∃ list, loadList parse j key = .ok list) ↔ j.Subscriptable ∧ ∀ item ∈ listed j key, P item := by
  have hread : (∀ item ∈ listed j key, P item) ↔ ∀ item ∈ listed j key, ∃ a, parse item = .ok a :=
    forall₂_congr fun item _ => (h item).symm
  rw [hread]
  constructor
  · rintro ⟨list, hlist⟩
    obtain ⟨items, hitems, hlist⟩ := Outcome.bind_eq_ok.mp hlist
    obtain ⟨hsub, rfl⟩ := Json.index_eq_some_iff.mp (Outcome.ofOption_eq_ok.mp hitems)
    exact ⟨hsub, exists_fill_iff.mp ⟨list, hlist⟩⟩
  · rintro ⟨hsub, hitems⟩
    obtain ⟨list, hlist⟩ := exists_fill_iff.mpr hitems
    exact ⟨list, Outcome.bind_eq_ok.mpr
      ⟨_, Outcome.ofOption_eq_ok.mpr (Json.index_eq_some_iff.mpr ⟨hsub, rfl⟩), hlist⟩⟩

theorem extract_eq_ok {file : JsonFile} {j : Json} : file.extract = .ok j ↔ file = .parsed j := by
  cases file with
  | parsed j' =>
      constructor
      · intro h
        cases h
        rfl
      · intro h
        cases h
        rfl
  | absent | malformed => exact ⟨(nomatch ·), (nomatch ·)⟩

theorem loadGesturesFromFile_ok (file : JsonFile) :
    (∃ gestures, loadGesturesFromFile file = .ok gestures) ↔ GesturesReadable file := by
  constructor
  · rintro ⟨gestures, h⟩
    obtain ⟨j, hj, h⟩ := Outcome.bind_eq_ok.mp h
    obtain ⟨emotional, he, h⟩ := Outcome.bind_eq_ok.mp h
    obtain ⟨reactional, hr, h⟩ := Outcome.bind_eq_ok.mp h
    obtain ⟨directive, hd, -⟩ := Outcome.bind_eq_ok.mp h
    obtain ⟨hsub, he⟩ := (loadList_ok parseEmotionalGesture_ok j _).mp ⟨_, he⟩
    obtain ⟨-, hr⟩ := (loadList_ok parseReactionalGesture_ok j _).mp ⟨_, hr⟩
    obtain ⟨-, hd⟩ := (loadList_ok parseDirective_ok j _).mp ⟨_, hd⟩
    exact ⟨j, extract_eq_ok.mp hj, hsub, he, hr, hd⟩
  · rintro ⟨j, hj, hsub, he, hr, hd⟩
    obtain ⟨emotional, he⟩ := (loadList_ok parseEmotionalGesture_ok j _).mpr ⟨hsub, he⟩
    obtain ⟨reactional, hr⟩ := (loadList_ok parseReactionalGesture_ok j _).mpr ⟨hsub, hr⟩
    obtain ⟨directive, hd⟩ := (loadList_ok parseDirective_ok j _).mpr ⟨hsub, hd⟩
    refine ⟨⟨emotional, reactional, directive⟩, Outcome.bind_eq_ok.mpr ⟨j, extract_eq_ok.mpr hj, ?_⟩⟩
    refine Outcome.bind_eq_ok.mpr ⟨emotional, he, Outcome.bind_eq_ok.mpr ⟨reactional, hr, ?_⟩⟩
    exact Outcome.bind_eq_ok.mpr ⟨directive, hd, rfl⟩

theorem parseJointAngle_ok (item : String × (String × Json)) :
    (∃ entry, parseJointAngle item = .ok entry) ↔
      item.2.2.HasNumber "angle" ∧ item.2.2.HasString "name" := by
  have hread := (Reads.ofOption ((item.2.2.index "angle").bind Json.asInt)).and_then fun angle =>
    (Reads.ofOption ((item.2.2.index "name").bind Json.asString)).and_then fun symbol =>
      Reads.pure ((servoJointFromString item.1, gestureStateFromString item.2.1),
        (⟨angle, symbol⟩ : GestureJointAngle))
  refine hread.ok.trans (and_congr (Json.exists_number_iff _ _) ?_)
  exact (iff_of_eq (and_true _)).trans (Json.exists_string_iff _ _)

theorem loadJointAnglesFromJson_ok (file : JsonFile) :
    (∃ angles, loadJointAnglesFromJson file = .ok angles) ↔ JointAnglesReadable file := by
  have hread : ∀ j, (∃ angles, (fill parseJointAngle setEntry (fun _ => none) (jointAngleItems j)).escaping =
      .ok angles) ↔ ∀ item ∈ jointAngleItems j, item.2.2.HasNumber "angle" ∧ item.2.2.HasString "name" :=
    fun _ => exists_fill_iff.trans (forall₂_congr fun item _ => parseJointAngle_ok item)
  constructor
  · rintro ⟨angles, h⟩
    obtain ⟨j, hj, h⟩ := Outcome.bind_eq_ok.mp h
    exact ⟨j, extract_eq_ok.mp hj, (hread j).mp ⟨angles, h⟩⟩
  · rintro ⟨j, hj, hitems⟩
    obtain ⟨angles, h⟩ := (hread j).mpr hitems
    exact ⟨angles, Outcome.bind_eq_ok.mpr ⟨j, extract_eq_ok.mpr hj, h⟩⟩

theorem stringOrEmpty_eq_empty {j : Json} {key : String} (h : stringOrMissing j key = false) :
    stringOrEmpty j key = "" := by
  unfold stringOrMissing at h
  unfold stringOrEmpty
  cases hmember : j.member key with
  | none => rfl
  | some v =>
      rw [hmember] at h
      cases v with
      | string s => cases h
      | _ => rfl

theorem readConfigPath_object (members : List (String × Json))
    (field : String × (ConfigPaths → String → ConfigPaths)) :
    readConfigPath (.object members) field =
      if stringOrMissing (.object members) field.1 then
        .ok fun paths => field.2 paths (stringOrEmpty (.object members) field.1)
      else .error .exception := by
  unfold readConfigPath valueOrEmpty Json.valueOr stringOrMissing stringOrEmpty
  cases (Json.object members).member field.1 with
  | none => rfl
  | some v => cases v <;> rfl

/-- The loop over the fields, one step. -/
theorem fill_configPath (members : List (String × Json))
    (field : String × (ConfigPaths → String → ConfigPaths))
    (fields : List (String × (ConfigPaths → String → ConfigPaths))) (paths : ConfigPaths) :
    (fill (readConfigPath (.object members)) (fun paths read => read paths) paths (field :: fields)).store =
      if stringOrMissing (.object members) field.1 then
        (fill (readConfigPath (.object members)) (fun paths read => read paths)
          (field.2 paths (stringOrEmpty (.object members) field.1)) fields).store
      else paths := by
  rw [fill, readConfigPath_object]
  by_cases h : stringOrMissing (.object members) field.1 = true
  · rw [if_pos h, if_pos h]
  · rw [if_neg h, if_neg h]

/-- The loader reads the paths that the file names. -/
theorem loadConfigPaths_eq (file : JsonFile) : loadConfigPaths file =
    { aiConfig := namedPath file "ai_config"
      gestureConfig := namedPath file "gesture_config"
      jointAngles := namedPath file "joint_angles"
      motionDefinitions := namedPath file "motion_definitions"
      ragDataset := namedPath file "rag_dataset"
      reactionSet := namedPath file "reaction_set" } := by
  cases file with
  | absent | malformed => rfl
  | parsed j =>
      cases j with
      | object members =>
          simp only [loadConfigPaths, JsonFile.extract, configPathFields, fill_configPath, namedPath,
            configKeys, List.takeWhile_cons, ne_eq, String.reduceEq, not_true, not_false_eq_true, decide_true,
            decide_false, reduceIte, Bool.false_eq_true, List.all_cons, List.all_nil, fill_nil]
          grind [stringOrEmpty_eq_empty]
      | _ => rfl

/-! ## Initialization -/

/-- The twelve stores. -/
def engaged (p : JsonParserOperator) : List Bool :=
  [p.ragDataset.isSome, p.emotionalMotions.isSome, p.reactionalMotions.isSome, p.directiveMotions.isSome,
    p.idlePosition.isSome, p.emotionalList.isSome, p.reactionalList.isSome, p.directiveList.isSome,
    p.faceReactionList.isSome, p.jointAngles.isSome, p.configPaths.isSome, p.aiConfig.isSome]

theorem isReady_iff (p : JsonParserOperator) : p.isReady = true ↔ ∀ store ∈ p.engaged, store = true := by
  simp [isReady, engaged, and_assoc]

/-- A table of motions is empty, or there is a motion in it. -/
theorem all_isNone_iff (table : EmotionType → Option MotionDefinition) :
    (EmotionType.declared.all fun emotion => (table emotion).isNone) = true ↔
      ¬∃ emotion, (table emotion).isSome := by
  rw [List.all_eq_true]
  constructor
  · rintro h ⟨emotion, hsome⟩
    have hnone := Option.isNone_iff_eq_none.mp (h emotion (by cases emotion <;> decide))
    rw [hnone] at hsome
    cases hsome
  · intro h emotion _
    cases hentry : table emotion with
    | none => rfl
    | some motion => exact absurd ⟨emotion, by rw [hentry]; rfl⟩ h

/-- The first test: the stores of the motions are kept if there is an emotional one. -/
theorem initializeMotions_ok {file : JsonFile} {m : Motions} (p : JsonParserOperator)
    (hm : loadMotionsFromFile file noMotions = .ok m) :
    ∃ q, initializeMotions file p = .ok q ∧
      (q.emotionalMotions.isSome ↔ ∃ emotion, (m.emotional emotion).isSome) := by
  unfold initializeMotions
  rw [hm]
  by_cases hall : (EmotionType.declared.all fun emotion => (m.emotional emotion).isNone) = true
  · refine ⟨_, if_pos hall, (nomatch ·), ?_⟩
    exact fun h => absurd h ((all_isNone_iff m.emotional).mp hall)
  · refine ⟨_, if_neg hall, fun _ => ?_, fun _ => rfl⟩
    exact by_contra fun h => hall ((all_isNone_iff m.emotional).mpr h)

/-- There are motions for the second test iff the file is usable. -/
theorem initializeMotions_iff (file : JsonFile) (p : JsonParserOperator) :
    (∃ q, initializeMotions file p = .ok q ∧ q.emotionalMotions.isSome) ↔ UsableMotions file := by
  rw [← loads_emotional_iff]
  constructor
  · rintro ⟨q, hq, hsome⟩
    obtain ⟨m, hm, -⟩ := Outcome.bind_eq_ok.mp hq
    obtain ⟨q', hq', hiff⟩ := initializeMotions_ok p hm
    cases hq.symm.trans hq'
    exact ⟨m, hm, hiff.mp hsome⟩
  · rintro ⟨m, hm, he⟩
    obtain ⟨q, hq, hiff⟩ := initializeMotions_ok p hm
    exact ⟨q, hq, hiff.mpr he⟩

/-- The second test needs the motions that the first one may have taken away. -/
theorem initializeGestures_iff (file : JsonFile) (p : JsonParserOperator) :
    (∃ q, initializeGestures file p = .ok q) ↔ GesturesReadable file ∧ p.emotionalMotions.isSome := by
  rw [← loadGesturesFromFile_ok]
  constructor
  · rintro ⟨q, hq⟩
    obtain ⟨gestures, hgestures, hq⟩ := Outcome.bind_eq_ok.mp hq
    obtain ⟨_, hempty, -⟩ := Outcome.bind_eq_ok.mp hq
    refine ⟨⟨gestures, hgestures⟩, ?_⟩
    cases hmotions : p.emotionalMotions with
    | some table => rfl
    | none =>
        unfold emotionalMotionsEmpty at hempty
        rw [hmotions] at hempty
        cases hempty
  · rintro ⟨⟨gestures, hgestures⟩, hsome⟩
    obtain ⟨table, hmotions⟩ := Option.isSome_iff_exists.mp hsome
    unfold initializeGestures emotionalMotionsEmpty
    rw [hgestures, hmotions]
    by_cases hall : (EmotionType.declared.all fun emotion => (table emotion).isNone) = true
    · exact ⟨_, if_pos hall⟩
    · exact ⟨_, if_neg hall⟩

theorem initializeJointAngles_iff (file : JsonFile) (p : JsonParserOperator) :
    (∃ q, initializeJointAngles file p = .ok q) ↔ JointAnglesReadable file := by
  rw [← loadJointAnglesFromJson_ok]
  constructor
  · rintro ⟨q, hq⟩
    obtain ⟨angles, hangles, -⟩ := Outcome.bind_eq_ok.mp hq
    exact ⟨angles, hangles⟩
  · rintro ⟨angles, hangles⟩
    exact ⟨_, Outcome.bind_eq_ok.mpr ⟨angles, hangles, rfl⟩⟩

/-- What is returned says whether the twelve stores are there. -/
theorem ready_iff_engaged {files : Files} {p q : JsonParserOperator} {ready : Bool}
    (h : initializeOperator files p = .ok (q, ready)) : ready = true ↔ ∀ store ∈ q.engaged, store = true := by
  rw [← isReady_iff]
  unfold initializeOperator at h
  by_cases hempty : (loadConfigPaths (files.json configPathsFile)).aiConfig = ""
  · simp only [if_pos hempty] at h
    cases Except.ok.inj h
    exact Iff.rfl
  · simp only [if_neg hempty] at h
    obtain ⟨p₁, -, h⟩ := Outcome.bind_eq_ok.mp h
    obtain ⟨p₂, -, h⟩ := Outcome.bind_eq_ok.mp h
    obtain ⟨p₃, -, h⟩ := Outcome.bind_eq_ok.mp h
    cases Except.ok.inj h
    exact Iff.rfl

/-- **Loading a configuration is total, when exactly.** For every content of the files, `initialize` returns,
    and returns whether the twelve stores are there, iff the file of paths names no AI configuration or the
    motions, the gestures and the joint angles are usable. -/
theorem initialize_total_iff (files : Files) (p : JsonParserOperator) :
    (∃ q ready, initializeOperator files p = .ok (q, ready) ∧
        (ready = true ↔ ∀ store ∈ q.engaged, store = true)) ↔
      namedPath (files.json configPathsFile) "ai_config" = "" ∨
        LoadableConfiguration files (files.json configPathsFile) := by
  have hreturns : (∃ q ready, initializeOperator files p = .ok (q, ready) ∧
      (ready = true ↔ ∀ store ∈ q.engaged, store = true)) ↔
      ∃ q ready, initializeOperator files p = .ok (q, ready) :=
    exists₂_congr fun q ready => and_iff_left_of_imp ready_iff_engaged
  rw [hreturns]
  unfold initializeOperator
  rw [loadConfigPaths_eq]
  by_cases hempty : namedPath (files.json configPathsFile) "ai_config" = ""
  · simp only [if_pos hempty]
    exact ⟨fun _ => .inl hempty, fun _ => ⟨_, _, rfl⟩⟩
  · simp only [if_neg hempty]
    constructor
    · rintro ⟨q, ready, h⟩
      obtain ⟨p₁, hmotions, h⟩ := Outcome.bind_eq_ok.mp h
      obtain ⟨p₂, hgestures, h⟩ := Outcome.bind_eq_ok.mp h
      obtain ⟨p₃, hangles, -⟩ := Outcome.bind_eq_ok.mp h
      obtain ⟨hreadable, hsome⟩ := (initializeGestures_iff _ _).mp ⟨p₂, hgestures⟩
      exact .inr ⟨(initializeMotions_iff _ _).mp ⟨p₁, hmotions, hsome⟩, hreadable,
        (initializeJointAngles_iff _ _).mp ⟨p₃, hangles⟩⟩
    · rintro (h | h)
      · exact absurd h hempty
      · obtain ⟨p₁, hmotions, hsome⟩ := (initializeMotions_iff _ _).mpr h.motions
        obtain ⟨p₂, hgestures⟩ := (initializeGestures_iff _ p₁).mpr ⟨h.gestures, hsome⟩
        obtain ⟨p₃, hangles⟩ := (initializeJointAngles_iff _ p₂).mpr h.jointAngles
        exact ⟨_, _, Outcome.bind_eq_ok.mpr ⟨p₁, hmotions, Outcome.bind_eq_ok.mpr
          ⟨p₂, hgestures, Outcome.bind_eq_ok.mpr ⟨p₃, hangles, rfl⟩⟩⟩⟩

/-- The paths, an empty object for the gestures, and no motion file. -/
def noMotionFile : Files where
  json path :=
    if path = configPathsFile then
      .parsed (.object [("ai_config", .string "ai"), ("gesture_config", .string "gestures")])
    else if path = "gestures" then .parsed (.object [])
    else .absent
  lines _ := none

/-- **Undefined behaviour**: without a motion file, the test behind the gestures looks into a table that is
    gone. -/
theorem no_motion_file_undefined :
    initializeOperator noMotionFile {} = .error .undefined ∧
      ¬∃ q ready, initializeOperator noMotionFile {} = .ok (q, ready) ∧
        (ready = true ↔ ∀ store ∈ q.engaged, store = true) := by
  have h : initializeOperator noMotionFile {} = .error .undefined := rfl
  refine ⟨h, ?_⟩
  rintro ⟨q, ready, hq, -⟩
  rw [h] at hq
  cases hq

end JsonParserOperator

end Kufibot
