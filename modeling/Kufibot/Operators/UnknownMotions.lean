import Kufibot.Lib.JsonWithout
import Kufibot.Lib.TwoRuns
import Kufibot.Operators.MotionFile

/-!
# `Operators.UnknownMotions` — motions and joints that nobody knows

The five converters of names do not fail: a name that they do not know becomes `angry`, `greeting`,
`followFinger`, `eyeLeft` or `fulldown`. A loop over the entries of an object sets what the name stands for,
in the order of the keys, so an entry with an unknown name is read over the real one if its name is the
larger, and is read over itself if it is the smaller.

A file is compared with itself without some entries whose names are unknown. `motions_undisturbed_iff` shows
when the entries with known names are loaded the same from both: the last entry that is read for each of them
is not an added one, and for each joint in it neither; or it says the same.
-/

namespace Kufibot

open Lib Lib.Json Lib.Outcome

/-! ## What may be added -/

/-- No enumerator has this name. -/
def Unrecognised {α : Type} (name : α → String) (key : String) : Prop := ∀ a, name a ≠ key

/-- In the joints: an entry whose joint or whose state nobody knows. -/
def UnknownJoint (path : List String) (v : Json) : Prop :=
  ∃ joint state, path = [joint] ∧ v = .string state ∧
    (Unrecognised ServoMotorJoint.name joint ∨ Unrecognised GestureJointState.name state)

/-- In an item of a sequence. -/
def UnknownInItem (path : List String) (v : Json) : Prop :=
  ∃ rest, path = "joints" :: rest ∧ UnknownJoint rest v

def UnknownInMotion (path : List String) (v : Json) : Prop :=
  UnknownInItem path v ∨ ∃ i rest, path = "sequence" :: i :: rest ∧ UnknownInItem rest v

/-- In a table of motions: a readable motion whose name nobody knows, or something in a motion. -/
def UnknownInTable {α : Type} (name : α → String) (path : List String) (v : Json) : Prop :=
  (∃ key, path = [key] ∧ Unrecognised name key ∧ MotionReadable v) ∨
    ∃ key rest, path = key :: rest ∧ UnknownInMotion rest v

/-- In the table of a kind. -/
def UnknownOfKind (kind : String) : List String → Json → Prop :=
  match kind with
  | "emotional_gestures" => UnknownInTable EmotionType.name
  | "reactional_gestures" => UnknownInTable ReactionType.name
  | "directives" => UnknownInTable DirectiveType.name
  | _ => fun _ _ => False

/-- **In a motion file**: in a table of motions, or in the idle position. -/
def UnknownInMotions (path : List String) (v : Json) : Prop :=
  (∃ kind rest, path = "motions" :: kind :: rest ∧ UnknownOfKind kind rest v) ∨
    ∃ rest, path = "default_idle" :: "joints" :: rest ∧ UnknownJoint rest v

section Paths

variable {α : Type} {name : α → String} {path : List String} {key : String} {v : Json}

@[simp] theorem not_unknownJoint_nil : ¬UnknownJoint [] v := by simp [UnknownJoint]

@[simp] theorem not_unknownInItem_nil : ¬UnknownInItem [] v := by simp [UnknownInItem]

@[simp] theorem unknownInItem_joints : UnknownInItem ("joints" :: path) v ↔ UnknownJoint path v := by
  simp [UnknownInItem]

theorem not_unknownInItem (key : String) (v : Json) : ¬UnknownInItem [key] v := by
  simp [UnknownInItem]

@[simp] theorem not_unknownInMotion_nil : ¬UnknownInMotion [] v := by simp [UnknownInMotion]

@[simp] theorem unknownInMotion_joints : UnknownInMotion ("joints" :: path) v ↔ UnknownJoint path v := by
  simp [UnknownInMotion]

@[simp] theorem unknownInMotion_sequence :
    UnknownInMotion ("sequence" :: key :: path) v ↔ UnknownInItem path v := by
  simp [UnknownInMotion, UnknownInItem]

theorem not_unknownInMotion (key : String) (v : Json) : ¬UnknownInMotion [key] v := by
  simp [UnknownInMotion, not_unknownInItem]

@[simp] theorem not_unknownInTable_nil : ¬UnknownInTable name [] v := by simp [UnknownInTable]

@[simp] theorem unknownInTable_singleton :
    UnknownInTable name [key] v ↔ Unrecognised name key ∧ MotionReadable v := by
  simp [UnknownInTable]

theorem unknownInTable_cons (h : path ≠ []) :
    UnknownInTable name (key :: path) v ↔ UnknownInMotion path v := by
  simp [UnknownInTable, h]

@[simp] theorem not_unknownOfKind_nil : ¬UnknownOfKind key [] v := by
  unfold UnknownOfKind
  split <;> simp

@[simp] theorem unknownInMotions_motions :
    UnknownInMotions ("motions" :: key :: path) v ↔ UnknownOfKind key path v := by
  simp [UnknownInMotions]

@[simp] theorem unknownInMotions_idle :
    UnknownInMotions ("default_idle" :: "joints" :: path) v ↔ UnknownJoint path v := by
  simp [UnknownInMotions]

theorem not_unknownInMotions (key : String) (v : Json) : ¬UnknownInMotions [key] v := by
  simp [UnknownInMotions]

end Paths

namespace JsonParserOperator

/-! ## What is read last -/

def jointPlace (entry : String × Json) : ServoMotorJoint := servoJointFromString entry.1

def jointState (entry : String × Json) : Outcome GestureJointState := do
  let state ← Outcome.ofOption entry.2.asString
  return gestureStateFromString state

/-- For every joint the last entry has the state of the last one that is not added. -/
def JointsHold (added : List String → Bool) (joints : Json) : Prop :=
  ∀ joint, lastValue jointPlace jointState (joints.keptEntries added) joint =
    lastValue jointPlace jointState joints.entries joint

/-- The joints of an item of a sequence, or of a motion. -/
def ItemHolds (added : List String → Bool) (item : Json) : Prop :=
  ∀ joints, item.member "joints" = some joints → JointsHold (fun path => added ("joints" :: path)) joints

def MotionHolds (added : List String → Bool) (motion : Json) : Prop :=
  ItemHolds added motion ∧ ∀ sequence, motion.member "sequence" = some sequence →
    ∀ entry ∈ sequence.entries, ItemHolds (fun path => added ("sequence" :: entry.1 :: path)) entry.2

section Tables

variable {α : Type} [DecidableEq α] (typeFromString : String → α)

/-- The motions of a table that are read before one that cannot be. -/
def reachedMotions (table : Json) : List (String × Json) :=
  reached (fun entry => parseMotion entry.2) table.entries

/-- The last one of them that is read for `a` is not added, and holds; or it is read as the last one that is
    not added. -/
def PlaceHolds (added : List String → Bool) (table : Json) (a : α) : Prop :=
  ∀ last, lastFor (fun entry => typeFromString entry.1) (reachedMotions table) a = some last →
    if table.keeps added last then MotionHolds (fun path => added (last.1 :: path)) last.2
    else ∃ before, lastFor (fun entry => typeFromString entry.1)
        ((reachedMotions table).filter (table.keeps added)) a = some before ∧
      parseMotion (entryWithout added before).2 = parseMotion last.2

/-- `j["motions"][kind]`. -/
def motionTable (kind : String) (j : Json) : Option Json := (j.member "motions").bind (·.member kind)

/-- **A table of motions holds** at every name that it has an entry for. -/
def TableHolds (name : α → String) (added : List String → Bool) (kind : String) (j : Json) : Prop :=
  ∀ table, motionTable kind j = some table →
    ∀ a, name a ∈ (table.keptEntries fun path => added ("motions" :: kind :: path)).map Prod.fst →
      PlaceHolds typeFromString (fun path => added ("motions" :: kind :: path)) table a

end Tables

/-- `j["default_idle"]["joints"]`. -/
def idleJoints (j : Json) : Option Json := (j.member "default_idle").bind (·.member "joints")

def idleItems (j : Json) : List (String × Json) := ((idleJoints j).map Json.entries).getD []

/-- The idle position holds at every joint that it has an entry for. -/
def IdleHolds (added : List String → Bool) (j : Json) : Prop :=
  ∀ joints, idleJoints j = some joints → JointsReadable joints →
    ∀ joint : ServoMotorJoint,
      joint.name ∈ (joints.keptEntries fun path => added ("default_idle" :: "joints" :: path)).map Prod.fst →
      lastValue jointPlace jointState
          (joints.keptEntries fun path => added ("default_idle" :: "joints" :: path)) joint =
        lastValue jointPlace jointState joints.entries joint

/-- **A motion file holds**, as far as it is read. -/
structure MotionsHold (added : List String → Bool) (j : Json) : Prop where
  emotional : TableHolds emotionTypeFromString EmotionType.name added "emotional_gestures" j
  reactional : MotionsReadable (motionItems "emotional_gestures" j) →
    TableHolds reactionTypeFromString ReactionType.name added "reactional_gestures" j
  directive : MotionsReadable (motionItems "emotional_gestures" j) →
    MotionsReadable (motionItems "reactional_gestures" j) →
    TableHolds directiveTypeFromString DirectiveType.name added "directives" j
  idlePosition : MotionsReadable (motionItems "emotional_gestures" j) →
    MotionsReadable (motionItems "reactional_gestures" j) → MotionsReadable (motionItems "directives" j) →
    IdleHolds added j

/-! ## Joints -/

theorem parseJoint_eq : parseJoint = readEntry jointPlace jointState := by
  funext entry
  unfold parseJoint readEntry jointState
  cases entry.2.asString <;> rfl

theorem jointState_without (added : List String → Bool) (entry : String × Json) :
    jointState (entryWithout added entry) = jointState entry := by
  unfold jointState entryWithout
  rw [asString_without]

/-- The last entries of the smaller joints are those that are kept. -/
theorem lastValue_joints_without (added : List String → Bool) (joints : Json) (joint : ServoMotorJoint) :
    lastValue jointPlace jointState (joints.without added).entries joint =
      lastValue jointPlace jointState (joints.keptEntries added) joint := by
  have hmap : lastValue jointPlace jointState ((joints.keptEntries added).map (entryWithout added)) joint =
      lastValue jointPlace (fun entry => jointState (entryWithout added entry)) (joints.keptEntries added)
        joint :=
    lastValue_map (g := entryWithout added) (fun _ => rfl) _ joint
  rw [entries_without, hmap]
  simp only [jointState_without]

/-- **The joints** are read the same iff they hold. -/
theorem parseJointPositions_alike {added : List String → Bool} {joints : Json}
    (h : joints.OnlyDrops added UnknownJoint) :
    Alike (parseJointPositions joints) (parseJointPositions (joints.without added))
      (JointsHold added joints) := by
  unfold parseJointPositions
  rw [entries_without, parseJoint_eq]
  refine Alike.table (fun entry hentry hkept => ?_) (fun _ => rfl) (jointState_without added)
  obtain ⟨joint, state, -, hv, -⟩ := h.of_not_kept hentry hkept
  unfold jointState
  rw [hv]
  rfl

/-! ## Motions -/

section Accessors

variable {added : List String → Bool} {j : Json} {key : String}

theorem stringAt_without (h : ∀ v, j.member key = some v → added [key] = false) :
    stringAt (j.without added) key = stringAt j key := by
  unfold stringAt
  rw [constIndex_without h]
  cases j.constIndex key with
  | error e => rfl
  | ok v => exact congrArg Outcome.ofOption (asString_without _ v)

theorem intAt_without (h : ∀ v, j.member key = some v → added [key] = false) :
    intAt (j.without added) key = intAt j key := by
  unfold intAt
  rw [constIndex_without h]
  cases j.constIndex key with
  | error e => rfl
  | ok v => exact congrArg (fun n => Outcome.ofOption (n.map Int32.ofInt)) (asInt_without _ v)

theorem jointsAt_alike (hkept : ∀ v, j.member "joints" = some v → added ["joints"] = false)
    (h : ∀ joints, j.member "joints" = some joints →
      joints.OnlyDrops (fun path => added ("joints" :: path)) UnknownJoint) :
    Alike (jointsAt j "joints") (jointsAt (j.without added) "joints") (ItemHolds added j) := by
  unfold jointsAt
  rw [constIndex_without hkept]
  cases hjoints : j.constIndex "joints" with
  | error e => exact Alike.of_failed rfl rfl
  | ok joints =>
      have hmember := constIndex_eq_ok.mp hjoints
      refine (parseJointPositions_alike (h joints hmember)).of_iff fun _ => ⟨fun hholds w hw => ?_, ?_⟩
      · obtain rfl := Option.some.inj (hmember.symm.trans hw)
        exact hholds
      · exact fun hholds => hholds joints hmember

end Accessors

/-- **An item** of a sequence. -/
theorem parseMotionSequenceItem_alike {added : List String → Bool} {item : Json}
    (h : item.OnlyDrops added UnknownInItem) :
    Alike (parseMotionSequenceItem item) (parseMotionSequenceItem (item.without added))
      (ItemHolds added item) := by
  unfold parseMotionSequenceItem
  rw [intAt_without (h.not_dropped (not_unknownInItem "time"))]
  have hjoints := jointsAt_alike (h.not_dropped (not_unknownInItem "joints")) fun joints hmember =>
    (h.member hmember).mono fun _ _ _ => unknownInItem_joints.mp
  have hpair := (Alike.refl (intAt item "time")).pair hjoints (f := MotionSequenceItem.mk)
    fun _ _ _ _ => MotionSequenceItem.mk.inj
  exact hpair.of_iff fun _ => and_iff_right trivial

theorem parseSequence_alike {added : List String → Bool} {motion : Json}
    (h : motion.OnlyDrops added UnknownInMotion) :
    Alike (parseSequence motion) (parseSequence (motion.without added))
      (∀ sequence, motion.member "sequence" = some sequence →
        ∀ entry ∈ sequence.entries,
          ItemHolds (fun path => added ("sequence" :: entry.1 :: path)) entry.2) := by
  have hkept : ∀ v, motion.member "sequence" = some v → added ["sequence"] = false :=
    h.not_dropped (not_unknownInMotion "sequence")
  unfold parseSequence Json.contains
  rw [constIndex_without hkept, member_without hkept]
  cases hmember : motion.member "sequence" with
  | none => exact (Alike.refl _).of_iff fun _ => iff_of_true trivial fun _ => (nomatch ·)
  | some sequence =>
      rw [Option.map_some, if_pos Option.isSome_some, if_pos Option.isSome_some,
        constIndex_eq_ok.mpr hmember]
      have hdrops := h.member hmember
      -- the items of the sequence have no names, so they are all kept
      have hall : sequence.keptEntries (fun path => added ("sequence" :: path)) = sequence.entries :=
        hdrops.keptEntries_eq (by simp)
      have hitem : ∀ entry ∈ sequence.entries, entry.2.OnlyDrops
          (fun path => added ("sequence" :: entry.1 :: path)) UnknownInItem := by
        intro entry hentry
        exact (hdrops.inside hentry).mono fun _ _ _ => unknownInMotion_sequence.mp
      show Alike (fill _ _ [] sequence.values).escaping (fill _ _ [] (sequence.without _).values).escaping _
      unfold values
      rw [entries_without, hall, fill_map, fill_map]
      refine Alike.of_iff (C := ∀ entry ∈ sequence.entries,
          ItemHolds (fun path => added ("sequence" :: entry.1 :: path)) entry.2)
        (Alike.list fun entry hentry => parseMotionSequenceItem_alike (hitem entry hentry)) fun _ => ?_
      exact ⟨fun h _ he => Option.some.inj he ▸ h, fun h => h sequence rfl⟩

/-- **A motion** is read the same iff its joints and those of its sequence hold. -/
theorem parseMotion_alike {added : List String → Bool} {motion : Json}
    (h : motion.OnlyDrops added UnknownInMotion) :
    Alike (parseMotion motion) (parseMotion (motion.without added)) (MotionHolds added motion) := by
  have hjoints := jointsAt_alike (h.not_dropped (not_unknownInMotion "joints")) fun joints hmember =>
    (h.member hmember).mono fun _ _ _ => unknownInMotion_joints.mp
  unfold parseMotion
  rw [stringAt_without (h.not_dropped (not_unknownInMotion "name")),
    stringAt_without (h.not_dropped (not_unknownInMotion "description")),
    intAt_without (h.not_dropped (not_unknownInMotion "duration"))]
  refine Alike.bind fun name _ => Alike.bind fun description _ => Alike.bind fun duration _ => ?_
  have hinj : ∀ joints joints' sequence sequence',
      MotionDefinition.mk name description duration joints sequence =
        ⟨name, description, duration, joints', sequence'⟩ →
        joints = joints' ∧ sequence = sequence' := by
    intro _ _ _ _ heq
    cases heq
    exact ⟨rfl, rfl⟩
  exact hjoints.pair (parseSequence_alike h) hinj

/-! ## Tables of motions -/

section Tables

variable {α : Type} {typeFromString : String → α} {name : α → String}
  {added : List String → Bool} {table : Json}

theorem parseMotion_entry_alike (h : table.OnlyDrops added (UnknownInTable name)) {entry : String × Json}
    (hentry : entry ∈ table.entries) :
    Alike (parseMotion entry.2) (parseMotion (entryWithout added entry).2)
      (MotionHolds (fun path => added (entry.1 :: path)) entry.2) := by
  exact parseMotion_alike ((h.inside hentry).mono fun _ _ hne => (unknownInTable_cons hne).mp)

theorem readable_of_not_kept (h : table.OnlyDrops added (UnknownInTable name)) (entry : String × Json)
    (hentry : entry ∈ table.entries) (hkept : table.keeps added entry = false) :
    failure (parseMotion entry.2) = none := by
  obtain ⟨-, hreadable⟩ := unknownInTable_singleton.mp (h.of_not_kept hentry hkept)
  exact failure_eq_none_iff.mpr ((parseMotion_reads entry.2).ok.mpr hreadable)

theorem parseEntry_eq : parseEntry typeFromString =
    readEntry (fun entry => typeFromString entry.1) fun entry => parseMotion entry.2 := rfl

theorem reachedMotions_without (h : table.OnlyDrops added (UnknownInTable name)) :
    reachedMotions (table.without added) =
      ((reachedMotions table).filter (table.keeps added)).map (entryWithout added) := by
  unfold reachedMotions
  rw [entries_without]
  refine reached_without (readable_of_not_kept h) fun entry hentry _ => ?_
  exact (parseMotion_entry_alike h hentry).fails

variable [DecidableEq α]

/-- **How the loop ends** does not depend on what is added. -/
theorem outcome_table (h : table.OnlyDrops added (UnknownInTable name)) (m m' : α → Option MotionDefinition) :
    (fill (parseEntry typeFromString) setEntry m' (table.without added).entries).outcome =
      (fill (parseEntry typeFromString) setEntry m table.entries).outcome := by
  rw [entries_without, parseEntry_eq]
  refine outcome_without (fun entry hentry hkept => ?_) (fun entry hentry _ => ?_) m m'
  · rw [failure_readEntry, readable_of_not_kept h entry hentry hkept]
  · rw [failure_readEntry, failure_readEntry]
    exact (parseMotion_entry_alike h hentry).fails

/-- What is read at a place, of those that are reached. -/
theorem store_table (table : Json) (a : α) :
    (fill (parseEntry typeFromString) setEntry (fun _ => none) table.entries).store a =
      lastValue (fun entry => typeFromString entry.1) (fun entry => parseMotion entry.2)
        (reachedMotions table) a := by
  rw [parseEntry_eq]
  exact fill_store_empty _ _ _ a

/-- **A place of a table** is loaded the same iff it holds. -/
theorem store_table_iff (h : table.OnlyDrops added (UnknownInTable name)) (a : α) :
    (fill (parseEntry typeFromString) setEntry (fun _ => none) table.entries).store a =
        (fill (parseEntry typeFromString) setEntry (fun _ => none) (table.without added).entries).store a ↔
      PlaceHolds typeFromString added table a := by
  have hmap : lastValue (fun entry => typeFromString entry.1) (fun entry => parseMotion entry.2)
      (((reachedMotions table).filter (table.keeps added)).map (entryWithout added)) a =
      lastValue (fun entry => typeFromString entry.1) (fun entry => parseMotion (entryWithout added entry).2)
        ((reachedMotions table).filter (table.keeps added)) a :=
    lastValue_map (g := entryWithout added) (fun _ => rfl) _ a
  rw [store_table, store_table, reachedMotions_without h, hmap]
  unfold PlaceHolds lastValue
  cases hlast : lastFor (fun entry => typeFromString entry.1) (reachedMotions table) a with
  | none =>
      rw [lastFor_filter_of_none hlast]
      refine iff_of_true rfl fun last hnone => ?_
      cases hnone
  | some last =>
      obtain ⟨hentry, motion, hmotion⟩ := mem_of_reached (mem_of_lastFor hlast).1
      have hvalue : ((some last).bind fun entry => (parseMotion entry.2).toOption) = some motion := by
        rw [Option.bind_some, hmotion]
        rfl
      simp only [Option.some.injEq, forall_eq']
      rw [hvalue]
      cases hkept : table.keeps added last with
      | true =>
          rw [lastFor_filter_of_keep hlast hkept, if_pos rfl]
          exact some_eq_toOption.trans ((parseMotion_entry_alike h hentry).eq_iff motion hmotion)
      | false =>
          rw [if_neg Bool.false_ne_true, hmotion]
          cases lastFor _ ((reachedMotions table).filter (table.keeps added)) a with
          | none =>
              refine iff_of_false (Option.some_ne_none motion) ?_
              rintro ⟨before, hnone, -⟩
              cases hnone
          | some before =>
              refine some_eq_toOption.trans ⟨fun hbefore => ⟨before, rfl, hbefore⟩, ?_⟩
              rintro ⟨before', hbefore', hread⟩
              rw [Option.some.inj hbefore']
              exact hread

end Tables

/-! ## A motion file -/

/-- **What the entries with a known name are loaded as** is the same. -/
structure KnownAlike (j : Json) (m m' : Motions) : Prop where
  emotional : ∀ emotion, EmotionType.name emotion ∈ (motionItems "emotional_gestures" j).map Prod.fst →
    m'.emotional emotion = m.emotional emotion
  reactional : ∀ reaction, ReactionType.name reaction ∈ (motionItems "reactional_gestures" j).map Prod.fst →
    m'.reactional reaction = m.reactional reaction
  directive : ∀ directive, DirectiveType.name directive ∈ (motionItems "directives" j).map Prod.fst →
    m'.directive directive = m.directive directive
  idlePosition : ∀ joint, ServoMotorJoint.name joint ∈ (idleItems j).map Prod.fst →
    m'.idlePosition joint = m.idlePosition joint

/-- The loads of a file without and with the additions end alike, and agree on the known names. -/
def LoadedAlike {σ : Type} (known : σ → σ → Prop) (o o' : Outcome σ) : Prop :=
  match o, o' with
  | .ok m, .ok m' => known m m'
  | .error e, .error e' => e = e'
  | _, _ => False

section File

variable {added : List String → Bool} {j : Json}

theorem motionTable_without (h : j.OnlyDrops added UnknownInMotions) (kind : String) :
    motionTable kind (j.without added) =
      (motionTable kind j).map fun table => table.without fun path => added ("motions" :: kind :: path) := by
  unfold motionTable
  rw [member_without (h.not_dropped (not_unknownInMotions "motions"))]
  cases hmember : j.member "motions" with
  | none => rfl
  | some motions => exact member_without ((h.member hmember).not_dropped (by simp))

theorem onlyDrops_table (h : j.OnlyDrops added UnknownInMotions) {kind : String} {table : Json}
    (htable : motionTable kind j = some table) :
    table.OnlyDrops (fun path => added ("motions" :: kind :: path)) (UnknownOfKind kind) := by
  obtain ⟨motions, hmotions, hmember⟩ := Option.bind_eq_some_iff.mp htable
  exact ((h.member hmotions).member hmember).mono fun _ _ _ => unknownInMotions_motions.mp

variable {α : Type} [DecidableEq α] (typeFromString : String → α) {name : α → String} {kind : String}

/-- **A table of the file**: its loop ends the same, and loads the same at its known names iff it holds. -/
theorem motionItems_alike (h : j.OnlyDrops added UnknownInMotions)
    (hkind : UnknownOfKind kind = UnknownInTable name) :
    (∀ m m' : α → Option MotionDefinition,
      (fill (parseEntry typeFromString) setEntry m' (motionItems kind (j.without added))).outcome =
        (fill (parseEntry typeFromString) setEntry m (motionItems kind j)).outcome) ∧
    ((∀ a, name a ∈ (motionItems kind (j.without added)).map Prod.fst →
      (fill (parseEntry typeFromString) setEntry (fun _ => none) (motionItems kind j)).store a =
        (fill (parseEntry typeFromString) setEntry (fun _ => none)
          (motionItems kind (j.without added))).store a) ↔
      TableHolds typeFromString name added kind j) := by
  have hitems : ∀ j, motionItems kind j = ((motionTable kind j).map Json.entries).getD [] := by
    intro j
    unfold motionItems motionTable
    cases (j.member "motions").bind (·.member kind) <;> rfl
  unfold TableHolds
  rw [hitems, hitems, motionTable_without h, Option.map_map]
  cases htable : motionTable kind j with
  | none => exact ⟨fun _ _ => rfl, iff_of_true (fun _ _ => rfl) fun _ => (nomatch ·)⟩
  | some table =>
      have hdrops := onlyDrops_table h htable
      rw [hkind] at hdrops
      refine ⟨outcome_table hdrops, ?_⟩
      rw [Option.map_some, Option.map_some, Option.getD_some, Option.getD_some]
      show (∀ a, name a ∈ (table.without _).entries.map Prod.fst → _) ↔ _
      rw [keys_without]
      simp only [Option.some.injEq, forall_eq']
      exact forall₂_congr fun a _ => store_table_iff hdrops a

end File

/-! ## The idle position -/

section Idle

variable {added : List String → Bool} {j : Json}

theorem idleJoints_without (h : j.OnlyDrops added UnknownInMotions) :
    idleJoints (j.without added) = (idleJoints j).map fun joints =>
      joints.without fun path => added ("default_idle" :: "joints" :: path) := by
  unfold idleJoints
  rw [member_without (h.not_dropped (not_unknownInMotions "default_idle"))]
  cases hmember : j.member "default_idle" with
  | none => rfl
  | some idle => exact member_without ((h.member hmember).not_dropped (by simp))

theorem onlyDrops_idle (h : j.OnlyDrops added UnknownInMotions) {joints : Json}
    (hjoints : idleJoints j = some joints) :
    joints.OnlyDrops (fun path => added ("default_idle" :: "joints" :: path)) UnknownJoint := by
  obtain ⟨idle, hidle, hmember⟩ := Option.bind_eq_some_iff.mp hjoints
  exact ((h.member hidle).member hmember).mono fun _ _ _ => unknownInMotions_idle.mp

/-- The joints that are read, one by one. -/
theorem parseJointPositions_apply {joints : Json} {positions : JointPositions}
    (h : parseJointPositions joints = .ok positions) (joint : ServoMotorJoint) :
    positions joint = lastValue jointPlace jointState joints.entries joint := by
  unfold parseJointPositions at h
  rw [parseJoint_eq] at h
  exact escaping_apply h joint

theorem loadIdlePosition_of_none {m : Motions} (h : idleJoints j = none) :
    loadIdlePosition j m = ⟨m, .ok ()⟩ := by
  unfold idleJoints at h
  unfold loadIdlePosition
  rw [h]

theorem loadIdlePosition_of_ok {m : Motions} {joints : Json} (h : idleJoints j = some joints)
    {positions : JointPositions} (hread : parseJointPositions joints = .ok positions) :
    loadIdlePosition j m = ⟨{ m with idlePosition := positions }, .ok ()⟩ := by
  unfold idleJoints at h
  unfold loadIdlePosition
  rw [h]
  dsimp only
  rw [hread]

theorem loadIdlePosition_of_error {m : Motions} {joints : Json} (h : idleJoints j = some joints)
    {e : Failure} (hread : parseJointPositions joints = .error e) :
    loadIdlePosition j m = ⟨m, .error e⟩ := by
  unfold idleJoints at h
  unfold loadIdlePosition
  rw [h]
  dsimp only
  rw [hread]

/-- Only the idle position is set. -/
theorem loadIdlePosition_store (j : Json) (m : Motions) :
    ∃ idlePosition, (loadIdlePosition j m).store = { m with idlePosition } := by
  cases hjoints : idleJoints j with
  | none => exact ⟨m.idlePosition, by rw [loadIdlePosition_of_none hjoints]⟩
  | some joints =>
      cases hread : parseJointPositions joints with
      | ok positions => exact ⟨positions, by rw [loadIdlePosition_of_ok hjoints hread]⟩
      | error e => exact ⟨m.idlePosition, by rw [loadIdlePosition_of_error hjoints hread]⟩

/-- **The idle position**: its loop ends the same, and loads the same at its known joints iff it holds. -/
theorem loadIdlePosition_alike (h : j.OnlyDrops added UnknownInMotions) (m m' : Motions)
    (hm : m'.idlePosition = m.idlePosition) :
    (loadIdlePosition j m').outcome = (loadIdlePosition (j.without added) m).outcome ∧
    ((∀ joint, ServoMotorJoint.name joint ∈ (idleItems (j.without added)).map Prod.fst →
      (loadIdlePosition j m').store.idlePosition joint =
        (loadIdlePosition (j.without added) m).store.idlePosition joint) ↔ IdleHolds added j) := by
  have hwithout := idleJoints_without h
  unfold IdleHolds idleItems
  cases hjoints : idleJoints j with
  | none =>
      rw [hjoints] at hwithout
      rw [loadIdlePosition_of_none hjoints, loadIdlePosition_of_none hwithout, hwithout]
      exact ⟨rfl, iff_of_true (fun joint _ => congrFun hm joint) fun _ => (nomatch ·)⟩
  | some joints =>
      rw [hjoints, Option.map_some] at hwithout
      have halike := parseJointPositions_alike (onlyDrops_idle h hjoints)
      rw [hwithout, Option.map_some, Option.getD_some, keys_without]
      simp only [Option.some.injEq, forall_eq']
      cases hread : parseJointPositions joints with
      | error e =>
          have hread' := eq_error_of_failure halike.fails hread
          rw [loadIdlePosition_of_error hjoints hread, loadIdlePosition_of_error hwithout hread']
          refine ⟨rfl, iff_of_true (fun joint _ => congrFun hm joint) fun hreadable => ?_⟩
          obtain ⟨positions, hpositions⟩ := (parseJointPositions_reads joints).ok.mpr hreadable
          rw [hread] at hpositions
          cases hpositions
      | ok positions =>
          obtain ⟨positions', hread'⟩ := exists_ok_of_failure halike.fails hread
          have hreadable := (parseJointPositions_reads joints).ok.mp ⟨positions, hread⟩
          rw [loadIdlePosition_of_ok hjoints hread, loadIdlePosition_of_ok hwithout hread']
          refine ⟨rfl, Iff.trans ?_ (imp_iff_right hreadable).symm⟩
          refine forall₂_congr fun joint _ => ?_
          show positions joint = positions' joint ↔ _
          rw [parseJointPositions_apply hread, parseJointPositions_apply hread', lastValue_joints_without]
          exact eq_comm

end Idle

section File

variable {added : List String → Bool} {j : Json}

/-- The loops over the tables, each into an empty one. -/
def emotionalFill (j : Json) : Filled (EmotionType → Option MotionDefinition) :=
  fill (parseEntry emotionTypeFromString) setEntry (fun _ => none) (motionItems "emotional_gestures" j)

def reactionalFill (j : Json) : Filled (ReactionType → Option MotionDefinition) :=
  fill (parseEntry reactionTypeFromString) setEntry (fun _ => none) (motionItems "reactional_gestures" j)

def directiveFill (j : Json) : Filled (DirectiveType → Option MotionDefinition) :=
  fill (parseEntry directiveTypeFromString) setEntry (fun _ => none) (motionItems "directives" j)

/-- What is loaded behind a loop: nothing, if that one fails. -/
def behind {α γ : Type} (o : Outcome Unit) (table : α → Option γ) : α → Option γ :=
  match o with
  | .ok () => table
  | .error _ => fun _ => none

/-- What is loaded behind a loop is the same iff the loop fails, or it is the same by itself. -/
theorem behind_iff {α γ : Type} {o : Outcome Unit} {readable C : Prop} {table table' : α → Option γ}
    {known : α → Prop} (ho : (∃ u, o = .ok u) ↔ readable) (h : (∀ a, known a → table a = table' a) ↔ C) :
    (∀ a, known a → behind o table a = behind o table' a) ↔ (readable → C) := by
  cases o with
  | ok _ => exact h.trans (imp_iff_right (ho.mp ⟨_, rfl⟩)).symm
  | error e =>
      refine iff_of_true (fun _ _ => rfl) fun hreadable => ?_
      obtain ⟨_, hok⟩ := ho.mpr hreadable
      cases hok

/-- The tables when the idle position is loaded. -/
def filledTables (j : Json) : Motions where
  emotional := (emotionalFill j).store
  reactional := (reactionalFill j).store
  directive := (directiveFill j).store
  idlePosition _ := none

/-- **The loader, table by table**. -/
theorem loadMotions_eq (j : Json) :
    loadMotions j noMotions =
      { store :=
          { emotional := (emotionalFill j).store
            reactional := behind (emotionalFill j).outcome (reactionalFill j).store
            directive := behind (emotionalFill j).outcome
              (behind (reactionalFill j).outcome (directiveFill j).store)
            idlePosition := behind (emotionalFill j).outcome (behind (reactionalFill j).outcome
              (behind (directiveFill j).outcome (loadIdlePosition j (filledTables j)).store.idlePosition)) }
        outcome := do
          (emotionalFill j).outcome
          (reactionalFill j).outcome
          (directiveFill j).outcome
          (loadIdlePosition j (filledTables j)).outcome } := by
  have hemotional : loadEmotionalMotions j noMotions =
      ⟨{ noMotions with emotional := (emotionalFill j).store }, (emotionalFill j).outcome⟩ := rfl
  have hreactional : loadReactionalMotions j { noMotions with emotional := (emotionalFill j).store } =
      ⟨{ noMotions with emotional := (emotionalFill j).store, reactional := (reactionalFill j).store },
        (reactionalFill j).outcome⟩ := rfl
  have hdirective : loadDirectiveMotions j
      { noMotions with emotional := (emotionalFill j).store, reactional := (reactionalFill j).store } =
      ⟨filledTables j, (directiveFill j).outcome⟩ := rfl
  unfold loadMotions
  rw [hemotional]
  cases (emotionalFill j).outcome with
  | error e => rfl
  | ok _ =>
      rw [Filled.andThen_eq rfl, hreactional]
      cases (reactionalFill j).outcome with
      | error e => rfl
      | ok _ =>
          rw [Filled.andThen_eq rfl, hdirective]
          cases (directiveFill j).outcome with
          | error e => rfl
          | ok _ =>
              rw [Filled.andThen_eq rfl]
              obtain ⟨idlePosition, hidle⟩ := loadIdlePosition_store j (filledTables j)
              cases hload : loadIdlePosition j (filledTables j) with
              | mk store outcome =>
                  rw [hload] at hidle
                  subst hidle
                  rfl

/-- **A motion file**: both loads end the same, and agree on the known names iff the file holds. -/
theorem loadMotions_alike (h : j.OnlyDrops added UnknownInMotions) :
    (loadMotions j noMotions).outcome = (loadMotions (j.without added) noMotions).outcome ∧
      (KnownAlike (j.without added) (loadMotions (j.without added) noMotions).store
        (loadMotions j noMotions).store ↔ MotionsHold added j) := by
  obtain ⟨hend, hemotional⟩ := motionItems_alike emotionTypeFromString h
    (rfl : UnknownOfKind "emotional_gestures" = UnknownInTable EmotionType.name)
  obtain ⟨hend', hreactional⟩ := motionItems_alike reactionTypeFromString h
    (rfl : UnknownOfKind "reactional_gestures" = UnknownInTable ReactionType.name)
  obtain ⟨hend'', hdirective⟩ := motionItems_alike directiveTypeFromString h
    (rfl : UnknownOfKind "directives" = UnknownInTable DirectiveType.name)
  obtain ⟨hidleEnd, hidle⟩ :=
    loadIdlePosition_alike h (filledTables (j.without added)) (filledTables j) rfl
  have hsame : (emotionalFill (j.without added)).outcome = (emotionalFill j).outcome := hend _ _
  have hsame' : (reactionalFill (j.without added)).outcome = (reactionalFill j).outcome := hend' _ _
  have hsame'' : (directiveFill (j.without added)).outcome = (directiveFill j).outcome := hend'' _ _
  have hread : (∃ u, (emotionalFill j).outcome = .ok u) ↔
      MotionsReadable (motionItems "emotional_gestures" j) :=
    (parseTable_reads emotionTypeFromString _ _).ok
  have hread' : (∃ u, (reactionalFill j).outcome = .ok u) ↔
      MotionsReadable (motionItems "reactional_gestures" j) :=
    (parseTable_reads reactionTypeFromString _ _).ok
  have hread'' : (∃ u, (directiveFill j).outcome = .ok u) ↔
      MotionsReadable (motionItems "directives" j) :=
    (parseTable_reads directiveTypeFromString _ _).ok
  rw [loadMotions_eq, loadMotions_eq, hsame, hsame', hsame'', hidleEnd]
  have hreactional' := behind_iff hread hreactional
  have hdirective' := behind_iff hread (behind_iff hread' hdirective)
  have hidle' := behind_iff hread (behind_iff hread' (behind_iff hread'' hidle))
  refine ⟨rfl, fun hknown => ?_, fun hholds => ?_⟩
  · exact ⟨hemotional.mp hknown.emotional, hreactional'.mp hknown.reactional, hdirective'.mp hknown.directive,
      hidle'.mp hknown.idlePosition⟩
  · exact ⟨hemotional.mpr hholds.emotional, hreactional'.mpr hholds.reactional,
      hdirective'.mpr hholds.directive, hidle'.mpr hholds.idlePosition⟩

/-- **Motion files**: the loads without and with the additions agree on the known names iff the loader runs
    into a missing key, or the file holds. -/
theorem motions_undisturbed_iff (h : j.OnlyDrops added UnknownInMotions) :
    LoadedAlike (KnownAlike (j.without added))
        (loadMotionsFromFile (.parsed (j.without added)) noMotions)
        (loadMotionsFromFile (.parsed j) noMotions) ↔
      MotionsLackKey (motionsOf j) ∨ MotionsHold added j := by
  obtain ⟨_, hreads⟩ := loadMotions_reads j noMotions
  obtain ⟨houtcome, hholds⟩ := loadMotions_alike h
  show LoadedAlike _ (loadMotions (j.without added) noMotions).caught (loadMotions j noMotions).caught ↔ _
  rw [← hreads.assertion, ← hholds]
  unfold Filled.caught
  rw [← houtcome]
  cases ho : (loadMotions j noMotions).outcome with
  | ok _ => exact (or_iff_right (nomatch ·)).symm
  | error e =>
      cases e with
      | exception => exact (or_iff_right (nomatch ·)).symm
      | assertion => exact iff_of_true rfl (.inl rfl)
      | undefined => exact absurd ho hreads.defined

end File

end JsonParserOperator

end Kufibot
