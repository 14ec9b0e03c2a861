import Kufibot.Operators.UnknownMotions

/-!
# `Operators.UnknownNames` — entries with names that nobody knows

A joint-angle file is read joint by joint and state by state, so an entry with an unknown joint sets angles
of the left eye, and one with an unknown state the angle of `fulldown`. `angles_undisturbed_iff` shows when
the known joints keep their angles, and `unknown_names_iff` says it of both files.
-/

namespace Kufibot

open Lib Lib.Json Lib.Outcome

def AngleReadable (v : Json) : Prop := v.HasNumber "angle" ∧ v.HasString "name"

/-- **In a joint-angle file**: a joint that nobody knows, with readable states, or such a state. -/
def UnknownInAngles (path : List String) (v : Json) : Prop :=
  (∃ joint, path = [joint] ∧ Unrecognised ServoMotorJoint.name joint ∧
    ∀ state ∈ v.entries, AngleReadable state.2) ∨
    ∃ joint state, path = [joint, state] ∧ Unrecognised GestureJointState.name state ∧ AngleReadable v

section Paths

variable {joint state : String} {path : List String} {v : Json}

theorem unknownInAngles_joint : UnknownInAngles [joint] v ↔
    Unrecognised ServoMotorJoint.name joint ∧ ∀ state ∈ v.entries, AngleReadable state.2 := by
  simp [UnknownInAngles]

theorem unknownInAngles_state : UnknownInAngles [joint, state] v ↔
    Unrecognised GestureJointState.name state ∧ AngleReadable v := by
  simp [UnknownInAngles]

theorem not_unknownInAngles_below (key : String) : ¬UnknownInAngles [joint, state, key] v := by
  simp [UnknownInAngles]

end Paths

namespace JsonParserOperator

def anglePlace (item : String × (String × Json)) : ServoMotorJoint × GestureJointState :=
  (servoJointFromString item.1, gestureStateFromString item.2.1)

def jointAngle (item : String × (String × Json)) : Outcome GestureJointAngle := do
  let angle ← Outcome.ofOption ((item.2.2.index "angle").bind Json.asInt)
  let symbol ← Outcome.ofOption ((item.2.2.index "name").bind Json.asString)
  return { angle, symbol }

/-- The states that are not added, of the joints that are not. -/
def keptAngleItems (added : List String → Bool) (j : Json) : List (String × (String × Json)) :=
  (j.keptEntries added).flatMap fun joint =>
    (joint.2.keptEntries fun path => added (joint.1 :: path)).map fun state => (joint.1, state)

/-- **A joint-angle file holds**: for every joint that it has an entry for, and every state, the last angle
    is that of the last one that is not added. -/
def AnglesHold (added : List String → Bool) (j : Json) : Prop :=
  ∀ joint, ServoMotorJoint.name joint ∈ (j.keptEntries added).map Prod.fst → ∀ state,
    lastValue anglePlace jointAngle (keptAngleItems added j) (joint, state) =
      lastValue anglePlace jointAngle (jointAngleItems j) (joint, state)

section Angles

variable {added : List String → Bool} {j : Json}

theorem parseJointAngle_eq : parseJointAngle = readEntry anglePlace jointAngle := by
  funext item
  unfold parseJointAngle readEntry jointAngle
  cases (item.2.2.index "angle").bind Json.asInt with
  | none => rfl
  | some angle => cases (item.2.2.index "name").bind Json.asString <;> rfl

/-- A state without what is dropped in it. -/
def stateWithout (added : List String → Bool) (item : String × (String × Json)) : String × (String × Json) :=
  (item.1, entryWithout (fun path => added (item.1 :: path)) item.2)

theorem jointAngleItems_without (added : List String → Bool) (j : Json) :
    jointAngleItems (j.without added) = (keptAngleItems added j).map (stateWithout added) := by
  unfold jointAngleItems keptAngleItems
  rw [entries_without, List.flatMap_map, List.map_flatMap]
  refine List.flatMap_congr fun joint _ => ?_
  unfold entryWithout
  rw [entries_without, List.map_map, List.map_map]
  rfl

theorem mem_angleItems_of_kept {item : String × (String × Json)} (h : item ∈ keptAngleItems added j) :
    item ∈ jointAngleItems j := by
  obtain ⟨joint, hjoint, hitem⟩ := List.mem_flatMap.mp h
  obtain ⟨state, hstate, rfl⟩ := List.mem_map.mp hitem
  exact List.mem_flatMap.mpr ⟨joint, mem_entries_of_kept hjoint,
    List.mem_map_of_mem (mem_entries_of_kept hstate)⟩

/-- Nothing is added in an angle. -/
theorem jointAngle_without (h : j.OnlyDrops added UnknownInAngles) {item : String × (String × Json)}
    (hitem : item ∈ jointAngleItems j) : jointAngle (stateWithout added item) = jointAngle item := by
  obtain ⟨joint, hjoint, hitem⟩ := List.mem_flatMap.mp hitem
  obtain ⟨state, hstate, rfl⟩ := List.mem_map.mp hitem
  have hdrops := (h.inside hjoint).inside hstate
  have hindex : ∀ key, (state.2.without fun path => added (joint.1 :: state.1 :: path)).index key =
      (state.2.index key).map fun v => v.without fun path => added (joint.1 :: state.1 :: key :: path) :=
    fun key => index_without (hdrops.not_dropped fun _ => not_unknownInAngles_below key)
  unfold jointAngle stateWithout entryWithout
  dsimp only
  rw [hindex, hindex, Option.bind_map, Option.bind_map]
  simp only [Function.comp_def, asInt_without, asString_without]

/-- What is added can be read. -/
theorem readable_of_kept (h : j.OnlyDrops added UnknownInAngles)
    (hall : ∀ item ∈ keptAngleItems added j, AngleReadable item.2.2) :
    ∀ item ∈ jointAngleItems j, AngleReadable item.2.2 := by
  intro item hitem
  obtain ⟨joint, hjoint, hmem⟩ := List.mem_flatMap.mp hitem
  obtain ⟨state, hstate, rfl⟩ := List.mem_map.mp hmem
  cases hkept : j.keeps added joint with
  | false =>
      obtain ⟨-, hstates⟩ := unknownInAngles_joint.mp (h.of_not_kept hjoint hkept)
      exact hstates state hstate
  | true =>
      cases hkept' : joint.2.keeps (fun path => added (joint.1 :: path)) state with
      | false =>
          have hunknown := (h.inside hjoint).of_not_kept hstate hkept'
          exact (unknownInAngles_state.mp hunknown).2
      | true =>
          exact hall _ (List.mem_flatMap.mpr ⟨joint, List.mem_filter.mpr ⟨hjoint, hkept⟩,
            List.mem_map_of_mem (List.mem_filter.mpr ⟨hstate, hkept'⟩)⟩)

theorem loadJointAngles_eq (j : Json) : loadJointAnglesFromJson (.parsed j) =
    (fill (readEntry anglePlace jointAngle) setEntry (fun _ => none) (jointAngleItems j)).escaping := by
  rw [← parseJointAngle_eq]
  rfl

theorem loadJointAngles_ok_iff (j : Json) :
    (∃ angles, loadJointAnglesFromJson (.parsed j) = .ok angles) ↔
      ∀ item ∈ jointAngleItems j, AngleReadable item.2.2 := by
  rw [loadJointAnglesFromJson_ok]
  constructor
  · rintro ⟨_, ⟨⟩, hall⟩
    exact hall
  · exact fun hall => ⟨j, rfl, hall⟩

/-- What cannot be read throws. -/
theorem loadJointAngles_error {e : Failure} (h : loadJointAnglesFromJson (.parsed j) = .error e) :
    e = .exception := by
  rw [loadJointAngles_eq, Filled.escaping_eq_error, fill_error_iff] at h
  obtain ⟨before, item, after, -, -, hitem⟩ := h
  have hangle : jointAngle item = .error e := by
    rcases Outcome.bind_eq_error.mp hitem with hangle | ⟨_, _, hpure⟩
    · exact hangle
    · cases hpure
  rcases Outcome.bind_eq_error.mp hangle with hangle | ⟨_, _, hsymbol⟩
  · exact (Outcome.ofOption_eq_error.mp hangle).2
  · rcases Outcome.bind_eq_error.mp hsymbol with hsymbol | ⟨_, _, hpure⟩
    · exact (Outcome.ofOption_eq_error.mp hsymbol).2
    · cases hpure

/-- The smaller file is loaded iff the larger one is. -/
theorem loaded_without_iff (h : j.OnlyDrops added UnknownInAngles) :
    (∃ angles, loadJointAnglesFromJson (.parsed (j.without added)) = .ok angles) ↔
      ∃ angles, loadJointAnglesFromJson (.parsed j) = .ok angles := by
  have hsame : ∀ item ∈ keptAngleItems added j,
      AngleReadable (stateWithout added item).2.2 ↔ AngleReadable item.2.2 := by
    intro item hitem
    have hparse : parseJointAngle (stateWithout added item) = parseJointAngle item := by
      rw [parseJointAngle_eq, readEntry, readEntry, jointAngle_without h (mem_angleItems_of_kept hitem)]
      rfl
    have hwithout := parseJointAngle_ok (stateWithout added item)
    rw [hparse] at hwithout
    exact hwithout.symm.trans (parseJointAngle_ok item)
  rw [loadJointAngles_ok_iff, loadJointAngles_ok_iff, jointAngleItems_without, List.forall_mem_map]
  constructor
  · intro hall
    exact readable_of_kept h fun item hitem => (hsame item hitem).mp (hall item hitem)
  · intro hall item hitem
    exact (hsame item hitem).mpr (hall item (mem_angleItems_of_kept hitem))

/-- What is loaded for the joints with a known name is the same. -/
def AnglesAlike (j : Json) (angles angles' : JointAngles) : Prop :=
  ∀ joint, ServoMotorJoint.name joint ∈ j.entries.map Prod.fst → ∀ state,
    angles' (joint, state) = angles (joint, state)

/-- **Joint-angle files**: the loads without and with the additions agree on the known joints iff the file
    cannot be loaded, or holds. -/
theorem angles_undisturbed_iff (h : j.OnlyDrops added UnknownInAngles) :
    LoadedAlike (AnglesAlike (j.without added)) (loadJointAnglesFromJson (.parsed (j.without added)))
        (loadJointAnglesFromJson (.parsed j)) ↔
      ¬JointAnglesReadable (.parsed j) ∨ AnglesHold added j := by
  have hreadable := loaded_without_iff h
  rw [← loadJointAnglesFromJson_ok, ← hreadable]
  cases hload : loadJointAnglesFromJson (.parsed (j.without added)) with
  | error e =>
      cases hload' : loadJointAnglesFromJson (.parsed j) with
      | ok angles' =>
          obtain ⟨_, hok⟩ := hreadable.mpr ⟨angles', hload'⟩
          rw [hload] at hok
          cases hok
      | error e' =>
          rw [loadJointAngles_error hload, loadJointAngles_error hload']
          exact iff_of_true rfl (.inl fun ⟨_, hok⟩ => (nomatch hok))
  | ok angles =>
      obtain ⟨angles', hload'⟩ := hreadable.mp ⟨angles, hload⟩
      rw [hload', or_iff_right (not_not_intro ⟨angles, rfl⟩)]
      show AnglesAlike _ _ _ ↔ _
      unfold AnglesAlike AnglesHold
      rw [keys_without]
      have hkept : ∀ place,
          angles place = lastValue anglePlace jointAngle (keptAngleItems added j) place := by
        intro place
        rw [loadJointAngles_eq] at hload
        rw [escaping_apply hload, jointAngleItems_without]
        refine (lastValue_map (g := stateWithout added) (fun _ => rfl) _ place).trans ?_
        exact lastValue_congr (fun item hitem => jointAngle_without h (mem_angleItems_of_kept hitem)) place
      rw [loadJointAngles_eq] at hload'
      refine forall₂_congr fun joint _ => forall_congr' fun state => ?_
      rw [escaping_apply hload', hkept]
      exact eq_comm

end Angles

/-! ## Both files -/

/-- **Unknown names, when exactly.** For every motion file and every joint-angle file, and all sets of entries
    in them whose names are unknown: with and without these entries the loads agree on the known names iff the
    last entry that is read for each of them is not one of these, or says what the last one before says; or
    nothing is loaded at all. -/
theorem unknown_names_iff {motions angles : Json} {added added' : List String → Bool}
    (hmotions : motions.OnlyDrops added UnknownInMotions)
    (hangles : angles.OnlyDrops added' UnknownInAngles) :
    (LoadedAlike (KnownAlike (motions.without added))
        (loadMotionsFromFile (.parsed (motions.without added)) noMotions)
        (loadMotionsFromFile (.parsed motions) noMotions) ↔
      MotionsLackKey (motionsOf motions) ∨ MotionsHold added motions) ∧
    (LoadedAlike (AnglesAlike (angles.without added'))
        (loadJointAnglesFromJson (.parsed (angles.without added')))
        (loadJointAnglesFromJson (.parsed angles)) ↔
      ¬JointAnglesReadable (.parsed angles) ∨ AnglesHold added' angles) :=
  ⟨motions_undisturbed_iff hmotions, angles_undisturbed_iff hangles⟩

/-- A motion that moves no joint. -/
def plainMotion (name : String) : MotionDefinition := ⟨name, "", 500, fun _ => none, []⟩

def plainJson (name : String) : Json :=
  .object [("name", .string name), ("description", .string ""), ("duration", .int 500),
    ("joints", .object [])]

/-- What is loaded for `angry` alone. -/
def angryOnly (name : String) : Motions :=
  { noMotions with emotional := setEntry (fun _ => none) (.angry, plainMotion name) }

/-- A file with `angry`, and with a mood that nobody knows. -/
def moodFile (mood : String) : Json :=
  .object [("motions", .object [("emotional_gestures",
    .object [("angry", plainJson "frown"), (mood, plainJson "yawn")])])]

def moodPath (mood : String) : List String := ["motions", "emotional_gestures", mood]

theorem moodFile_unknown (mood : String) (hunknown : Unrecognised EmotionType.name mood) :
    (moodFile mood).OnlyDrops (fun path => path == moodPath mood) UnknownInMotions := by
  refine onlyDrops_beq fun v hv => ?_
  obtain ⟨motions, hmotions, hv⟩ := hv.exists_of_cons
  obtain ⟨table, htable, hv⟩ := hv.exists_of_cons
  cases List.mem_singleton.mp (mem_entries_object.mp hmotions)
  cases List.mem_singleton.mp (mem_entries_object.mp htable)
  have hreadable : ∀ name, MotionReadable (plainJson name) := fun name =>
    (parseMotion_reads _).ok.mp ⟨plainMotion name, rfl⟩
  have hv : MotionReadable v := by
    rcases List.mem_cons.mp hv.mem_of_singleton with h | h
    · cases h
      exact hreadable _
    · cases List.mem_singleton.mp h
      exact hreadable _
  exact unknownInMotions_motions.mpr (unknownInTable_singleton.mpr ⟨hunknown, hv⟩)

theorem bored_disturbs :
    (moodFile "bored").OnlyDrops (fun path => path == moodPath "bored") UnknownInMotions ∧
      ¬LoadedAlike (KnownAlike ((moodFile "bored").without fun path => path == moodPath "bored"))
        (loadMotionsFromFile (.parsed ((moodFile "bored").without fun path => path == moodPath "bored"))
          noMotions)
        (loadMotionsFromFile (.parsed (moodFile "bored")) noMotions) := by
  refine ⟨moodFile_unknown "bored" fun emotion => by cases emotion <;> decide, ?_⟩
  have hwithout : loadMotionsFromFile
      (.parsed ((moodFile "bored").without fun path => path == moodPath "bored")) noMotions =
      .ok (angryOnly "frown") := rfl
  have hwith : loadMotionsFromFile (.parsed (moodFile "bored")) noMotions =
      .ok { noMotions with
        emotional := setEntry (angryOnly "frown").emotional (.angry, plainMotion "yawn") } := rfl
  rw [hwithout, hwith]
  intro h
  have hangry := h.emotional .angry (List.mem_singleton.mpr rfl)
  have hname : some "yawn" = some "frown" := congrArg (Option.map MotionDefinition.name) hangry
  exact absurd (Option.some.inj hname) (by decide)

/-- Angles of the left eye, and of a joint that nobody knows. -/
def armFile : Json :=
  .object [("arm", .object [("fullup", .object [("angle", .int 10), ("name", .string "a")])]),
    ("eyeLeft", .object [("fullup", .object [("angle", .int 20), ("name", .string "b")])])]

theorem armFile_unknown : armFile.OnlyDrops (fun path => path == ["arm"]) UnknownInAngles := by
  refine onlyDrops_beq fun v hv => ?_
  have hv : v = .object [("fullup", .object [("angle", .int 10), ("name", .string "a")])] := by
    rcases List.mem_cons.mp hv.mem_of_singleton with h | h
    · cases h
      rfl
    · have hkey : "arm" = "eyeLeft" := congrArg Prod.fst (List.mem_singleton.mp h)
      exact absurd hkey (by decide)
  refine unknownInAngles_joint.mpr ⟨fun joint => by cases joint <;> decide, ?_⟩
  rw [hv]
  intro state hstate
  cases List.mem_singleton.mp (mem_entries_object.mp hstate)
  exact ⟨⟨.int 10, rfl, trivial⟩, "a", rfl⟩

/-- What sorts before the real name is read over by it. -/
theorem aloof_and_arm_hidden :
    LoadedAlike (KnownAlike ((moodFile "aloof").without fun path => path == moodPath "aloof"))
        (loadMotionsFromFile (.parsed ((moodFile "aloof").without fun path => path == moodPath "aloof"))
          noMotions)
        (loadMotionsFromFile (.parsed (moodFile "aloof")) noMotions) ∧
      LoadedAlike (AnglesAlike (armFile.without fun path => path == ["arm"]))
        (loadJointAnglesFromJson (.parsed (armFile.without fun path => path == ["arm"])))
        (loadJointAnglesFromJson (.parsed armFile)) := by
  obtain ⟨hmotions, hangles⟩ := unknown_names_iff
    (moodFile_unknown "aloof" fun emotion => by cases emotion <;> decide) armFile_unknown
  refine ⟨hmotions.mpr (.inr ⟨?_, ?_, ?_, ?_⟩), hangles.mpr (.inr ?_)⟩
  · intro table htable emotion _ last hlast
    cases htable
    cases emotion with
    | angry =>
        cases hlast
        refine ⟨fun joints hjoints => ?_, fun _ => (nomatch ·)⟩
        cases hjoints
        exact fun _ => rfl
    | _ => cases hlast
  · exact fun _ _ => (nomatch ·)
  · exact fun _ _ _ => (nomatch ·)
  · exact fun _ _ _ _ => (nomatch ·)
  · intro joint _ state
    cases joint <;> cases state <;> rfl

end JsonParserOperator

end Kufibot
