import Kufibot.Controllers.ServoMotor
import Kufibot.Lib.FillTable
import Kufibot.Operators.MotionFile

/-!
# `Controllers.SavedPose` — the joint angles in the save file

`saveJointAngles` writes the recorded angles under the names of the joints, and `loadJointAngles` reads them
back at the next start. What cannot be read is caught, but the angles are overwritten one after another, so
the ones before the bad value stay changed; and a number is cut to eight bits, a truth value taken for 0 or 1.
`saved_pose_iff` says for which files the pose is restored exactly or kept.

A float that eight bits cannot hold is undefined behaviour.
-/

namespace Kufibot

open Lib Lib.Outcome

/-- `Servo_Motor_Joint_Names`. -/
def ServoMotorJoint.savedName : ServoMotorJoint → String
  | .rightArm => "Right Arm"
  | .leftArm => "Left Arm"
  | .neck => "Neck"
  | .headUpDown => "Head Up-Down"
  | .headLeftRight => "Head Left-Right"
  | .eyeRight => "Eye Right"
  | .eyeLeft => "Eye Left"

namespace SavedPose

open JsonParserOperator

/-! ## The functions -/

/-- Conversion to `uint8_t`. -/
def asByte : Json → Outcome UInt8
  | .int n => .ok (toUInt8 n)
  | .float q =>
      let n := Float64.toInt q
      if 0 ≤ n ∧ n ≤ 255 then .ok (toUInt8 n) else .error .undefined
  | .bool b => .ok (if b then 1 else 0)
  | _ => .error .exception

/-- `data.value(key, angle)`; what is no object throws. -/
def valueByte (data : Json) (key : String) (angle : UInt8) : Outcome UInt8 :=
  match data with
  | .object _ =>
      match data.member key with
      | some v => asByte v
      | none => .ok angle
  | _ => .error .exception

/-- The recorded angles, in the order of the joints. -/
def recorded (currentJointAngles : JointMap) : List (ServoMotorJoint × UInt8) :=
  mapEntries ServoMotorJoint.declared currentJointAngles

def readAngle (data : Json) (entry : ServoMotorJoint × UInt8) : Outcome (ServoMotorJoint × UInt8) :=
  (valueByte data entry.1.savedName entry.2).map fun angle => (entry.1, angle)

/-- The loop. -/
def readAngles (data : Json) (currentJointAngles : JointMap) : Filled JointMap :=
  fill (readAngle data) setEntry currentJointAngles (recorded currentJointAngles)

/-- `loadJointAngles`: the angles afterwards. The file is `none` if it cannot be opened, and `parse` returns
    `none` for what it discards. -/
def loadJointAngles (parse : List UInt8 → Option Json) (file : Option (List UInt8))
    (currentJointAngles : JointMap) : Outcome JointMap :=
  match file with
  | none => .ok currentJointAngles
  | some content =>
      if content.isEmpty then .ok currentJointAngles
      else
        match parse content with
        | none => .ok currentJointAngles
        | some data => (readAngles data currentJointAngles).caught

/-- The value that `saveJointAngles` dumps. -/
def saveJson (currentJointAngles : JointMap) : Json :=
  (recorded currentJointAngles).foldl (fun data entry => data.set entry.1.savedName (.int entry.2.toNat)) .null

/-! ## Exactly, or not at all -/

/-- The value is the number of a byte. -/
def IsByte (v : Json) (b : UInt8) : Prop :=
  match v with
  | .int n => n = b.toNat
  | .float q => q = b.toNat
  | _ => False

/-- Every recorded joint with a member has exactly the number stored there, and the others are as before. -/
structure RestoredExactly (data : Json) (current restored : JointMap) : Prop where
  stored : ∀ joint angle v, current joint = some angle → data.member joint.savedName = some v →
    ∃ b, restored joint = some b ∧ IsByte v b
  others : ∀ joint, current joint = none ∨ data.member joint.savedName = none →
    restored joint = current joint

/-- **The promise** for a file: no exception escapes, and the pose is restored exactly or not at all. -/
def ExactOrUnchanged (parse : List UInt8 → Option Json) (file : Option (List UInt8)) (current : JointMap) :
    Prop :=
  ∃ restored, loadJointAngles parse file current = .ok restored ∧
    (restored = current ∨ ∃ content data, file = some content ∧ parse content = some data ∧
      RestoredExactly data current restored)

/-- The members of all recorded joints are bytes. -/
def AllBytes (data : Json) (current : JointMap) : Prop :=
  ∀ joint angle v, current joint = some angle → data.member joint.savedName = some v → ∃ b, IsByte v b

/-- The recorded joints have no member, or one that converts to the recorded angle, up to the first one whose
    member does not convert. -/
def NothingNew (data : Json) (current : JointMap) : Prop :=
  ∃ before after, recorded current = before ++ after ∧ (∀ entry ∈ before, readAngle data entry = .ok entry) ∧
    (after = [] ∨ ∃ entry rest, after = entry :: rest ∧ readAngle data entry = .error .exception)

theorem asByte_of_isByte {v : Json} {b : UInt8} (h : IsByte v b) : asByte v = .ok b := by
  cases v with
  | int n =>
      have hn : n = b.toNat := h
      rw [asByte, hn, toUInt8_toNat]
  | float q =>
      have hq : q = b.toNat := h
      have hfloor : Float64.toInt q = b.toNat := by
        rw [hq, Float64.toInt, if_pos (Nat.cast_nonneg _)]
        exact Int.floor_natCast _
      have hlt := b.toNat_lt
      unfold asByte
      simp only
      rw [hfloor, if_pos ⟨by omega, by omega⟩, toUInt8_toNat]
  | _ => exact h.elim

section Recorded

variable {current : JointMap}

theorem mem_recorded {joint : ServoMotorJoint} {angle : UInt8} :
    (joint, angle) ∈ recorded current ↔ current joint = some angle :=
  mem_mapEntries mem_declared

theorem nodup_recorded (current : JointMap) : ((recorded current).map Prod.fst).Nodup := by
  have hnames : (((recorded current).map fun entry => (entry.1.name, Json.null)).map Prod.fst).Nodup :=
    nodup_mapEntries (by decide) ServoMotorJoint.name servoMotorJoint_name_injective fun _ => .null
  rw [List.map_map] at hnames
  apply List.Nodup.of_map ServoMotorJoint.name
  rw [List.map_map]
  exact hnames

/-- Entries that are set again change nothing. -/
theorem foldl_setEntry_recorded {before after : List (ServoMotorJoint × UInt8)}
    (h : recorded current = before ++ after) : before.foldl setEntry current = current := by
  funext joint
  by_cases hmem : ∃ angle, (joint, angle) ∈ before
  · obtain ⟨angle, hangle⟩ := hmem
    have hnodup : (before.map Prod.fst).Nodup := by
      have hall := nodup_recorded current
      rw [h, List.map_append, List.nodup_append] at hall
      exact hall.1
    have hcurrent : (joint, angle) ∈ recorded current := by
      rw [h]
      exact List.mem_append_left _ hangle
    rw [foldl_setEntry_of_nodup hnodup hangle, mem_recorded.mp hcurrent]
  · apply foldl_setEntry_of_not_mem
    rintro ⟨joint', angle⟩ hentry rfl
    exact hmem ⟨angle, hentry⟩

end Recorded

section Load

variable {data : Json} {current : JointMap}

/-- What the loop makes of an entry that it can read. -/
def readEntry (data : Json) (entry : ServoMotorJoint × UInt8) : ServoMotorJoint × UInt8 :=
  (entry.1, match valueByte data entry.1.savedName entry.2 with
    | .ok angle => angle
    | .error _ => entry.2)

theorem readAngle_of_ok {entry : ServoMotorJoint × UInt8} (h : ∃ c, readAngle data entry = .ok c) :
    readAngle data entry = .ok (readEntry data entry) := by
  obtain ⟨c, hc⟩ := h
  unfold readAngle readEntry at *
  cases hvalue : valueByte data entry.1.savedName entry.2 with
  | ok angle => rfl
  | error e => rw [hvalue] at hc; cases hc

/-- **Where the loop gets to**: through all entries, or up to the first one that fails. -/
theorem readAngles_cases (data : Json) (current : JointMap) :
    ∃ before after, recorded current = before ++ after ∧
      (∀ entry ∈ before, readAngle data entry = .ok (readEntry data entry)) ∧
      (readAngles data current).store = (before.map (readEntry data)).foldl setEntry current ∧
      ((after = [] ∧ (readAngles data current).outcome = .ok ()) ∨
        ∃ entry rest e, after = entry :: rest ∧ readAngle data entry = .error e ∧
          (readAngles data current).outcome = .error e) := by
  by_cases hall : ∀ entry ∈ recorded current, ∃ c, readAngle data entry = .ok c
  · have hread : ∀ entry ∈ recorded current, readAngle data entry = .ok (readEntry data entry) :=
      fun entry hentry => readAngle_of_ok (hall entry hentry)
    have hfill : fill (readAngle data) setEntry current _ = _ := fill_of_ok hread current
    refine ⟨recorded current, [], (List.append_nil _).symm, hread, ?_, .inl ⟨rfl, ?_⟩⟩
    · rw [readAngles, hfill, List.foldl_map]
    · rw [readAngles, hfill]
  · cases houtcome : (readAngles data current).outcome with
    | ok u => exact absurd (fill_ok_iff.mp houtcome) hall
    | error e =>
        obtain ⟨before, entry, rest, hitems, hbefore, hentry⟩ := fill_error_iff.mp houtcome
        have hread : ∀ entry ∈ before, readAngle data entry = .ok (readEntry data entry) :=
          fun entry hentry => readAngle_of_ok (hbefore entry hentry)
        refine ⟨before, entry :: rest, hitems, hread, ?_, .inr ⟨entry, rest, e, rfl, hentry, rfl⟩⟩
        rw [readAngles, hitems, fill_append_error hread hentry, List.foldl_map]

/-- Values that change nothing are the recorded ones. -/
theorem readEntry_of_unchanged {before after : List (ServoMotorJoint × UInt8)}
    (hitems : recorded current = before ++ after)
    (h : (before.map (readEntry data)).foldl setEntry current = current) :
    ∀ entry ∈ before, readEntry data entry = entry := by
  rintro ⟨joint, angle⟩ hentry
  have hnodup : ((before.map (readEntry data)).map Prod.fst).Nodup := by
    have hall := nodup_recorded current
    rw [hitems, List.map_append, List.nodup_append] at hall
    rw [List.map_map]
    exact hall.1
  have hset := @foldl_setEntry_of_nodup _ _ _ current _ hnodup joint (readEntry data (joint, angle)).2
    (List.mem_map_of_mem hentry)
  have hcurrent : (joint, angle) ∈ recorded current := by
    rw [hitems]
    exact List.mem_append_left _ hentry
  rw [h, mem_recorded.mp hcurrent] at hset
  exact Prod.ext rfl (Option.some.inj hset).symm

/-- Bytes are read. -/
theorem readAngle_of_allBytes (hobject : data.IsObject) (h : AllBytes data current)
    {entry : ServoMotorJoint × UInt8} (hentry : entry ∈ recorded current) :
    ∃ c, readAngle data entry = .ok c := by
  cases data with
  | object members =>
      unfold readAngle valueByte
      simp only
      cases hmember : (Json.object members).member entry.1.savedName with
      | none => exact ⟨_, rfl⟩
      | some v =>
          obtain ⟨b, hb⟩ := h entry.1 entry.2 v (mem_recorded.mp hentry) hmember
          simp only [asByte_of_isByte hb]
          exact ⟨_, rfl⟩
  | _ => exact hobject.elim

/-- **A file that can be read through**: every recorded joint gets what was read for it. -/
theorem caught_of_readable (h : ∀ entry ∈ recorded current, ∃ c, readAngle data entry = .ok c) :
    ∃ restored, (readAngles data current).caught = .ok restored ∧
      (∀ joint angle, current joint = some angle →
        restored joint = some (readEntry data (joint, angle)).2) ∧
      ∀ joint, current joint = none → restored joint = none := by
  have hread : ∀ entry ∈ recorded current, readAngle data entry = .ok (readEntry data entry) :=
    fun entry hentry => readAngle_of_ok (h entry hentry)
  refine ⟨((recorded current).map (readEntry data)).foldl setEntry current, ?_, ?_, ?_⟩
  · rw [readAngles, fill_of_ok hread, List.foldl_map]
    rfl
  · intro joint angle hcurrent
    apply foldl_setEntry_of_nodup
    · rw [List.map_map]
      exact nodup_recorded current
    · exact List.mem_map_of_mem (mem_recorded.mpr hcurrent)
  · intro joint hnone
    rw [foldl_setEntry_of_not_mem, hnone]
    intro entry hentry hjoint
    obtain ⟨⟨joint', angle⟩, hrecorded, rfl⟩ := List.mem_map.mp hentry
    have hsome : current joint = some angle := hjoint ▸ mem_recorded.mp hrecorded
    rw [hnone] at hsome
    cases hsome

/-- The value that is read for a joint. -/
theorem readEntry_object {members : List (String × Json)} {joint : ServoMotorJoint} {angle : UInt8} :
    ((Json.object members).member joint.savedName = none →
      (readEntry (.object members) (joint, angle)).2 = angle) ∧
    ∀ v b, (Json.object members).member joint.savedName = some v → IsByte v b →
      (readEntry (.object members) (joint, angle)).2 = b := by
  unfold readEntry valueByte
  constructor
  · intro hnone
    simp only [hnone]
  · intro v b hv hb
    simp only [hv, asByte_of_isByte hb]

/-- Bytes are restored exactly. -/
theorem caught_of_allBytes (hobject : data.IsObject) (h : AllBytes data current) :
    ∃ restored, (readAngles data current).caught = .ok restored ∧ RestoredExactly data current restored := by
  obtain ⟨restored, hcaught, hsome, hnone⟩ := caught_of_readable fun entry => readAngle_of_allBytes hobject h
  refine ⟨restored, hcaught, ?_, ?_⟩
  · intro joint angle v hcurrent hv
    obtain ⟨b, hb⟩ := h joint angle v hcurrent hv
    cases data with
    | object members => exact ⟨b, by rw [hsome joint angle hcurrent, readEntry_object.2 v b hv hb], hb⟩
    | _ => exact hobject.elim
  · intro joint hor
    cases hcurrent : current joint with
    | none => exact hnone joint hcurrent
    | some angle =>
        have hmember := hor.resolve_left (by rw [hcurrent]; exact Option.some_ne_none _)
        cases data with
        | object members => rw [hsome joint angle hcurrent, readEntry_object.1 hmember]
        | _ => exact hobject.elim

/-- What is no object throws at once. -/
theorem nothingNew_of_not_object (h : ¬ data.IsObject) : NothingNew data current := by
  have hthrows : ∀ entry, readAngle data entry = .error .exception := by
    intro entry
    cases data with
    | object members => exact absurd trivial h
    | _ => rfl
  refine ⟨[], recorded current, rfl, fun entry hentry => absurd hentry List.not_mem_nil, ?_⟩
  cases recorded current with
  | nil => exact .inl rfl
  | cons entry rest => exact .inr ⟨entry, rest, rfl, hthrows entry⟩

theorem caught_of_nothingNew (h : NothingNew data current) :
    (readAngles data current).caught = .ok current := by
  obtain ⟨before, after, hitems, hread, hend⟩ := h
  have hkept := foldl_setEntry_recorded hitems
  apply Filled.caught_eq_ok.mpr
  unfold readAngles
  rcases hend with rfl | ⟨entry, rest, rfl, herror⟩
  · rw [List.append_nil] at hitems
    rw [hitems, fill_of_ok hread]
    exact ⟨fun e he => (nomatch he), hkept⟩
  · rw [hitems, fill_append_error hread herror]
    refine ⟨fun e he => ?_, hkept⟩
    cases he
    rfl

/-- **A file with a value in it.** -/
theorem exactOrUnchanged_iff {parse : List UInt8 → Option Json} {content : List UInt8} (hne : content ≠ [])
    (hparse : parse content = some data) :
    ExactOrUnchanged parse (some content) current ↔ AllBytes data current ∨ NothingNew data current := by
  have hload : loadJointAngles parse (some content) current = (readAngles data current).caught := by
    unfold loadJointAngles
    simp only [List.isEmpty_eq_false_iff.mpr hne, Bool.false_eq_true, if_false, hparse]
  unfold ExactOrUnchanged
  rw [hload]
  constructor
  · rintro ⟨restored, hcaught, rfl | ⟨_, data', hfile, hparse', hexact⟩⟩
    · obtain ⟨hexception, hunchanged⟩ := Filled.caught_eq_ok.mp hcaught
      obtain ⟨before, after, hitems, hread, hstore, hend⟩ := readAngles_cases data restored
      rw [hstore] at hunchanged
      have hkept := readEntry_of_unchanged hitems hunchanged
      refine .inr ⟨before, after, hitems, fun entry hentry => ?_, ?_⟩
      · rw [hread entry hentry, hkept entry hentry]
      · rcases hend with ⟨hafter, _⟩ | ⟨entry, rest, e, hafter, herror, houtcome⟩
        · exact .inl hafter
        · rw [hexception e houtcome] at herror
          exact .inr ⟨entry, rest, hafter, herror⟩
    · cases hfile
      cases hparse.symm.trans hparse'
      left
      intro joint angle v hcurrent hv
      obtain ⟨b, _, hb⟩ := hexact.stored joint angle v hcurrent hv
      exact ⟨b, hb⟩
  · rintro (hbytes | hnothing)
    · by_cases hobject : data.IsObject
      · obtain ⟨restored, hcaught, hexact⟩ := caught_of_allBytes hobject hbytes
        exact ⟨restored, hcaught, .inr ⟨content, data, rfl, hparse, hexact⟩⟩
      · exact ⟨current, caught_of_nothingNew (nothingNew_of_not_object hobject), .inl rfl⟩
    · exact ⟨current, caught_of_nothingNew hnothing, .inl rfl⟩

end Load

/-! ## Saved and loaded -/

theorem savedName_injective : Function.Injective ServoMotorJoint.savedName := by
  intro joint joint' h
  cases joint <;> cases joint' <;> first | rfl | (revert h; decide)

/-- What was saved for a joint. -/
theorem member_saveJson {saved : JointMap} {joint : ServoMotorJoint} {angle : UInt8}
    (h : saved joint = some angle) :
    (saveJson saved).IsObject ∧ (saveJson saved).member joint.savedName = some (.int angle.toNat) := by
  have hoccupied : Occupied saved := ⟨joint, by rw [h]; rfl⟩
  have hjson : saveJson saved = tableJson ServoMotorJoint.declared ServoMotorJoint.savedName
      (fun angle : UInt8 => .int angle.toNat) saved := by
    rw [← foldl_entries mem_declared (by decide) savedName_injective hoccupied]
    rfl
  rw [hjson]
  refine ⟨trivial, ?_⟩
  unfold tableJson
  rw [Json.member_object]
  have hmem : (joint.savedName, Json.int angle.toNat) ∈
      (mapEntries ServoMotorJoint.declared saved).map fun e => (e.1.savedName, Json.int e.2.toNat) :=
    List.mem_map.mpr ⟨(joint, angle), mem_recorded.mpr h, rfl⟩
  cases hfind : List.find? (fun m => m.1 == joint.savedName)
      ((mapEntries ServoMotorJoint.declared saved).map fun e => (e.1.savedName, Json.int e.2.toNat)) with
  | none => exact absurd (List.find?_eq_none.mp hfind _ hmem) (by simp)
  | some m =>
      obtain ⟨⟨joint', angle'⟩, hentry, rfl⟩ := List.mem_map.mp (List.mem_of_find?_eq_some hfind)
      have hname : (joint'.savedName == joint.savedName) = true := by
        have hfound := List.find?_some hfind
        exact hfound
      have hsome : saved joint' = some angle' := mem_recorded.mp hentry
      rw [savedName_injective (beq_iff_eq.mp hname), h] at hsome
      cases hsome
      rfl

/-- **What was saved is restored**, onto any angles of the same joints. -/
theorem caught_saveJson {saved current : JointMap}
    (h : ∀ joint, (saved joint).isSome = (current joint).isSome) :
    (readAngles (saveJson saved) current).caught = .ok saved := by
  have hsaved : ∀ joint angle, current joint = some angle → ∃ b, saved joint = some b ∧
      (saveJson saved).IsObject ∧ (saveJson saved).member joint.savedName = some (.int b.toNat) := by
    intro joint angle hcurrent
    have hsome := h joint
    rw [hcurrent] at hsome
    obtain ⟨b, hb⟩ := Option.isSome_iff_exists.mp hsome
    exact ⟨b, hb, member_saveJson hb⟩
  have hbyte : ∀ b : UInt8, IsByte (.int b.toNat) b := fun _ => rfl
  have hbytes : AllBytes (saveJson saved) current := by
    intro joint angle v hcurrent hv
    obtain ⟨b, _, _, hmember⟩ := hsaved joint angle hcurrent
    cases hmember.symm.trans hv
    exact ⟨b, hbyte b⟩
  obtain ⟨restored, hcaught, hsome, hnone⟩ := caught_of_readable fun entry hentry => by
    obtain ⟨_, _, hobject, _⟩ := hsaved entry.1 entry.2 (mem_recorded.mp hentry)
    exact readAngle_of_allBytes hobject hbytes hentry
  rw [hcaught]
  congr 1
  funext joint
  cases hcurrent : current joint with
  | none =>
      have hnoneSaved := h joint
      rw [hcurrent] at hnoneSaved
      rw [hnone joint hcurrent]
      exact (Option.not_isSome_iff_eq_none.mp (by rw [hnoneSaved]; exact Bool.false_ne_true)).symm
  | some angle =>
      obtain ⟨b, hb, hobject, hmember⟩ := hsaved joint angle hcurrent
      rw [hsome joint angle hcurrent, hb]
      cases hjson : saveJson saved with
      | object members =>
          rw [hjson] at hmember
          rw [readEntry_object.2 _ b hmember (hbyte b)]
      | _ => rw [hjson] at hobject; exact hobject.elim

/-- The angles that a file has for the joints. -/
def savedAngles (data : Json) : JointMap := fun joint =>
  (data.member joint.savedName).bind fun v => (asByte v).toOption

/-- **Of a good file** the controller takes over the angles that it has. -/
theorem caught_eq_loadJointAngles {data : Json} {c : ServoMotorController} (hobject : data.IsObject)
    (h : AllBytes data c.currentJointAngles) :
    (readAngles data c.currentJointAngles).caught =
      .ok (c.loadJointAngles (savedAngles data)).currentJointAngles := by
  obtain ⟨restored, hcaught, hsome, hnone⟩ := caught_of_readable fun entry => readAngle_of_allBytes hobject h
  rw [hcaught]
  congr 1
  funext joint
  show restored joint = (c.currentJointAngles joint).map fun angle => (savedAngles data joint).getD angle
  cases hcurrent : c.currentJointAngles joint with
  | none => exact hnone joint hcurrent
  | some angle =>
      rw [hsome joint angle hcurrent]
      cases data with
      | object members =>
          unfold savedAngles
          cases hmember : (Json.object members).member joint.savedName with
          | none => rw [readEntry_object.1 hmember]; rfl
          | some v =>
              obtain ⟨b, hb⟩ := h joint angle v hcurrent hmember
              rw [readEntry_object.2 v b hmember hb, Option.map_some, Option.bind_some, asByte_of_isByte hb]
              rfl
      | _ => exact hobject.elim

/-- **The saved pose is restored exactly or not at all** iff the file has a byte for every recorded joint that
    it has a member for, or nothing that differs from the recorded angles before the first member that does
    not convert. What was saved is always restored. -/
theorem saved_pose_iff (parse : List UInt8 → Option Json) (dump : Json → List UInt8) :
    (∀ file current, ExactOrUnchanged parse file current ↔
      ∀ content data, file = some content → content ≠ [] → parse content = some data →
        AllBytes data current ∨ NothingNew data current) ∧
    ∀ saved current : JointMap, (∀ joint, (saved joint).isSome = (current joint).isSome) →
      dump (saveJson saved) ≠ [] → parse (dump (saveJson saved)) = some (saveJson saved) →
        loadJointAngles parse (some (dump (saveJson saved))) current = .ok saved := by
  constructor
  · intro file current
    constructor
    · rintro h content data rfl hne hparse
      exact (exactOrUnchanged_iff hne hparse).mp h
    · intro h
      cases file with
      | none => exact ⟨current, rfl, .inl rfl⟩
      | some content =>
          by_cases hne : content = []
          · subst hne
            exact ⟨current, rfl, .inl rfl⟩
          · cases hparse : parse content with
            | some data => exact (exactOrUnchanged_iff hne hparse).mpr (h content data rfl hne hparse)
            | none =>
                refine ⟨current, ?_, .inl rfl⟩
                unfold loadJointAngles
                simp only [List.isEmpty_eq_false_iff.mpr hne, Bool.false_eq_true, if_false, hparse]
  · intro saved current hjoints hne hparse
    unfold loadJointAngles
    simp only [List.isEmpty_eq_false_iff.mpr hne, Bool.false_eq_true, if_false, hparse]
    exact caught_saveJson hjoints

theorem saved_pose_restored : loadJointAngles (fun _ => some (saveJson ServoMotorController.initialJointAngles))
    (some [123]) (fun _ => some 90) = .ok ServoMotorController.initialJointAngles := by
  refine (saved_pose_iff _ fun _ => [123]).2 ServoMotorController.initialJointAngles _ ?_
    (List.cons_ne_nil _ _) rfl
  intro joint
  cases joint <;> rfl

/-- A file in which one joint is moved, and the next one is spoiled. -/
def spoiledFile : Json := .object [("Left Arm", .string "up"), ("Right Arm", .int 20)]

/-- **A mixed pose**: the right arm is taken from the file, the left arm is not. -/
theorem mixed_pose : ¬ ExactOrUnchanged (fun _ => some spoiledFile) (some [123])
    ServoMotorController.initialJointAngles := by
  rintro ⟨restored, hload, hkept | ⟨content, data, _, hparse, hexact⟩⟩
  · cases hload
    exact absurd (congrFun hkept .rightArm) (by decide)
  · cases hparse
    obtain ⟨b, _, hb⟩ := hexact.stored .leftArm 170 (.string "up") rfl rfl
    exact hb

end SavedPose

end Kufibot
