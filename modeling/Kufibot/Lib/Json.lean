import Kufibot.Lib.Binary32
import Kufibot.Lib.Outcome
import Mathlib.Data.List.Sort
import Mathlib.Data.String.Basic

/-!
# `Lib.Json` — JSON values and how C++ reads them

A JSON value, and the accessors of `nlohmann::json` that programs read one with. An accessor that throws
returns `none`. The members of an object are kept in the order they are written in; a C++ object iterates
over them in the order of their keys.
-/

namespace Lib

inductive Json where
  | null
  | bool (b : Bool)
  | int (n : Int)
  | float (q : ℚ)
  | string (s : String)
  | array (items : List Json)
  | object (members : List (String × Json))

namespace Json

def member : Json → String → Option Json
  | .object members, key => (members.find? fun m => m.1 == key).map Prod.snd
  | _, _ => none

def contains (j : Json) (key : String) : Bool := (j.member key).isSome

/-- `j[key]` on a value that is not `const`: a missing member is there afterwards, as `null`. -/
def index (j : Json) (key : String) : Option Json :=
  match j with
  | .object _ => some ((j.member key).getD .null)
  | .null => some .null
  | _ => none

/-- `j.begin().key()`: the smallest key of an object that is not empty. -/
def firstKey : Json → Option String
  | .object members => (members.map Prod.fst).min?
  | _ => none

/-- `j[key]` on a `const` value: a missing member is an assertion. -/
def constIndex (j : Json) (key : String) : Outcome Json :=
  match j with
  | .object _ =>
      match j.member key with
      | some v => .ok v
      | none => .error .assertion
  | _ => .error .exception

/-- `j.items()`: an object in the order of its keys, an array with its indices for keys, and a primitive
    value as the only item of itself. -/
def entries : Json → List (String × Json)
  | .null => []
  | .object members => members.insertionSort fun m m' => m.1 ≤ m'.1
  | .array items => items.mapIdx fun i v => (toString i, v)
  | j => [("", j)]

/-- `for (const auto& v : j)`. -/
def values (j : Json) : List Json := j.entries.map Prod.snd

/-- Conversion to `int`: 32 bits of an integer, no fraction, and a truth value as 0 or 1. -/
def asInt : Json → Option Int
  | .int n => some (n.bmod (2 ^ 32))
  | .float q => some (Float64.toInt q)
  | .bool b => some (if b then 1 else 0)
  | _ => none

/-- Conversion to `double`. -/
def asDouble : Json → Option ℚ
  | .int n => some (Float64.round n)
  | .float q => some q
  | .bool b => some (if b then 1 else 0)
  | _ => none

/-- Conversion to `float`. -/
def asFloat : Json → Option Binary32.Value
  | .int n => some (Binary32.round n)
  | .float q => some (Binary32.round q)
  | .bool b => some (Binary32.round (if b then 1 else 0))
  | _ => none

def asString : Json → Option String
  | .string s => some s
  | _ => none

def asBool : Json → Option Bool
  | .bool b => some b
  | _ => none

/-- `j == n` compares numbers by value. -/
def eqInt : Json → Int → Bool
  | .int m, n => m == n
  | .float q, n => q == n
  | _, _ => false

/-- `j.value(key, otherwise)` of an object: a member of the wrong type throws. -/
def valueOr {α : Type} (convert : Json → Option α) (j : Json) (key : String) (otherwise : α) : Option α :=
  match j.member key with
  | some v => convert v
  | none => some otherwise

/-! ## What is there, and of which type -/

/-- The member is a string. -/
def HasString (j : Json) (key : String) : Prop := ∃ s, j.member key = some (.string s)

/-- What converts to `int`: a number, or a truth value. -/
def IsNumber : Json → Prop
  | .int _ | .float _ | .bool _ => True
  | _ => False

def HasNumber (j : Json) (key : String) : Prop := ∃ v, j.member key = some v ∧ IsNumber v

/-- What `operator[]` looks a member up in, or adds it to. -/
def Subscriptable : Json → Prop
  | .object _ | .null => True
  | _ => False

def IsObject : Json → Prop
  | .object _ => True
  | _ => False

/-- An object without this member. -/
def LacksKey (j : Json) (key : String) : Prop := j.IsObject ∧ j.member key = none

/-! ## What the accessors read -/

theorem constIndex_eq_ok {j v : Json} {key : String} :
    j.constIndex key = .ok v ↔ j.member key = some v := by
  cases j with
  | object members =>
      unfold constIndex
      cases (Json.object members).member key with
      | some w =>
          constructor
          · intro h
            cases h
            rfl
          · intro h
            cases h
            rfl
      | none => exact ⟨(nomatch ·), (nomatch ·)⟩
  | _ => exact ⟨(nomatch ·), (nomatch ·)⟩

/-- **A missing key** of a `const` object. -/
theorem constIndex_eq_assertion {j : Json} {key : String} :
    j.constIndex key = .error .assertion ↔ j.LacksKey key := by
  cases j with
  | object members =>
      unfold constIndex LacksKey
      cases (Json.object members).member key with
      | some w => exact ⟨(nomatch ·), fun h => (nomatch h.2)⟩
      | none => exact ⟨fun _ => ⟨trivial, rfl⟩, fun _ => rfl⟩
  | _ => exact ⟨(nomatch ·), fun h => h.1.elim⟩

theorem constIndex_ne_undefined {j : Json} {key : String} : j.constIndex key ≠ .error .undefined := by
  cases j with
  | object members =>
      unfold constIndex
      cases (Json.object members).member key <;> exact (nomatch ·)
  | _ => exact (nomatch ·)

/-- Reading a member of a `const` value, by a conversion that throws at worst. -/
theorem member_reads {α : Type} {j : Json} {key : String} {convert : Json → Outcome α} {P : Json → Prop}
    (h : ∀ v, Reads (convert v) (P v) False) :
    Reads (j.constIndex key >>= convert) (∃ v, j.member key = some v ∧ P v) (j.LacksKey key) := by
  have hmember : Reads (j.constIndex key) (∃ v, j.member key = some v) (j.LacksKey key) :=
    ⟨exists_congr fun _ => constIndex_eq_ok, constIndex_eq_assertion, constIndex_ne_undefined⟩
  refine (hmember.bind fun v _ => h v).of_iff (exists_congr fun v => and_congr_left' constIndex_eq_ok) ?_
  exact or_iff_left fun ⟨_, _, hfalse⟩ => hfalse

theorem mem_entries_object {members : List (String × Json)} {entry : String × Json} :
    entry ∈ (Json.object members).entries ↔ entry ∈ members :=
  List.mem_insertionSort _

theorem values_array (items : List Json) : (Json.array items).values = items := by
  unfold values entries
  apply List.ext_getElem?
  intro i
  rw [List.getElem?_map, List.getElem?_mapIdx]
  cases items[i]? <;> rfl

theorem index_of_member {j v : Json} {key : String} (h : j.member key = some v) :
    j.index key = some v := by
  cases j with
  | object members => rw [index, h]; rfl
  | _ => cases h

/-- What is read and is not `null` is the member. -/
theorem member_of_index {j v : Json} {key : String} (h : j.index key = some v) (hv : v ≠ .null) :
    j.member key = some v := by
  cases j with
  | object members =>
      cases hmember : (Json.object members).member key with
      | some w => rw [index, hmember] at h; exact h
      | none => rw [index, hmember] at h; exact absurd (Option.some.inj h).symm hv
  | null => exact absurd (Option.some.inj h).symm hv
  | _ => cases h

/-- What fails on `null` is converted iff the member is there and is. -/
theorem exists_convert_iff {α : Type} {convert : Json → Option α} (hnull : convert .null = none) (j : Json)
    (key : String) :
    (∃ a, (j.index key).bind convert = some a) ↔
      ∃ v, j.member key = some v ∧ ∃ a, convert v = some a := by
  constructor
  · rintro ⟨a, h⟩
    obtain ⟨v, hv, ha⟩ := Option.bind_eq_some_iff.mp h
    refine ⟨v, member_of_index hv ?_, a, ha⟩
    rintro rfl
    rw [hnull] at ha
    cases ha
  · rintro ⟨v, hv, a, ha⟩
    exact ⟨a, by rw [index_of_member hv]; exact ha⟩

theorem member_string_iff {j : Json} {key : String} :
    (∃ v, j.member key = some v ∧ ∃ s, v.asString = some s) ↔ HasString j key := by
  constructor
  · rintro ⟨v, hv, s, hs⟩
    cases v with
    | string s' => exact ⟨s', hv⟩
    | _ => cases hs
  · rintro ⟨s, hs⟩
    exact ⟨.string s, hs, s, rfl⟩

theorem exists_string_iff (j : Json) (key : String) :
    (∃ s, (j.index key).bind asString = some s) ↔ HasString j key :=
  (exists_convert_iff rfl j key).trans member_string_iff

theorem isNumber_iff (v : Json) : IsNumber v ↔ ∃ n, v.asInt = some n := by
  cases v with
  | int | float | bool => exact ⟨fun _ => ⟨_, rfl⟩, fun _ => trivial⟩
  | _ => exact ⟨(nomatch ·), fun ⟨_, h⟩ => (nomatch h)⟩

theorem member_number_iff {j : Json} {key : String} :
    (∃ v, j.member key = some v ∧ ∃ n, v.asInt = some n) ↔ HasNumber j key :=
  exists_congr fun v => and_congr_right fun _ => (isNumber_iff v).symm

theorem exists_number_iff (j : Json) (key : String) :
    (∃ n, (j.index key).bind asInt = some n) ↔ HasNumber j key :=
  (exists_convert_iff rfl j key).trans member_number_iff

/-- A value that can be subscripted gives the member, or `null`. -/
theorem index_eq_some_iff {j v : Json} {key : String} :
    j.index key = some v ↔ Subscriptable j ∧ (j.member key).getD .null = v := by
  cases j with
  | object | null => exact ⟨fun h => ⟨trivial, Option.some.inj h⟩, fun h => congrArg some h.2⟩
  | _ => exact ⟨(nomatch ·), fun h => h.1.elim⟩

theorem exists_index_iff (j : Json) (key : String) : (∃ v, j.index key = some v) ↔ Subscriptable j := by
  cases j with
  | object | null => exact ⟨fun _ => trivial, fun _ => ⟨_, rfl⟩⟩
  | _ => exact ⟨fun ⟨_, h⟩ => (nomatch h), (nomatch ·)⟩

/-- The smallest key is one. -/
theorem exists_member_of_firstKey {j : Json} {key : String} (h : j.firstKey = some key) :
    ∃ v, j.member key = some v := by
  cases j with
  | object members =>
      obtain ⟨m, hm, rfl⟩ := List.mem_map.mp (List.min?_mem h)
      have hsome : (members.find? fun m' => m'.1 == m.1).isSome :=
        List.find?_isSome.mpr ⟨m, hm, by simp⟩
      obtain ⟨m', hm'⟩ := Option.isSome_iff_exists.mp hsome
      exact ⟨m'.2, by rw [member, hm']; rfl⟩
  | _ => cases h

end Json

end Lib
