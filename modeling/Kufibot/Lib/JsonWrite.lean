import Kufibot.Lib.Json

/-!
# `Lib.JsonWrite` — JSON values that are built by assignment

A program builds a JSON value by `j[key] = v` and `j.push_back(v)`, from `null` on; what it assigns to may
be nested, as in `j[key][key'] = v` (`modify`). `foldl_modify` says what a loop of such assignments builds,
`foldl_set` that assigning the entries of a list, with different keys, builds the object of these entries.
-/

namespace Lib

namespace Json

/-- `j[key]`, as it is read before it is assigned to. -/
def get (j : Json) (key : String) : Json := (j.member key).getD .null

/-- `j[key] = v`, for `null` and for an object. -/
def set (j : Json) (key : String) (v : Json) : Json :=
  match j with
  | .object members => .object (members.filter (fun m => !(m.1 == key)) ++ [(key, v)])
  | _ => .object [(key, v)]

/-- An assignment to something in `j[key]`. -/
def modify (j : Json) (key : String) (f : Json → Json) : Json := j.set key (f (j.get key))

/-- `j.push_back(v)`, for `null` and for an array. -/
def pushBack (j v : Json) : Json :=
  match j with
  | .array items => .array (items ++ [v])
  | _ => .array [v]

/-! ## Reading what was assigned -/

theorem set_object (members : List (String × Json)) (key : String) (v : Json) :
    (Json.object members).set key v = .object (members.filter (fun m => !(m.1 == key)) ++ [(key, v)]) := rfl

theorem member_object (members : List (String × Json)) (key : String) :
    (Json.object members).member key = (members.find? fun m => m.1 == key).map Prod.snd := rfl

theorem member_null (key : String) : Json.null.member key = none := rfl

theorem member_set (j v : Json) (key key' : String) :
    (j.set key v).member key' = if key' = key then some v else j.member key' := by
  cases j with
  | object members =>
      rw [set_object, member_object, member_object, List.find?_append]
      by_cases h : key' = key
      · have hfind : (members.filter fun m => !(m.1 == key)).find? (fun m => m.1 == key') = none := by
          rw [List.find?_eq_none]
          intro m hm hkey
          simp only [List.mem_filter, Bool.not_eq_true', beq_eq_false_iff_ne] at hm
          exact hm.2 ((beq_iff_eq.mp hkey).trans h)
        rw [hfind, if_pos h]
        simp [h]
      · have hfind : (members.filter fun m => !(m.1 == key)).find? (fun m => m.1 == key') =
            members.find? fun m => m.1 == key' := by
          rw [List.find?_filter]
          congr 1
          funext m
          by_cases hm : m.1 = key'
          · simp [hm, h]
          · simp [hm]
        rw [hfind, if_neg h]
        cases members.find? fun m => m.1 == key' with
        | some m => rfl
        | none => simp [Ne.symm h]
  | _ =>
      unfold set member
      by_cases h : key' = key
      · simp [h]
      · simp [h, Ne.symm h]

theorem set_set (j v w : Json) (key : String) : (j.set key v).set key w = j.set key w := by
  cases j with
  | object members => simp [set, List.filter_append, List.filter_filter]
  | _ => simp [set]

theorem get_set (j v : Json) (key : String) : (j.set key v).get key = v := by
  rw [get, member_set, if_pos rfl]
  rfl

theorem member_modify (j : Json) (key key' : String) (f : Json → Json) :
    (j.modify key f).member key' = if key' = key then some (f (j.get key)) else j.member key' :=
  member_set ..

theorem modify_modify (j : Json) (key : String) (f g : Json → Json) :
    (j.modify key f).modify key g = j.modify key fun v => g (f v) := by
  rw [modify, modify, set_set, get_set]
  rfl

theorem get_member (j : Json) (key key' : String) :
    (j.get key).member key' = (j.member key).bind (·.member key') := by
  unfold get
  cases j.member key <;> rfl

/-- What is assigned to something in `j[key]` is found in there. -/
theorem bind_member_modify (j : Json) (key key' : String) (f : Json → Json) :
    ((j.modify key f).member key).bind (·.member key') = (f (j.get key)).member key' := by
  rw [member_modify, if_pos rfl]
  rfl

theorem isObject_set (j : Json) (key : String) (v : Json) : (j.set key v).IsObject := by
  cases j <;> trivial

/-! ## Loops -/

/-- **A loop of assignments** to something in `j[key]` that runs at all: one assignment. -/
theorem foldl_modify {α : Type} (f : Json → α → Json) (key : String) {l : List α} (hne : l ≠ []) (j : Json) :
    l.foldl (fun j a => j.modify key (f · a)) j = j.modify key (l.foldl f) := by
  induction l generalizing j with
  | nil => exact absurd rfl hne
  | cons a l ih =>
      rw [List.foldl_cons]
      cases l with
      | nil => rfl
      | cons b l =>
          rw [ih (List.cons_ne_nil b l), modify_modify]
          rfl

theorem foldl_set_object {l members : List (String × Json)} (h : ((members ++ l).map Prod.fst).Nodup) :
    l.foldl (fun (j : Json) e => j.set e.1 e.2) (.object members) = .object (members ++ l) := by
  induction l generalizing members with
  | nil => rw [List.append_nil]; rfl
  | cons e l ih =>
      have hnew : members.filter (fun m => !(m.1 == e.1)) = members := by
        rw [List.filter_eq_self]
        intro m hm
        rw [List.map_append, List.nodup_append] at h
        have hne := h.2.2 m.1 (List.mem_map_of_mem hm) e.1 (by simp)
        simp [hne]
      rw [List.foldl_cons, set_object, hnew, ih, List.append_assoc, List.singleton_append]
      rw [List.append_assoc, List.singleton_append]
      exact h

/-- **Assigning entries** with different keys builds the object of the entries. -/
theorem foldl_set {l : List (String × Json)} (hne : l ≠ []) (h : (l.map Prod.fst).Nodup) :
    l.foldl (fun (j : Json) e => j.set e.1 e.2) .null = .object l := by
  cases l with
  | nil => exact absurd rfl hne
  | cons e l =>
      show l.foldl _ (Json.object [e]) = Json.object ([e] ++ l)
      exact foldl_set_object h

theorem foldl_pushBack_array (l items : List Json) :
    l.foldl pushBack (.array items) = .array (items ++ l) := by
  induction l generalizing items with
  | nil => rw [List.append_nil]; rfl
  | cons v l ih => rw [List.foldl_cons, pushBack, ih, List.append_assoc, List.singleton_append]

theorem foldl_pushBack {l : List Json} (hne : l ≠ []) : l.foldl pushBack .null = .array l := by
  cases l with
  | nil => exact absurd rfl hne
  | cons v l => exact foldl_pushBack_array l [v]

end Json

end Lib
