import Kufibot.Lib.Json

/-!
# `Lib.JsonWithout` — a JSON value without some of its entries

An entry is a member of an object at any depth; its path is the keys that lead to it, with the indices of the
arrays in between. `j.without drop` is `j` without the entries whose path is dropped, and two values that
differ by added entries are `j` and `j.without drop` for the set of their paths.

A loop over the entries of the smaller value meets those that are kept, in the same order
(`entries_without`), and every accessor sees the smaller value of what it sees in the larger one
(`member_without`).
-/

namespace Lib

section Sorting

variable {α : Type*} (r : α → α → Prop) [DecidableRel r]

theorem orderedInsert_of_forall {a : α} {l : List α} (h : ∀ b ∈ l, r a b) : l.orderedInsert r a = a :: l := by
  cases l with
  | nil => rfl
  | cons b l => exact List.orderedInsert_cons_of_le r l (h b List.mem_cons_self)

variable [IsTrans α r] (p : α → Bool)

/-- What is inserted into a sorted list is found where it would be among those that are kept. -/
theorem filter_orderedInsert (a : α) {l : List α} (hl : l.Pairwise r) :
    (l.orderedInsert r a).filter p = if p a then (l.filter p).orderedInsert r a else l.filter p := by
  induction l with
  | nil =>
      rw [List.orderedInsert_nil, List.filter_cons]
      rfl
  | cons b l ih =>
      obtain ⟨hb, hl⟩ := List.pairwise_cons.mp hl
      by_cases hab : r a b
      · have hall : ∀ c ∈ (b :: l).filter p, r a c := by
          intro c hc
          rcases List.mem_cons.mp (List.mem_filter.mp hc).1 with rfl | hc
          · exact hab
          · exact trans_of r hab (hb c hc)
        rw [List.orderedInsert_cons_of_le r l hab, orderedInsert_of_forall r hall, List.filter_cons]
      · rw [List.orderedInsert_of_not_le r l hab, List.filter_cons, List.filter_cons, ih hl]
        cases p a
        · rfl
        · cases p b
          · rfl
          · exact (List.orderedInsert_of_not_le r (l.filter p) hab).symm

/-- **Sorting and leaving out** can be exchanged. -/
theorem insertionSort_filter [Std.Total r] (l : List α) :
    (l.filter p).insertionSort r = (l.insertionSort r).filter p := by
  induction l with
  | nil => rfl
  | cons a l ih =>
      rw [List.insertionSort_cons, filter_orderedInsert r p a (List.pairwise_insertionSort r l), ← ih,
        List.filter_cons]
      split
      · rw [List.insertionSort_cons]
      · rfl

end Sorting

namespace Json

mutual

/-- The value without the entries that are dropped. -/
def without : (List String → Bool) → Json → Json
  | drop, .object members => .object (membersWithout drop members)
  | drop, .array items => .array (itemsWithout drop 0 items)
  | _, j => j

def membersWithout : (List String → Bool) → List (String × Json) → List (String × Json)
  | _, [] => []
  | drop, (key, v) :: members =>
      if drop [key] then membersWithout drop members
      else (key, without (fun path => drop (key :: path)) v) :: membersWithout drop members

def itemsWithout : (List String → Bool) → Nat → List Json → List Json
  | _, _, [] => []
  | drop, i, v :: items =>
      without (fun path => drop (toString i :: path)) v :: itemsWithout drop (i + 1) items

end

example : without (fun path => path == ["a", "b"]) (.object [("a", .object [("b", .null), ("c", .null)])]) =
    .object [("a", .object [("c", .null)])] := by rfl

/-! ## The entries that are kept -/

/-- What is in an entry, without what is dropped in it. -/
def entryWithout (drop : List String → Bool) (entry : String × Json) : String × Json :=
  (entry.1, entry.2.without fun path => drop (entry.1 :: path))

/-- Only members of an object are dropped. -/
def keeps (drop : List String → Bool) (j : Json) (entry : String × Json) : Bool :=
  match j with
  | .object _ => !drop [entry.1]
  | _ => true

/-- The entries that are not dropped. -/
def keptEntries (drop : List String → Bool) (j : Json) : List (String × Json) :=
  j.entries.filter (j.keeps drop)

variable {drop : List String → Bool}

theorem mem_entries_of_kept {j : Json} {entry : String × Json} (h : entry ∈ j.keptEntries drop) :
    entry ∈ j.entries :=
  (List.mem_filter.mp h).1

theorem keptEntries_eq_self {j : Json} (h : ∀ entry, j.keeps drop entry = true) :
    j.keptEntries drop = j.entries :=
  List.filter_eq_self.mpr fun entry _ => h entry

theorem membersWithout_eq (drop : List String → Bool) (members : List (String × Json)) :
    membersWithout drop members = (members.filter fun m => !drop [m.1]).map (entryWithout drop) := by
  induction members with
  | nil => rfl
  | cons m members ih =>
      rw [membersWithout, List.filter_cons, ih]
      cases drop [m.1]
      · rfl
      · rfl

theorem itemsWithout_eq (drop : List String → Bool) (i : Nat) (items : List Json) :
    itemsWithout drop i items =
      items.mapIdx fun n v => v.without fun path => drop (toString (i + n) :: path) := by
  induction items generalizing i with
  | nil => rfl
  | cons v items ih =>
      rw [itemsWithout, List.mapIdx_cons, ih]
      simp only [Nat.add_zero, Nat.add_assoc, Nat.add_comm 1]

/-- **The entries of the smaller value**, in their order. -/
theorem entries_without (drop : List String → Bool) (j : Json) :
    (j.without drop).entries = (j.keptEntries drop).map (entryWithout drop) := by
  cases j with
  | object members =>
      have hmap := List.map_insertionSort (fun m m' : String × Json => m.1 ≤ m'.1)
        (fun m m' : String × Json => m.1 ≤ m'.1) (entryWithout drop)
        (members.filter fun m => !drop [m.1]) fun _ _ _ _ => Iff.rfl
      show (membersWithout drop members).insertionSort _ =
        ((members.insertionSort _).filter fun m => !drop [m.1]).map (entryWithout drop)
      rw [membersWithout_eq, ← hmap, insertionSort_filter]
  | array items =>
      rw [keptEntries_eq_self fun _ => rfl]
      show (itemsWithout drop 0 items).mapIdx (fun i v => (toString i, v)) =
        (items.mapIdx fun i v => (toString i, v)).map (entryWithout drop)
      apply List.ext_getElem?
      intro i
      rw [itemsWithout_eq, List.mapIdx_mapIdx, List.getElem?_mapIdx, List.getElem?_map,
        List.getElem?_mapIdx, Option.map_map]
      simp only [Nat.zero_add]
      rfl
  | null => rfl
  | _ => rfl

theorem keys_without (drop : List String → Bool) (j : Json) :
    (j.without drop).entries.map Prod.fst = (j.keptEntries drop).map Prod.fst := by
  rw [entries_without, List.map_map]
  rfl

/-! ## Which entries there are -/

/-- The value has an entry with this path: a member of an object, at any depth. -/
inductive HasEntry : Json → List String → Json → Prop
  | here {members : List (String × Json)} {key : String} {v : Json} (h : (key, v) ∈ members) :
      HasEntry (.object members) [key] v
  | inside {j : Json} {entry : String × Json} {path : List String} {v : Json} (h : entry ∈ j.entries)
      (hv : HasEntry entry.2 path v) : HasEntry j (entry.1 :: path) v

/-- **What is dropped**: only entries with this property. -/
def OnlyDrops (drop : List String → Bool) (j : Json) (P : List String → Json → Prop) : Prop :=
  ∀ path v, HasEntry j path v → drop path = true → P path v

theorem OnlyDrops.inside {j : Json} {P : List String → Json → Prop} (h : OnlyDrops drop j P)
    {entry : String × Json} (hentry : entry ∈ j.entries) :
    OnlyDrops (fun path => drop (entry.1 :: path)) entry.2 fun path v => P (entry.1 :: path) v :=
  fun path v hv hdrop => h (entry.1 :: path) v (.inside hentry hv) hdrop

theorem HasEntry.ne_nil {j v : Json} {path : List String} (h : HasEntry j path v) : path ≠ [] := by
  cases h <;> exact List.cons_ne_nil _ _

theorem HasEntry.mem_of_singleton {members : List (String × Json)} {key : String} {v : Json}
    (h : HasEntry (.object members) [key] v) : (key, v) ∈ members := by
  cases h with
  | here hmem => exact hmem
  | inside _ hv => exact absurd rfl hv.ne_nil

/-- An entry further inside. -/
theorem HasEntry.exists_of_cons {j v : Json} {key key' : String} {path : List String}
    (h : HasEntry j (key :: key' :: path) v) :
    ∃ w, (key, w) ∈ j.entries ∧ HasEntry w (key' :: path) v := by
  cases h with
  | inside hmem hv => exact ⟨_, hmem, hv⟩

/-- One path that is dropped. -/
theorem onlyDrops_beq {j : Json} {P : List String → Json → Prop} {path : List String}
    (h : ∀ v, HasEntry j path v → P path v) : OnlyDrops (fun path' => path' == path) j P := by
  intro path' v hv hdrop
  obtain rfl : path' = path := beq_iff_eq.mp hdrop
  exact h v hv

theorem OnlyDrops.mono {j : Json} {P Q : List String → Json → Prop} (h : OnlyDrops drop j P)
    (himp : ∀ path v, path ≠ [] → P path v → Q path v) : OnlyDrops drop j Q :=
  fun path v hv hdrop => himp path v hv.ne_nil (h path v hv hdrop)

theorem exists_mem_of_member {j v : Json} {key : String} (h : j.member key = some v) :
    ∃ members, j = .object members ∧ (key, v) ∈ members := by
  cases j with
  | object members =>
      obtain ⟨m, hfind, rfl⟩ := Option.map_eq_some_iff.mp h
      have hkey := List.find?_some hfind
      obtain rfl : m.1 = key := beq_iff_eq.mp hkey
      exact ⟨members, rfl, List.mem_of_find?_eq_some hfind⟩
  | _ => cases h

theorem mem_entries_of_member {j v : Json} {key : String} (h : j.member key = some v) :
    (key, v) ∈ j.entries := by
  obtain ⟨members, rfl, hmem⟩ := exists_mem_of_member h
  exact mem_entries_object.mpr hmem

theorem HasEntry.of_member {j v : Json} {key : String} (h : j.member key = some v) : HasEntry j [key] v := by
  obtain ⟨members, rfl, hmem⟩ := exists_mem_of_member h
  exact .here hmem

/-- An entry that is not kept has the property. -/
theorem OnlyDrops.of_not_kept {j : Json} {P : List String → Json → Prop} (h : OnlyDrops drop j P)
    {entry : String × Json} (hentry : entry ∈ j.entries) (hkept : j.keeps drop entry = false) :
    P [entry.1] entry.2 := by
  cases j with
  | object members =>
      refine h [entry.1] entry.2 (.here (mem_entries_object.mp hentry)) ?_
      cases hdrop : drop [entry.1] with
      | true => rfl
      | false =>
          rw [keeps, hdrop] at hkept
          cases hkept
  | _ => cases hkept

theorem OnlyDrops.keptEntries_eq {j : Json} {P : List String → Json → Prop} (h : OnlyDrops drop j P)
    (hP : ∀ key v, ¬P [key] v) : j.keptEntries drop = j.entries := by
  rw [keptEntries, List.filter_eq_self]
  intro entry hentry
  cases hkept : j.keeps drop entry with
  | true => rfl
  | false => exact absurd (h.of_not_kept hentry hkept) (hP entry.1 entry.2)

/-- The part of a member. -/
theorem OnlyDrops.member {j v : Json} {P : List String → Json → Prop} (h : OnlyDrops drop j P) {key : String}
    (hmember : j.member key = some v) :
    OnlyDrops (fun path => drop (key :: path)) v fun path v => P (key :: path) v :=
  h.inside (mem_entries_of_member hmember)

theorem OnlyDrops.not_dropped {j : Json} {P : List String → Json → Prop} (h : OnlyDrops drop j P)
    {key : String} (hP : ∀ v, ¬P [key] v) : ∀ v, j.member key = some v → drop [key] = false := by
  intro v hmember
  cases hdrop : drop [key] with
  | false => rfl
  | true => exact absurd (h [key] v (.of_member hmember) hdrop) (hP v)

/-! ## What the accessors see -/

theorem find?_membersWithout {key : String} (h : drop [key] = false) (members : List (String × Json)) :
    (membersWithout drop members).find? (fun m => m.1 == key) =
      (members.find? fun m => m.1 == key).map (entryWithout drop) := by
  induction members with
  | nil => rfl
  | cons m members ih =>
      obtain ⟨key', v⟩ := m
      rw [membersWithout, List.find?_cons]
      cases hkey : key' == key with
      | true =>
          obtain rfl : key' = key := beq_iff_eq.mp hkey
          rw [h, if_neg Bool.false_ne_true, List.find?_cons, hkey]
          rfl
      | false =>
          split
          · exact ih
          · rw [List.find?_cons, hkey]
            exact ih

/-- **A member that is kept** is there, without what is dropped in it. -/
theorem member_without {j : Json} {key : String} (h : ∀ v, j.member key = some v → drop [key] = false) :
    (j.without drop).member key = (j.member key).map fun v => v.without fun path => drop (key :: path) := by
  cases j with
  | object members =>
      show ((membersWithout drop members).find? _).map Prod.snd = _
      cases hfind : members.find? fun m => m.1 == key with
      | some m =>
          have hkey := List.find?_some hfind
          obtain rfl : m.1 = key := beq_iff_eq.mp hkey
          have hmember : (Json.object members).member m.1 = some m.2 := congrArg (Option.map Prod.snd) hfind
          rw [find?_membersWithout (h m.2 hmember), hfind, hmember]
          rfl
      | none =>
          have hnone : (membersWithout drop members).find? (fun m => m.1 == key) = none := by
            rw [List.find?_eq_none] at hfind ⊢
            intro m hm
            rw [membersWithout_eq] at hm
            obtain ⟨entry, hentry, rfl⟩ := List.mem_map.mp hm
            exact hfind entry (List.mem_filter.mp hentry).1
          rw [hnone, Json.member, hfind]
          rfl
  | _ => rfl

/-- `j[key]`, which adds a `null` where there is no member. -/
theorem index_without {j : Json} {key : String} (h : ∀ v, j.member key = some v → drop [key] = false) :
    (j.without drop).index key = (j.index key).map fun v => v.without fun path => drop (key :: path) := by
  cases j with
  | object members =>
      show some (((Json.object members).without drop |>.member key).getD .null) = some _
      rw [member_without h]
      cases (Json.object members).member key <;> rfl
  | _ => rfl

/-- `j[key]` of a `const` value. -/
theorem constIndex_without {j : Json} {key : String} (h : ∀ v, j.member key = some v → drop [key] = false) :
    (j.without drop).constIndex key =
      (do let v ← j.constIndex key; return v.without fun path => drop (key :: path)) := by
  cases hj : j with
  | object members =>
      subst hj
      have hmember := member_without h
      have hobject : (Json.object members).without drop = .object (membersWithout drop members) := rfl
      rw [hobject] at hmember ⊢
      unfold constIndex
      dsimp only
      rw [hmember]
      cases (Json.object members).member key <;> rfl
  | _ => rfl

theorem asString_without (drop : List String → Bool) (j : Json) : (j.without drop).asString = j.asString := by
  cases j <;> rfl

theorem asInt_without (drop : List String → Bool) (j : Json) : (j.without drop).asInt = j.asInt := by
  cases j <;> rfl

end Json

end Lib
