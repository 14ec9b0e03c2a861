import Mathlib.Data.List.Sort
import Mathlib.Data.List.Range

/-!
# `Lib.AutoIncrement` — a table whose ids are given out once

A table with an integer key that is never reused: a new row gets the id after the largest one ever given
out, and deleting rows gives nothing back. A full scan delivers the rows in the order of their ids.

`values f t` is what a scan collects when it keeps the rows on which `f` is defined and forgets the ids.
Position `i` of that list belongs to the row with id `i + 1` for all `i` iff the kept rows are `Numbered`
`1, 2, …, n` (`numbered_iff`).
-/

namespace Lib

/-- The rows in the order of a scan, and the largest id ever given out. -/
structure AutoIncrement (α : Type*) where
  rows : List (Nat × α)
  seq : Nat
  sorted : rows.Pairwise fun r r' => r.1 < r'.1
  pos : ∀ r ∈ rows, 0 < r.1
  le_seq : ∀ r ∈ rows, r.1 ≤ seq

namespace AutoIncrement

variable {α β : Type*}

/-- A new table. -/
def empty : AutoIncrement α where
  rows := []
  seq := 0
  sorted := .nil
  pos _ h := absurd h List.not_mem_nil
  le_seq _ h := absurd h List.not_mem_nil

def insert (t : AutoIncrement α) (a : α) : AutoIncrement α where
  rows := t.rows ++ [(t.seq + 1, a)]
  seq := t.seq + 1
  sorted := by
    refine List.pairwise_append.mpr ⟨t.sorted, List.pairwise_singleton _ _, fun r hr r' hr' => ?_⟩
    rw [List.mem_singleton.mp hr']
    exact Nat.lt_succ_of_le (t.le_seq r hr)
  pos r hr := by
    rcases List.mem_append.mp hr with hr | hr
    · exact t.pos r hr
    · rw [List.mem_singleton.mp hr]
      exact Nat.succ_pos _
  le_seq r hr := by
    rcases List.mem_append.mp hr with hr | hr
    · exact Nat.le_succ_of_le (t.le_seq r hr)
    · rw [List.mem_singleton.mp hr]

/-- All rows are deleted; the ids stay given out. -/
def clear (t : AutoIncrement α) : AutoIncrement α where
  rows := []
  seq := t.seq
  sorted := .nil
  pos _ h := absurd h List.not_mem_nil
  le_seq _ h := absurd h List.not_mem_nil

/-- The row with the given id. -/
def find (t : AutoIncrement α) (id : Nat) : Option α :=
  (t.rows.find? fun r => r.1 == id).map Prod.snd

/-! ## Looking up an id -/

theorem find_eq_some {t : AutoIncrement α} {id : Nat} {a : α} : t.find id = some a ↔ (id, a) ∈ t.rows := by
  have main : ∀ rows : List (Nat × α), rows.Pairwise (fun r r' => r.1 < r'.1) →
      ((rows.find? fun r => r.1 == id).map Prod.snd = some a ↔ (id, a) ∈ rows) := by
    intro rows
    induction rows with
    | nil => intro _; simp
    | cons r rows ih =>
        intro hs
        obtain ⟨hr, hs⟩ := List.pairwise_cons.mp hs
        by_cases hid : r.1 = id
        · -- the id of the first row occurs in no later one
          have hlater : (id, a) ∉ rows := fun hmem => absurd (hr _ hmem) (by simp [hid])
          subst hid
          simp [hlater, Prod.ext_iff, eq_comm]
        · have hne : (id, a) ≠ r := fun h => hid (by rw [← h])
          simp [hid, ih hs, hne]
  exact main t.rows t.sorted

/-! ## Scanning the table -/

variable (f : α → Option β)

/-- The rows on which `f` is defined, with their ids. -/
def entries (t : AutoIncrement α) : List (Nat × β) :=
  t.rows.filterMap fun r => (f r.2).map fun b => (r.1, b)

/-- What a scan collects. -/
def values (t : AutoIncrement α) : List β := t.rows.filterMap fun r => f r.2

/-- The rows on which `f` is defined have the ids `1, 2, …, n`. -/
def Numbered (t : AutoIncrement α) : Prop :=
  (t.entries f).map Prod.fst = List.range' 1 (t.entries f).length

instance (t : AutoIncrement α) : Decidable (t.Numbered f) :=
  inferInstanceAs (Decidable (_ = _))

variable {f}

theorem values_eq (t : AutoIncrement α) : t.values f = (t.entries f).map Prod.snd := by
  unfold values entries
  rw [List.map_filterMap]
  congr 1
  funext r
  cases f r.2 <;> rfl

theorem mem_entries {t : AutoIncrement α} {id : Nat} {b : β} :
    (id, b) ∈ t.entries f ↔ ∃ a, t.find id = some a ∧ f a = some b := by
  simp only [entries, List.mem_filterMap, Option.map_eq_some_iff, Prod.mk.injEq, find_eq_some]
  constructor
  · rintro ⟨⟨_, a⟩, hr, _, hf, rfl, rfl⟩
    exact ⟨a, hr, hf⟩
  · rintro ⟨a, hr, hf⟩
    exact ⟨(id, a), hr, b, hf, rfl, rfl⟩

theorem entries_sorted (t : AutoIncrement α) : ((t.entries f).map Prod.fst).Pairwise (· < ·) := by
  unfold entries
  rw [List.map_filterMap, List.pairwise_filterMap]
  refine t.sorted.imp fun hlt id hid id' hid' => ?_
  obtain ⟨_, hr, rfl⟩ := Option.map_eq_some_iff.mp hid
  obtain ⟨_, hr', rfl⟩ := Option.map_eq_some_iff.mp hid'
  obtain ⟨_, _, rfl⟩ := Option.map_eq_some_iff.mp hr
  obtain ⟨_, _, rfl⟩ := Option.map_eq_some_iff.mp hr'
  exact hlt

/-- **Positions and ids agree iff the kept rows are numbered without a gap.** -/
theorem numbered_iff {t : AutoIncrement α} : t.Numbered f ↔
    ∀ i b, (t.values f)[i]? = some b → ∃ a, t.find (i + 1) = some a ∧ f a = some b := by
  constructor
  · intro hnum i b hb
    rw [values_eq, List.getElem?_map] at hb
    obtain ⟨⟨id, b'⟩, hentry, rfl⟩ := Option.map_eq_some_iff.mp hb
    have hid : ((t.entries f).map Prod.fst)[i]? = some id := by rw [List.getElem?_map, hentry]; rfl
    rw [hnum] at hid
    obtain ⟨hlt, hid⟩ := List.getElem?_eq_some_iff.mp hid
    have hid : id = i + 1 := by
      rw [← hid, List.getElem_range']
      omega
    rw [← hid]
    exact mem_entries.mp (List.mem_of_getElem? hentry)
  · intro hpos
    -- the ids `1, …, n` all occur among the `n` ids of the kept rows
    have hsub : List.range' 1 (t.entries f).length ⊆ (t.entries f).map Prod.fst := by
      intro id hid
      obtain ⟨i, hi, rfl⟩ := List.mem_range'.mp hid
      have hlt : i < (t.values f).length := by rw [values_eq, List.length_map]; exact hi
      obtain ⟨a, hfind, hfa⟩ := hpos i _ (List.getElem?_eq_getElem hlt)
      refine List.mem_map.mpr ⟨(i + 1, _), mem_entries.mpr ⟨a, hfind, hfa⟩, ?_⟩
      show i + 1 = 1 + 1 * i
      omega
    have hperm := (List.subperm_of_subset List.nodup_range' hsub).perm_of_length_le (by simp)
    exact (List.Perm.eq_of_pairwise (fun _ _ _ _ h h' => Nat.le_antisymm h h') List.pairwise_le_range'
      (t.entries_sorted.imp Nat.le_of_lt) hperm).symm

end AutoIncrement

end Lib
