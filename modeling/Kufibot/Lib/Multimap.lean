import Mathlib.Order.Lattice
import Mathlib.Data.List.Pairwise

/-!
# `Lib.Multimap` — ordered multimaps

The standard library's `multimap` as the sorted list it iterates over: `emplace` puts a new entry after
every entry whose key is not greater, so entries with equal keys keep their insertion order, and `begin`
is the first entry. The order is carried by the structure, so no client proves it again.

`insertAfter_pairwise` is the general fact behind "sorted by key, ties in insertion order": a relation
that the new entry satisfies against the smaller-or-equal and against the greater keys survives.
-/

namespace Lib

variable {κ α : Type*} [LinearOrder κ]

/-- Insert an entry after all entries whose key is at most `k`. -/
def insertAfter (k : κ) (a : α) : List (κ × α) → List (κ × α)
  | [] => [(k, a)]
  | x :: xs => if x.1 ≤ k then x :: insertAfter k a xs else (k, a) :: x :: xs

theorem insertAfter_perm (k : κ) (a : α) (l : List (κ × α)) : (insertAfter k a l).Perm ((k, a) :: l) := by
  induction l with
  | nil => exact .refl _
  | cons x xs ih =>
      unfold insertAfter
      split
      · exact (ih.cons x).trans (.swap _ _ _)
      · exact .refl _

theorem mem_insertAfter {k : κ} {a : α} {l : List (κ × α)} {y : κ × α} :
    y ∈ insertAfter k a l ↔ y = (k, a) ∨ y ∈ l := by
  rw [(insertAfter_perm k a l).mem_iff, List.mem_cons]

/-- A relation holds along the list after the insertion when it held before, the new entry is related
    to those behind it, and those in front of it are related to the new entry. -/
theorem insertAfter_pairwise {R : κ × α → κ × α → Prop} {k : κ} {a : α} {l : List (κ × α)}
    (hsorted : l.Pairwise (fun x y => x.1 ≤ y.1)) (hl : l.Pairwise R)
    (hfront : ∀ x ∈ l, x.1 ≤ k → R x (k, a)) (hback : ∀ x ∈ l, k < x.1 → R (k, a) x) :
    (insertAfter k a l).Pairwise R := by
  induction l with
  | nil => exact List.pairwise_singleton _ _
  | cons x xs ih =>
      rw [List.pairwise_cons] at hsorted hl
      unfold insertAfter
      split
      · rename_i hx
        refine List.pairwise_cons.mpr ⟨?_, ih hsorted.2 hl.2
          (fun y hy => hfront y (List.mem_cons_of_mem _ hy))
          (fun y hy => hback y (List.mem_cons_of_mem _ hy))⟩
        intro y hy
        rcases mem_insertAfter.mp hy with rfl | hy
        · exact hfront x List.mem_cons_self hx
        · exact hl.1 y hy
      · rename_i hx
        have hk : k < x.1 := not_le.mp hx
        refine List.pairwise_cons.mpr ⟨?_, List.pairwise_cons.mpr hl⟩
        intro y hy
        rcases List.mem_cons.mp hy with rfl | hmem
        · exact hback _ List.mem_cons_self hk
        · exact hback y hy (lt_of_lt_of_le hk (hsorted.1 y hmem))

/-- A multimap: its entries in iteration order, sorted by key. -/
structure Multimap (κ α : Type*) [LinearOrder κ] where
  entries : List (κ × α)
  sorted : entries.Pairwise (fun x y => x.1 ≤ y.1)

namespace Multimap

/-- The multimap without entries. -/
def empty : Multimap κ α := ⟨[], List.Pairwise.nil⟩

/-- `emplace(k, a)`: behind the entries of equal key. -/
def emplace (m : Multimap κ α) (k : κ) (a : α) : Multimap κ α :=
  ⟨insertAfter k a m.entries, insertAfter_pairwise m.sorted m.sorted
    (fun _ _ h => h) (fun _ _ h => le_of_lt h)⟩

/-- `begin()`, `none` at the end. -/
def first (m : Multimap κ α) : Option (κ × α) := m.entries.head?

/-- `erase(begin())`. -/
def eraseFirst (m : Multimap κ α) : Multimap κ α := ⟨m.entries.tail, m.sorted.tail⟩

@[simp] theorem empty_entries : (empty : Multimap κ α).entries = [] := rfl

@[simp] theorem emplace_entries (m : Multimap κ α) (k : κ) (a : α) :
    (m.emplace k a).entries = insertAfter k a m.entries := rfl

@[simp] theorem eraseFirst_entries (m : Multimap κ α) : m.eraseFirst.entries = m.entries.tail := rfl

/-- The first entry and the others make up the multimap. -/
theorem entries_of_first {m : Multimap κ α} {x : κ × α} (h : m.first = some x) :
    m.entries = x :: m.eraseFirst.entries := by
  unfold first at h
  cases hm : m.entries with
  | nil => rw [hm] at h; cases h
  | cons y ys => rw [hm] at h; cases h; simp [hm]

theorem entries_of_first_none {m : Multimap κ α} (h : m.first = none) : m.entries = [] :=
  List.head?_eq_none_iff.mp h

/-- `begin()` has the least key. -/
theorem first_le {m : Multimap κ α} {x y : κ × α} (h : m.first = some x) (hy : y ∈ m.entries) :
    x.1 ≤ y.1 := by
  have hs := m.sorted
  rw [entries_of_first h] at hs hy
  rcases List.mem_cons.mp hy with rfl | hy
  · exact le_refl _
  · exact (List.pairwise_cons.mp hs).1 y hy

/-- Counting entries over an `emplace`. -/
theorem countP_emplace (p : κ × α → Bool) (m : Multimap κ α) (k : κ) (a : α) :
    (m.emplace k a).entries.countP p = m.entries.countP p + if p (k, a) then 1 else 0 := by
  rw [emplace_entries, (insertAfter_perm k a m.entries).countP_eq, List.countP_cons]

end Multimap

end Lib
