import Kufibot.Lib.FirstBest
import Mathlib.Data.List.Count

/-!
# `Lib.Counts` — how often each entry of a list occurs

An ordered map of counters, as programs fill it with `counts[e]++`. Its entries are sorted by key, so a search
of them for the greatest count finds the least of the most frequent entries (`mostFrequent_spec`).
-/

namespace Lib

variable {α : Type} [LinearOrder α]

/-- Add one to the counter of `a`; it is inserted in the order of the keys if it is not there. -/
def bump (a : α) : List (α × Nat) → List (α × Nat)
  | [] => [(a, 1)]
  | x :: xs => if x.1 < a then x :: bump a xs else if x.1 = a then (a, x.2 + 1) :: xs else (a, 1) :: x :: xs

/-- The keys that are there, and `a`. -/
theorem key_of_mem_bump {a : α} {l : List (α × Nat)} {y : α × Nat} (h : y ∈ bump a l) :
    y.1 = a ∨ y ∈ l := by
  induction l with
  | nil => exact .inl (congrArg Prod.fst (List.mem_singleton.mp h))
  | cons x xs ih =>
      unfold bump at h
      split at h
      · rcases List.mem_cons.mp h with rfl | h
        · exact .inr List.mem_cons_self
        · exact (ih h).imp_right (List.mem_cons_of_mem _)
      · split at h
        · rcases List.mem_cons.mp h with rfl | h
          · exact .inl rfl
          · exact .inr (List.mem_cons_of_mem _ h)
        · rcases List.mem_cons.mp h with rfl | h
          · exact .inl rfl
          · exact .inr h

/-- Counters, in the order of their keys. -/
structure Counts (α : Type) [LinearOrder α] where
  entries : List (α × Nat)
  sorted : entries.Pairwise fun x y => x.1 < y.1

namespace Counts

theorem bump_sorted {l : List (α × Nat)} (h : l.Pairwise fun x y => x.1 < y.1) (a : α) :
    (bump a l).Pairwise fun x y => x.1 < y.1 := by
  induction l with
  | nil => exact List.pairwise_singleton _ _
  | cons x xs ih =>
      obtain ⟨hx, hxs⟩ := List.pairwise_cons.mp h
      unfold bump
      split
      · rename_i hlt
        refine List.pairwise_cons.mpr ⟨fun y hy => ?_, ih hxs⟩
        rcases key_of_mem_bump hy with heq | hy
        · rw [heq]
          exact hlt
        · exact hx y hy
      · rename_i hnlt
        split
        · rename_i heq
          exact List.pairwise_cons.mpr ⟨fun y hy => heq ▸ hx y hy, hxs⟩
        · rename_i hne
          have hlt : a < x.1 := lt_of_le_of_ne (not_lt.mp hnlt) (Ne.symm hne)
          refine List.pairwise_cons.mpr ⟨fun y hy => ?_, h⟩
          rcases List.mem_cons.mp hy with rfl | hy
          · exact hlt
          · exact hlt.trans (hx y hy)

def empty : Counts α := ⟨[], List.Pairwise.nil⟩

/-- `counts[a]++`. -/
def increment (m : Counts α) (a : α) : Counts α := ⟨bump a m.entries, bump_sorted m.sorted a⟩

/-- The counters of a list. -/
def ofList (l : List α) : Counts α := l.foldl increment empty

theorem ofList_concat (l : List α) (a : α) : ofList (l ++ [a]) = (ofList l).increment a :=
  List.foldl_concat ..

end Counts

/-- The other counters are unchanged. -/
theorem mem_bump_of_ne {a b : α} (hne : b ≠ a) {n : Nat} {l : List (α × Nat)} :
    (b, n) ∈ bump a l ↔ (b, n) ∈ l := by
  have hhead : ∀ k, (b, n) ≠ (a, k) := fun k h => hne (congrArg Prod.fst h)
  induction l with
  | nil => exact iff_of_false (fun h => hhead 1 (List.mem_singleton.mp h)) List.not_mem_nil
  | cons x xs ih =>
      unfold bump
      split
      · rw [List.mem_cons, List.mem_cons]
        exact or_congr_right ih
      · split
        · rename_i heq
          rw [List.mem_cons, List.mem_cons, or_iff_right (hhead _)]
          refine (or_iff_right ?_).symm
          rintro rfl
          exact hne heq
        · rw [List.mem_cons, or_iff_right (hhead _)]

/-- The counter of `a` is one more than before, or one. -/
theorem mem_bump_self {a : α} {n : Nat} {l : List (α × Nat)} (h : l.Pairwise fun x y => x.1 < y.1) :
    (a, n) ∈ bump a l ↔ (∃ k, (a, k) ∈ l ∧ n = k + 1) ∨ ((∀ k, (a, k) ∉ l) ∧ n = 1) := by
  induction l with
  | nil => simp [bump]
  | cons x xs ih =>
      obtain ⟨hx, hxs⟩ := List.pairwise_cons.mp h
      unfold bump
      split
      · rename_i hlt
        have hhead : ∀ k, (a, k) ≠ x := fun k heq => hlt.ne (congrArg Prod.fst heq).symm
        simp only [List.mem_cons, hhead, false_or, ih hxs]
      · rename_i hnlt
        have hbehind : ∀ k, (a, k) ∉ xs := fun k hk => hnlt (hx (a, k) hk)
        split
        · rename_i heq
          have hx : ∀ k, (a, k) = x ↔ k = x.2 := by
            intro k
            constructor
            · rintro rfl
              rfl
            · rintro rfl
              rw [← heq]
          simp [hbehind, hx]
        · rename_i hne
          have hhead : ∀ k, (a, k) ≠ x := fun k heq => hne (congrArg Prod.fst heq).symm
          simp [hbehind, hhead]

/-- **The counters count.** -/
theorem Counts.mem_ofList {l : List α} {a : α} {n : Nat} :
    (a, n) ∈ (ofList l).entries ↔ a ∈ l ∧ n = l.count a := by
  induction l using List.reverseRecOn generalizing n with
  | nil => simp [ofList, empty]
  | append_singleton l b ih =>
      rw [ofList_concat]
      show (a, n) ∈ bump b (ofList l).entries ↔ _
      rw [List.count_append, List.mem_append, List.mem_singleton]
      by_cases hab : a = b
      · subst hab
        rw [mem_bump_self (ofList l).sorted]
        by_cases hmem : a ∈ l
        · simp [ih, hmem]
        · simp [ih, hmem, List.count_eq_zero_of_not_mem hmem]
      · rw [mem_bump_of_ne hab, ih]
        simp [hab, Ne.symm hab]

/-! ## The most frequent entry -/

/-- An entry that occurs most often, and the least of these. -/
structure LeastMostFrequent (l : List α) (a : α) : Prop where
  mem : a ∈ l
  count_le : ∀ b ∈ l, l.count b ≤ l.count a
  least : ∀ b ∈ l, l.count b = l.count a → a ≤ b

/-- The first key with the greatest counter. -/
def mostFrequent (l : List α) : Option α :=
  (firstBest 0 Prod.snd (Counts.ofList l).entries).map Prod.fst

/-- **The least of the most frequent entries** is found in every list that has entries. -/
theorem mostFrequent_spec {l : List α} (h : l ≠ []) :
    ∃ a, mostFrequent l = some a ∧ LeastMostFrequent l a := by
  have hentry : ∀ b ∈ l, (b, l.count b) ∈ (Counts.ofList l).entries :=
    fun b hb => Counts.mem_ofList.mpr ⟨hb, rfl⟩
  cases hfirst : firstBest 0 Prod.snd (Counts.ofList l).entries with
  | none =>
      obtain ⟨b, hb⟩ := List.exists_mem_of_ne_nil l h
      have hzero := firstBest_eq_none_iff.mp hfirst _ (hentry b hb)
      exact absurd (List.count_pos_iff.mpr hb) (not_lt.mpr hzero)
  | some found =>
      obtain ⟨a, n⟩ := found
      obtain ⟨hmem, -, hbest⟩ := firstBest_spec hfirst
      obtain ⟨ha, rfl⟩ := Counts.mem_ofList.mp hmem
      refine ⟨a, by rw [mostFrequent, hfirst]; rfl, ha, fun b hb => hbest _ (hentry b hb), ?_⟩
      intro b hb hcount
      rcases firstBest_before (Counts.ofList l).sorted hfirst (hentry b hb) hcount.ge with heq | hlt
      · exact (congrArg Prod.fst heq).le
      · exact hlt.le

end Lib
