import Mathlib.Data.List.Nodup
import Mathlib.Logic.Function.Basic

/-!
# `Lib.Mirror` — a relation stored on both sides

Two families of lists hold the same relation: `fwd a` the partners of `a`, `bwd b` the partners of `b`.
`Mirrored` says that the copies agree and that no pair is stored twice. Adding a new pair, removing a pair
by value and clearing a whole row keep it.
-/

namespace Lib

variable {α β : Type*} [DecidableEq α] [DecidableEq β]

/-- Both sides store each pair equally often, and at most once. -/
structure Mirrored (fwd : α → List β) (bwd : β → List α) : Prop where
  count_eq : ∀ a b, (bwd b).count a = (fwd a).count b
  nodup : ∀ a, (fwd a).Nodup

namespace Mirrored

variable {fwd : α → List β} {bwd : β → List α}

theorem empty : Mirrored (fun _ : α => ([] : List β)) (fun _ : β => ([] : List α)) where
  count_eq _ _ := rfl
  nodup _ := List.nodup_nil

theorem mem_iff (h : Mirrored fwd bwd) (a : α) (b : β) : a ∈ bwd b ↔ b ∈ fwd a := by
  rw [← List.count_pos_iff, ← List.count_pos_iff, h.count_eq]

/-- A pair is stored once or not at all. -/
theorem count_bwd (h : Mirrored fwd bwd) (a : α) (b : β) :
    (bwd b).count a = if b ∈ fwd a then 1 else 0 := by
  rw [h.count_eq]
  by_cases hb : b ∈ fwd a
  · rw [if_pos hb]
    exact List.count_eq_one_of_mem (h.nodup a) hb
  · rw [if_neg hb]
    exact List.count_eq_zero_of_not_mem hb

/-- A row and a column are replaced: they agree where they cross, and elsewhere with what they were. -/
theorem update (h : Mirrored fwd bwd) {a : α} {b : β} {row : List β} {col : List α}
    (hcross : col.count a = row.count b) (hrow : ∀ y, y ≠ b → row.count y = (fwd a).count y)
    (hcol : ∀ x, x ≠ a → col.count x = (bwd b).count x) (hnodup : row.Nodup) :
    Mirrored (Function.update fwd a row) (Function.update bwd b col) where
  count_eq x y := by
    by_cases hx : x = a <;> by_cases hy : y = b
    · rw [hx, hy, Function.update_self, Function.update_self, hcross]
    · rw [hx, Function.update_of_ne hy, Function.update_self, hrow y hy, h.count_eq]
    · rw [hy, Function.update_of_ne hx, Function.update_self, hcol x hx, h.count_eq]
    · rw [Function.update_of_ne hx, Function.update_of_ne hy, h.count_eq]
  nodup x := by
    by_cases hx : x = a
    · rw [hx, Function.update_self]
      exact hnodup
    · rw [Function.update_of_ne hx]
      exact h.nodup x

/-- **A new pair is added on both sides.** -/
theorem push (h : Mirrored fwd bwd) {a : α} {b : β} (hnew : b ∉ fwd a) :
    Mirrored (Function.update fwd a (fwd a ++ [b])) (Function.update bwd b (bwd b ++ [a])) := by
  apply h.update
  · simp [h.count_eq]
  · intro y hy
    simp [Ne.symm hy]
  · intro x hx
    simp [Ne.symm hx]
  · refine List.nodup_append.mpr ⟨h.nodup a, List.nodup_singleton b, ?_⟩
    intro y hy z hz hyz
    exact hnew (by rw [← List.mem_singleton.mp hz, ← hyz]; exact hy)

/-- **A pair is removed by value on both sides.** -/
theorem erase (h : Mirrored fwd bwd) (a : α) (b : β) :
    Mirrored (Function.update fwd a ((fwd a).filter (· ≠ b)))
      (Function.update bwd b ((bwd b).filter (· ≠ a))) := by
  apply h.update
  · rw [List.count_eq_zero_of_not_mem (by simp), List.count_eq_zero_of_not_mem (by simp)]
  · intro y hy
    exact List.count_filter (by simpa using hy)
  · intro x hx
    exact List.count_filter (by simpa using hx)
  · exact (h.nodup a).filter _

/-- **A row is cleared**: its partners forget it, one after the other. -/
theorem clear (h : Mirrored fwd bwd) (a : α) :
    Mirrored (Function.update fwd a [])
      (fun b => if b ∈ fwd a then (bwd b).filter (· ≠ a) else bwd b) where
  count_eq x y := by
    by_cases hx : x = a
    · subst hx
      rw [Function.update_self, List.count_nil]
      by_cases hy : y ∈ fwd x
      · rw [if_pos hy]
        exact List.count_eq_zero_of_not_mem (by simp)
      · rw [if_neg hy]
        exact List.count_eq_zero_of_not_mem (mt (h.mem_iff x y).mp hy)
    · rw [Function.update_of_ne hx, ← h.count_eq]
      by_cases hy : y ∈ fwd a
      · rw [if_pos hy, List.count_filter (by simpa using hx)]
      · rw [if_neg hy]
  nodup x := by
    by_cases hx : x = a
    · subst hx
      rw [Function.update_self]
      exact List.nodup_nil
    · rw [Function.update_of_ne hx]
      exact h.nodup x

end Mirrored

end Lib
