import Mathlib.Algebra.Order.Ring.Int
import Mathlib.Order.Monotone.Basic
import Mathlib.Order.Nat
import Mathlib.Tactic.Ring

/-!
# `Lib.Polling` — a loop that waits for one threshold after another

A loop reads a value again and again, and goes on to its next threshold when the value has reached the
present one. `ReachedAt` says that there are readings, one after another, at which the thresholds are
reached, and `PolledAt` that these are the readings at which such a loop goes on: the first one for each.
Taking the first one loses nothing (`exists_polledAt_iff`). A value that grows in small steps is not far
beyond the last threshold when the loop ends (`PolledAt.le_of_slow`).
-/

namespace Lib

section Polling

variable {α : Type} [LinearOrder α] {value value' : Nat → α} {t : α} {ts : List α} {n k m : Nat}
  {ks : List Nat}

/-- The readings `ks`, from `n` on, at which the thresholds are reached in order. -/
inductive ReachedAt (value : Nat → α) : List α → Nat → List Nat → Prop where
  | nil (n : Nat) : ReachedAt value [] n []
  | cons {t : α} {ts : List α} {n k : Nat} {ks : List Nat} (hle : n ≤ k) (hreached : t ≤ value k)
      (hrest : ReachedAt value ts (k + 1) ks) : ReachedAt value (t :: ts) n (k :: ks)

/-- The first reading from `n` on at which the threshold is reached. -/
structure FirstAt (value : Nat → α) (t : α) (n k : Nat) : Prop where
  le : n ≤ k
  reached : t ≤ value k
  first : ∀ j, n ≤ j → j < k → value j < t

/-- **The readings of the loop** for these thresholds, from `n` on; it goes on with reading `m`. -/
inductive PolledAt (value : Nat → α) : List α → Nat → List Nat → Nat → Prop where
  | nil (n : Nat) : PolledAt value [] n [] n
  | cons {t : α} {ts : List α} {n k m : Nat} {ks : List Nat} (hfirst : FirstAt value t n k)
      (hrest : PolledAt value ts (k + 1) ks m) : PolledAt value (t :: ts) n (k :: ks) m

theorem FirstAt.here (h : t ≤ value n) : FirstAt value t n n :=
  ⟨le_rfl, h, fun _ hle hlt => absurd hle (not_le.mpr hlt)⟩

/-- A reading that misses the threshold does not count. -/
theorem FirstAt.miss (h : FirstAt value t (n + 1) k) (hmiss : value n < t) : FirstAt value t n k := by
  refine ⟨(Nat.le_succ n).trans h.le, h.reached, ?_⟩
  intro j hj hlt
  rcases Nat.eq_or_lt_of_le hj with rfl | hj
  · exact hmiss
  · exact h.first j hj hlt

theorem exists_firstAt (hle : n ≤ k) (h : t ≤ value k) : ∃ j, j ≤ k ∧ FirstAt value t n j := by
  induction hle using Nat.decreasingInduction with
  | self => exact ⟨k, le_rfl, .here h⟩
  | of_succ n _ ih =>
      by_cases hn : t ≤ value n
      · exact ⟨n, by omega, .here hn⟩
      · obtain ⟨j, hj, hfirst⟩ := ih
        exact ⟨j, hj, hfirst.miss (not_le.mp hn)⟩

theorem PolledAt.reachedAt (h : PolledAt value ts n ks m) : ReachedAt value ts n ks := by
  induction h with
  | nil n => exact .nil n
  | cons hfirst _ ih => exact .cons hfirst.le hfirst.reached ih

/-- The loop is never behind other readings. -/
theorem ReachedAt.exists_polledAt (h : ReachedAt value ts n ks) {n' : Nat} (hn : n' ≤ n) :
    ∃ ks' m, PolledAt value ts n' ks' m := by
  induction h generalizing n' with
  | nil n => exact ⟨[], n', .nil n'⟩
  | cons hle hreached _ ih =>
      obtain ⟨j, hj, hfirst⟩ := exists_firstAt (hn.trans hle) hreached
      obtain ⟨ks', m, hrest⟩ := ih (Nat.succ_le_succ hj)
      exact ⟨j :: ks', m, .cons hfirst hrest⟩

/-- **The loop gets through** iff there are readings for its thresholds at all. -/
theorem exists_polledAt_iff : (∃ ks m, PolledAt value ts n ks m) ↔ ∃ ks, ReachedAt value ts n ks := by
  constructor
  · rintro ⟨ks, m, h⟩
    exact ⟨ks, h.reachedAt⟩
  · rintro ⟨ks, h⟩
    exact h.exists_polledAt le_rfl

theorem PolledAt.le (h : PolledAt value ts n ks m) : n ≤ m := by
  induction h with
  | nil n => exact le_rfl
  | cons hfirst _ ih => exact hfirst.le.trans ((Nat.le_succ _).trans ih)

/-- Only the readings of the loop matter. -/
theorem PolledAt.congr (h : PolledAt value ts n ks m) (hvalue : ∀ j, j < m → value j = value' j) :
    PolledAt value' ts n ks m := by
  induction h with
  | nil n => exact .nil n
  | @cons t ts n k m ks hfirst hrest ih =>
      have hk : k < m := hrest.le
      refine .cons ⟨hfirst.le, ?_, ?_⟩ (ih hvalue)
      · rw [← hvalue k hk]
        exact hfirst.reached
      · intro j hj hlt
        rw [← hvalue j (hlt.trans hk)]
        exact hfirst.first j hj hlt

/-- Readings that reach smaller values reach fewer thresholds. -/
theorem ReachedAt.mono (h : ReachedAt value ts n ks) (hvalue : ∀ j, value j ≤ value' j) :
    ReachedAt value' ts n ks := by
  induction h with
  | nil n => exact .nil n
  | cons hle hreached _ ih => exact .cons hle (hreached.trans (hvalue _)) ih

/-- A value that is not bounded reaches all thresholds. -/
theorem exists_reachedAt (hmono : Monotone value) (hunbounded : ∀ t, ∃ k, t ≤ value k) (ts : List α)
    (n : Nat) : ∃ ks, ReachedAt value ts n ks := by
  induction ts generalizing n with
  | nil => exact ⟨[], .nil n⟩
  | cons t ts ih =>
      obtain ⟨k, hk⟩ := hunbounded t
      obtain ⟨ks, hrest⟩ := ih (max n k + 1)
      exact ⟨max n k :: ks, .cons (le_max_left n k) (hk.trans (hmono (le_max_right n k))) hrest⟩

end Polling

/-! ## A value that grows slowly -/

section Slow

variable {value : Nat → Int} {ts : List Int} {n k m : Nat} {ks : List Nat} {t bound gap : Int}

theorem FirstAt.le_of_slow (h : FirstAt value t n k) (hslow : ∀ j, value (j + 1) ≤ value j + gap) :
    value k ≤ max (value n) (t + gap) := by
  rcases Nat.eq_or_lt_of_le h.le with rfl | hlt
  · exact le_max_left _ _
  · obtain ⟨j, rfl⟩ := Nat.exists_eq_add_of_lt hlt
    have hbefore := h.first (n + j) (by omega) (by omega)
    have hstep := hslow (n + j)
    exact le_max_of_le_right (by omega)

/-- **How far the value is** when the loop ends. -/
theorem PolledAt.le_of_slow (h : PolledAt value ts n ks m) (hgap : 0 ≤ gap)
    (hslow : ∀ j, value (j + 1) ≤ value j + gap) (hbound : ∀ t ∈ ts, t ≤ bound) :
    value m ≤ max (value n) (bound + gap) + ts.length * gap := by
  induction h with
  | nil n => simp
  | @cons t ts n k m ks hfirst _ ih =>
      obtain ⟨ht, hbound⟩ := List.forall_mem_cons.mp hbound
      have hfirst := hfirst.le_of_slow hslow
      have hstep := hslow k
      have hrest := ih hbound
      rw [List.length_cons]
      push_cast
      rw [add_mul, one_mul]
      omega

end Slow

end Lib
