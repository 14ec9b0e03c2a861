import Mathlib.Data.Option.Basic

/-!
# `Lib.Computes` — a partial computation and its domain

Signed arithmetic that overflows has no value, so a computation with it is partial. `Computes x P v` says
that `x` is defined iff `P` holds, and is `v` then: `v` is what the computation would be on unbounded
integers, and `P` the condition under which that does not matter. It composes along the `do` notation, so a
function gets its domain from those of its parts.
-/

namespace Lib

/-- **`x` is defined iff `P`**, and is `v` then. -/
structure Computes {α : Type} (x : Option α) (P : Prop) (v : α) : Prop where
  eq_some_iff : ∀ d, x = some d ↔ P ∧ v = d

namespace Computes

section Basic

variable {α β : Type} {x y : Option α} {P Q R : Prop} {v w : α}

theorem pure (v : α) : Computes (some v) True v :=
  ⟨fun _ => by rw [Option.some.injEq, true_and]⟩

theorem of_defined (h : Computes x P v) (hP : P) : x = some v := (h.eq_some_iff v).mpr ⟨hP, rfl⟩

theorem congr (h : Computes x P v) (hPQ : P ↔ Q) : Computes x Q v :=
  ⟨fun d => by rw [h.eq_some_iff d, hPQ]⟩

/-- What comes next may use the value that was computed. -/
theorem bind {f : α → Option β} {u : β} (h : Computes x P v) (h' : Computes (f v) Q u) :
    Computes (x >>= f) (P ∧ Q) u := by
  refine ⟨fun d => ?_⟩
  simp only [Option.bind_eq_bind, Option.bind_eq_some_iff]
  constructor
  · rintro ⟨a, ha, hd⟩
    obtain ⟨hP, rfl⟩ := (h.eq_some_iff a).mp ha
    obtain ⟨hQ, rfl⟩ := (h'.eq_some_iff d).mp hd
    exact ⟨⟨hP, hQ⟩, rfl⟩
  · rintro ⟨⟨hP, hQ⟩, rfl⟩
    exact ⟨v, h.of_defined hP, h'.of_defined hQ⟩

theorem map (h : Computes x P v) (f : α → β) : Computes (x.map f) P (f v) := by
  refine ⟨fun d => ?_⟩
  rw [Option.map_eq_some_iff]
  constructor
  · rintro ⟨a, ha, rfl⟩
    obtain ⟨hP, rfl⟩ := (h.eq_some_iff a).mp ha
    exact ⟨hP, rfl⟩
  · rintro ⟨hP, rfl⟩
    exact ⟨v, h.of_defined hP, rfl⟩

end Basic

/-- **A loop** is defined iff all its passes are. -/
theorem foldlM {α β : Type} {f : β → α → Option β} {P : α → Prop} {g : β → α → β}
    (h : ∀ b a, Computes (f b a) (P a) (g b a)) (as : List α) (b : β) :
    Computes (as.foldlM f b) (∀ a ∈ as, P a) (as.foldl g b) := by
  induction as generalizing b with
  | nil => exact (pure b).congr (by simp)
  | cons a as ih =>
      rw [List.foldlM_cons, List.foldl_cons]
      exact ((h b a).bind (ih (g b a))).congr List.forall_mem_cons.symm

end Computes

/-- A list of computations is defined iff each of them is. -/
theorem isSome_mapM_iff {α β : Type} (f : α → Option β) (l : List α) :
    (l.mapM f).isSome ↔ ∀ a ∈ l, (f a).isSome := by
  induction l with
  | nil => exact iff_of_true rfl fun _ h => absurd h List.not_mem_nil
  | cons a l ih =>
      rw [List.mapM_cons, List.forall_mem_cons, ← ih]
      cases f a with
      | none => simp
      | some b => cases l.mapM f <;> simp

end Lib
