import Mathlib.Data.Set.Card
import Mathlib.Logic.Relation

/-!
# `Lib.Forest` — parent links, ancestor chains and the common part of two chains

A `Forest` is a parent function together with a depth that decreases along it, so a chain of parents
always ends. `Forest.ofAcyclic` builds one from any acyclic parent function on a finite type.

* **Chains.** `ancestors (some s)` is `s`, its parent, and so on up to the root; `mem_ancestors` says it
  lists exactly `s` and its ancestors, and `ancestors_pairwise` that each element is strictly below the
  later ones.
* **Two chains.** Read from the root, the chains of `c` and `t` agree on a common prefix and then have
  nothing in common (`exists_fork`): this is what every lowest-common-ancestor argument uses.
-/

namespace Lib

variable {σ : Type*}

/-- Parent links, with a depth that witnesses that they do not run in circles. -/
structure Forest (σ : Type*) where
  parent : σ → Option σ
  depth : σ → Nat
  depth_lt : ∀ {s p : σ}, parent s = some p → depth p < depth s

namespace Forest

/-- `p` is the parent of `s`, as a relation. -/
def IsParent (parent : σ → Option σ) (s p : σ) : Prop := parent s = some p

/-- Every acyclic parent function on a finite type is a forest: the depth of a node is the number of
    its proper ancestors. -/
noncomputable def ofAcyclic [Finite σ] (parent : σ → Option σ)
    (hacyclic : ∀ s, ¬ Relation.TransGen (IsParent parent) s s) : Forest σ where
  parent := parent
  depth s := {a | Relation.TransGen (IsParent parent) s a}.ncard
  depth_lt := by
    intro s p hp
    have hstep : Relation.TransGen (IsParent parent) s p := .single hp
    refine Set.ncard_lt_ncard ⟨fun a ha => hstep.trans ha, fun hsub => ?_⟩ (Set.toFinite _)
    exact hacyclic p (hsub hstep)

variable (F : Forest σ)

/-! ## Ancestor chains -/

/-- At most `n` nodes of the chain that starts at `s`. -/
def climb : Nat → Option σ → List σ
  | 0, _ => []
  | _ + 1, none => []
  | n + 1, some s => s :: climb n (F.parent s)

/-- The chain from a node to its root, the node first; nothing for `none`. -/
def ancestors : Option σ → List σ
  | none => []
  | some s => F.climb (F.depth s + 1) (some s)

@[simp] theorem ancestors_none : F.ancestors none = [] := rfl

/-- Any fuel above the depth gives the same chain. -/
theorem climb_eq_climb {n m : Nat} {s : σ} (hn : F.depth s < n) (hm : F.depth s < m) :
    F.climb n (some s) = F.climb m (some s) := by
  induction n generalizing m s with
  | zero => exact absurd hn (Nat.not_lt_zero _)
  | succ n ih =>
      obtain ⟨m, rfl⟩ : ∃ k, m = k + 1 := ⟨m - 1, by omega⟩
      simp only [climb]
      cases hp : F.parent s with
      | none => cases n <;> cases m <;> rfl
      | some p =>
          have hlt := F.depth_lt hp
          exact congrArg (s :: ·) (ih (by omega) (by omega))

@[simp] theorem ancestors_some (s : σ) : F.ancestors (some s) = s :: F.ancestors (F.parent s) := by
  show s :: F.climb (F.depth s) (F.parent s) = s :: F.ancestors (F.parent s)
  cases hp : F.parent s with
  | none => cases F.depth s <;> rfl
  | some p =>
      have hlt := F.depth_lt hp
      rw [ancestors, F.climb_eq_climb hlt (Nat.lt_succ_self _)]

/-- Induction along a chain, from the root down. -/
@[elab_as_elim]
theorem chain_induction {motive : Option σ → Prop} (none : motive none)
    (some : ∀ s, motive (F.parent s) → motive (some s)) (c : Option σ) : motive c := by
  have main : ∀ n s, F.depth s < n → motive (Option.some s) := by
    intro n
    induction n with
    | zero => intro s hs; exact absurd hs (Nat.not_lt_zero _)
    | succ n ih =>
        intro s hs
        refine some s ?_
        cases hp : F.parent s with
        | none => exact none
        | some p => exact ih p (by have := F.depth_lt hp; omega)
  cases c with
  | none => exact none
  | some s => exact main _ s (Nat.lt_succ_self _)

/-- `a` is the node `c` or one of its ancestors; for no node there is none. -/
def AncestorOrSelf (a : σ) (c : Option σ) : Prop :=
  ∃ s, c = some s ∧ Relation.ReflTransGen (IsParent F.parent) s a

/-- `a` is a proper ancestor of `s`. -/
def Ancestor (a s : σ) : Prop := Relation.TransGen (IsParent F.parent) s a

theorem ancestorOrSelf_some {a s : σ} :
    F.AncestorOrSelf a (some s) ↔ a = s ∨ F.AncestorOrSelf a (F.parent s) := by
  constructor
  · rintro ⟨_, ⟨⟩, h⟩
    rcases h.cases_head with rfl | ⟨p, hp, hpa⟩
    · exact .inl rfl
    · exact .inr ⟨p, hp, hpa⟩
  · rintro (rfl | ⟨p, hp, hpa⟩)
    · exact ⟨a, rfl, .refl⟩
    · exact ⟨s, rfl, .head hp hpa⟩

/-- A chain lists exactly the node and its ancestors. -/
theorem mem_ancestors {a : σ} {c : Option σ} : a ∈ F.ancestors c ↔ F.AncestorOrSelf a c := by
  induction c using F.chain_induction with
  | none => simp [AncestorOrSelf]
  | some s ih => rw [ancestors_some, List.mem_cons, ih, F.ancestorOrSelf_some]

theorem depth_lt_of_ancestor {a s : σ} (h : F.Ancestor a s) : F.depth a < F.depth s := by
  induction h with
  | single h => exact F.depth_lt h
  | tail _ h ih => exact lt_trans (F.depth_lt h) ih

theorem ancestor_irrefl (s : σ) : ¬ F.Ancestor s s :=
  fun h => lt_irrefl _ (F.depth_lt_of_ancestor h)

theorem ancestor_of_mem_parent {a s : σ} (h : a ∈ F.ancestors (F.parent s)) : F.Ancestor a s := by
  obtain ⟨p, hp, hpa⟩ := F.mem_ancestors.mp h
  exact Relation.TransGen.head' hp hpa

/-- Along a chain each node is strictly below the later ones. -/
theorem ancestors_pairwise (c : Option σ) :
    (F.ancestors c).Pairwise (fun x y => F.Ancestor y x) := by
  induction c using F.chain_induction with
  | none => exact List.Pairwise.nil
  | some s ih =>
      rw [ancestors_some]
      exact List.pairwise_cons.mpr ⟨fun a ha => F.ancestor_of_mem_parent ha, ih⟩

theorem ancestors_nodup (c : Option σ) : (F.ancestors c).Nodup :=
  (F.ancestors_pairwise c).imp (by rintro x _ h rfl; exact F.ancestor_irrefl x h)

/-- From any of its nodes on, a chain is that node's chain. -/
theorem ancestors_eq_of_append {c : Option σ} {A C : List σ} {s : σ}
    (h : F.ancestors c = A ++ s :: C) : s :: C = F.ancestors (some s) := by
  induction c using F.chain_induction generalizing A with
  | none => simp at h
  | some r ih =>
      cases A with
      | nil =>
          have hr : r = s := (List.cons.inj (F.ancestors_some r ▸ h)).1
          rw [← hr, h, hr, List.nil_append]
      | cons a A =>
          rw [ancestors_some] at h
          exact ih (List.cons.inj h).2

/-! ## Two chains -/

/-- **The fork.** The chains of `c` and `t` end in a common part `C`; in front of it they share no
    node. -/
theorem exists_fork (c t : Option σ) : ∃ A B C : List σ,
    F.ancestors c = A ++ C ∧ F.ancestors t = B ++ C ∧
      (∀ a ∈ A, a ∉ F.ancestors t) ∧ (∀ b ∈ B, b ∉ F.ancestors c) := by
  induction c using F.chain_induction with
  | none => exact ⟨[], F.ancestors t, [], rfl, by simp, by simp, by simp⟩
  | some s ih =>
      by_cases hs : s ∈ F.ancestors t
      · -- the chain of `s` is a tail of the chain of `t`
        obtain ⟨B, D, hBD⟩ := List.append_of_mem hs
        have hD := F.ancestors_eq_of_append hBD
        refine ⟨[], B, F.ancestors (some s), rfl, by rw [hBD, hD], by simp, ?_⟩
        intro b hb hmem
        have hnd := F.ancestors_nodup t
        rw [hBD, hD] at hnd
        exact (List.nodup_append.mp hnd).2.2 b hb b hmem rfl
      · -- `s` itself is not shared: it goes in front of its parent's fork
        obtain ⟨A, B, C, hc, ht, hA, hB⟩ := ih
        refine ⟨s :: A, B, C, by rw [ancestors_some, hc, List.cons_append], ht, ?_, ?_⟩
        · intro a ha
          rcases List.mem_cons.mp ha with rfl | ha
          · exact hs
          · exact hA a ha
        · intro b hb hmem
          rw [ancestors_some] at hmem
          rcases List.mem_cons.mp hmem with rfl | hmem
          · exact hs (ht ▸ List.mem_append_left C hb)
          · exact hB b hb hmem

end Forest

end Lib
