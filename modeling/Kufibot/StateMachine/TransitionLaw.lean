import Kufibot.StateMachine.Transition

/-!
# `StateMachine.TransitionLaw` — which states a transition exits and enters

A hierarchical transition from `c` to `t` exits the states around `c` that are not around `t`, innermost
first, and enters the states around `t` that are not around `c`, outermost first (`TransitionLaw`).

The chains of `c` and `t` fork into `A ++ C` and `B ++ C` (`Forest.exists_fork`). The exit loop stops at
the head of `C` and so exits exactly `A`. The enter list is cut from the other end: it runs from the root
and stops at the head of `C`, so it holds the states *above* the common ancestor and not `B`
(`enterList_fork`). `transition_law_iff` says when the two agree.
-/

namespace Kufibot

open Lib

variable {σ ε Ω : Type*}

/-! ## The law -/

/-- The states to exit between `c` and `t`, innermost first. -/
structure IsExitList (F : Forest σ) (c : Option σ) (t : σ) (exits : List σ) : Prop where
  mem_iff : ∀ s, s ∈ exits ↔ F.AncestorOrSelf s c ∧ ¬ F.AncestorOrSelf s (some t)
  innermost_first : exits.Pairwise (fun x y => F.Ancestor y x)
  once : exits.Nodup

/-- The states to enter between `c` and `t`, outermost first. -/
structure IsEnterList (F : Forest σ) (c : Option σ) (t : σ) (enters : List σ) : Prop where
  mem_iff : ∀ s, s ∈ enters ↔ F.AncestorOrSelf s (some t) ∧ ¬ F.AncestorOrSelf s c
  outermost_first : enters.Pairwise (fun x y => F.Ancestor x y)
  once : enters.Nodup

/-- **The hierarchical transition law**, between the machine `m` before and `m'` after a transition to
    `t`: the calls in between are the exits and then the entries, and `t` is the new current state. -/
def TransitionLaw (F : Forest σ) (t : σ) (m m' : StateMachine σ Ω) : Prop :=
  m'.currentState = some t ∧
    ∃ exits enters, IsExitList F m.currentState t exits ∧ IsEnterList F m.currentState t enters ∧
      m'.calls = m.calls ++ exits.map .onExit ++ enters.map .onEnter

/-- The states entered by a sequence of calls. -/
def entered (calls : List (Call σ)) : List σ :=
  calls.filterMap fun
    | .onEnter s => some s
    | .onExit _ => none

theorem entered_append (xs ys : List (Call σ)) : entered (xs ++ ys) = entered xs ++ entered ys :=
  List.filterMap_append ..

@[simp] theorem entered_map_onExit (xs : List σ) : entered (xs.map Call.onExit) = [] := by
  induction xs with
  | nil => rfl
  | cons x xs ih => exact ih

@[simp] theorem entered_map_onEnter (xs : List σ) : entered (xs.map Call.onEnter) = xs := by
  induction xs with
  | nil => rfl
  | cons x xs ih => exact congrArg (x :: ·) ih

/-- In front of the common part both chains give what the law asks for. -/
theorem isExitList_of_fork (F : Forest σ) {c : Option σ} {t : σ} {A C : List σ}
    (hc : F.ancestors c = A ++ C) (hC : ∀ x ∈ C, x ∈ F.ancestors (some t))
    (hA : ∀ a ∈ A, a ∉ F.ancestors (some t)) : IsExitList F c t A := by
  refine ⟨fun s => ?_, ?_, ?_⟩
  · rw [← F.mem_ancestors, ← F.mem_ancestors, hc, List.mem_append]
    constructor
    · intro hs; exact ⟨.inl hs, hA s hs⟩
    · rintro ⟨hs | hs, hn⟩
      · exact hs
      · exact absurd (hC s hs) hn
  · exact (List.pairwise_append.mp (hc ▸ F.ancestors_pairwise c)).1
  · exact (List.nodup_append.mp (hc ▸ F.ancestors_nodup c)).1

theorem isEnterList_of_fork (F : Forest σ) {c : Option σ} {t : σ} {B C : List σ}
    (ht : F.ancestors (some t) = B ++ C) (hC : ∀ x ∈ C, x ∈ F.ancestors c)
    (hB : ∀ b ∈ B, b ∉ F.ancestors c) : IsEnterList F c t B.reverse := by
  refine ⟨fun s => ?_, ?_, ?_⟩
  · rw [← F.mem_ancestors, ← F.mem_ancestors, ht, List.mem_append, List.mem_reverse]
    constructor
    · intro hs; exact ⟨.inl hs, hB s hs⟩
    · rintro ⟨hs | hs, hn⟩
      · exact hs
      · exact absurd (hC s hs) hn
  · exact List.pairwise_reverse.mpr (List.pairwise_append.mp (ht ▸ F.ancestors_pairwise _)).1
  · exact List.nodup_reverse.mpr (List.nodup_append.mp (ht ▸ F.ancestors_nodup _)).1

namespace Handlers

variable (H : Handlers σ ε Ω) [DecidableEq σ]

/-! ## What the loops of `transition` compute on a fork -/

theorem lcaLoop_append (P xs ys : List σ) (lca : Option σ) :
    lcaLoop (P ++ xs) (P ++ ys) lca = lcaLoop xs ys (P.getLast?.or lca) := by
  induction P generalizing lca with
  | nil => rfl
  | cons p P ih =>
      simp only [List.cons_append, lcaLoop, if_true, ih]
      cases P with
      | nil => rfl
      | cons q P => rw [List.getLast?_cons_cons]; cases h : (q :: P).getLast? <;> simp_all

theorem lcaLoop_disjoint {xs ys : List σ} (h : ∀ x ∈ xs, x ∉ ys) (lca : Option σ) :
    lcaLoop xs ys lca = lca := by
  cases xs with
  | nil => rfl
  | cons x xs =>
      cases ys with
      | nil => rfl
      | cons y ys =>
          have hne : x ≠ y := fun he => h x List.mem_cons_self (he ▸ List.mem_cons_self)
          simp only [lcaLoop, if_neg hne]

/-- The lowest common ancestor is the head of the common part. -/
theorem lowestCommonAncestor_fork {A B C : List σ} (hAB : ∀ a ∈ A, a ∉ B) :
    lowestCommonAncestor (A ++ C) (B ++ C) = C.head? := by
  have hrev : ∀ a ∈ A.reverse, a ∉ B.reverse := by simpa using hAB
  rw [lowestCommonAncestor, List.reverse_append, List.reverse_append, lcaLoop_append,
    lcaLoop_disjoint hrev, List.getLast?_reverse, Option.or_none]

/-- The exit loop exits what stands in front of the lowest common ancestor. -/
theorem exitLoop_calls {A C : List σ} {lca : Option σ} (hA : ∀ a ∈ A, some a ≠ lca)
    (hC : C.head? = lca) (cause : ε) (m : StateMachine σ Ω) :
    (H.exitLoop lca cause (A ++ C) m).calls = m.calls ++ A.map .onExit := by
  induction A generalizing m with
  | nil =>
      cases C with
      | nil => simp [exitLoop]
      | cons l C =>
          have hl : some l = lca := hC
          simp [exitLoop, hl]
  | cons a A ih =>
      have ha : some a ≠ lca := hA a List.mem_cons_self
      simp only [List.cons_append, exitLoop, if_neg ha]
      rw [ih (fun x hx => hA x (List.mem_cons_of_mem _ hx))]
      simp [callOnExit]

/-- **The enter list is cut from the wrong end.** With a common part `l :: C` it is the part of it above
    `l`, read from the root; only without a common part is it what has to be entered. -/
theorem enterList_fork {B C : List σ} {l : σ} (hl : l ∉ C) :
    enterList (some l) (B ++ l :: C) = C.reverse := by
  have hrev : (B ++ l :: C).reverse = C.reverse ++ l :: B.reverse := by simp
  have hC : ∀ x ∈ C.reverse, decide (x ≠ l) = true := by
    intro x hx
    have hxC : x ∈ C := List.mem_reverse.mp hx
    exact decide_eq_true (fun he => hl (he ▸ hxC))
  rw [enterList, hrev, List.takeWhile_append_of_pos hC, List.takeWhile_cons_of_neg (by simp),
    List.append_nil]

/-- Without redirections the enter loop enters its whole list and keeps the target. -/
theorem enterLoop_noRedirect (hno : H.NoRedirect) (cause : ε) (es : List σ) (t : σ)
    (m : StateMachine σ Ω) :
    (H.enterLoop cause es t m).1 = t ∧
      (H.enterLoop cause es t m).2.calls = m.calls ++ es.map .onEnter := by
  induction es generalizing m with
  | nil => simp [enterLoop]
  | cons s es ih =>
      have hstep : H.enterLoop cause (s :: es) t m = H.enterLoop cause es t (H.callOnEnter s cause m).2 := by
        rcases hno s cause m.env with h | h <;> simp [enterLoop, callOnEnter, h]
      rw [hstep]
      refine ⟨(ih _).1, ?_⟩
      rw [(ih _).2]
      simp [callOnEnter]

variable (F : Forest σ)

/-- What a transition to `t` calls, for a fork of the two chains. -/
theorem transition_calls (hno : H.NoRedirect) {m : StateMachine σ Ω} (hrun : H.running m.env = true)
    {t : σ} {A B C : List σ} (hc : F.ancestors m.currentState = A ++ C)
    (ht : F.ancestors (some t) = B ++ C) (hA : ∀ a ∈ A, a ∉ F.ancestors (some t)) (cause : ε) :
    (H.transition F (some t) cause m).currentState = some t ∧
      (H.transition F (some t) cause m).calls =
        m.calls ++ A.map .onExit ++ (enterList C.head? (B ++ C)).map .onEnter := by
  have hAB : ∀ a ∈ A, a ∉ B := fun a ha hb => hA a ha (ht ▸ List.mem_append_left C hb)
  have hAl : ∀ a ∈ A, some a ≠ C.head? := by
    intro a ha he
    exact hA a ha (ht ▸ List.mem_append_right B (List.mem_of_head? he.symm))
  simp only [transition, hrun, Bool.not_true, Bool.false_eq_true, if_false, hc, ht,
    lowestCommonAncestor_fork hAB]
  obtain ⟨htarget, hcalls⟩ := H.enterLoop_noRedirect hno cause (enterList C.head? (B ++ C)) t
    (H.exitLoop C.head? cause (A ++ C) m)
  refine ⟨congrArg some htarget, ?_⟩
  show (H.enterLoop cause _ t _).2.calls = _
  rw [hcalls, H.exitLoop_calls hAl rfl]

/-- On a fork the law is about the enter list alone. -/
theorem transitionLaw_iff_enterList (hno : H.NoRedirect) {m : StateMachine σ Ω}
    (hrun : H.running m.env = true) {t : σ} {A B C : List σ}
    (hc : F.ancestors m.currentState = A ++ C) (ht : F.ancestors (some t) = B ++ C)
    (hA : ∀ a ∈ A, a ∉ F.ancestors (some t)) (cause : ε) :
    TransitionLaw F t m (H.transition F (some t) cause m) ↔
      IsEnterList F m.currentState t (enterList C.head? (B ++ C)) := by
  obtain ⟨hcur, hcalls⟩ := H.transition_calls F hno hrun hc ht hA cause
  constructor
  · rintro ⟨_, exits, enters, _, henters, heq⟩
    have hlists : enters = enterList C.head? (B ++ C) := by
      have := congrArg entered (heq.symm.trans hcalls)
      simpa [entered_append] using this
    exact hlists ▸ henters
  · intro henters
    have hC : ∀ x ∈ C, x ∈ F.ancestors (some t) := fun x hx => ht ▸ List.mem_append_right B hx
    exact ⟨hcur, A, _, isExitList_of_fork F hc hC hA, henters, hcalls⟩

/-- **When a transition follows the law.** With no redirecting `onEnter` and a running machine, the
    transition from the current state to `t` makes the calls of the law iff the two have no ancestor in
    common, or `t` is a root that is the current state or one of its ancestors. -/
theorem transition_law_iff (hno : H.NoRedirect) (m : StateMachine σ Ω)
    (hrun : H.running m.env = true) (t : σ) (cause : ε) :
    TransitionLaw F t m (H.transition F (some t) cause m) ↔
      (∀ a, ¬ (F.AncestorOrSelf a m.currentState ∧ F.AncestorOrSelf a (some t))) ∨
        (F.parent t = none ∧ F.AncestorOrSelf t m.currentState) := by
  obtain ⟨A, B, C, hc, ht, hA, hB⟩ := F.exists_fork m.currentState (some t)
  have hCc : ∀ x ∈ C, x ∈ F.ancestors m.currentState := fun x hx => hc ▸ List.mem_append_right A hx
  have hCt : ∀ x ∈ C, x ∈ F.ancestors (some t) := fun x hx => ht ▸ List.mem_append_right B hx
  rw [H.transitionLaw_iff_enterList F hno hrun hc ht hA]
  simp only [← F.mem_ancestors]
  cases C with
  | nil =>
      -- no common ancestor: the enter list is the whole chain of `t`
      have hdisj : ∀ a, ¬ (a ∈ F.ancestors m.currentState ∧ a ∈ F.ancestors (some t)) := by
        rintro a ⟨hac, hat⟩
        rw [hc, List.append_nil] at hac
        exact hA a hac hat
      have henters : IsEnterList F m.currentState t (enterList none (B ++ [])) := by
        rw [enterList, List.append_nil]
        exact isEnterList_of_fork F ht hCc hB
      exact ⟨fun _ => .inl hdisj, fun _ => henters⟩
  | cons l C =>
      have hl : l ∉ C := by
        have hnd := F.ancestors_nodup (some t)
        rw [ht] at hnd
        exact (List.nodup_cons.mp (List.nodup_append.mp hnd).2.1).1
      rw [List.head?_cons, enterList_fork hl]
      constructor
      · intro henters
        -- what is entered stands above `l`, so it is around the current state: there is nothing
        have hnil : ∀ s, s ∉ C.reverse := fun s hs =>
          ((henters.mem_iff s).mp hs).2 (F.mem_ancestors.mp
            (hCc s (List.mem_cons_of_mem _ (List.mem_reverse.mp hs))))
        have hCnil : C = [] := List.reverse_eq_nil_iff.mp (List.eq_nil_iff_forall_not_mem.mpr hnil)
        have hBnil : B = [] := by
          refine List.eq_nil_iff_forall_not_mem.mpr fun b hb => hnil b ((henters.mem_iff b).mpr ?_)
          rw [← F.mem_ancestors, ← F.mem_ancestors]
          exact ⟨ht ▸ List.mem_append_left _ hb, hB b hb⟩
        rw [hCnil, hBnil, List.nil_append, Forest.ancestors_some] at ht
        obtain ⟨hlt, hroot⟩ := List.cons.inj ht
        refine .inr ⟨?_, hlt ▸ hCc l List.mem_cons_self⟩
        cases hp : F.parent t with
        | none => rfl
        | some p => rw [hp, Forest.ancestors_some] at hroot; cases hroot
      · rintro (hdisj | ⟨hroot, htc⟩)
        · exact absurd ⟨hCc l List.mem_cons_self, hCt l List.mem_cons_self⟩ (hdisj l)
        · -- the chain of the root `t` is `[t]`, and `t` is shared
          rw [Forest.ancestors_some, hroot, Forest.ancestors_none] at ht
          have hBnil : B = [] := by
            refine List.eq_nil_iff_forall_not_mem.mpr fun b hb => hB b hb ?_
            have : b ∈ [t] := ht ▸ List.mem_append_left _ hb
            exact (List.mem_singleton.mp this) ▸ htc
          rw [hBnil, List.nil_append] at ht
          have hCnil : C = [] := (List.cons.inj ht).2.symm
          have htchain : F.ancestors (some t) = [] ++ l :: C := by
            rw [Forest.ancestors_some, hroot, Forest.ancestors_none, ht, List.nil_append]
          have := isEnterList_of_fork F htchain hCc (by simp)
          rwa [hCnil]

end Handlers

/-! ## A parent with two children -/

/-- A root `0` with the children `1` and `2`. -/
def siblings : Forest (Fin 3) where
  parent s := if s = 0 then none else some 0
  depth s := if s = 0 then 0 else 1
  depth_lt := by decide

/-- Callbacks that do nothing. -/
def silent : Handlers σ Unit Unit where
  onEnter _ _ _ := (none, ())
  onEvent _ _ _ := (none, ())
  onExit _ _ _ := ()
  running _ := true

theorem silent_noRedirect : (silent (σ := σ)).NoRedirect := fun _ _ _ => .inl rfl

/-- From a child to the root the law holds: the child is exited and nothing is entered. -/
theorem transition_law_to_root :
    TransitionLaw siblings 0 ⟨some 1, (), []⟩
      (silent.transition siblings (some 0) () ⟨some 1, (), []⟩) :=
  (silent.transition_law_iff siblings silent_noRedirect _ rfl 0 ()).mpr
    (.inr ⟨rfl, siblings.mem_ancestors.mp (by decide)⟩)

/-- **From one child to the other the law fails**: the target is never entered. -/
theorem transition_to_sibling_not_entered :
    (silent (σ := Fin 3)).NoRedirect ∧ (silent (σ := Fin 3)).running () = true ∧
      ¬ TransitionLaw siblings 2 ⟨some 1, (), []⟩
          (silent.transition siblings (some 2) () ⟨some 1, (), []⟩) := by
  refine ⟨silent_noRedirect, rfl, ?_⟩
  rintro ⟨_, exits, enters, _, henters, hcalls⟩
  have hcode : (silent.transition siblings (some 2) () ⟨some 1, (), []⟩).calls = [.onExit 1] := rfl
  have hentered : enters = [] := by
    have := congrArg entered (hcode.symm.trans hcalls)
    simpa [entered_append, entered] using this.symm
  have hmem : (2 : Fin 3) ∈ enters := by
    rw [henters.mem_iff, ← siblings.mem_ancestors, ← siblings.mem_ancestors]
    decide
  rw [hentered] at hmem
  exact absurd hmem List.not_mem_nil

end Kufibot
