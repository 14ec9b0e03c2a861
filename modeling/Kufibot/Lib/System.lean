import Mathlib.Data.List.Basic

/-!
# `Lib.System` — labelled systems with a partial step function

A `System` is a predicate for the initial states and an executable step: `step s a = some t` when the
action `a` is enabled in `s` and leads to `t`. Everything a safety argument needs is here once:

* `ReachableVia Ok` — the states reached by steps that all meet `Ok`, and its induction rule
  `ReachableVia.invariant`;
* `Run` — a run with its trace (the state before each step, and the action), for statements that speak
  about all states of one run;
* `Run.invariantVia` — the invariant rule for all states of a run whose steps meet a condition;
* `Leads Ok` — where steps that all meet `Ok` lead, for statements about what can still happen;
* `Run.forall_iff` — a property holds in every state of a run iff every step of it meets a condition;
* `exec` — running a list of actions, which turns a concrete run into a computation.
-/

namespace Lib

/-- A system: its initial states, and its step (`none`: the action is not enabled). -/
structure System (S A : Type*) where
  init : S → Prop
  step : S → A → Option S

namespace System

variable {S A : Type*} (M : System S A)

/-! ## Reachable states -/

/-- The states reached from an initial one by steps that all meet `Ok`. -/
inductive ReachableVia (Ok : S → A → Prop) : S → Prop where
  | init {s : S} (h : M.init s) : ReachableVia Ok s
  | step {s t : S} {a : A} (hs : ReachableVia Ok s) (hok : Ok s a) (hstep : M.step s a = some t) :
      ReachableVia Ok t

/-- The reachable states: no condition on the steps. -/
abbrev Reachable : S → Prop := M.ReachableVia (fun _ _ => True)

variable {M}

/-- **The invariant rule.** What holds initially and survives every step that meets `Ok` holds in every
    state reached by such steps. -/
theorem ReachableVia.invariant {Ok : S → A → Prop} {I : S → Prop} (hinit : ∀ s, M.init s → I s)
    (hstep : ∀ s a t, I s → Ok s a → M.step s a = some t → I t) {s : S}
    (h : M.ReachableVia Ok s) : I s := by
  induction h with
  | init h => exact hinit _ h
  | step _ hok hst ih => exact hstep _ _ _ ih hok hst

theorem ReachableVia.mono {Ok Ok' : S → A → Prop} (hok : ∀ s a, Ok s a → Ok' s a) {s : S}
    (h : M.ReachableVia Ok s) : M.ReachableVia Ok' s := by
  induction h with
  | init h => exact .init h
  | step _ ha hst ih => exact .step ih (hok _ _ ha) hst

theorem ReachableVia.reachable {Ok : S → A → Prop} {s : S} (h : M.ReachableVia Ok s) :
    M.Reachable s :=
  h.mono fun _ _ _ => trivial

/-! ## Runs -/

variable (M)

/-- `Run s tr t`: the steps of `tr` lead from `s` to `t`; `tr` holds the state before each step and the
    action taken there, the first step first. -/
inductive Run (s : S) : List (S × A) → S → Prop where
  | nil : Run s [] s
  | snoc {tr : List (S × A)} {t u : S} {a : A} (hrun : Run s tr t) (hstep : M.step t a = some u) :
      Run s (tr ++ [(t, a)]) u

/-- The states a run passes through, the last one included. -/
def visited (tr : List (S × A)) (t : S) : List S := tr.map Prod.fst ++ [t]

variable {M}

@[simp] theorem visited_nil (t : S) : visited ([] : List (S × A)) t = [t] := rfl

@[simp] theorem visited_snoc (tr : List (S × A)) (t u : S) (a : A) :
    visited (tr ++ [(t, a)]) u = visited tr t ++ [u] := by
  simp [visited]

theorem Run.reachable {s t : S} {tr : List (S × A)} (hs : M.Reachable s) (h : M.Run s tr t) :
    M.Reachable t := by
  induction h with
  | nil => exact hs
  | snoc _ hst ih => exact .step ih trivial hst

/-- A run of one step. -/
theorem Run.single {s t : S} {a : A} (h : M.step s a = some t) : M.Run s [(s, a)] t :=
  Run.nil.snoc h

/-- One run after another. -/
theorem Run.append {s t u : S} {tr tr' : List (S × A)} (h : M.Run s tr t) (h' : M.Run t tr' u) :
    M.Run s (tr ++ tr') u := by
  induction h' with
  | nil => simpa using h
  | snoc _ hst ih => simpa using ih.snoc hst

/-- An inductive invariant holds at the end of a run that starts in it. -/
theorem Run.invariant {I : S → Prop} (hstep : ∀ s a t, I s → M.step s a = some t → I t)
    {s t : S} {tr : List (S × A)} (h : M.Run s tr t) (hs : I s) : I t := by
  induction h with
  | nil => exact hs
  | snoc _ hst ih => exact hstep _ _ _ ih hst

/-- The same in every state of a run whose steps all meet the condition. -/
theorem Run.invariantVia {Ok : S → A → Prop} {I : S → Prop}
    (hstep : ∀ s a t, I s → Ok s a → M.step s a = some t → I t) {s t : S} {tr : List (S × A)}
    (h : M.Run s tr t) (hs : I s) (hok : ∀ x ∈ tr, Ok x.1 x.2) : ∀ u ∈ visited tr t, I u := by
  induction h with
  | nil => simpa using hs
  | @snoc tr t u a _ hst ih =>
      obtain ⟨hok, ha⟩ := List.forall_mem_append.mp hok
      have hvisited := ih hok
      have ht : I t := hvisited t (by simp [visited])
      rw [visited_snoc, List.forall_mem_append, List.forall_mem_singleton]
      exact ⟨hvisited, hstep _ _ _ ht (ha _ (List.mem_singleton.mpr rfl)) hst⟩

/-! ## What a state leads to -/

variable (M) in
/-- Some steps that all meet `Ok` lead from `s` to `t`. -/
def Leads (Ok : S → A → Prop) (s t : S) : Prop := ∃ tr, M.Run s tr t ∧ ∀ x ∈ tr, Ok x.1 x.2

namespace Leads

variable {Ok : S → A → Prop} {s t u : S}

theorem refl (s : S) : M.Leads Ok s s := ⟨[], .nil, List.forall_mem_nil _⟩

theorem single {a : A} (hok : Ok s a) (h : M.step s a = some t) : M.Leads Ok s t :=
  ⟨[(s, a)], .single h, List.forall_mem_singleton.mpr hok⟩

theorem trans (h : M.Leads Ok s t) (h' : M.Leads Ok t u) : M.Leads Ok s u := by
  obtain ⟨tr, hrun, hok⟩ := h
  obtain ⟨tr', hrun', hok'⟩ := h'
  exact ⟨tr ++ tr', hrun.append hrun', List.forall_mem_append.mpr ⟨hok, hok'⟩⟩

/-- An invariant of the steps that meet `Ok` holds wherever they lead. -/
theorem invariant {I : S → Prop} (hstep : ∀ s a t, I s → Ok s a → M.step s a = some t → I t)
    (h : M.Leads Ok s t) (hs : I s) : I t := by
  obtain ⟨tr, hrun, hok⟩ := h
  exact hrun.invariantVia hstep hs hok t (by simp [visited])

end Leads

/-! ## Conditions on the steps of a run -/

/-- **Exactness over a run.** Let `P` hold at the start, and let each allowed step from a state with `P`
    (and with the invariant `I`) lead to `P` iff it meets `Ok`. Then `P` holds in every state of a run of
    allowed steps iff every step of it meets `Ok`. -/
theorem Run.forall_iff {I P : S → Prop} {Ok : S → A → Prop} (Allowed : S → A → Prop)
    (hinv : ∀ s a t, I s → M.step s a = some t → I t)
    (hstep : ∀ s a t, I s → P s → Allowed s a → M.step s a = some t → (P t ↔ Ok s a))
    {s t : S} {tr : List (S × A)} (h : M.Run s tr t) (hI : I s) (hP : P s)
    (hallowed : ∀ x ∈ tr, Allowed x.1 x.2) :
    (∀ u ∈ visited tr t, P u) ↔ ∀ x ∈ tr, Ok x.1 x.2 := by
  induction h with
  | nil => simpa using hP
  | @snoc tr t u a hrun hst ih =>
      obtain ⟨hallowed, ha⟩ := List.forall_mem_append.mp hallowed
      have hIt : I t := hrun.invariant hinv hI
      simp only [visited_snoc, List.forall_mem_append, List.forall_mem_singleton, ih hallowed]
      -- only the last step is left, and the state before it has `P` if the earlier steps are `Ok`
      refine and_congr_right fun hok => ?_
      have hPt : P t := (ih hallowed).mpr hok t (by simp [visited])
      exact hstep t a u hIt hPt (ha _ (List.mem_singleton.mpr rfl)) hst

/-- **Exactness with a stronger invariant.** `P` holds at the start and along the allowed steps that meet
    `Ok`, it implies `Q`, and any other allowed step from a state with `P` breaks `Q`. Then `Q` holds in every
    state of a run of allowed steps iff every step of it meets `Ok`. -/
theorem Run.forall_iff_of_strong {P Q : S → Prop} (Allowed Ok : S → A → Prop)
    (hweak : ∀ s, P s → Q s)
    (hgood : ∀ s a t, P s → Allowed s a → Ok s a → M.step s a = some t → P t)
    (hbad : ∀ s a t, P s → ¬ Ok s a → M.step s a = some t → ¬ Q t)
    {s t : S} {tr : List (S × A)} (h : M.Run s tr t) (hP : P s) (hallowed : ∀ x ∈ tr, Allowed x.1 x.2) :
    (∀ u ∈ visited tr t, Q u) ↔ ∀ x ∈ tr, Ok x.1 x.2 := by
  suffices ((∀ u ∈ visited tr t, Q u) ↔ ∀ x ∈ tr, Ok x.1 x.2) ∧ ((∀ x ∈ tr, Ok x.1 x.2) → P t) from this.1
  induction h with
  | nil => exact ⟨by simpa using hweak s hP, fun _ => hP⟩
  | @snoc tr t u a _ hst ih =>
      obtain ⟨hallowed, ha⟩ := List.forall_mem_append.mp hallowed
      obtain ⟨hiff, hPt⟩ := ih hallowed
      have hgood : (∀ x ∈ tr, Ok x.1 x.2) → Ok t a → P u := fun hok ha' =>
        hgood t a u (hPt hok) (ha _ (List.mem_singleton.mpr rfl)) ha' hst
      simp only [visited_snoc, List.forall_mem_append, List.forall_mem_singleton, hiff]
      refine ⟨and_congr_right fun hok => ⟨fun hQ => ?_, fun ha' => hweak u (hgood hok ha')⟩,
        fun ⟨hok, ha'⟩ => hgood hok ha'⟩
      by_contra hnot
      exact hbad t a u (hPt hok) hnot hst hQ

/-! ## Running a list of actions -/

/-- Take the actions of the list in order. -/
def exec (M : System S A) : S → List A → Option S
  | s, [] => some s
  | s, a :: as => (M.step s a).bind fun t => exec M t as

theorem exec_append (s : S) (as bs : List A) :
    M.exec s (as ++ bs) = (M.exec s as).bind fun t => M.exec t bs := by
  induction as generalizing s with
  | nil => rfl
  | cons a as ih =>
      simp only [List.cons_append, exec, Option.bind_assoc]
      exact Option.bind_congr fun t _ => ih t

theorem reachableVia_of_exec {Ok : S → A → Prop} {s t : S} {as : List A}
    (hs : M.ReachableVia Ok s) (hok : ∀ a ∈ as, ∀ u, Ok u a) (h : M.exec s as = some t) :
    M.ReachableVia Ok t := by
  induction as generalizing s with
  | nil => cases h; exact hs
  | cons a as ih =>
      obtain ⟨u, hu, ht⟩ := Option.bind_eq_some_iff.mp h
      have hu' : M.ReachableVia Ok u := .step hs (hok a List.mem_cons_self s) hu
      exact ih hu' (fun b hb => hok b (List.mem_cons_of_mem _ hb)) ht

/-- **A list of actions can be taken** iff each of them can be taken in the state that it finds. -/
theorem exec_isSome_iff {s : S} {as : List A} : (∃ t, M.exec s as = some t) ↔
    ∀ before a after, as = before ++ a :: after → ∀ t, M.exec s before = some t →
      ∃ u, M.step t a = some u := by
  induction as generalizing s with
  | nil =>
      refine ⟨fun _ before a after h => ?_, fun _ => ⟨s, rfl⟩⟩
      exact absurd h.symm (List.append_ne_nil_of_right_ne_nil _ (List.cons_ne_nil _ _))
  | cons b as ih =>
      constructor
      · rintro ⟨t, ht⟩ before a after h u hu
        obtain ⟨v, hv, hrest⟩ := Option.bind_eq_some_iff.mp ht
        cases before with
        | nil =>
            obtain ⟨rfl, rfl⟩ := List.cons.inj h
            cases hu
            exact ⟨v, hv⟩
        | cons b' before =>
            obtain ⟨rfl, htail⟩ := List.cons.inj h
            obtain ⟨v', hv', hu⟩ := Option.bind_eq_some_iff.mp hu
            obtain rfl := Option.some.inj (hv.symm.trans hv')
            exact ih.mp ⟨t, hrest⟩ before a after htail u hu
      · intro hall
        obtain ⟨v, hv⟩ := hall [] b as rfl s rfl
        obtain ⟨t, ht⟩ := ih.mpr fun before a after h u hu =>
          hall (b :: before) a after (congrArg (b :: ·) h) u (Option.bind_eq_some_iff.mpr ⟨v, hv, hu⟩)
        exact ⟨t, Option.bind_eq_some_iff.mpr ⟨v, hv, ht⟩⟩

/-- A list of actions that can be taken is a run. -/
theorem Run.of_exec {s t : S} {as : List A} (h : M.exec s as = some t) :
    ∃ tr, M.Run s tr t ∧ tr.map Prod.snd = as := by
  have main : ∀ {as : List A} {r : S} {tr : List (S × A)}, M.Run s tr r → M.exec r as = some t →
      ∃ tr', M.Run s tr' t ∧ tr'.map Prod.snd = tr.map Prod.snd ++ as := by
    intro as
    induction as with
    | nil => intro r tr hrun h; cases h; exact ⟨tr, hrun, by simp⟩
    | cons a as ih =>
        intro r tr hrun h
        obtain ⟨u, hu, ht⟩ := Option.bind_eq_some_iff.mp h
        obtain ⟨tr', hrun', hacts⟩ := ih (hrun.snoc hu) ht
        exact ⟨tr', hrun', by simpa using hacts⟩
  simpa using main .nil h

/-- What a computation shows of the state at the end of a list of actions is shown of a reachable one,
    when the actions meet the condition in every state. -/
theorem exists_of_exec {Ok : S → A → Prop} {β : Type*} {f : S → β} {b : β} {s : S} {as : List A}
    (hs : M.ReachableVia Ok s) (hok : ∀ a ∈ as, ∀ u, Ok u a) (h : (M.exec s as).map f = some b) :
    ∃ t, M.ReachableVia Ok t ∧ f t = b := by
  obtain ⟨t, ht, hb⟩ := Option.map_eq_some_iff.mp h
  exact ⟨t, reachableVia_of_exec hs hok ht, hb⟩

variable (M) in
/-- The system in which only the steps that pass a test can be taken. -/
def guard (test : S → A → Bool) : System S A where
  init := M.init
  step s a := if test s a then M.step s a else none

/-- The same when each action meets the condition in the state that it finds. -/
theorem exists_of_exec_guard {Ok : S → A → Prop} {β : Type*} {f : S → β} {b : β} {test : S → A → Bool}
    (htest : ∀ s a, test s a = true → Ok s a) {s : S} {as : List A} (hs : M.ReachableVia Ok s)
    (h : ((M.guard test).exec s as).map f = some b) : ∃ t, M.ReachableVia Ok t ∧ f t = b := by
  induction as generalizing s with
  | nil => exact ⟨s, hs, Option.some.inj h⟩
  | cons a as ih =>
      obtain ⟨t, ht, hb⟩ := Option.map_eq_some_iff.mp h
      obtain ⟨u, hu, ht⟩ := Option.bind_eq_some_iff.mp ht
      obtain ⟨hpass, hstep⟩ := Option.ite_none_right_eq_some.mp hu
      exact ih (.step hs (htest s a hpass) hstep) (Option.map_eq_some_iff.mpr ⟨t, ht, hb⟩)

end System

end Lib
