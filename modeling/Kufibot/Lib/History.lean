import Mathlib.Data.List.DropRight

/-!
# `Lib.History` — the latest event of a kind, and what came after it

A history is a list of timed events, the oldest first. A machine that remembers a few times is described
by what it could read off its history: when an event of some kind came last (`latest`), and which events
came after the last one of some kind (`since`). Each has one rule, for one more event.
-/

namespace Lib.History

variable {T F : Type*}

/-- The time of the last event of the kind. -/
def latest (kind : F → Bool) (history : List (T × F)) : Option T :=
  (history.reverse.find? fun event => kind event.2).map Prod.fst

/-- The events after the last one of the kind. -/
def since (kind : F → Bool) (history : List (T × F)) : List (T × F) :=
  history.rtakeWhile fun event => !kind event.2

@[simp] theorem latest_nil (kind : F → Bool) : latest kind ([] : List (T × F)) = none := rfl

@[simp] theorem since_nil (kind : F → Bool) : since kind ([] : List (T × F)) = [] := rfl

theorem latest_concat (kind : F → Bool) (history : List (T × F)) (t : T) (f : F) :
    latest kind (history ++ [(t, f)]) = if kind f then some t else latest kind history := by
  unfold latest
  rw [List.reverse_append, List.reverse_singleton, List.singleton_append, List.find?_cons]
  cases kind f <;> rfl

theorem since_concat (kind : F → Bool) (history : List (T × F)) (t : T) (f : F) :
    since kind (history ++ [(t, f)]) = if kind f then [] else since kind history ++ [(t, f)] := by
  unfold since
  rw [List.rtakeWhile_concat]
  cases kind f <;> rfl

theorem mem_of_latest {kind : F → Bool} {history : List (T × F)} {t : T}
    (h : latest kind history = some t) : ∃ f, (t, f) ∈ history := by
  obtain ⟨⟨t', f⟩, hfind, rfl⟩ := Option.map_eq_some_iff.mp h
  exact ⟨f, List.mem_reverse.mp (List.mem_of_find?_eq_some hfind)⟩

theorem mem_of_mem_since {kind : F → Bool} {history : List (T × F)} {event : T × F}
    (h : event ∈ since kind history) : event ∈ history :=
  (List.rtakeWhile_suffix _ history).subset h

/-! ## Every event, judged by those before it -/

variable {E : Type*} {P Q : List E → E → Prop}

/-- `P before e` at every event `e`, with the events before it. -/
def AtEach (P : List E → E → Prop) (history : List E) : Prop :=
  ∀ before e after, history = before ++ e :: after → P before e

theorem atEach_nil : AtEach P [] :=
  fun _ _ _ h => absurd h.symm (List.append_ne_nil_of_right_ne_nil _ (List.cons_ne_nil _ _))

theorem atEach_concat {history : List E} {e : E} :
    AtEach P (history ++ [e]) ↔ AtEach P history ∧ P history e := by
  constructor
  · intro h
    refine ⟨fun before e' after hsplit => h before e' (after ++ [e]) ?_, h history e [] rfl⟩
    rw [hsplit, List.append_assoc, List.cons_append]
  · rintro ⟨h, he⟩ before e' after hsplit
    rcases List.eq_nil_or_concat after with rfl | ⟨after, last, rfl⟩
    · obtain ⟨rfl, hlast⟩ := List.append_inj' hsplit rfl
      obtain rfl := (List.cons.inj hlast).1
      exact he
    · rw [List.concat_eq_append, ← List.cons_append, ← List.append_assoc] at hsplit
      exact h before e' after (List.append_inj' hsplit rfl).1

end Lib.History
