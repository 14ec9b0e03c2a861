import Kufibot.Lib.FillTable
import Mathlib.Data.List.TakeWhile

/-!
# `Lib.TwoRuns` — one reading of two inputs

The second input is the first one with some items left out and others changed. `Alike o o' C` says of the two
runs that they fail alike, and that they return the same iff `C`. It composes along `>>=` (`Alike.pair`), for
a loop that builds a list (`Alike.list`) and for one that fills a table (`Alike.table`): there `C` compares,
for every place, the last item of the first input with the last one that is kept.
-/

namespace Lib.Outcome

variable {α β γ σ : Type}

/-- How a call fails. -/
def failure : Outcome α → Option Failure
  | .ok _ => none
  | .error e => some e

theorem failure_eq_none_iff {o : Outcome α} : failure o = none ↔ ∃ a, o = .ok a := by
  cases o with
  | ok a => exact ⟨fun _ => ⟨a, rfl⟩, fun _ => rfl⟩
  | error e => exact ⟨(nomatch ·), fun ⟨_, h⟩ => (nomatch h)⟩

theorem exists_ok_of_failure {o : Outcome α} {o' : Outcome β} (h : failure o' = failure o) {a : α}
    (ho : o = .ok a) : ∃ b, o' = .ok b := by
  rw [ho] at h
  exact failure_eq_none_iff.mp h

theorem eq_error_of_failure {o : Outcome α} {o' : Outcome β} (h : failure o' = failure o) {e : Failure}
    (ho : o = .error e) : o' = .error e := by
  rw [ho] at h
  cases o' with
  | ok b => cases h
  | error e' =>
      cases h
      rfl

theorem some_eq_toOption {o : Outcome α} {a : α} : some a = o.toOption ↔ o = .ok a := by
  cases o with
  | ok a' => exact ⟨fun h => congrArg _ (Option.some.inj h).symm, fun h => congrArg _ (Except.ok.inj h).symm⟩
  | error e => exact ⟨(nomatch ·), (nomatch ·)⟩

theorem isOk_eq (o : Outcome α) : o.isOk = (failure o).isNone := by
  cases o <;> rfl

/-- **Two runs**: the second fails as the first does, and returns the same iff `C`. -/
structure Alike (o o' : Outcome α) (C : Prop) : Prop where
  fails : failure o' = failure o
  eq_iff : ∀ a, o = .ok a → (o' = .ok a ↔ C)

namespace Alike

variable {C C' : Prop}

theorem of_iff {o o' : Outcome α} (h : Alike o o' C) (hC : (∃ a, o = .ok a) → (C ↔ C')) : Alike o o' C' :=
  ⟨h.fails, fun a ha => (h.eq_iff a ha).trans (hC ⟨a, ha⟩)⟩

theorem refl (o : Outcome α) : Alike o o True := ⟨rfl, fun _ ha => iff_of_true ha trivial⟩

theorem of_failed {o o' : Outcome α} {e : Failure} (ho : o = .error e) (ho' : o' = .error e) :
    Alike o o' C := by
  subst ho ho'
  exact ⟨rfl, fun _ => (nomatch ·)⟩

/-- What is read first is the same in both runs. -/
theorem bind {o : Outcome α} {f f' : α → Outcome β} (h : ∀ a, o = .ok a → Alike (f a) (f' a) C) :
    Alike (o >>= f) (o >>= f') C := by
  cases o with
  | ok a => exact h a rfl
  | error e => exact of_failed rfl rfl

/-- Two results that are kept both. -/
theorem pair {o₁ o₁' : Outcome α} {o₂ o₂' : Outcome β} {C₁ C₂ : Prop} (h₁ : Alike o₁ o₁' C₁)
    (h₂ : Alike o₂ o₂' C₂) {f : α → β → γ} (hf : ∀ a a' b b', f a b = f a' b' → a = a' ∧ b = b') :
    Alike (do let a ← o₁; let b ← o₂; return f a b) (do let a ← o₁'; let b ← o₂'; return f a b)
      (C₁ ∧ C₂) := by
  cases ho₁ : o₁ with
  | error e => exact of_failed rfl (by rw [eq_error_of_failure h₁.fails ho₁]; rfl)
  | ok a =>
      obtain ⟨a', ho₁'⟩ := exists_ok_of_failure h₁.fails ho₁
      rw [ho₁']
      cases ho₂ : o₂ with
      | error e => exact of_failed rfl (by rw [eq_error_of_failure h₂.fails ho₂]; rfl)
      | ok b =>
          obtain ⟨b', ho₂'⟩ := exists_ok_of_failure h₂.fails ho₂
          rw [ho₂']
          refine ⟨rfl, fun c hc => ?_⟩
          cases hc
          rw [← h₁.eq_iff a ho₁, ← h₂.eq_iff b ho₂, ho₁', ho₂']
          constructor
          · intro h
            obtain ⟨rfl, rfl⟩ := hf _ _ _ _ (Except.ok.inj h)
            exact ⟨rfl, rfl⟩
          · rintro ⟨ha, hb⟩
            cases ha
            cases hb
            rfl

end Alike

theorem failure_escaping (x : Filled σ) : failure x.escaping = failure x.outcome := by
  unfold Filled.escaping
  cases x.outcome <;> rfl

/-! ## Loops that build a list -/

/-- All items, or the first failure. -/
def readAll (parse : β → Outcome γ) : List β → Outcome (List γ)
  | [] => .ok []
  | item :: items => do
      let c ← parse item
      let cs ← readAll parse items
      return c :: cs

theorem fill_append_eq (parse : β → Outcome γ) (s : List γ) (items : List β) :
    (fill parse (fun list c => list ++ [c]) s items).escaping =
      (do let cs ← readAll parse items; return s ++ cs) := by
  induction items generalizing s with
  | nil => exact congrArg Except.ok (List.append_nil s).symm
  | cons item items ih =>
      unfold fill readAll
      cases parse item with
      | error e => rfl
      | ok c =>
          rw [ih]
          show (do let cs ← readAll parse items; return s ++ [c] ++ cs) =
            (do let cs ← (do let cs ← readAll parse items; return c :: cs); return s ++ cs)
          cases readAll parse items with
          | error e => rfl
          | ok cs => exact congrArg Except.ok (List.append_assoc s [c] cs)

theorem escaping_fill_append (parse : β → Outcome γ) (items : List β) :
    (fill parse (fun list c => list ++ [c]) [] items).escaping = readAll parse items := by
  rw [fill_append_eq]
  cases readAll parse items <;> rfl

theorem fill_map {δ : Type} (f : δ → β) (parse : β → Outcome γ) (add : σ → γ → σ) (s : σ) (items : List δ) :
    fill parse add s (items.map f) = fill (fun item => parse (f item)) add s items := by
  induction items generalizing s with
  | nil => rfl
  | cons item items ih =>
      rw [List.map_cons, fill, fill]
      cases parse (f item) with
      | error e => rfl
      | ok c => exact ih (add s c)

/-- **A loop that builds a list** returns the same iff each item is read the same. -/
theorem Alike.list {parse : β → Outcome γ} {g : β → β} {C : β → Prop} {items : List β}
    (h : ∀ item ∈ items, Alike (parse item) (parse (g item)) (C item)) :
    Alike (fill parse (fun list c => list ++ [c]) [] items).escaping
      (fill parse (fun list c => list ++ [c]) [] (items.map g)).escaping (∀ item ∈ items, C item) := by
  rw [escaping_fill_append, escaping_fill_append]
  induction items with
  | nil => exact (Alike.refl _).of_iff fun _ => iff_of_true trivial fun _ => (nomatch ·)
  | cons item items ih =>
      obtain ⟨hitem, hitems⟩ := List.forall_mem_cons.mp h
      have hpair := hitem.pair (ih hitems) (f := List.cons) fun _ _ _ _ => List.cons.inj
      exact hpair.of_iff fun _ => List.forall_mem_cons.symm

/-! ## Loops that fill a table -/

section Table

variable {keep : β → Bool} {g : β → β} {items : List β}

/-- Leaving out items that can be read changes nothing about how the loop ends. -/
theorem outcome_without {read : β → Outcome γ} {add : σ → γ → σ}
    (hkeep : ∀ item ∈ items, keep item = false → failure (read item) = none)
    (hg : ∀ item ∈ items, keep item = true → failure (read (g item)) = failure (read item)) (s s' : σ) :
    (fill read add s' ((items.filter keep).map g)).outcome = (fill read add s items).outcome := by
  induction items generalizing s s' with
  | nil => rfl
  | cons item items ih =>
      obtain ⟨hitem, hitems⟩ := List.forall_mem_cons.mp hkeep
      obtain ⟨hitem', hitems'⟩ := List.forall_mem_cons.mp hg
      cases hkept : keep item with
      | false =>
          obtain ⟨c, hc⟩ := failure_eq_none_iff.mp (hitem hkept)
          rw [List.filter_cons, hkept, if_neg Bool.false_ne_true, fill, hc]
          exact ih hitems hitems' _ _
      | true =>
          rw [List.filter_cons, hkept, if_pos rfl, List.map_cons, fill, fill]
          cases hread : read item with
          | error e => rw [eq_error_of_failure (hitem' hkept) hread]
          | ok c =>
              obtain ⟨c', hc'⟩ := exists_ok_of_failure (hitem' hkept) hread
              rw [hc']
              exact ih hitems hitems' _ _

theorem reached_without {parse : β → Outcome γ}
    (hkeep : ∀ item ∈ items, keep item = false → failure (parse item) = none)
    (hg : ∀ item ∈ items, keep item = true → failure (parse (g item)) = failure (parse item)) :
    reached parse ((items.filter keep).map g) = ((reached parse items).filter keep).map g := by
  induction items with
  | nil => rfl
  | cons item items ih =>
      obtain ⟨hitem, hitems⟩ := List.forall_mem_cons.mp hkeep
      obtain ⟨hitem', hitems'⟩ := List.forall_mem_cons.mp hg
      unfold reached at ih ⊢
      rw [List.filter_cons, List.takeWhile_cons (a := item), isOk_eq (parse item)]
      cases hkept : keep item with
      | false =>
          rw [hitem hkept, if_neg Bool.false_ne_true]
          show _ = List.map g (List.filter keep (item :: _))
          rw [List.filter_cons, hkept, ih hitems hitems']
          rfl
      | true =>
          rw [if_pos rfl, List.map_cons, List.takeWhile_cons, isOk_eq, hitem' hkept]
          cases failure (parse item) with
          | some e => rfl
          | none =>
              show g item :: _ = List.map g (List.filter keep (item :: _))
              rw [List.filter_cons, hkept, ih hitems hitems']
              rfl

theorem failure_readEntry (place : β → α) (parse : β → Outcome γ) (item : β) :
    failure (readEntry place parse item) = failure (parse item) := by
  unfold readEntry
  cases parse item <;> rfl

/-- Everything is reached if nothing fails. -/
theorem reached_eq_self {parse : β → Outcome γ} (h : ∀ item ∈ items, ∃ c, parse item = .ok c) :
    reached parse items = items := by
  rw [reached, List.takeWhile_eq_self_iff]
  intro item hitem
  obtain ⟨c, hc⟩ := h item hitem
  rw [hc]
  rfl

theorem mem_of_reached {parse : β → Outcome γ} {item : β} (h : item ∈ reached parse items) :
    item ∈ items ∧ ∃ c, parse item = .ok c := by
  refine ⟨List.takeWhile_subset _ h, ?_⟩
  have hok := List.mem_takeWhile_imp h
  rw [isOk_eq] at hok
  exact failure_eq_none_iff.mp (Option.isNone_iff_eq_none.mp hok)

variable [DecidableEq α]

/-- What the last item for a place says. -/
def lastValue (place : β → α) (parse : β → Outcome γ) (items : List β) (a : α) : Option γ :=
  (lastFor place items a).bind fun item => (parse item).toOption

theorem lastValue_map {place : β → α} {parse : β → Outcome γ} (hplace : ∀ item, place (g item) = place item)
    (items : List β) (a : α) :
    lastValue place parse (items.map g) a = lastValue place (fun item => parse (g item)) items a := by
  rw [lastValue, lastFor_map hplace, Option.bind_map]
  rfl

theorem fill_store_empty (place : β → α) (parse : β → Outcome γ) (items : List β) (a : α) :
    (fill (readEntry place parse) setEntry (fun _ => none) items).store a =
      lastValue place parse (reached parse items) a := by
  rw [fill_store, lastValue]
  cases lastFor place (reached parse items) a <;> rfl

theorem lastValue_congr {place : β → α} {parse parse' : β → Outcome γ}
    (h : ∀ item ∈ items, parse item = parse' item) (a : α) :
    lastValue place parse items a = lastValue place parse' items a := by
  unfold lastValue
  cases hlast : lastFor place items a with
  | none => rfl
  | some item =>
      rw [Option.bind_some, Option.bind_some, h item (mem_of_lastFor hlast).1]

/-- A table that is filled to the end, entry by entry. -/
theorem escaping_apply {place : β → α} {parse : β → Outcome γ} {table : α → Option γ}
    (h : (fill (readEntry place parse) setEntry (fun _ => none) items).escaping = .ok table) (a : α) :
    table a = lastValue place parse items a := by
  obtain ⟨hok, rfl⟩ := Filled.escaping_eq_ok.mp h
  have hall : ∀ item ∈ items, ∃ c, parse item = .ok c := by
    intro item hitem
    have hread := fill_ok_iff.mp hok item hitem
    rw [← failure_eq_none_iff] at hread ⊢
    rwa [failure_readEntry] at hread
  rw [fill_store_empty, reached_eq_self hall]

/-- **A loop that fills a table** leaves the same iff, for every place, the last item says what the last one
    that is kept says. -/
theorem Alike.table {place : β → α} {parse : β → Outcome γ}
    (hkeep : ∀ item ∈ items, keep item = false → failure (parse item) = none)
    (hplace : ∀ item, place (g item) = place item)
    (hg : ∀ item, parse (g item) = parse item) :
    Alike (fill (readEntry place parse) setEntry (fun _ => none) items).escaping
      (fill (readEntry place parse) setEntry (fun _ => none) ((items.filter keep).map g)).escaping
      (∀ a, lastValue place parse (items.filter keep) a = lastValue place parse items a) := by
  have houtcome : (fill (readEntry place parse) setEntry (fun _ => none)
      ((items.filter keep).map g)).outcome =
      (fill (readEntry place parse) setEntry (fun _ => none) items).outcome := by
    refine outcome_without (fun item hitem hkept => ?_) (fun item _ _ => ?_) _ _
    · rw [failure_readEntry, hkeep item hitem hkept]
    · rw [failure_readEntry, failure_readEntry, hg]
  refine ⟨?_, fun table htable => ?_⟩
  · rw [failure_escaping, failure_escaping, houtcome]
  · have hok := (Filled.escaping_eq_ok.mp htable).1
    obtain ⟨table', htable'⟩ : ∃ table', (fill (readEntry place parse) setEntry (fun _ => none)
        ((items.filter keep).map g)).escaping = .ok table' :=
      ⟨_, Filled.escaping_eq_ok.mpr ⟨houtcome.trans hok, rfl⟩⟩
    have hkept : ∀ a, table' a = lastValue place parse (items.filter keep) a := by
      intro a
      rw [escaping_apply htable', lastValue_map hplace]
      simp only [hg]
    rw [htable', Except.ok.injEq, funext_iff]
    refine forall_congr' fun a => ?_
    rw [hkept, escaping_apply htable]

end Table

end Lib.Outcome
