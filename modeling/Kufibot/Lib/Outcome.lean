import Mathlib.Data.List.Basic
import Mathlib.Logic.Function.Basic

/-!
# `Lib.Outcome` — calls that fail, and loops that keep what they have done

A call of C++ returns, or it fails: with an exception, which a caller may catch, with an assertion, which
ends the process, or with undefined behaviour. A function that fills an out-parameter and fails leaves in it
what it had filled in so far (`Filled`); that is what a caller sees who catches the exception.

`fill` is a loop that reads an item and adds what it read. `fill_ok_iff` and `fill_error_iff` say when it
ends and when it fails; `fill_table` that reading back all entries of a table, in any order, gives the table.
`Reads` says of a call when it returns and when it runs into an assertion, and composes along `>>=` and
`fill`.
-/

namespace Lib

inductive Failure where
  | exception
  | assertion
  | undefined
deriving DecidableEq, Repr

abbrev Outcome := Except Failure

namespace Outcome

variable {α β γ σ : Type}

/-- A conversion that throws. -/
def ofOption : Option α → Outcome α
  | some a => .ok a
  | none => .error .exception

theorem ofOption_eq_ok {x : Option α} {a : α} : ofOption x = .ok a ↔ x = some a := by
  cases x with
  | none => exact ⟨(nomatch ·), (nomatch ·)⟩
  | some b =>
      constructor
      · intro h
        cases h
        rfl
      · intro h
        cases h
        rfl

theorem ofOption_eq_error {x : Option α} {e : Failure} :
    ofOption x = .error e ↔ x = none ∧ e = .exception := by
  cases x with
  | none =>
      constructor
      · intro h
        cases h
        exact ⟨rfl, rfl⟩
      · rintro ⟨-, rfl⟩
        rfl
  | some b => exact ⟨(nomatch ·), fun h => (nomatch h.1)⟩

theorem bind_eq_ok {x : Outcome α} {f : α → Outcome β} {b : β} :
    x >>= f = .ok b ↔ ∃ a, x = .ok a ∧ f a = .ok b := by
  cases x with
  | error e => exact ⟨(nomatch ·), fun ⟨_, h, _⟩ => (nomatch h)⟩
  | ok a =>
      constructor
      · intro h
        exact ⟨a, rfl, h⟩
      · rintro ⟨a', ha', h⟩
        cases ha'
        exact h

theorem bind_eq_error {x : Outcome α} {f : α → Outcome β} {e : Failure} :
    x >>= f = .error e ↔ x = .error e ∨ ∃ a, x = .ok a ∧ f a = .error e := by
  cases x with
  | error e' =>
      constructor
      · intro h
        cases h
        exact .inl rfl
      · rintro (h | ⟨_, h, _⟩)
        · cases h
          rfl
        · cases h
  | ok a =>
      constructor
      · intro h
        exact .inr ⟨a, rfl, h⟩
      · rintro (h | ⟨a', ha', h⟩)
        · cases h
        · cases ha'
          exact h

end Outcome

/-! ## Out-parameters -/

/-- What is in the out-parameter, and how the call ended. -/
structure Filled (σ : Type) where
  store : σ
  outcome : Outcome Unit

namespace Filled

variable {σ : Type}

/-- What is done after it, if it does not fail. -/
def andThen (x : Filled σ) (next : σ → Filled σ) : Filled σ :=
  match x.outcome with
  | .ok () => next x.store
  | .error _ => x

/-- `catch (const std::exception&)`. -/
def caught (x : Filled σ) : Outcome σ :=
  match x.outcome with
  | .ok () | .error .exception => .ok x.store
  | .error e => .error e

/-- Nothing is caught. -/
def escaping (x : Filled σ) : Outcome σ :=
  match x.outcome with
  | .ok () => .ok x.store
  | .error e => .error e

theorem escaping_eq_ok {x : Filled σ} {s : σ} : x.escaping = .ok s ↔ x.outcome = .ok () ∧ x.store = s := by
  unfold escaping
  cases x.outcome with
  | error e => exact ⟨(nomatch ·), fun h => (nomatch h.1)⟩
  | ok u =>
      constructor
      · intro h
        cases h
        exact ⟨rfl, rfl⟩
      · rintro ⟨-, rfl⟩
        rfl

theorem escaping_eq_error {x : Filled σ} {e : Failure} : x.escaping = .error e ↔ x.outcome = .error e := by
  unfold escaping
  cases x.outcome with
  | error e' =>
      constructor
      · intro h
        cases h
        rfl
      · intro h
        cases h
        rfl
  | ok u => exact ⟨(nomatch ·), (nomatch ·)⟩

/-- A caught call returns, whatever it was, unless an assertion or undefined behaviour ends it. -/
theorem caught_eq_ok {x : Filled σ} {s : σ} :
    x.caught = .ok s ↔ (∀ e, x.outcome = .error e → e = .exception) ∧ x.store = s := by
  unfold caught
  cases x.outcome with
  | ok u =>
      constructor
      · intro h
        cases h
        exact ⟨fun _ => (nomatch ·), rfl⟩
      · rintro ⟨-, rfl⟩
        rfl
  | error e =>
      cases e with
      | exception =>
          constructor
          · intro h
            cases h
            refine ⟨?_, rfl⟩
            intro e he
            cases he
            rfl
          · rintro ⟨-, rfl⟩
            rfl
      | assertion | undefined => exact ⟨(nomatch ·), fun h => (nomatch (h.1 _ rfl))⟩

theorem andThen_error {x : Filled σ} {next : σ → Filled σ} {e : Failure} :
    (x.andThen next).outcome = .error e ↔
      x.outcome = .error e ∨ x.outcome = .ok () ∧ (next x.store).outcome = .error e := by
  unfold andThen
  cases hx : x.outcome with
  | ok u =>
      constructor
      · intro h
        exact .inr ⟨rfl, h⟩
      · rintro (h | ⟨-, h⟩)
        · cases h
        · exact h
  | error e' =>
      rw [hx]
      constructor
      · exact .inl
      · rintro (h | ⟨h, -⟩)
        · exact h
        · cases h

/-- What the second call leaves as it is, the two leave as the first one does. -/
theorem andThen_store {τ : Type} (view : σ → τ) {x : Filled σ} {next : σ → Filled σ}
    (h : ∀ s, view (next s).store = view s) : view (x.andThen next).store = view x.store := by
  unfold andThen
  cases x.outcome with
  | ok u => exact h x.store
  | error e => rfl

theorem andThen_eq {x : Filled σ} {s : σ} (h : x = ⟨s, .ok ()⟩) (next : σ → Filled σ) :
    x.andThen next = next s := by
  rw [h]
  rfl

end Filled

/-! ## Loops -/

section Fill

variable {α β γ σ : Type} (read : β → Outcome γ) (add : σ → γ → σ)

/-- Read each item, and add what was read. -/
def fill : σ → List β → Filled σ
  | s, [] => ⟨s, .ok ()⟩
  | s, item :: items =>
      match read item with
      | .ok c => fill (add s c) items
      | .error e => ⟨s, .error e⟩

variable {read add}

@[simp] theorem fill_nil {s : σ} : fill read add s [] = ⟨s, .ok ()⟩ := rfl

theorem fill_ok_iff {s : σ} {items : List β} :
    (fill read add s items).outcome = .ok () ↔ ∀ item ∈ items, ∃ c, read item = .ok c := by
  induction items generalizing s with
  | nil => exact ⟨fun _ _ => (nomatch ·), fun _ => rfl⟩
  | cons item items ih =>
      unfold fill
      rw [List.forall_mem_cons]
      cases hread : read item with
      | ok c => exact ih.trans ⟨fun h => ⟨⟨c, rfl⟩, h⟩, And.right⟩
      | error e => exact ⟨(nomatch ·), fun ⟨⟨_, h⟩, _⟩ => (nomatch h)⟩

theorem exists_fill_iff {s : σ} {items : List β} :
    (∃ t, (fill read add s items).escaping = .ok t) ↔ ∀ item ∈ items, ∃ c, read item = .ok c := by
  constructor
  · rintro ⟨t, ht⟩
    exact fill_ok_iff.mp (Filled.escaping_eq_ok.mp ht).1
  · intro h
    exact ⟨_, Filled.escaping_eq_ok.mpr ⟨fill_ok_iff.mpr h, rfl⟩⟩

/-- **The first item that fails** ends the loop. -/
theorem fill_error_iff {s : σ} {items : List β} {e : Failure} :
    (fill read add s items).outcome = .error e ↔
      ∃ before item after, items = before ++ item :: after ∧
        (∀ item ∈ before, ∃ c, read item = .ok c) ∧ read item = .error e := by
  induction items generalizing s with
  | nil =>
      refine ⟨(nomatch ·), ?_⟩
      rintro ⟨before, item, after, h, -⟩
      simp at h
  | cons item items ih =>
      unfold fill
      cases hread : read item with
      | ok c =>
          refine ih.trans ⟨?_, ?_⟩
          · rintro ⟨before, bad, after, rfl, hbefore, hbad⟩
            exact ⟨item :: before, bad, after, rfl, List.forall_mem_cons.mpr ⟨⟨c, hread⟩, hbefore⟩, hbad⟩
          · rintro ⟨before, bad, after, hitems, hbefore, hbad⟩
            cases before with
            | nil =>
                cases hitems
                rw [hread] at hbad
                cases hbad
            | cons first before =>
                cases hitems
                exact ⟨before, bad, after, rfl, (List.forall_mem_cons.mp hbefore).2, hbad⟩
      | error e' =>
          constructor
          · intro h
            cases h
            exact ⟨[], item, items, rfl, fun _ => (nomatch ·), hread⟩
          · rintro ⟨before, bad, after, hitems, hbefore, hbad⟩
            cases before with
            | nil =>
                cases hitems
                exact congrArg _ (Except.error.inj (hread.symm.trans hbad))
            | cons first before =>
                cases hitems
                obtain ⟨c, hc⟩ := (List.forall_mem_cons.mp hbefore).1
                rw [hread] at hc
                cases hc

end Fill

/-- The entry of a table. -/
def setEntry {α γ : Type} [DecidableEq α] (table : α → Option γ) (entry : α × γ) : α → Option γ :=
  Function.update table entry.1 (some entry.2)

/-- A list that is read back. -/
theorem fill_list {α β : Type} {read : β → Outcome α} {write : α → β} {l : List α} (s : List α)
    (h : ∀ a ∈ l, read (write a) = .ok a) :
    fill read (fun list a => list ++ [a]) s (l.map write) = ⟨s ++ l, .ok ()⟩ := by
  induction l generalizing s with
  | nil => rw [List.append_nil]; rfl
  | cons a l ih =>
      rw [List.map_cons, fill, h a List.mem_cons_self]
      rw [List.append_cons]
      exact ih (s ++ [a]) fun b hb => h b (List.mem_cons_of_mem a hb)

theorem setEntry_isSome {α γ : Type} [DecidableEq α] {table : α → Option γ} {a : α} (entry : α × γ)
    (h : (table a).isSome) : (setEntry table entry a).isSome := by
  by_cases ha : a = entry.1
  · subst ha
    rw [setEntry, Function.update_self]
    rfl
  · rw [setEntry, Function.update_of_ne ha]
    exact h

/-- What is in a table stays in it. -/
theorem fill_table_isSome {α β γ : Type} [DecidableEq α] {read : β → Outcome (α × γ)} {items : List β}
    {table : α → Option γ} {a : α} (h : (table a).isSome) :
    ((fill read setEntry table items).store a).isSome := by
  induction items generalizing table with
  | nil => exact h
  | cons item items ih =>
      unfold fill
      cases read item with
      | ok entry => exact ih (setEntry_isSome entry h)
      | error e => exact h

/-- Something gets into the table iff there is a first item, and it can be read. -/
theorem exists_fill_table_iff {α β γ : Type} [DecidableEq α] {read : β → Outcome (α × γ)}
    {items : List β} :
    (∃ a, ((fill read setEntry (fun _ => none) items).store a).isSome) ↔
      ∃ first rest, items = first :: rest ∧ ∃ entry, read first = .ok entry := by
  cases items with
  | nil => exact ⟨fun ⟨_, h⟩ => (nomatch h), fun ⟨_, _, h, _⟩ => (nomatch h)⟩
  | cons item items =>
      unfold fill
      cases hread : read item with
      | ok entry =>
          constructor
          · intro _
            exact ⟨item, items, rfl, entry, hread⟩
          · intro _
            refine ⟨entry.1, fill_table_isSome ?_⟩
            rw [setEntry, Function.update_self]
            rfl
      | error e =>
          refine ⟨fun ⟨_, h⟩ => (nomatch h), ?_⟩
          rintro ⟨first, rest, hitems, entry, hentry⟩
          cases hitems
          rw [hread] at hentry
          cases hentry

/-- **A table that is read back.** If every item reads as an entry of the table, and every entry is read,
    then a loop over the items, in any order, fills an empty table with it. -/
theorem fill_table {α β γ : Type} [DecidableEq α] {read : β → Outcome (α × γ)} {items : List β}
    {table : α → Option γ}
    (hitems : ∀ item ∈ items, ∃ a c, read item = .ok (a, c) ∧ table a = some c)
    (hentries : ∀ a c, table a = some c → ∃ item ∈ items, read item = .ok (a, c)) :
    fill read setEntry (fun _ => none) items = ⟨table, .ok ()⟩ := by
  -- over a table that is filled in part, the entries that are read are the table's
  have main : ∀ (items : List β) (part : α → Option γ),
      (∀ item ∈ items, ∃ a c, read item = .ok (a, c) ∧ table a = some c) →
      (∀ a, part a = none ∨ part a = table a) →
      ∃ full, fill read setEntry part items = ⟨full, .ok ()⟩ ∧
        (∀ a, full a = none ∨ full a = table a) ∧
        (∀ a, part a = table a → full a = table a) ∧
        ∀ item ∈ items, ∀ a c, read item = .ok (a, c) → full a = table a := by
    intro items
    induction items with
    | nil => exact fun part _ hpart => ⟨part, rfl, hpart, fun _ h => h, fun _ => (nomatch ·)⟩
    | cons item items ih =>
        intro part hitems hpart
        obtain ⟨⟨a, c, hread, htable⟩, hrest⟩ := List.forall_mem_cons.mp hitems
        have hset : ∀ b, setEntry part (a, c) b = none ∨ setEntry part (a, c) b = table b := by
          intro b
          by_cases hb : b = a
          · subst hb
            exact .inr (by rw [htable]; exact Function.update_self ..)
          · rw [setEntry, Function.update_of_ne hb]
            exact hpart b
        obtain ⟨full, hfill, hfull, hkeep, hread'⟩ := ih (setEntry part (a, c)) hrest hset
        refine ⟨full, ?_, hfull, fun b hb => hkeep b ?_, ?_⟩
        · rw [fill, hread]
          exact hfill
        · by_cases hba : b = a
          · subst hba
            rw [htable]
            exact Function.update_self ..
          · rw [setEntry, Function.update_of_ne hba]
            exact hb
        · intro item' hitem' b d hb
          rcases List.mem_cons.mp hitem' with rfl | hitem'
          · cases hread.symm.trans hb
            exact hkeep a (by rw [htable]; exact Function.update_self ..)
          · exact hread' item' hitem' b d hb
  obtain ⟨full, hfill, hfull, -, hread⟩ := main items (fun _ => none) hitems fun _ => .inl rfl
  have hsame : full = table := by
    funext a
    cases htable : table a with
    | none => rcases hfull a with h | h <;> rw [h]; exact htable
    | some c =>
        obtain ⟨item, hmem, hitem⟩ := hentries a c htable
        rw [hread item hmem a c hitem, htable]
  rw [hfill, hsame]

/-! ## When a call reads what it needs -/

/-- **What a call does**: it returns iff `readable`, runs into an assertion iff `lacking`, and is never
    undefined. -/
structure Reads {α : Type} (x : Outcome α) (readable lacking : Prop) : Prop where
  ok : (∃ a, x = .ok a) ↔ readable
  assertion : x = .error .assertion ↔ lacking
  defined : x ≠ .error .undefined

/-- The items are readable up to one that lacks something. -/
def FirstLacks {β : Type} (readable lacking : β → Prop) (items : List β) : Prop :=
  ∃ before item after, items = before ++ item :: after ∧ (∀ i ∈ before, readable i) ∧ lacking item

theorem not_firstLacks_nil {β : Type} {readable lacking : β → Prop} : ¬FirstLacks readable lacking [] := by
  rintro ⟨before, item, after, h, -⟩
  exact List.append_ne_nil_of_right_ne_nil before (List.cons_ne_nil item after) h.symm

/-- Two loops, one after the other, are one loop. -/
theorem firstLacks_append {β : Type} {readable lacking : β → Prop} {items items' : List β} :
    FirstLacks readable lacking (items ++ items') ↔
      FirstLacks readable lacking items ∨
        (∀ i ∈ items, readable i) ∧ FirstLacks readable lacking items' := by
  constructor
  · rintro ⟨before, item, after, h, hbefore, hitem⟩
    rcases List.append_eq_append_iff.mp h with ⟨mid, rfl, hmid⟩ | ⟨mid, rfl, hmid⟩
    · refine .inr ⟨fun i hi => hbefore i (List.mem_append_left _ hi), mid, item, after, hmid, ?_, hitem⟩
      exact fun i hi => hbefore i (List.mem_append_right _ hi)
    · cases mid with
      | nil => exact .inr ⟨by simpa using hbefore, [], item, after, hmid.symm, fun _ => (nomatch ·), hitem⟩
      | cons first mid =>
          cases hmid
          exact .inl ⟨before, item, mid, rfl, hbefore, hitem⟩
  · rintro (⟨before, item, after, rfl, hbefore, hitem⟩ | ⟨hitems, before, item, after, rfl, hbefore, hitem⟩)
    · exact ⟨before, item, after ++ items', by simp, hbefore, hitem⟩
    · refine ⟨items ++ before, item, after, by simp, ?_, hitem⟩
      exact fun i hi => (List.mem_append.mp hi).elim (hitems i) (hbefore i)

namespace Reads

variable {α β σ : Type} {P P' Q Q' : Prop}

theorem of_iff {x : Outcome α} (h : Reads x P Q) (hP : P ↔ P') (hQ : Q ↔ Q') : Reads x P' Q' :=
  ⟨h.ok.trans hP, h.assertion.trans hQ, h.defined⟩

theorem pure (a : α) : Reads (.ok a) True False :=
  ⟨⟨fun _ => trivial, fun _ => ⟨a, rfl⟩⟩, ⟨(nomatch ·), False.elim⟩, (nomatch ·)⟩

theorem ofOption (x : Option α) : Reads (Outcome.ofOption x) (∃ a, x = some a) False where
  ok := exists_congr fun _ => Outcome.ofOption_eq_ok
  assertion := ⟨fun h => (nomatch (Outcome.ofOption_eq_error.mp h).2), False.elim⟩
  defined := fun h => (nomatch (Outcome.ofOption_eq_error.mp h).2)

/-- One call after the other. What the second one needs may depend on what the first one read. -/
theorem bind {x : Outcome α} {f : α → Outcome β} {P' Q' : α → Prop} (hx : Reads x P Q)
    (hf : ∀ a, x = .ok a → Reads (f a) (P' a) (Q' a)) :
    Reads (x >>= f) (∃ a, x = .ok a ∧ P' a) (Q ∨ ∃ a, x = .ok a ∧ Q' a) where
  ok := by
    constructor
    · rintro ⟨b, h⟩
      obtain ⟨a, ha, hb⟩ := Outcome.bind_eq_ok.mp h
      exact ⟨a, ha, (hf a ha).ok.mp ⟨b, hb⟩⟩
    · rintro ⟨a, ha, h⟩
      obtain ⟨b, hb⟩ := (hf a ha).ok.mpr h
      exact ⟨b, Outcome.bind_eq_ok.mpr ⟨a, ha, hb⟩⟩
  assertion := Outcome.bind_eq_error.trans
    (or_congr hx.assertion (exists_congr fun a => and_congr_right fun ha => (hf a ha).assertion))
  defined := by
    intro h
    rcases Outcome.bind_eq_error.mp h with h | ⟨a, ha, h⟩
    · exact hx.defined h
    · exact (hf a ha).defined h

/-- One call after another that it does not matter for. -/
theorem and_then {x : Outcome α} {f : α → Outcome β} (hx : Reads x P Q)
    (hf : ∀ a, Reads (f a) P' Q') : Reads (x >>= f) (P ∧ P') (Q ∨ P ∧ Q') :=
  (hx.bind fun a _ => hf a).of_iff (exists_and_right.trans (and_congr_left' hx.ok))
    (or_congr_right (exists_and_right.trans (and_congr_left' hx.ok)))

variable {x : Filled σ}

theorem escaping (h : Reads x.outcome P Q) : Reads x.escaping P Q where
  ok := by
    rw [← h.ok]
    constructor
    · rintro ⟨s, hs⟩
      exact ⟨(), (Filled.escaping_eq_ok.mp hs).1⟩
    · rintro ⟨_, hx⟩
      exact ⟨x.store, Filled.escaping_eq_ok.mpr ⟨hx, rfl⟩⟩
  assertion := Filled.escaping_eq_error.trans h.assertion
  defined := fun hx => h.defined (Filled.escaping_eq_error.mp hx)

/-- What is caught comes back unless something is lacking. -/
theorem caught_eq_ok (h : Reads x.outcome P Q) {s : σ} : x.caught = .ok s ↔ ¬Q ∧ x.store = s := by
  rw [Filled.caught_eq_ok, ← h.assertion]
  refine and_congr_left' ⟨fun he hx => (nomatch he _ hx), ?_⟩
  intro hx e he
  cases e with
  | exception => rfl
  | assertion => exact absurd he hx
  | undefined => exact absurd he h.defined

theorem andThen {next : σ → Filled σ} (hx : Reads x.outcome P Q)
    (hnext : ∀ s, Reads (next s).outcome P' Q') :
    Reads (x.andThen next).outcome (P ∧ P') (Q ∨ P ∧ Q') where
  ok := by
    rw [← hx.ok, ← (hnext x.store).ok]
    unfold Filled.andThen
    cases hout : x.outcome with
    | ok u => exact ⟨fun h => ⟨⟨u, rfl⟩, h⟩, And.right⟩
    | error e => exact ⟨fun ⟨_, h⟩ => (nomatch hout.symm.trans h), fun ⟨⟨_, h⟩, _⟩ => (nomatch h)⟩
  assertion := by
    rw [Filled.andThen_error, hx.assertion, ← hx.ok, ← (hnext x.store).assertion]
    exact or_congr_right (and_congr_left' ⟨fun h => ⟨(), h⟩, fun ⟨_, h⟩ => h⟩)
  defined := by
    rw [Ne, Filled.andThen_error]
    rintro (h | ⟨-, h⟩)
    · exact hx.defined h
    · exact (hnext x.store).defined h

/-- A loop: every item is readable, or those before the first one that lacks something. -/
theorem fill {read : β → Outcome α} {add : σ → α → σ} {s : σ} {items : List β} {P Q : β → Prop}
    (h : ∀ item, Reads (read item) (P item) (Q item)) :
    Reads (fill read add s items).outcome (∀ item ∈ items, P item) (FirstLacks P Q items) where
  ok := by
    refine Iff.trans ?_ (forall₂_congr fun item _ => (h item).ok)
    exact ⟨fun ⟨_, ht⟩ => fill_ok_iff.mp ht, fun hread => ⟨(), fill_ok_iff.mpr hread⟩⟩
  assertion := by
    rw [fill_error_iff]
    refine exists_congr fun before => exists_congr fun item => exists_congr fun after => ?_
    exact and_congr_right fun _ => and_congr (forall₂_congr fun i _ => (h i).ok) (h item).assertion
  defined := by
    rw [Ne, fill_error_iff]
    rintro ⟨_, item, _, -, -, hitem⟩
    exact (h item).defined hitem

end Reads

/-- If every item is readable or lacks something, a loop that never finds something lacking reads them all. -/
theorem forall_readable {β : Type} {readable lacking : β → Prop} {items : List β}
    (hor : ∀ item ∈ items, readable item ∨ lacking item) (h : ¬FirstLacks readable lacking items) :
    ∀ item ∈ items, readable item := by
  induction items with
  | nil => exact fun _ => (nomatch ·)
  | cons item items ih =>
      obtain ⟨hitem, hitems⟩ := List.forall_mem_cons.mp hor
      rcases hitem with hread | hlacks
      · refine List.forall_mem_cons.mpr ⟨hread, ih hitems fun hrest => h ?_⟩
        show FirstLacks readable lacking ([item] ++ items)
        exact firstLacks_append.mpr (.inr ⟨List.forall_mem_singleton.mpr hread, hrest⟩)
      · exact absurd ⟨[], item, items, rfl, fun _ => (nomatch ·), hlacks⟩ h

end Lib
