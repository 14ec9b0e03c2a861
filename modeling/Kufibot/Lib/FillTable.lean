import Kufibot.Lib.Outcome

/-!
# `Lib.FillTable` — what a loop leaves in a table

A loop that reads items and sets the entries that it reads: as far as it gets it is a fold
(`fill_of_ok`, `fill_append_error`), and of the entries with one key the last one is in the table afterwards
(`foldl_setEntry_of_last`, and on the items that are reached `fill_store`).
-/

namespace Lib.Outcome

section Loop

variable {β γ σ : Type} {read : β → Outcome γ} {add : σ → γ → σ} {f : β → γ}

theorem fill_append {items items' : List β} (h : ∀ item ∈ items, read item = .ok (f item)) (s : σ) :
    fill read add s (items ++ items') =
      fill read add (items.foldl (fun s item => add s (f item)) s) items' := by
  induction items generalizing s with
  | nil => rfl
  | cons item items ih =>
      obtain ⟨hitem, hitems⟩ := List.forall_mem_cons.mp h
      rw [List.cons_append, fill, hitem, List.foldl_cons]
      exact ih hitems (add s (f item))

/-- A loop over items that can be read. -/
theorem fill_of_ok {items : List β} (h : ∀ item ∈ items, read item = .ok (f item)) (s : σ) :
    fill read add s items = ⟨items.foldl (fun s item => add s (f item)) s, .ok ()⟩ := by
  have happend : fill read add s (items ++ []) = _ := fill_append h s
  rw [List.append_nil] at happend
  exact happend

/-- **A loop up to the first item that cannot be read.** -/
theorem fill_append_error {before after : List β} {item : β} {e : Failure}
    (hbefore : ∀ item ∈ before, read item = .ok (f item)) (hitem : read item = .error e) (s : σ) :
    fill read add s (before ++ item :: after) =
      ⟨before.foldl (fun s item => add s (f item)) s, .error e⟩ := by
  rw [fill_append hbefore, fill, hitem]

end Loop

section Table

variable {α γ : Type} [DecidableEq α] {table : α → Option γ}

theorem setEntry_self (table : α → Option γ) (a : α) (c : γ) : setEntry table (a, c) a = some c :=
  Function.update_self ..

theorem setEntry_of_ne {entry : α × γ} {a : α} (h : entry.1 ≠ a) : setEntry table entry a = table a :=
  Function.update_of_ne (Ne.symm h) ..

/-- What no entry is for stays as it was. -/
theorem foldl_setEntry_of_not_mem {entries : List (α × γ)} {a : α} (h : ∀ entry ∈ entries, entry.1 ≠ a) :
    entries.foldl setEntry table a = table a := by
  induction entries generalizing table with
  | nil => rfl
  | cons entry entries ih =>
      obtain ⟨hentry, hentries⟩ := List.forall_mem_cons.mp h
      rw [List.foldl_cons, ih hentries, setEntry_of_ne hentry]

/-- **The last entry** of a key is in the table. -/
theorem foldl_setEntry_of_last {before after : List (α × γ)} {a : α} {c : γ}
    (h : ∀ entry ∈ after, entry.1 ≠ a) :
    (before ++ (a, c) :: after).foldl setEntry table a = some c := by
  rw [List.foldl_append, List.foldl_cons, foldl_setEntry_of_not_mem h, setEntry_self]

/-- Of different keys each entry is in the table. -/
theorem foldl_setEntry_of_nodup {entries : List (α × γ)} (hnodup : (entries.map Prod.fst).Nodup) {a : α}
    {c : γ} (h : (a, c) ∈ entries) : entries.foldl setEntry table a = some c := by
  obtain ⟨before, after, rfl⟩ := List.append_of_mem h
  apply foldl_setEntry_of_last
  intro entry hentry heq
  rw [List.map_append, List.map_cons, List.nodup_append, List.nodup_cons] at hnodup
  exact hnodup.2.1.1 (List.mem_map.mpr ⟨entry, hentry, heq⟩)

end Table

section Last

variable {α β γ : Type} [DecidableEq α] (place : β → α) (parse : β → Outcome γ)

/-- The last of the items that go to `a`. -/
def lastFor (items : List β) (a : α) : Option β := (items.filter fun item => place item = a).getLast?

/-- The items before the first one that cannot be read. -/
def reached (items : List β) : List β := items.takeWhile fun item => (parse item).isOk

/-- An item that is read to an entry of the table. -/
def readEntry (item : β) : Outcome (α × γ) := do
  let c ← parse item
  return (place item, c)

variable {place parse}

theorem lastFor_cons (item : β) (items : List β) (a : α) :
    lastFor place (item :: items) a =
      (lastFor place items a).or (if place item = a then some item else none) := by
  unfold lastFor
  rw [List.filter_cons]
  by_cases h : place item = a
  · rw [if_pos (decide_eq_true h), if_pos h, List.getLast?_cons]
    cases (List.filter _ items).getLast? <;> rfl
  · rw [if_neg (by simpa using h), if_neg h, Option.or_none]

theorem mem_of_lastFor {items : List β} {a : α} {item : β} (h : lastFor place items a = some item) :
    item ∈ items ∧ place item = a := by
  obtain ⟨hmem, hplace⟩ := List.mem_filter.mp (List.mem_of_getLast? h)
  exact ⟨hmem, of_decide_eq_true hplace⟩

theorem lastFor_filter_of_none {items : List β} {a : α} (h : lastFor place items a = none)
    (keep : β → Bool) : lastFor place (items.filter keep) a = none := by
  unfold lastFor at h ⊢
  rw [List.getLast?_eq_none_iff] at h ⊢
  rw [List.filter_comm, h]
  rfl

/-- If the last item is kept, it is the last one of those that are. -/
theorem lastFor_filter_of_keep {items : List β} {a : α} {item : β} (h : lastFor place items a = some item)
    {keep : β → Bool} (hkept : keep item = true) : lastFor place (items.filter keep) a = some item := by
  unfold lastFor at h ⊢
  obtain ⟨before, hbefore⟩ := List.getLast?_eq_some_iff.mp h
  rw [List.filter_comm, hbefore, List.filter_append, List.filter_cons, hkept, if_pos rfl, List.filter_nil,
    List.getLast?_concat]

theorem lastFor_map {g : β → β} (h : ∀ item, place (g item) = place item) (items : List β) (a : α) :
    lastFor place (items.map g) a = (lastFor place items a).map g := by
  unfold lastFor
  rw [List.filter_map, List.getLast?_map]
  simp only [Function.comp_def, h]

/-- **The last item** that goes to a place, of those that are reached, is what the loop leaves there. -/
theorem fill_store (table : α → Option γ) (items : List β) (a : α) :
    (fill (readEntry place parse) setEntry table items).store a =
      match lastFor place (reached parse items) a with
      | some item => (parse item).toOption
      | none => table a := by
  induction items generalizing table with
  | nil => rfl
  | cons item items ih =>
      unfold fill readEntry reached
      rw [List.takeWhile_cons]
      cases hparse : parse item with
      | error e => rfl
      | ok c =>
          show (fill (readEntry place parse) setEntry (setEntry table (place item, c)) items).store a =
            match lastFor place (item :: reached parse items) a with
            | some item => (parse item).toOption
            | none => table a
          rw [ih, lastFor_cons]
          cases lastFor place (reached parse items) a with
          | some _ => rfl
          | none =>
              by_cases h : place item = a
              · subst h
                rw [if_pos rfl]
                show setEntry table (place item, c) (place item) = (parse item).toOption
                rw [setEntry_self, hparse]
                rfl
              · rw [if_neg h]
                exact setEntry_of_ne h

end Last

end Lib.Outcome
