import Mathlib.Data.List.MinMax

/-!
# `Lib.FirstBest` — the first of the greatest entries, if it is good enough

`List.argmax` with a threshold, as programs search a list for the best match. `firstBest_concat` is what one
more round of such a search does, and `firstBest_append` how the results of two searches are compared.
-/

namespace Lib

variable {α α' β : Type} [LinearOrder β] {threshold : β} {value : α → β}

/-- The first entry of the greatest value, if that is above the threshold. -/
def firstBest (threshold : β) (value : α → β) (l : List α) : Option α :=
  (l.argmax value).filter fun a => threshold < value a

theorem firstBest_nil : firstBest threshold value [] = none := rfl

/-- What is found is in the list, above the threshold, and nothing in the list is better. -/
theorem firstBest_spec {l : List α} {a : α} (h : firstBest threshold value l = some a) :
    a ∈ l ∧ threshold < value a ∧ ∀ b ∈ l, value b ≤ value a := by
  obtain ⟨hmax, habove⟩ := Option.filter_eq_some_iff.mp h
  exact ⟨List.argmax_mem hmax, of_decide_eq_true habove, fun b hb => List.le_of_mem_argmax hb hmax⟩

/-- Nothing is found iff nothing is above the threshold. -/
theorem firstBest_eq_none_iff {l : List α} :
    firstBest threshold value l = none ↔ ∀ a ∈ l, value a ≤ threshold := by
  unfold firstBest
  rw [Option.filter_eq_none_iff]
  constructor
  · intro h a ha
    cases hmax : l.argmax value with
    | none =>
        rw [List.argmax_eq_none.mp hmax] at ha
        exact absurd ha List.not_mem_nil
    | some m =>
        have hm : ¬ threshold < value m := fun hlt => h m hmax (decide_eq_true hlt)
        exact (List.le_of_mem_argmax ha hmax).trans (not_lt.mp hm)
  · intro h m hmax habove
    exact absurd (of_decide_eq_true habove) (not_lt.mpr (h m (List.argmax_mem hmax)))

/-- **One round more**: an entry replaces the best one so far iff it is better, and good enough. -/
theorem firstBest_concat (l : List α) (a : α) :
    firstBest threshold value (l ++ [a]) =
      if threshold < value a ∧ ∀ b ∈ firstBest threshold value l, value b < value a then some a
      else firstBest threshold value l := by
  unfold firstBest
  rw [List.argmax_concat]
  cases l.argmax value with
  | none => simp [Option.filter_some]
  | some m =>
      by_cases hm : threshold < value m
      · by_cases hlt : value m < value a
        · simp [Option.filter_some, hm, hlt, hm.trans hlt]
        · simp [Option.filter_some, hm, hlt]
      · by_cases hlt : value m < value a
        · simp [Option.filter_some, hm, hlt]
        · have habove : ¬ threshold < value a := fun h => hm (h.trans_le (not_lt.mp hlt))
          simp [Option.filter_some, hm, hlt, habove]

/-- **What is found is the first one**: it comes before every entry that is as good. -/
theorem firstBest_before {r : α → α → Prop} {l : List α} (hl : l.Pairwise r) {a b : α}
    (h : firstBest threshold value l = some a) (hb : b ∈ l) (hle : value a ≤ value b) : a = b ∨ r a b := by
  induction l using List.reverseRecOn with
  | nil => exact absurd hb List.not_mem_nil
  | append_singleton l c ih =>
      rw [firstBest_concat] at h
      obtain ⟨hl, -, hc⟩ := List.pairwise_append.mp hl
      split at h
      · rename_i hbetter
        obtain rfl := Option.some.inj h
        rcases List.mem_append.mp hb with hb | hb
        · -- an entry as good as the last one would have been found before it
          cases hfirst : firstBest threshold value l with
          | none => exact absurd (hbetter.1.trans_le hle) (not_lt.mpr (firstBest_eq_none_iff.mp hfirst b hb))
          | some m =>
              have hm := (firstBest_spec hfirst).2.2 b hb
              exact absurd (hbetter.2 m hfirst) (not_lt.mpr (hle.trans hm))
        · exact .inl (List.mem_singleton.mp hb).symm
      · rcases List.mem_append.mp hb with hb | hb
        · exact ih hl h hb
        · obtain rfl := List.mem_singleton.mp hb
          exact .inr (hc a (firstBest_spec h).1 b hb)

theorem firstBest_map (g : α' → α) (l : List α') :
    firstBest threshold value (l.map g) = (firstBest threshold (fun a => value (g a)) l).map g := by
  induction l using List.reverseRecOn with
  | nil => rfl
  | append_singleton l a ih =>
      rw [List.map_append, List.map_singleton, firstBest_concat, firstBest_concat, ih]
      cases firstBest threshold (fun a => value (g a)) l with
      | none => by_cases habove : threshold < value (g a) <;> simp [habove]
      | some b =>
          by_cases h : threshold < value (g a) ∧ value (g b) < value (g a)
          · simp [h]
          · simp [h]

/-- The better one of two; the first one wins a tie. -/
def betterOf (value : α → β) : Option α → Option α → Option α
  | some a, some b => if value a < value b then some b else some a
  | some a, none => some a
  | none, o => o

/-- **Two lists**: the better one of what is found in either. -/
theorem firstBest_append (l r : List α) :
    firstBest threshold value (l ++ r) =
      betterOf value (firstBest threshold value l) (firstBest threshold value r) := by
  induction r using List.reverseRecOn with
  | nil =>
      rw [List.append_nil, firstBest_nil]
      cases firstBest threshold value l <;> rfl
  | append_singleton r a ih =>
      rw [← List.append_assoc, firstBest_concat, firstBest_concat, ih]
      cases firstBest threshold value l with
      | none => rfl
      | some b =>
          cases firstBest threshold value r with
          | none =>
              by_cases habove : threshold < value a
              · simp [betterOf, habove]
              · simp [betterOf, habove]
          | some c =>
              simp only [betterOf, Option.mem_def]
              by_cases hbc : value b < value c
              · by_cases hca : value c < value a
                · by_cases habove : threshold < value a <;> simp [hbc, hca, habove, hbc.trans hca]
                · simp [hbc, hca]
              · by_cases hca : value c < value a
                · by_cases habove : threshold < value a <;> simp [hbc, hca, habove]
                · have hba : ¬ value b < value a := fun h => hbc (h.trans_le (not_lt.mp hca))
                  simp [hbc, hca, hba]

end Lib
