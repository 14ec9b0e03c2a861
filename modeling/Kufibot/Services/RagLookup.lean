import Kufibot.Services.Rag

/-!
# `Services.RagLookup` — the indices of a lookup

`getRAGResponse` reads the most similar result without asking whether there is one, and if it is similar
enough it draws an index from 0 to 4, until the result there is nearly as similar. So it relies on a list of
at least five embeddings, or on one that is not empty and not that similar to the query
(`rag_lookup_iff`). Similarities are elements of any linear order.
-/

namespace Kufibot

namespace RagService

variable {F α : Type} [LinearOrder α]

/-- The indices into `results` that are used, in order, and the id that is looked up in the end; there is none
    after an index out of bounds, or while the draws go on. -/
structure Lookup where
  indices : List Nat
  id : Option Nat
deriving DecidableEq, Repr

/-- `results` before the sort. -/
def resultsOf (similarity : List F → α) (s : RagService F) : List (Nat × α) :=
  s.ragEmbeddings.zipIdx.map fun x => (x.2 + 1, similarity x.1)

/-- The draws. The index of the accepted one is used twice. -/
def pickLoop (nearly : α) (sorted : List (Nat × α)) : List Nat → Lookup
  | [] => { indices := [], id := none }
  | pick :: picks =>
      match sorted[pick]? with
      | none => { indices := [pick], id := none }
      | some result =>
          if result.2 < nearly then
            let rest := pickLoop nearly sorted picks
            { indices := pick :: rest.indices, id := rest.id }
          else { indices := [pick, pick], id := some result.1 }

/-- `getRAGResponse` up to the id, with the thresholds 0.95 and 0.9. -/
def lookup (enough nearly : α) (sorted : List (Nat × α)) (picks : List Nat) : Lookup :=
  match sorted with
  | [] => { indices := [0], id := none }
  | top :: rest =>
      if enough ≤ top.2 then
        let picked := pickLoop nearly (top :: rest) picks
        { indices := 0 :: picked.indices, id := picked.id }
      else { indices := [0, 0], id := some top.1 }

/-- **The answer** is the output for this id. -/
theorem getRAGResponse_eq (s : RagService F) (sorted : List (Nat × ℚ)) (picks : List Nat) :
    s.getRAGResponse sorted picks =
      (lookup (Lib.Float64.round (19 / 20)) (Lib.Float64.round (9 / 10)) sorted picks).id.map
        s.getOutputForId := by
  have hpick : ∀ (sorted : List (Nat × ℚ)) picks,
      pickResult sorted picks = (pickLoop (Lib.Float64.round (9 / 10)) sorted picks).id := by
    intro sorted picks
    induction picks with
    | nil => rfl
    | cons pick picks ih =>
        unfold pickResult pickLoop
        cases sorted[pick]? with
        | none => rfl
        | some result =>
            simp only
            split_ifs
            · exact ih
            · rfl
  cases sorted with
  | nil => rfl
  | cons top rest =>
      unfold getRAGResponse lookup
      simp only
      split_ifs
      · rw [hpick]
      · rfl

/-! ## What a lookup promises -/

/-- What `std::sort` may make of `results`. -/
def Sorts (results sorted : List (Nat × α)) : Prop :=
  sorted.Perm results ∧ sorted.Pairwise fun a b => b.2 ≤ a.2

/-- Every index is in bounds; and if a row is similar enough, the row that is looked up is nearly so. -/
structure LookupSafe (enough nearly : α) (similarity : List F → α) (s : RagService F)
    (sorted : List (Nat × α)) (picks : List Nat) : Prop where
  bounds : ∀ i ∈ (lookup enough nearly sorted picks).indices, i < sorted.length
  similar : (∃ e ∈ s.ragEmbeddings, enough ≤ similarity e) →
    ∀ id, (lookup enough nearly sorted picks).id = some id →
      ∃ i e, id = i + 1 ∧ s.ragEmbeddings[i]? = some e ∧ nearly ≤ similarity e

omit [LinearOrder α] in
theorem mem_resultsOf {similarity : List F → α} {s : RagService F} {r : Nat × α} :
    r ∈ resultsOf similarity s ↔
      ∃ i e, s.ragEmbeddings[i]? = some e ∧ r = (i + 1, similarity e) := by
  simp only [resultsOf, List.mem_map, Prod.exists, List.mk_mem_zipIdx_iff_getElem?, eq_comm (a := r)]
  exact exists_comm

omit [LinearOrder α] in
theorem length_resultsOf (similarity : List F → α) (s : RagService F) :
    (resultsOf similarity s).length = s.ragEmbeddings.length := by
  rw [resultsOf, List.length_map, List.length_zipIdx]

/-- **The head is the most similar row.** -/
theorem enough_le_head_iff {enough : α} {similarity : List F → α} {s : RagService F} {top : Nat × α}
    {rest : List (Nat × α)} (h : Sorts (resultsOf similarity s) (top :: rest)) :
    enough ≤ top.2 ↔ ∃ e ∈ s.ragEmbeddings, enough ≤ similarity e := by
  obtain ⟨hperm, hpairwise⟩ := h
  constructor
  · intro hle
    obtain ⟨i, e, hi, rfl⟩ := mem_resultsOf.mp (hperm.mem_iff.mp List.mem_cons_self)
    exact ⟨e, List.mem_of_getElem? hi, hle⟩
  · rintro ⟨e, he, hle⟩
    obtain ⟨i, hi⟩ := List.getElem?_of_mem he
    have hmem : (i + 1, similarity e) ∈ top :: rest :=
      hperm.mem_iff.mpr (mem_resultsOf.mpr ⟨i, e, hi, rfl⟩)
    rcases List.mem_cons.mp hmem with heq | hmem
    · rw [← heq]
      exact hle
    · exact le_trans hle (List.rel_of_pairwise_cons hpairwise hmem)

/-! ## The draws -/

theorem pickLoop_bounds {nearly : α} {sorted : List (Nat × α)} {picks : List Nat}
    (h : ∀ pick ∈ picks, pick < sorted.length) :
    ∀ i ∈ (pickLoop nearly sorted picks).indices, i < sorted.length := by
  induction picks with
  | nil =>
      intro i hi
      exact absurd hi List.not_mem_nil
  | cons pick picks ih =>
      obtain ⟨hpick, hpicks⟩ := List.forall_mem_cons.mp h
      unfold pickLoop
      rw [List.getElem?_eq_getElem hpick]
      simp only
      split_ifs
      · exact List.forall_mem_cons.mpr ⟨hpick, ih hpicks⟩
      · simpa using hpick

/-- A draw is accepted for its similarity. -/
theorem pickLoop_similar {nearly : α} {sorted : List (Nat × α)} {picks : List Nat} {id : Nat}
    (h : (pickLoop nearly sorted picks).id = some id) : ∃ r ∈ sorted, r.1 = id ∧ nearly ≤ r.2 := by
  induction picks with
  | nil => cases h
  | cons pick picks ih =>
      unfold pickLoop at h
      cases hresult : sorted[pick]? with
      | none =>
          rw [hresult] at h
          cases h
      | some result =>
          rw [hresult] at h
          simp only at h
          split_ifs at h with hless
          · exact ih h
          · exact ⟨result, List.mem_of_getElem? hresult, Option.some.inj h, not_lt.mp hless⟩

/-! ## The lookup -/

section Sorted

variable {enough nearly : α} {similarity : List F → α} {s : RagService F}

/-- The row that is looked up, if one is similar enough. -/
theorem lookup_similar {sorted : List (Nat × α)} (h : Sorts (resultsOf similarity s) sorted)
    (hexists : ∃ e ∈ s.ragEmbeddings, enough ≤ similarity e) {picks : List Nat} {id : Nat}
    (hid : (lookup enough nearly sorted picks).id = some id) :
    ∃ i e, id = i + 1 ∧ s.ragEmbeddings[i]? = some e ∧ nearly ≤ similarity e := by
  cases sorted with
  | nil => cases hid
  | cons top rest =>
      rw [lookup, if_pos ((enough_le_head_iff h).mpr hexists)] at hid
      obtain ⟨r, hr, rfl, hnearly⟩ := pickLoop_similar hid
      obtain ⟨i, e, hi, rfl⟩ := mem_resultsOf.mp (h.1.mem_iff.mp hr)
      exact ⟨i, e, rfl, hi, hnearly⟩

/-- Five results are enough for every draw. -/
theorem lookup_bounds_of_five {sorted : List (Nat × α)} (h : 5 ≤ sorted.length) {picks : List Nat}
    (hpicks : ∀ pick ∈ picks, pick ≤ 4) :
    ∀ i ∈ (lookup enough nearly sorted picks).indices, i < sorted.length := by
  have hpick : ∀ pick ∈ picks, pick < sorted.length := by
    intro pick hpick
    have := hpicks pick hpick
    omega
  cases sorted with
  | nil => cases h
  | cons top rest =>
      simp only [lookup]
      split_ifs
      · exact List.forall_mem_cons.mpr ⟨Nat.succ_pos _, pickLoop_bounds hpick⟩
      · simp

/-- Without a draw one is enough. -/
theorem lookup_bounds_of_less {top : Nat × α} {rest : List (Nat × α)} (h : top.2 < enough)
    (picks : List Nat) :
    ∀ i ∈ (lookup enough nearly (top :: rest) picks).indices, i < (top :: rest).length := by
  rw [lookup, if_neg (not_le.mpr h)]
  simp

/-- A draw of 4 from a shorter list. -/
theorem four_mem_lookup {top : Nat × α} {rest : List (Nat × α)} (h : enough ≤ top.2)
    (hshort : (top :: rest).length < 5) :
    4 ∈ (lookup enough nearly (top :: rest) [4]).indices := by
  have hnone : (top :: rest)[4]? = none := List.getElem?_eq_none (by omega)
  rw [lookup, if_pos h]
  unfold pickLoop
  rw [hnone]
  simp

/-- **When a lookup is safe whatever is drawn, exactly**: there are at least five embeddings, or there is one
    and none is similar enough for a draw. -/
theorem rag_lookup_iff {sorted : List (Nat × α)} (h : Sorts (resultsOf similarity s) sorted) :
    (∀ picks : List Nat, (∀ pick ∈ picks, pick ≤ 4) →
      LookupSafe enough nearly similarity s sorted picks) ↔
      5 ≤ s.ragEmbeddings.length ∨
        s.ragEmbeddings ≠ [] ∧ ∀ e ∈ s.ragEmbeddings, similarity e < enough := by
  have hlength : sorted.length = s.ragEmbeddings.length :=
    h.1.length_eq.trans (length_resultsOf similarity s)
  rw [← hlength]
  constructor
  · intro hsafe
    by_contra hnot
    obtain ⟨hshort, hfew⟩ := not_or.mp hnot
    cases sorted with
    | nil =>
        have hzero := (hsafe [] (by simp)).bounds 0 (List.mem_singleton.mpr rfl)
        exact absurd hzero (Nat.lt_irrefl 0)
    | cons top rest =>
        have hne : s.ragEmbeddings ≠ [] := List.ne_nil_of_length_pos (hlength ▸ Nat.succ_pos _)
        have henough : enough ≤ top.2 := by
          refine (enough_le_head_iff h).mpr ?_
          by_contra hnone
          refine hfew ⟨hne, fun e he => not_le.mp fun hle => hnone ⟨e, he, hle⟩⟩
        have hfour := (hsafe [4] (by simp)).bounds 4 (four_mem_lookup henough (not_le.mp hshort))
        omega
  · intro hcond picks hpicks
    refine ⟨?_, fun hexists id hid => lookup_similar h hexists hid⟩
    rcases hcond with hfive | ⟨hne, hless⟩
    · exact lookup_bounds_of_five hfive hpicks
    · cases sorted with
      | nil => exact absurd (List.length_eq_zero_iff.mp hlength.symm) hne
      | cons top rest =>
          refine lookup_bounds_of_less (not_le.mp fun hle => ?_) picks
          obtain ⟨e, he, hle⟩ := (enough_le_head_iff h).mp hle
          exact absurd hle (not_le.mpr (hless e he))

end Sorted

/-! ### Three databases -/

/-- The similarity of everything to everything, in percent. -/
def alike : List Nat → Nat := fun _ => 100

/-- **The promise is broken** by a database that cannot be opened: nothing is loaded, and `results[0]` is
    read; and by one with a single row, when 4 is drawn. -/
theorem rag_lookup_out_of_bounds :
    (resultsOf alike (created.loadDatabase false) = [] ∧
      ¬ LookupSafe 95 90 alike (created.loadDatabase false) [] []) ∧
    (resultsOf alike (created.insertToDatabase "hello" "hi" [1] true true) = [(1, 100)] ∧
      ¬ LookupSafe 95 90 alike (created.insertToDatabase "hello" "hi" [1] true true) [(1, 100)] [4]) := by
  refine ⟨⟨rfl, fun hsafe => ?_⟩, rfl, fun hsafe => ?_⟩
  · exact absurd (hsafe.bounds 0 (by decide)) (by decide)
  · exact absurd (hsafe.bounds 4 (by decide)) (by decide)

/-- Five rows, all alike. -/
def fiveRows : RagService Nat where
  table := .empty
  ragEmbeddings := [[1], [2], [3], [4], [5]]

theorem rag_lookup_iff_five : LookupSafe 95 90 alike fiveRows
    [(1, 100), (2, 100), (3, 100), (4, 100), (5, 100)] [4] := by
  have hsorts : Sorts (resultsOf alike fiveRows) [(1, 100), (2, 100), (3, 100), (4, 100), (5, 100)] :=
    ⟨List.Perm.refl _, by decide⟩
  exact (rag_lookup_iff hsorts).mpr (.inl (by decide)) [4] (by simp)

end RagService

end Kufibot
