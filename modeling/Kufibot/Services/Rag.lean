import Kufibot.Lib.AutoIncrement
import Kufibot.Lib.Float64
import Kufibot.Lib.System

/-!
# `Services.Rag` — the embeddings in memory and the rows of the database

`RagService` keeps the embeddings of the rows of `rag_dataset` in a list and takes position `i` of that
list for the row with id `i + 1`. The list is rebuilt by `loadDatabase`, which skips the rows without an
embedding; `clearRAGDatabase` and `updateRAGDatabase` change the table and leave the list alone.

`KeepsIndex` is the condition on a step under which positions go on to stand for ids, and the list for all
the embedded rows (`index_consistent_iff`). Then the best match is the most similar row (`top_match`).
-/

namespace Kufibot

open Lib

variable {F : Type}

/-- A row of `rag_dataset`, next to its id. `F` is `float`. -/
structure RagRow (F : Type) where
  input : String
  output : String
  /-- `none` is NULL. -/
  inputEmbedding : Option (List F)

/-- The row that an INSERT stores: no embedding is stored as NULL. -/
def storedRow (input output : String) (embedding : List F) : RagRow F where
  input := input
  output := output
  inputEmbedding := if embedding.isEmpty then none else some embedding

/-- What `loadDatabase` reads from a row: `blobData && blobSize > 0`. -/
def RagRow.embedding (row : RagRow F) : Option (List F) :=
  row.inputEmbedding.filter fun e => !e.isEmpty

structure RagService (F : Type) where
  /-- The table `rag_dataset` of the database file. -/
  table : AutoIncrement (RagRow F)
  /-- `_ragEmbeddings`. -/
  ragEmbeddings : List (List F)

/-- An operation, with the embeddings it computes; `opened` tells whether the database can be opened. -/
inductive RagAction (F : Type) where
  | loadDatabase (opened : Bool)
  /-- `reopened`: the database can be opened once more, to load it. -/
  | insertToDatabase (input output : String) (embedding : List F) (opened reopened : Bool)
  | updateRAGDatabase (dataset : List (String × String × List F)) (opened : Bool)
  | clearRAGDatabase (opened : Bool)

namespace RagService

/-! ## The operations -/

def loadDatabase (opened : Bool) (s : RagService F) : RagService F :=
  { s with ragEmbeddings := if opened then s.table.values RagRow.embedding else [] }

def insertToDatabase (input output : String) (embedding : List F) (opened reopened : Bool)
    (s : RagService F) : RagService F :=
  if input.isEmpty || output.isEmpty then s
  else if opened then
    { s with table := s.table.insert (storedRow input output embedding) }.loadDatabase reopened
  else s

def updateRAGDatabase (dataset : List (String × String × List F)) (opened : Bool)
    (s : RagService F) : RagService F :=
  if opened then
    { s with
      table := dataset.foldl (fun t row => t.insert (storedRow row.1 row.2.1 row.2.2)) s.table }
  else s

def clearRAGDatabase (opened : Bool) (s : RagService F) : RagService F :=
  if opened then { s with table := s.table.clear } else s

def step (s : RagService F) : RagAction F → Option (RagService F)
  | .loadDatabase opened => some (s.loadDatabase opened)
  | .insertToDatabase input output embedding opened reopened =>
      some (s.insertToDatabase input output embedding opened reopened)
  | .updateRAGDatabase dataset opened => some (s.updateRAGDatabase dataset opened)
  | .clearRAGDatabase opened => some (s.clearRAGDatabase opened)

/-- A new process finds whatever table earlier ones have left. -/
def system : System (RagService F) (RagAction F) where
  init s := s.ragEmbeddings = []
  step := step

/-! ## Answering a query -/

/-- `results` before the sort: the ids count the positions from 1. -/
def similarities (similarity : List F → ℚ) (s : RagService F) : List (Nat × ℚ) :=
  s.ragEmbeddings.zipIdx.map fun x => (x.2 + 1, similarity x.1)

/-- What `std::sort` may make of `results`: equal similarities come in any order. -/
def SortedDecreasing (results sorted : List (Nat × ℚ)) : Prop :=
  sorted.Perm results ∧ sorted.Pairwise fun a b => b.2 ≤ a.2

def getOutputForId (id : Nat) (s : RagService F) : String :=
  match s.table.find id with
  | some row => row.output
  | none => ""

/-- The random draws, until one is similar enough; a draw past the end is undefined. -/
def pickResult (sorted : List (Nat × ℚ)) : List Nat → Option Nat
  | [] => none
  | pick :: picks =>
      match sorted[pick]? with
      | none => none
      | some result => if result.2 < Float64.round (9 / 10) then pickResult sorted picks else some result.1

/-- The answer from the sorted results; `results[0]` of no results is undefined. -/
def getRAGResponse (sorted : List (Nat × ℚ)) (picks : List Nat) (s : RagService F) : Option String :=
  match sorted with
  | [] => none
  | top :: rest =>
      if Float64.round (19 / 20) ≤ top.2 then
        (pickResult (top :: rest) picks).map fun id => s.getOutputForId id
      else some (s.getOutputForId top.1)

/-! ## Positions and ids -/

/-- **Index consistency**: position `i` holds the embedding of the row with id `i + 1`. -/
def IndexConsistent (s : RagService F) : Prop :=
  ∀ i e, s.ragEmbeddings[i]? = some e →
    ∃ row, s.table.find (i + 1) = some row ∧ row.embedding = some e

/-- A list that is not empty has a position for every row with an embedding. -/
def Complete (s : RagService F) : Prop :=
  s.ragEmbeddings ≠ [] → ∀ id row e, s.table.find id = some row → row.embedding = some e →
    id ≤ s.ragEmbeddings.length

/-- The row with this id is one of those most similar to the query. -/
def MostSimilar (similarity : List F → ℚ) (s : RagService F) (id : Nat) : Prop :=
  ∃ row e, s.table.find id = some row ∧ row.embedding = some e ∧
    ∀ id' row' e', s.table.find id' = some row' → row'.embedding = some e' → similarity e' ≤ similarity e

/-- When the list is rebuilt, the rows with an embedding have the ids `1, …, n`; rows with an embedding
    are added without loading them, and rows are deleted, only while nothing is loaded. -/
def KeepsIndex (s : RagService F) : RagAction F → Prop
  | .loadDatabase opened => opened = true → s.table.Numbered RagRow.embedding
  | .insertToDatabase input output embedding opened reopened =>
      input ≠ "" → output ≠ "" → opened = true → reopened = true →
        (s.table.insert (storedRow input output embedding)).Numbered RagRow.embedding
  | .updateRAGDatabase dataset opened =>
      opened = true → s.ragEmbeddings = [] ∨ ∀ row ∈ dataset, row.2.2 = []
  | .clearRAGDatabase opened => opened = true → s.ragEmbeddings = []

/-- Both halves of the correspondence. -/
structure Consistent (s : RagService F) : Prop where
  index : s.IndexConsistent
  complete : s.Complete

theorem consistent_of_not_loaded {s : RagService F} (h : s.ragEmbeddings = []) : s.Consistent where
  index i e hi := by
    rw [h] at hi
    cases hi
  complete hne := absurd h hne

/-- The list was just rebuilt. -/
theorem consistent_load {s : RagService F} (h : s.ragEmbeddings = s.table.values RagRow.embedding) :
    s.Consistent ↔ s.table.Numbered RagRow.embedding := by
  have hindex : s.IndexConsistent ↔ s.table.Numbered RagRow.embedding := by
    unfold IndexConsistent
    rw [AutoIncrement.numbered_iff, h]
  refine ⟨fun hs => hindex.mp hs.index, fun hnum => ⟨hindex.mpr hnum, ?_⟩⟩
  intro _ id row e hfind he
  have hid : id ∈ (s.table.entries RagRow.embedding).map Prod.fst :=
    List.mem_map.mpr ⟨(id, e), AutoIncrement.mem_entries.mpr ⟨row, hfind, he⟩, rfl⟩
  rw [hnum] at hid
  obtain ⟨i, hi, rfl⟩ := List.mem_range'.mp hid
  rw [h, AutoIncrement.values_eq, List.length_map]
  omega

theorem consistent_loadDatabase (s : RagService F) (opened : Bool) :
    (s.loadDatabase opened).Consistent ↔ (opened = true → s.table.Numbered RagRow.embedding) := by
  cases opened with
  | false => exact ⟨fun _ h => (Bool.false_ne_true h).elim, fun _ => consistent_of_not_loaded rfl⟩
  | true => exact (consistent_load rfl).trans ⟨fun h _ => h, fun h => h rfl⟩

/-! ### Rows that are not loaded -/

/-- The table after the rows of a dataset have been inserted. -/
abbrev inserted (dataset : List (String × String × List F)) (t : AutoIncrement (RagRow F)) :
    AutoIncrement (RagRow F) :=
  dataset.foldl (fun t row => t.insert (storedRow row.1 row.2.1 row.2.2)) t

theorem mem_inserted {dataset : List (String × String × List F)} {t : AutoIncrement (RagRow F)}
    {r : Nat × RagRow F} (hr : r ∈ (inserted dataset t).rows) :
    r ∈ t.rows ∨ t.seq < r.1 ∧ ∃ row ∈ dataset, r.2 = storedRow row.1 row.2.1 row.2.2 := by
  induction dataset generalizing t with
  | nil => exact .inl hr
  | cons row dataset ih =>
      rcases ih hr with hr | ⟨hlt, row', hrow', hr⟩
      · rcases List.mem_append.mp hr with hr | hr
        · exact .inl hr
        · rw [List.mem_singleton.mp hr]
          exact .inr ⟨Nat.lt_succ_self _, row, List.mem_cons_self, rfl⟩
      · exact .inr ⟨Nat.lt_of_succ_lt hlt, row', List.mem_cons_of_mem _ hrow', hr⟩

theorem rows_subset_inserted (dataset : List (String × String × List F)) (t : AutoIncrement (RagRow F)) :
    t.rows ⊆ (inserted dataset t).rows := by
  induction dataset generalizing t with
  | nil => exact List.Subset.refl _
  | cons row dataset ih => exact fun r hr => ih _ (List.mem_append_left _ hr)

theorem exists_inserted {dataset : List (String × String × List F)} {t : AutoIncrement (RagRow F)}
    {row : String × String × List F} (hrow : row ∈ dataset) :
    ∃ id, t.seq < id ∧ (id, storedRow row.1 row.2.1 row.2.2) ∈ (inserted dataset t).rows := by
  induction dataset generalizing t with
  | nil => cases hrow
  | cons row' dataset ih =>
      rcases List.mem_cons.mp hrow with rfl | hrow
      · refine ⟨t.seq + 1, Nat.lt_succ_self _, rows_subset_inserted dataset (t.insert _) ?_⟩
        exact List.mem_append_right _ (List.mem_singleton.mpr rfl)
      · obtain ⟨id, hlt, hmem⟩ := ih (t := t.insert (storedRow row'.1 row'.2.1 row'.2.2)) hrow
        exact ⟨id, Nat.lt_of_succ_lt hlt, hmem⟩

theorem storedRow_embedding {input output : String} {embedding : List F} (h : embedding ≠ []) :
    (storedRow input output embedding).embedding = some embedding := by
  simp [storedRow, RagRow.embedding, h]

theorem storedRow_null {input output : String} :
    (storedRow input output ([] : List F)).embedding = none := rfl

/-- The ids of a consistent list have all been given out. -/
theorem length_le_seq {s : RagService F} (h : s.IndexConsistent) :
    s.ragEmbeddings.length ≤ s.table.seq := by
  cases hlen : s.ragEmbeddings.length with
  | zero => exact Nat.zero_le _
  | succ n =>
      have hn : n < s.ragEmbeddings.length := by omega
      obtain ⟨row, hfind, -⟩ := h n _ (List.getElem?_eq_getElem hn)
      exact s.table.le_seq _ (AutoIncrement.find_eq_some.mp hfind)

/-- Adding rows without loading them. -/
theorem consistent_update {s : RagService F} (h : s.Consistent)
    (dataset : List (String × String × List F)) :
    ({ s with table := inserted dataset s.table } : RagService F).Consistent ↔
      s.ragEmbeddings = [] ∨ ∀ row ∈ dataset, row.2.2 = [] := by
  constructor
  · intro ht
    by_cases hne : s.ragEmbeddings = []
    · exact .inl hne
    · refine .inr fun row hrow => ?_
      by_contra hemb
      -- a new row with an embedding gets an id behind the list
      obtain ⟨id, hlt, hmem⟩ := exists_inserted (t := s.table) hrow
      have hle : id ≤ s.ragEmbeddings.length :=
        ht.complete hne id _ _ (AutoIncrement.find_eq_some.mpr hmem) (storedRow_embedding hemb)
      have hseq := length_le_seq h.index
      omega
  · intro hok
    constructor
    · intro i e hi
      obtain ⟨row, hfind, he⟩ := h.index i e hi
      have hmem := rows_subset_inserted dataset s.table (AutoIncrement.find_eq_some.mp hfind)
      exact ⟨row, AutoIncrement.find_eq_some.mpr hmem, he⟩
    · intro hne id row e hfind he
      rcases mem_inserted (AutoIncrement.find_eq_some.mp hfind) with hr | ⟨-, row', hrow', hr⟩
      · exact h.complete hne id row e (AutoIncrement.find_eq_some.mpr hr) he
      · have hr : row = storedRow row'.1 row'.2.1 row'.2.2 := hr
        rw [hr, hok.resolve_left hne row' hrow', storedRow_null] at he
        cases he

/-- Deleting the rows without clearing the list. -/
theorem consistent_clear {s : RagService F} :
    ({ s with table := s.table.clear } : RagService F).Consistent ↔ s.ragEmbeddings = [] := by
  refine ⟨fun ht => ?_, fun h => consistent_of_not_loaded h⟩
  cases hlist : s.ragEmbeddings with
  | nil => rfl
  | cons e es =>
      obtain ⟨row, hfind, -⟩ := ht.index 0 e (by show s.ragEmbeddings[0]? = _; rw [hlist]; rfl)
      cases hfind

/-- **One operation**: the correspondence survives it iff it meets `KeepsIndex`. -/
theorem consistent_step {s t : RagService F} {a : RagAction F} (h : s.Consistent)
    (hst : s.step a = some t) : t.Consistent ↔ s.KeepsIndex a := by
  cases a with
  | loadDatabase opened => cases hst; exact consistent_loadDatabase s opened
  | insertToDatabase input output embedding opened reopened =>
      cases hst
      unfold insertToDatabase
      by_cases hempty : (input.isEmpty || output.isEmpty) = true
      · rw [if_pos hempty]
        refine ⟨fun _ hin hout => ?_, fun _ => h⟩
        simp [hin, hout] at hempty
      · rw [if_neg hempty]
        simp only [Bool.or_eq_true, String.isEmpty_iff, not_or] at hempty
        cases opened with
        | false => exact ⟨fun _ _ _ h => (Bool.false_ne_true h).elim, fun _ => h⟩
        | true =>
            refine (consistent_loadDatabase _ reopened).trans ⟨fun h _ _ _ => h, fun h => ?_⟩
            exact h hempty.1 hempty.2 rfl
  | updateRAGDatabase dataset opened =>
      cases hst
      cases opened with
      | false => exact ⟨fun _ h => (Bool.false_ne_true h).elim, fun _ => h⟩
      | true => exact (consistent_update h dataset).trans ⟨fun h _ => h, fun h => h rfl⟩
  | clearRAGDatabase opened =>
      cases hst
      cases opened with
      | false => exact ⟨fun _ h => (Bool.false_ne_true h).elim, fun _ => h⟩
      | true => exact consistent_clear.trans ⟨fun h _ => h, fun h => h rfl⟩

/-! ## The best match -/

theorem mem_similarities {similarity : List F → ℚ} {s : RagService F} {r : Nat × ℚ} :
    r ∈ s.similarities similarity ↔
      ∃ i e, s.ragEmbeddings[i]? = some e ∧ r = (i + 1, similarity e) := by
  simp only [similarities, List.mem_map, Prod.exists, List.mk_mem_zipIdx_iff_getElem?, eq_comm (a := r)]
  constructor
  · rintro ⟨e, i, h⟩
    exact ⟨i, e, h⟩
  · rintro ⟨i, e, h⟩
    exact ⟨e, i, h⟩

/-- **The best match is the most similar row**: the id at the head of the sorted results. -/
theorem mostSimilar_of_head {s : RagService F} (h : s.Consistent) {similarity : List F → ℚ}
    {top : Nat × ℚ} {rest : List (Nat × ℚ)}
    (hsorted : SortedDecreasing (s.similarities similarity) (top :: rest)) :
    s.MostSimilar similarity top.1 := by
  obtain ⟨hperm, hpairwise⟩ := hsorted
  obtain ⟨i, e, hi, rfl⟩ := mem_similarities.mp (hperm.mem_iff.mp List.mem_cons_self)
  obtain ⟨row, hfind, he⟩ := h.index i e hi
  refine ⟨row, e, hfind, he, fun id' row' e' hfind' he' => ?_⟩
  -- the other row has a position of its own
  have hne : s.ragEmbeddings ≠ [] := by
    intro hnil
    rw [hnil] at hi
    cases hi
  have hle := h.complete hne id' row' e' hfind' he'
  have hpos : 0 < id' := s.table.pos _ (AutoIncrement.find_eq_some.mp hfind')
  obtain ⟨j, rfl⟩ : ∃ j, id' = j + 1 := ⟨id' - 1, by omega⟩
  obtain ⟨row'', hfind'', he''⟩ := h.index j _ (List.getElem?_eq_getElem (by omega))
  have hrow : row'' = row' := Option.some.inj (hfind''.symm.trans hfind')
  subst hrow
  have he' := Option.some.inj (he''.symm.trans he')
  have hmem : (j + 1, similarity e') ∈ (i + 1, similarity e) :: rest := by
    refine hperm.mem_iff.mpr (mem_similarities.mpr ⟨j, e', ?_, rfl⟩)
    rw [List.getElem?_eq_getElem (by omega), he']
  rcases List.mem_cons.mp hmem with heq | hmem
  · exact le_of_eq (congrArg Prod.snd heq)
  · exact List.rel_of_pairwise_cons hpairwise hmem

/-- **When positions stand for ids.** In a run of any of the four operations the list and the table
    correspond in every state iff every operation meets `KeepsIndex`; and then each answer is looked up, as
    long as no result is close enough for a random pick, with the id of a row most similar to the query. -/
theorem index_consistent_iff {s t : RagService F} {tr : List (RagService F × RagAction F)}
    (hs : system.init s) (h : system.Run s tr t) :
    ((∀ u ∈ System.visited tr t, u.IndexConsistent ∧ u.Complete) ↔ ∀ x ∈ tr, x.1.KeepsIndex x.2) ∧
      ((∀ x ∈ tr, x.1.KeepsIndex x.2) → ∀ u ∈ System.visited tr t, u.IndexConsistent ∧
        ∀ similarity top rest, SortedDecreasing (u.similarities similarity) (top :: rest) →
          u.MostSimilar similarity top.1 ∧
            (top.2 < Float64.round (19 / 20) → ∀ picks,
              u.getRAGResponse (top :: rest) picks = some (u.getOutputForId top.1))) := by
  have hiff : (∀ u ∈ System.visited tr t, u.Consistent) ↔ ∀ x ∈ tr, x.1.KeepsIndex x.2 :=
    System.Run.forall_iff (I := fun _ => True) (P := Consistent) (fun _ _ => True)
      (fun _ _ _ _ _ => trivial) (fun s a t _ hP _ hst => consistent_step hP (show s.step a = some t from hst))
      h trivial (consistent_of_not_loaded hs) fun _ _ => trivial
  refine ⟨⟨fun hall => hiff.mp fun u hu => ⟨(hall u hu).1, (hall u hu).2⟩, fun hok u hu => ?_⟩,
    fun hok u hu => ⟨(hiff.mpr hok u hu).index, fun similarity top rest hsorted => ⟨?_, ?_⟩⟩⟩
  · exact ⟨(hiff.mpr hok u hu).index, (hiff.mpr hok u hu).complete⟩
  · exact mostSimilar_of_head (hiff.mpr hok u hu) hsorted
  · intro hlow picks
    exact if_neg (not_le.mpr hlow)

/-! ## Two runs -/

/-- A new database, nothing loaded. -/
def created : RagService Nat where
  table := .empty
  ragEmbeddings := []

/-- **A cleared table shifts the ids**: the row inserted after the table was cleared has id 2 and
    position 0. -/
theorem index_shifted : ∃ s : RagService Nat, system.Reachable s ∧ ¬ s.IndexConsistent := by
  have hrun : (system.exec created
      [.insertToDatabase "hello" "hi" [1] true true, .clearRAGDatabase true,
        .insertToDatabase "bye" "see you" [2] true true]).map
      (fun s => (s.ragEmbeddings, (s.table.find 1).isSome)) = some ([[2]], false) := rfl
  obtain ⟨s, hs, hstate⟩ :=
    System.exists_of_exec (System.ReachableVia.init rfl) (fun _ _ _ => trivial) hrun
  simp only [Prod.mk.injEq] at hstate
  obtain ⟨hlist, hfind⟩ := hstate
  refine ⟨s, hs, fun h => ?_⟩
  obtain ⟨row, hrow, -⟩ := h 0 [2] (by rw [hlist]; rfl)
  rw [hrow] at hfind
  cases hfind

/-- Two rows inserted one after the other: the list and the table correspond in every state. -/
theorem index_consistent_iff_run : ∃ (t : RagService Nat) (tr : List (RagService Nat × RagAction Nat)),
    t.ragEmbeddings = [[1], [2]] ∧ ∀ u ∈ System.visited tr t, u.IndexConsistent ∧ u.Complete := by
  have h : system.Run created [(created, .insertToDatabase "hello" "hi" [1] true true),
      (created.insertToDatabase "hello" "hi" [1] true true,
        .insertToDatabase "bye" "see you" [2] true true)]
      ((created.insertToDatabase "hello" "hi" [1] true true).insertToDatabase
        "bye" "see you" [2] true true) :=
    .snoc (.snoc .nil rfl) rfl
  refine ⟨_, _, rfl, (index_consistent_iff (s := created) rfl h).1.mpr fun x hx => ?_⟩
  rcases List.mem_cons.mp hx with rfl | hx
  · exact fun _ _ _ _ => rfl
  · rw [List.mem_singleton.mp hx]
    exact fun _ _ _ _ => rfl

end RagService

end Kufibot
