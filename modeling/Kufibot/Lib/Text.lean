import Mathlib.Data.List.DropRight

/-!
# `Lib.Text` — trimming, the first run that a space follows, and the pieces that runs end

A text is a list of characters of any type, and the classes of characters are predicates. `trim` cuts the
blanks off both ends. `searchRun` is the search for the regular expression `(m+)(s+|$)` with disjoint
classes `m` and `s`: the leftmost match is the first maximal run of marks that is followed by a space or by
the end, for a shorter run is followed by a mark. `searchRun_spec` says where the match lies,
`searchRun_eq_none_iff` that there is none only if there is nothing to find, and of two matches one lies
behind the spaces of the other if it ends later (`IsMatch.ends_or_behind`).

`pieces` are all matches of `[^m]*m+`. A text is cut at its runs of marks in one way only (`Cut`,
`Cut.unique`), and the matches are the pieces of this cut (`pieces_eq_iff`); its tail has no match.

What is compared across cuts is the text without its spaces (`visible`): trimming does not change it.
-/

namespace Lib.Text

variable {α : Type*}

/-! ## Trimming -/

def trim (blank : α → Bool) (text : List α) : List α := (text.dropWhile blank).rdropWhile blank

/-- The characters that are no spaces. -/
def visible (space : α → Bool) (text : List α) : List α := text.filter fun c => !space c

@[simp] theorem visible_append (space : α → Bool) (text text' : List α) :
    visible space (text ++ text') = visible space text ++ visible space text' :=
  List.filter_append ..

theorem visible_eq_nil {space : α → Bool} {text : List α} (h : ∀ c ∈ text, space c = true) :
    visible space text = [] :=
  List.filter_eq_nil_iff.mpr fun c hc => by simp [h c hc]

theorem visible_eq_nil_iff {space : α → Bool} {text : List α} :
    visible space text = [] ↔ ∀ c ∈ text, space c = true := by
  refine ⟨fun h c hc => ?_, visible_eq_nil⟩
  have hnot := List.filter_eq_nil_iff.mp h c hc
  simpa using hnot

theorem visible_dropWhile {blank space : α → Bool} (hblank : ∀ c, blank c = true → space c = true)
    (text : List α) : visible space (text.dropWhile blank) = visible space text := by
  conv_rhs => rw [← List.takeWhile_append_dropWhile (p := blank) (l := text), visible_append]
  rw [visible_eq_nil fun c hc => hblank c (List.mem_takeWhile_imp hc), List.nil_append]

theorem visible_rdropWhile {blank space : α → Bool} (hblank : ∀ c, blank c = true → space c = true)
    (text : List α) : visible space (text.rdropWhile blank) = visible space text := by
  have h := visible_dropWhile hblank text.reverse
  unfold visible at h ⊢
  rw [List.rdropWhile, List.filter_reverse, h, List.filter_reverse, List.reverse_reverse]

/-- **Trimming cuts off spaces only.** -/
theorem visible_trim {blank space : α → Bool} (hblank : ∀ c, blank c = true → space c = true)
    (text : List α) : visible space (trim blank text) = visible space text :=
  (visible_rdropWhile hblank _).trans (visible_dropWhile hblank text)

/-- The same for a text in pieces. -/
theorem visible_flatten_trim {blank space : α → Bool} (hblank : ∀ c, blank c = true → space c = true)
    (pieces : List (List α)) :
    visible space (pieces.map (trim blank)).flatten = visible space pieces.flatten := by
  induction pieces with
  | nil => rfl
  | cons piece pieces ih =>
      rw [List.map_cons, List.flatten_cons, List.flatten_cons, visible_append, visible_append, ih,
        visible_trim hblank]

theorem trim_ne_nil {blank : α → Bool} {text : List α} {c : α} (hc : c ∈ text) (hblank : blank c = false) :
    trim blank text ≠ [] := by
  intro htrim
  have hvisible : visible blank (trim blank text) = visible blank text := visible_trim (fun _ => id) text
  rw [htrim] at hvisible
  have hall := visible_eq_nil_iff.mp hvisible.symm c hc
  rw [hblank] at hall
  cases hall

theorem trim_trim (blank : α → Bool) (text : List α) : trim blank (trim blank text) = trim blank text := by
  have hdrop : (trim blank text).dropWhile blank = trim blank text := by
    cases htrim : trim blank text with
    | nil => rfl
    | cons c rest =>
        obtain ⟨suffix, hsuffix⟩ := List.rdropWhile_prefix blank (text.dropWhile blank)
        have hhead : (text.dropWhile blank).head? = some c := by
          rw [← hsuffix]
          show ((trim blank text) ++ suffix).head? = some c
          rw [htrim]
          rfl
        have hblank : blank c = false := by
          have h := List.head?_dropWhile_not blank text
          rw [hhead] at h
          simpa using h
        rw [List.dropWhile_cons_of_neg (by rw [hblank]; exact Bool.false_ne_true)]
  show ((trim blank text).dropWhile blank).rdropWhile blank = trim blank text
  rw [hdrop]
  exact List.rdropWhile_idempotent blank (text.dropWhile blank)

/-- A text that ends with no blank is trimmed at its start only. -/
theorem trim_append_run {blank : α → Bool} {run : List α} (hne : run ≠ [])
    (hrun : ∀ c ∈ run, blank c = false) (text : List α) :
    trim blank (text ++ run) = (text ++ run).dropWhile blank := by
  obtain ⟨init, last, hconcat⟩ := (List.eq_nil_or_concat run).resolve_left hne
  obtain rfl : run = init ++ [last] := hconcat.trans List.concat_eq_append
  have hlast : blank last = false := hrun last (List.mem_append_right _ List.mem_cons_self)
  have hdrop : (text ++ (init ++ [last])).dropWhile blank = (text ++ init).dropWhile blank ++ [last] := by
    have happend : ((text ++ init) ++ [last]).dropWhile blank = _ := List.dropWhile_append
    rw [← List.append_assoc, happend]
    split
    · rename_i hempty
      rw [List.isEmpty_iff.mp hempty, List.dropWhile_cons_of_neg (by rw [hlast]; exact Bool.false_ne_true)]
      rfl
    · rfl
  unfold trim
  rw [hdrop, List.rdropWhile_concat_neg]
  rw [hlast]
  exact Bool.false_ne_true

theorem length_dropWhile_le (blank : α → Bool) (text more : List α) :
    (text.dropWhile blank).length ≤ ((text ++ more).dropWhile blank).length := by
  rw [List.dropWhile_append]
  split
  · rename_i hempty
    rw [List.isEmpty_iff.mp hempty]
    exact Nat.zero_le _
  · rw [List.length_append]
    exact Nat.le_add_right _ _

theorem length_dropWhile_append_le (blank : α → Bool) (text more : List α) :
    (more.dropWhile blank).length ≤ ((text ++ more).dropWhile blank).length := by
  rw [List.dropWhile_append]
  split
  · exact le_refl _
  · rw [List.length_append]
    exact le_trans (List.dropWhile_suffix blank).length_le (Nat.le_add_left _ _)

/-! ## Runs -/

/-- A match: where it starts, and the lengths of its two groups. -/
structure RunMatch where
  position : Nat
  run : Nat
  spaces : Nat
deriving DecidableEq, Repr

variable (mark space : α → Bool)

/-- The match at the start of the text. -/
def matchRun (text : List α) : Option RunMatch :=
  let run := text.takeWhile mark
  let after := text.dropWhile mark
  let spaces := after.takeWhile space
  if run.isEmpty || (spaces.isEmpty && !after.isEmpty) then none
  else some { position := 0, run := run.length, spaces := spaces.length }

/-- The leftmost match. -/
def searchRun : List α → Option RunMatch
  | [] => none
  | c :: text =>
      match matchRun mark space (c :: text) with
      | some m => some m
      | none => (searchRun text).map fun m => { m with position := m.position + 1 }

/-- What the expression matches: a run of marks, and then spaces or the end. -/
structure IsMatch (run spaces after : List α) : Prop where
  run_ne_nil : run ≠ []
  marks : ∀ c ∈ run, mark c = true
  blanks : ∀ c ∈ spaces, space c = true
  ends : spaces = [] → after = []

variable {mark space}

theorem matchRun_some {text : List α} {m : RunMatch} (h : matchRun mark space text = some m) :
    ∃ run spaces after, text = run ++ spaces ++ after ∧ IsMatch mark space run spaces after ∧
      m = { position := 0, run := run.length, spaces := spaces.length } := by
  unfold matchRun at h
  simp only [Option.ite_none_left_eq_some, Bool.or_eq_true, Bool.and_eq_true, Bool.not_eq_true',
    List.isEmpty_iff, List.isEmpty_eq_false_iff, not_or, not_and, not_not] at h
  obtain ⟨⟨hrun, hends⟩, hm⟩ := h
  refine ⟨text.takeWhile mark, (text.dropWhile mark).takeWhile space,
    (text.dropWhile mark).dropWhile space, ?_, ⟨hrun, ?_, ?_, ?_⟩, (Option.some.inj hm).symm⟩
  · rw [List.append_assoc, List.takeWhile_append_dropWhile, List.takeWhile_append_dropWhile]
  · exact fun c hc => List.mem_takeWhile_imp hc
  · exact fun c hc => List.mem_takeWhile_imp hc
  · intro hspaces
    rw [hends hspaces]
    rfl

/-- **Where the match lies.** -/
theorem searchRun_spec {text : List α} {m : RunMatch} (h : searchRun mark space text = some m) :
    ∃ before run spaces after, text = before ++ (run ++ spaces ++ after) ∧
      IsMatch mark space run spaces after ∧
      m = { position := before.length, run := run.length, spaces := spaces.length } := by
  induction text generalizing m with
  | nil => cases h
  | cons c text ih =>
      unfold searchRun at h
      cases hmatch : matchRun mark space (c :: text) with
      | some m' =>
          rw [hmatch] at h
          cases h
          obtain ⟨run, spaces, after, htext, hm, rfl⟩ := matchRun_some hmatch
          exact ⟨[], run, spaces, after, htext, hm, rfl⟩
      | none =>
          rw [hmatch] at h
          obtain ⟨m', hsearch, rfl⟩ := Option.map_eq_some_iff.mp h
          obtain ⟨before, run, spaces, after, rfl, hm, rfl⟩ := ih hsearch
          exact ⟨c :: before, run, spaces, after, rfl, hm, rfl⟩

/-- With disjoint classes, a match at the start is found there. -/
theorem matchRun_ne_none (hdisjoint : ∀ c, mark c = true → space c = false) {run spaces after : List α}
    (h : IsMatch mark space run spaces after) : matchRun mark space (run ++ spaces ++ after) ≠ none := by
  -- what follows the run is a space or nothing, so the run is maximal
  have hstop : (spaces ++ after).takeWhile mark = [] := by
    cases spaces with
    | nil => rw [h.ends rfl]; rfl
    | cons c rest =>
        have hspace := h.blanks c List.mem_cons_self
        have hmark : ¬ mark c = true := fun hc => by rw [hdisjoint c hc] at hspace; cases hspace
        exact List.takeWhile_cons_of_neg hmark
  have hdrop : (spaces ++ after).dropWhile mark = spaces ++ after := by
    have h := List.takeWhile_append_dropWhile (p := mark) (l := spaces ++ after)
    rwa [hstop, List.nil_append] at h
  have htake : (run ++ spaces ++ after).takeWhile mark = run := by
    rw [List.append_assoc, List.takeWhile_append_of_pos h.marks, hstop, List.append_nil]
  have hafter : (run ++ spaces ++ after).dropWhile mark = spaces ++ after := by
    rw [List.append_assoc, List.dropWhile_append_of_pos h.marks, hdrop]
  unfold matchRun
  rw [htake, hafter]
  simp only [ne_eq, ite_eq_left_iff, reduceCtorEq, imp_false, not_not, Bool.or_eq_true,
    Bool.and_eq_true, Bool.not_eq_true', List.isEmpty_iff, List.isEmpty_eq_false_iff, h.run_ne_nil,
    false_or, not_and]
  intro hspaces
  cases spaces with
  | nil => rw [h.ends rfl]; rfl
  | cons c rest =>
      rw [List.cons_append, List.takeWhile_cons_of_pos (h.blanks c List.mem_cons_self)] at hspaces
      cases hspaces

/-- **Nothing is missed**: there is no match only if no part of the text matches. -/
theorem searchRun_eq_none_iff (hdisjoint : ∀ c, mark c = true → space c = false) (text : List α) :
    searchRun mark space text = none ↔
      ∀ before run spaces after, text = before ++ (run ++ spaces ++ after) →
        ¬ IsMatch mark space run spaces after := by
  constructor
  · intro hnone before run spaces after htext hmatch
    subst htext
    induction before with
    | nil =>
        obtain ⟨c, rest, hrun⟩ := List.exists_cons_of_ne_nil hmatch.run_ne_nil
        have hne := matchRun_ne_none hdisjoint hmatch
        rw [hrun] at hnone hne
        simp only [List.nil_append, List.cons_append] at hnone hne
        unfold searchRun at hnone
        cases hfound : matchRun mark space (c :: (rest ++ spaces ++ after)) with
        | none => exact hne hfound
        | some m => rw [hfound] at hnone; cases hnone
    | cons c before ih =>
        rw [List.cons_append] at hnone
        unfold searchRun at hnone
        split at hnone
        · cases hnone
        · exact ih (Option.map_eq_none_iff.mp hnone)
  · intro h
    cases hsearch : searchRun mark space text with
    | none => rfl
    | some m =>
        obtain ⟨before, run, spaces, after, htext, hmatch, -⟩ := searchRun_spec hsearch
        exact absurd hmatch (h before run spaces after htext)

/-- No mark is where the spaces start. -/
theorem IsMatch.not_mark (hdisjoint : ∀ c, mark c = true → space c = false) {run spaces after rest : List α}
    {c : α} (h : IsMatch mark space run spaces after) (hrest : spaces ++ after = c :: rest) :
    ¬mark c = true := by
  intro hmark
  cases spaces with
  | nil =>
      rw [h.ends rfl] at hrest
      cases hrest
  | cons c' spaces =>
      cases hrest
      have hspace := h.blanks c List.mem_cons_self
      rw [hdisjoint c hmark] at hspace
      cases hspace

/-- **Two matches of a text**: the second one ends no later than the first, or lies behind its spaces. -/
theorem IsMatch.ends_or_behind (hdisjoint : ∀ c, mark c = true → space c = false)
    {before run spaces after before' run' spaces' after' : List α}
    (h : IsMatch mark space run spaces after) (h' : IsMatch mark space run' spaces' after')
    (htext : before ++ run ++ (spaces ++ after) = before' ++ run' ++ (spaces' ++ after')) :
    (∃ more, before ++ run = before' ++ run' ++ more) ∨
      ∃ between, after = between ++ (run' ++ spaces' ++ after') := by
  rcases List.append_eq_append_iff.mp htext with ⟨more, hlater, hrest⟩ | ⟨more, hearlier, -⟩
  · rcases List.append_eq_append_iff.mp hlater with ⟨later, -, hrun⟩ | ⟨later, -, hmore⟩
    · -- the second run goes on where the spaces of the first start
      cases more with
      | nil =>
          refine .inl ⟨[], ?_⟩
          rw [hlater, List.append_nil, List.append_nil]
      | cons c more =>
          have hmark := h'.marks c (hrun ▸ List.mem_append_right _ List.mem_cons_self)
          exact absurd hmark (h.not_mark hdisjoint hrest)
    · refine .inr ?_
      rw [hmore, List.append_assoc] at hrest
      rcases List.append_eq_append_iff.mp hrest with ⟨between, -, hafter⟩ | ⟨inside, hspaces, hrun⟩
      · refine ⟨between, ?_⟩
        rw [hafter, List.append_assoc run']
      · -- a run does not start among spaces
        cases inside with
        | nil =>
            refine ⟨[], ?_⟩
            rw [List.append_assoc run', hrun]
            rfl
        | cons c inside =>
            obtain ⟨m, rest, hcons⟩ := List.exists_cons_of_ne_nil h'.run_ne_nil
            have hmark : mark m = true := h'.marks m (hcons ▸ List.mem_cons_self)
            have hspace : space c = true :=
              h.blanks c (hspaces ▸ List.mem_append_right _ List.mem_cons_self)
            rw [hcons] at hrun
            obtain ⟨rfl, -⟩ := List.cons.inj hrun
            rw [hdisjoint m hmark] at hspace
            cases hspace
  · exact .inl ⟨more, hearlier⟩

/-! ## Pieces -/

section Pieces

variable (mark)

/-- The first match of `[^m]*m+` and what follows it: the text up to a mark, and the run of marks. -/
def nextPiece (text : List α) : Option (List α × List α) :=
  let body := text.takeWhile fun c => !mark c
  let after := text.dropWhile fun c => !mark c
  if after.isEmpty then none else some (body ++ after.takeWhile mark, after.dropWhile mark)

/-- The matches one after the other, at most `fuel` of them. -/
def piecesLoop : Nat → List α → List (List α)
  | 0, _ => []
  | fuel + 1, text =>
      match nextPiece mark text with
      | none => []
      | some (piece, rest) => piece :: piecesLoop fuel rest

/-- All matches; each takes a character. -/
def pieces (text : List α) : List (List α) := piecesLoop mark text.length text

/-- What a match is, where `rest` follows. -/
structure IsPiece (body run rest : List α) : Prop where
  body_free : ∀ c ∈ body, mark c = false
  marks : ∀ c ∈ run, mark c = true
  run_ne_nil : run ≠ []
  maximal : ∀ c ∈ rest.head?, mark c = false

/-- A text cut at its runs of marks: the pieces that end with one, and the tail without marks. -/
inductive Cut : List α → List (List α) → List α → Prop where
  | tail {text} (free : ∀ c ∈ text, mark c = false) : Cut text [] text
  | piece {body run rest pieces tail} (first : IsPiece mark body run rest) (others : Cut rest pieces tail) :
      Cut (body ++ run ++ rest) ((body ++ run) :: pieces) tail

variable {mark}

theorem nextPiece_of_free {text : List α} (free : ∀ c ∈ text, mark c = false) :
    nextPiece mark text = none := by
  have hdrop : text.dropWhile (fun c => !mark c) = [] := by
    rw [List.dropWhile_eq_nil_iff]
    intro c hc
    rw [free c hc]
    rfl
  unfold nextPiece
  rw [hdrop]
  rfl

theorem nextPiece_of_isPiece {body run rest : List α} (h : IsPiece mark body run rest) :
    nextPiece mark (body ++ run ++ rest) = some (body ++ run, rest) := by
  have hbody : ∀ c ∈ body, (!mark c) = true := by
    intro c hc
    rw [h.body_free c hc]
    rfl
  obtain ⟨m, run', hrun⟩ := List.exists_cons_of_ne_nil h.run_ne_nil
  have hm : ¬ (!mark m) = true := by
    rw [h.marks m (hrun ▸ List.mem_cons_self)]
    exact Bool.false_ne_true
  have htake : (body ++ run ++ rest).takeWhile (fun c => !mark c) = body := by
    rw [List.append_assoc, List.takeWhile_append_of_pos hbody, hrun, List.cons_append,
      List.takeWhile_cons_of_neg (p := fun c => !mark c) hm, List.append_nil]
  have hafter : (body ++ run ++ rest).dropWhile (fun c => !mark c) = run ++ rest := by
    rw [List.append_assoc, List.dropWhile_append_of_pos hbody, hrun, List.cons_append,
      List.dropWhile_cons_of_neg (p := fun c => !mark c) hm]
  -- what follows the run is no mark, so the run is all of them
  have hstop : rest.takeWhile mark = [] ∧ rest.dropWhile mark = rest := by
    cases rest with
    | nil => exact ⟨rfl, rfl⟩
    | cons c rest =>
        have hc : ¬ mark c = true := by
          rw [h.maximal c rfl]
          exact Bool.false_ne_true
        exact ⟨List.takeWhile_cons_of_neg hc, List.dropWhile_cons_of_neg hc⟩
  have hne : (run ++ rest).isEmpty = false := by
    rw [hrun]
    rfl
  unfold nextPiece
  rw [htake, hafter]
  simp only [hne, Bool.false_eq_true, if_false]
  rw [List.takeWhile_append_of_pos h.marks, List.dropWhile_append_of_pos h.marks, hstop.1, hstop.2,
    List.append_nil]

/-- Every text without a match is free of marks, every other starts with a piece. -/
theorem free_or_isPiece (mark : α → Bool) (text : List α) :
    (∀ c ∈ text, mark c = false) ∨
      ∃ body run rest, text = body ++ run ++ rest ∧ IsPiece mark body run rest := by
  by_cases hfree : ∀ c ∈ text, mark c = false
  · exact .inl hfree
  refine .inr ⟨text.takeWhile fun c => !mark c, (text.dropWhile fun c => !mark c).takeWhile mark,
    (text.dropWhile fun c => !mark c).dropWhile mark, ?_, ?_, ?_, ?_, ?_⟩
  · rw [List.append_assoc, List.takeWhile_append_dropWhile, List.takeWhile_append_dropWhile]
  · intro c hc
    have h := List.mem_takeWhile_imp hc
    simpa using h
  · intro c hc
    exact List.mem_takeWhile_imp hc
  · -- the first character that is left is a mark
    intro hrun
    apply hfree
    intro c hc
    cases hafter : text.dropWhile fun c => !mark c with
    | nil => simpa using List.dropWhile_eq_nil_iff.mp hafter c hc
    | cons m rest =>
        have hm := List.head?_dropWhile_not (fun c => !mark c) text
        rw [hafter] at hm hrun
        have hmark : mark m = true := by simpa using hm
        rw [List.takeWhile_cons_of_pos hmark] at hrun
        cases hrun
  · intro c hc
    have h := List.head?_dropWhile_not mark (text.dropWhile fun c => !mark c)
    rw [Option.mem_def.mp hc] at h
    simpa using h

namespace Cut

theorem flatten {text tail : List α} {ps : List (List α)} (h : Cut mark text ps tail) :
    ps.flatten ++ tail = text := by
  induction h with
  | tail free => rfl
  | piece first others ih => rw [List.flatten_cons, List.append_assoc, ih]

/-- Every piece has a mark. -/
theorem exists_mark {text tail : List α} {ps : List (List α)} (h : Cut mark text ps tail) :
    ∀ p ∈ ps, ∃ c ∈ p, mark c = true := by
  induction h with
  | tail free => exact fun _ => (nomatch ·)
  | piece first others ih =>
      refine List.forall_mem_cons.mpr ⟨?_, ih⟩
      obtain ⟨m, run', hrun⟩ := List.exists_cons_of_ne_nil first.run_ne_nil
      have hm := hrun ▸ List.mem_cons_self
      exact ⟨m, List.mem_append_right _ hm, first.marks m hm⟩

/-- The loop finds the pieces. -/
theorem piecesLoop_eq {text tail : List α} {ps : List (List α)} (h : Cut mark text ps tail) :
    ∀ {fuel : Nat}, text.length ≤ fuel → piecesLoop mark fuel text = ps := by
  induction h with
  | tail free =>
      intro fuel _
      cases fuel with
      | zero => rfl
      | succ fuel => simp only [piecesLoop, nextPiece_of_free free]
  | @piece body run rest _ _ first others ih =>
      intro fuel hfuel
      have hrun := List.length_pos_iff.mpr first.run_ne_nil
      have hlength : (body ++ run ++ rest).length = body.length + run.length + rest.length := by
        rw [List.length_append, List.length_append]
      cases fuel with
      | zero => omega
      | succ fuel =>
          have hrest : rest.length ≤ fuel := by omega
          simp only [piecesLoop, nextPiece_of_isPiece first, ih hrest]

/-- **There is one cut.** -/
theorem unique {text tail tail' : List α} {ps ps' : List (List α)} (h : Cut mark text ps tail)
    (h' : Cut mark text ps' tail') : ps = ps' ∧ tail = tail' := by
  have hps : ps = ps' := (h.piecesLoop_eq (le_refl _)).symm.trans (h'.piecesLoop_eq (le_refl _))
  have htext : ps.flatten ++ tail = ps.flatten ++ tail' := by
    rw [h.flatten, hps, h'.flatten]
  exact ⟨hps, List.append_cancel_left htext⟩

end Cut

/-- Every text can be cut. -/
theorem exists_cut (mark : α → Bool) (text : List α) : ∃ ps tail, Cut mark text ps tail := by
  obtain hfree | ⟨body, run, rest, htext, first⟩ := free_or_isPiece mark text
  · exact ⟨[], text, .tail hfree⟩
  · have hrun := List.length_pos_iff.mpr first.run_ne_nil
    have hless : rest.length < text.length := by
      rw [htext, List.length_append, List.length_append]
      omega
    obtain ⟨ps, tail, others⟩ := exists_cut mark rest
    refine ⟨(body ++ run) :: ps, tail, ?_⟩
    rw [htext]
    exact .piece first others
termination_by text.length

theorem pieces_cut (mark : α → Bool) (text : List α) : ∃ tail, Cut mark text (pieces mark text) tail := by
  obtain ⟨ps, tail, h⟩ := exists_cut mark text
  have hps : pieces mark text = ps := h.piecesLoop_eq (le_refl _)
  rw [hps]
  exact ⟨tail, h⟩

/-- **The matches are the pieces of the cut.** -/
theorem pieces_eq_iff {text : List α} {ps : List (List α)} :
    pieces mark text = ps ↔ ∃ tail, Cut mark text ps tail := by
  constructor
  · rintro rfl
    exact pieces_cut mark text
  · rintro ⟨tail, h⟩
    obtain ⟨tail', h'⟩ := pieces_cut mark text
    exact (h'.unique h).1

end Pieces

end Lib.Text
