import Mathlib.Data.List.Basic
import Mathlib.Data.List.Induction
import Mathlib.Data.List.TakeWhile

/-!
# `Lib.Shell` — the words of a command line

`words` reads a line as a POSIX shell does, up to where the words come from elsewhere: quotes and
backslashes are removed, blanks end a word, and a comment is dropped. A line with an operator, or with the
start of an expansion or of a pattern, has no words here, for it is more than one simple command or its words
depend on more than the line. (A first word that is reserved or assigns a variable is not told apart.)

A line is put together from words by blanks, and it is read as these words iff each of them `IsWord`: the
reader never adds a character, so it has dropped none (`words_joined_iff`). The same holds if the line goes
through a C string, which ends at the first NUL (`words_upToNul_iff`).
-/

namespace Lib.Shell

/-! ## Reading a line -/

/-- What a character is outside of quotes. -/
inductive Kind where
  | blank
  | singleQuote
  | doubleQuote
  | backslash
  /-- Of an operator, the start of an expansion or of a pattern, or NUL, which no line has. -/
  | special
  | plain
deriving DecidableEq

def operators : List Char := [';', '&', '|', '\n', '<', '>', '(', ')']

/-- The dollar sign and the backquote. -/
def expansions : List Char := ['$', Char.ofNat 0x60]

def patterns : List Char := ['*', '?', '[']

def kind (c : Char) : Kind :=
  if c = ' ' ∨ c = '\t' then .blank
  else if c.toNat = 0x27 then .singleQuote
  else if c.toNat = 0x22 then .doubleQuote
  else if c = '\\' then .backslash
  else if c.toNat = 0 ∨ c ∈ operators ∨ c ∈ expansions ∨ c ∈ patterns then .special
  else .plain

/-- Where the reader is; `escape` and `doubleEscape` are behind a backslash. -/
inductive Mode where
  | unquoted
  | escape
  | single
  | double
  | doubleEscape
  | comment
deriving DecidableEq

structure Reader where
  mode : Mode
  /-- The words that have ended. -/
  ended : List (List Char)
  /-- The word that has begun. -/
  word : Option (List Char)

namespace Reader

def start : Reader where
  mode := .unquoted
  ended := []
  word := none

def add (r : Reader) (c : Char) : Reader := { r with word := some (r.word.getD [] ++ [c]) }

/-- A quote begins a word, also an empty one. -/
def begin (r : Reader) : Reader := { r with word := some (r.word.getD []) }

/-- A blank ends the word, if there is one. -/
def finishWord (r : Reader) : Reader := { r with ended := r.ended ++ r.word.toList, word := none }

def enter (r : Reader) (mode : Mode) : Reader := { r with mode := mode }

/-- One character; `none` if the line has no words. -/
def step (r : Reader) (c : Char) : Option Reader :=
  match r.mode with
  | .unquoted =>
      match kind c with
      | .blank => some r.finishWord
      | .singleQuote => some (r.begin.enter .single)
      | .doubleQuote => some (r.begin.enter .double)
      | .backslash => some (r.enter .escape)
      | .special => none
      | .plain =>
          if r.word = none ∧ c = '#' then some (r.enter .comment)
          -- the name of a home directory
          else if r.word = none ∧ c = '~' then none
          else some (r.add c)
  | .escape => if c = '\n' then some (r.enter .unquoted) else some ((r.add c).enter .unquoted)
  | .single => if kind c = .singleQuote then some (r.enter .unquoted) else some (r.add c)
  | .double =>
      if kind c = .doubleQuote then some (r.enter .unquoted)
      else if kind c = .backslash then some (r.enter .doubleEscape)
      -- also in double quotes
      else if c ∈ expansions then none
      else some (r.add c)
  | .doubleEscape =>
      if c = '\n' then some (r.enter .double)
      else if c ∈ expansions ∨ kind c = .doubleQuote ∨ kind c = .backslash then some ((r.add c).enter .double)
      -- before any other character the backslash stands for itself
      else some (((r.add '\\').add c).enter .double)
  | .comment => if c = '\n' then none else some r

/-- The words at the end of the line, unless a quote is open. -/
def result (r : Reader) : Option (List (List Char)) :=
  match r.mode with
  | .unquoted | .comment => some (r.ended ++ r.word.toList)
  | .escape | .single | .double | .doubleEscape => none

end Reader

open Reader

/-- **The words of a line** that is one simple command without expansions. -/
def words (line : List Char) : Option (List (List Char)) := (line.foldlM step start).bind result

/-- A word that stands for itself. -/
def IsWord (w : List Char) : Prop :=
  w ≠ [] ∧ (∀ c ∈ w, kind c = .plain) ∧ w.head? ≠ some '#' ∧ w.head? ≠ some '~'

instance : DecidablePred IsWord := fun w =>
  have : Decidable (∀ c ∈ w, kind c = .plain) := List.decidableBAll (fun c => kind c = .plain) w
  inferInstanceAs (Decidable (w ≠ [] ∧ (∀ c ∈ w, kind c = .plain) ∧ w.head? ≠ some '#' ∧ w.head? ≠ some '~'))

/-- Words put together by blanks. -/
def joined (ws : List (List Char)) : List Char := [' '].intercalate ws

theorem joined_singleton (w : List Char) : joined [w] = w := List.intercalate_singleton

theorem joined_cons_cons (w w' : List Char) (ws : List (List Char)) :
    joined (w :: w' :: ws) = w ++ [' '] ++ joined (w' :: ws) :=
  List.intercalate_cons_cons

/-- What a function that takes a C string sees of a string. -/
def upToNul (s : List Char) : List Char := s.takeWhile fun c => c.toNat != 0

/-! ## What is dropped -/

/-- The characters of words, with one blank for each. -/
def size : List (List Char) → Nat
  | [] => 0
  | w :: ws => w.length + 1 + size ws

theorem size_append (ws ws' : List (List Char)) : size (ws ++ ws') = size ws + size ws' := by
  induction ws with
  | nil => exact (Nat.zero_add _).symm
  | cons w ws ih =>
      show w.length + 1 + size (ws ++ ws') = w.length + 1 + size ws + size ws'
      rw [ih, Nat.add_assoc (w.length + 1)]

theorem size_joined {ws : List (List Char)} (h : ws ≠ []) : size ws = (joined ws).length + 1 := by
  induction ws with
  | nil => exact absurd rfl h
  | cons w ws ih =>
      cases ws with
      | nil =>
          rw [joined_singleton]
          rfl
      | cons w' ws =>
          have hsize : size (w :: w' :: ws) = w.length + 1 + size (w' :: ws) := rfl
          rw [hsize, joined_cons_cons, ih (List.cons_ne_nil _ _), List.length_append, List.length_append,
            List.length_singleton]
          omega

namespace Reader

/-- The characters in the words, with one blank for each word that has ended. -/
def held (r : Reader) : Nat := size r.ended + (r.word.getD []).length

/-- A backslash that is in no word yet. -/
def pending : Mode → Nat
  | .doubleEscape => 1
  | _ => 0

/-- What the reader has kept of the characters that it was given. -/
def kept (r : Reader) : Nat := r.held + pending r.mode

theorem held_add (r : Reader) (c : Char) : (r.add c).held = r.held + 1 := by
  unfold held add
  rw [Option.getD_some, List.length_append, List.length_singleton]
  rfl

theorem held_le_kept (r : Reader) : r.held ≤ r.kept := Nat.le_add_right _ _

theorem kept_add (r : Reader) (c : Char) : (r.add c).kept = r.kept + 1 := by
  show (r.add c).held + pending r.mode = r.held + pending r.mode + 1
  rw [held_add, Nat.succ_add]

theorem length_word_le (r : Reader) : r.word.toList.length ≤ 1 := by
  cases r.word with
  | none => exact Nat.zero_le 1
  | some w => exact Nat.le_refl 1

theorem held_finishWord (r : Reader) : r.finishWord.held = r.held + r.word.toList.length := by
  unfold held finishWord
  rw [size_append, Option.getD_none, List.length_nil]
  cases r.word <;> rfl

/-- The reader has dropped nothing but one blank behind each word. -/
structure Verbatim (r : Reader) : Prop where
  mode : r.mode = .unquoted
  ended : ∀ w ∈ r.ended, IsWord w
  word : ∀ w, r.word = some w → IsWord w

/-- **A character outside of quotes** ends a word, goes into it, or is dropped. -/
theorem step_unquoted {r r' : Reader} {c : Char} (hmode : r.mode = .unquoted) (h : r.step c = some r') :
    r' = r.finishWord ∨
      (r' = r.add c ∧ kind c = .plain ∧ (r.word = none → c ≠ '#' ∧ c ≠ '~')) ∨ r'.kept = r.held := by
  unfold step at h
  rw [hmode] at h
  dsimp only at h
  cases hkind : kind c with
  | blank =>
      rw [hkind] at h
      exact .inl (Option.some.inj h).symm
  | singleQuote | doubleQuote | backslash =>
      rw [hkind] at h
      cases h
      exact .inr (.inr rfl)
  | special =>
      rw [hkind] at h
      cases h
  | plain =>
      rw [hkind] at h
      dsimp only at h
      by_cases hcomment : r.word = none ∧ c = '#'
      · rw [if_pos hcomment] at h
        cases h
        exact .inr (.inr rfl)
      by_cases hhome : r.word = none ∧ c = '~'
      · rw [if_neg hcomment, if_pos hhome] at h
        cases h
      · rw [if_neg hcomment, if_neg hhome] at h
        cases h
        refine .inr (.inl ⟨rfl, rfl, fun hword => ⟨fun hc => ?_, fun hc => ?_⟩⟩)
        · exact hcomment ⟨hword, hc⟩
        · exact hhome ⟨hword, hc⟩

/-- **A character adds one character at most.** -/
theorem kept_step {r r' : Reader} {c : Char} (h : r.step c = some r') : r'.kept ≤ r.kept + 1 := by
  have hunquoted := fun hmode => step_unquoted hmode h
  have hheld := held_le_kept r
  have hadd : (r.add c).held ≤ r.kept + 1 := by
    rw [held_add]
    exact Nat.succ_le_succ hheld
  unfold step at h
  cases hmode : r.mode with
  | unquoted =>
      rcases hunquoted hmode with rfl | ⟨rfl, -, -⟩ | hkept
      · have hword := length_word_le r
        show r.finishWord.held + pending r.mode ≤ r.held + pending r.mode + 1
        rw [held_finishWord]
        omega
      · exact Nat.le_of_eq (kept_add r c)
      · exact Nat.le_succ_of_le (Nat.le_trans (Nat.le_of_eq hkept) hheld)
  | escape =>
      rw [hmode] at h
      dsimp only at h
      split at h
      · cases h
        exact Nat.le_succ_of_le hheld
      · cases h
        exact hadd
  | single =>
      rw [hmode] at h
      dsimp only at h
      split at h
      · cases h
        exact Nat.le_succ_of_le hheld
      · cases h
        exact Nat.le_of_eq (kept_add r c)
  | double =>
      rw [hmode] at h
      dsimp only at h
      split at h
      · cases h
        exact Nat.le_succ_of_le hheld
      split at h
      · cases h
        exact Nat.succ_le_succ hheld
      split at h
      · cases h
      · cases h
        exact Nat.le_of_eq (kept_add r c)
  | doubleEscape =>
      rw [hmode] at h
      dsimp only at h
      split at h
      · cases h
        exact Nat.le_succ_of_le hheld
      split at h
      · cases h
        exact hadd
      · -- the pending backslash goes into the word now
        cases h
        show ((r.add '\\').add c).held ≤ r.held + pending r.mode + 1
        rw [held_add, held_add, hmode]
        exact Nat.le_refl _
  | comment =>
      rw [hmode] at h
      dsimp only at h
      split at h
      · cases h
      · cases h
        exact Nat.le_succ _

theorem verbatim_add {r : Reader} (h : r.Verbatim) {c : Char} (hplain : kind c = .plain)
    (hfirst : r.word = none → c ≠ '#' ∧ c ≠ '~') : (r.add c).Verbatim where
  mode := h.mode
  ended := h.ended
  word := by
    rintro w hw
    obtain rfl := Option.some.inj hw
    cases hword : r.word with
    | none =>
        obtain ⟨hcomment, hhome⟩ := hfirst hword
        refine ⟨List.cons_ne_nil _ _, ?_, ?_, ?_⟩
        · exact List.forall_mem_singleton.mpr hplain
        · exact fun heq => hcomment (Option.some.inj heq)
        · exact fun heq => hhome (Option.some.inj heq)
    | some v =>
        obtain ⟨hne, hall, hcomment, hhome⟩ := h.word v hword
        obtain ⟨first, rest, rfl⟩ := List.exists_cons_of_ne_nil hne
        exact ⟨List.cons_ne_nil _ _, List.forall_mem_append.mpr ⟨hall, List.forall_mem_singleton.mpr hplain⟩,
          hcomment, hhome⟩

theorem verbatim_finishWord {r : Reader} (h : r.Verbatim) : r.finishWord.Verbatim where
  mode := h.mode
  ended := by
    refine List.forall_mem_append.mpr ⟨h.ended, fun w hw => h.word w ?_⟩
    exact Option.mem_toList.mp hw
  word := fun _ hw => (nomatch hw)

/-- **Verbatim so far**: the reader stays so, or drops the character. -/
theorem verbatim_step {r r' : Reader} {c : Char} (hr : r.Verbatim) (h : r.step c = some r') :
    r'.Verbatim ∨ r'.kept ≤ r.kept := by
  rcases step_unquoted hr.mode h with rfl | ⟨rfl, hplain, hfirst⟩ | hkept
  · exact .inl (verbatim_finishWord hr)
  · exact .inl (verbatim_add hr hplain hfirst)
  · exact .inr (Nat.le_trans (Nat.le_of_eq hkept) (held_le_kept r))

/-- **What has been read** is no less than what is kept, and more unless it is kept verbatim. -/
theorem read_spec {line : List Char} {r : Reader} (h : line.foldlM step start = some r) :
    r.kept ≤ line.length ∧ (r.kept = line.length → r.Verbatim) := by
  induction line using List.reverseRecOn generalizing r with
  | nil =>
      cases h
      exact ⟨Nat.le_refl _, fun _ => ⟨rfl, List.forall_mem_nil _, fun _ hw => (nomatch hw)⟩⟩
  | append_singleton line c ih =>
      rw [List.foldlM_append] at h
      obtain ⟨r', hr', hstep⟩ := Option.bind_eq_some_iff.mp h
      have hstep : r'.step c = some r := by
        rw [List.foldlM_cons] at hstep
        obtain ⟨_, hstep, heq⟩ := Option.bind_eq_some_iff.mp hstep
        cases heq
        exact hstep
      obtain ⟨hle, hverbatim⟩ := ih hr'
      -- what was dropped once is not made up for: a character adds one at most
      have hone := kept_step hstep
      rw [List.length_append, List.length_singleton]
      refine ⟨Nat.le_trans hone (Nat.succ_le_succ hle), fun heq => ?_⟩
      have hfull : r'.kept = line.length := by omega
      exact (verbatim_step (hverbatim hfull) hstep).resolve_right (by omega)

end Reader

/-- **The words of a line** are no longer than the line with a blank behind it, and shorter unless each word
    stands for itself. -/
theorem words_spec {line : List Char} {ws : List (List Char)} (h : words line = some ws) :
    size ws ≤ line.length + 1 ∧ (size ws = line.length + 1 → ∀ w ∈ ws, IsWord w) := by
  obtain ⟨r, hread, hresult⟩ := Option.bind_eq_some_iff.mp h
  obtain ⟨hle, hverbatim⟩ := read_spec hread
  have hws : ws = r.ended ++ r.word.toList := by
    unfold result at hresult
    split at hresult
    · exact (Option.some.inj hresult).symm
    · exact (Option.some.inj hresult).symm
    all_goals cases hresult
  -- the end of the line ends a word as a blank does
  have hsize : size ws = r.held + r.word.toList.length := by
    rw [hws, ← held_finishWord]
    rfl
  have hone := length_word_le r
  have hkept := held_le_kept r
  refine ⟨by omega, fun heq => ?_⟩
  have hr := verbatim_finishWord (hverbatim (by omega))
  rw [hws]
  exact hr.ended

/-! ## Words put together -/

theorem foldlM_plain {ended : List (List Char)} {cs : List Char} (hplain : ∀ c ∈ cs, kind c = .plain)
    (w : List Char) :
    cs.foldlM step ⟨.unquoted, ended, some w⟩ = some ⟨.unquoted, ended, some (w ++ cs)⟩ := by
  induction cs generalizing w with
  | nil =>
      rw [List.append_nil]
      rfl
  | cons c cs ih =>
      obtain ⟨hc, hcs⟩ := List.forall_mem_cons.mp hplain
      have hstep : step ⟨.unquoted, ended, some w⟩ c = some ⟨.unquoted, ended, some (w ++ [c])⟩ := by
        unfold step
        dsimp only
        rw [hc]
        rfl
      rw [List.foldlM_cons, hstep]
      have hrest := ih hcs (w ++ [c])
      rw [List.append_assoc] at hrest
      exact hrest

/-- A word is read as it stands. -/
theorem foldlM_word {ended : List (List Char)} {w : List Char} (hw : IsWord w) :
    w.foldlM step ⟨.unquoted, ended, none⟩ = some ⟨.unquoted, ended, some w⟩ := by
  obtain ⟨hne, hplain, hcomment, hhome⟩ := hw
  obtain ⟨c, cs, rfl⟩ := List.exists_cons_of_ne_nil hne
  obtain ⟨hc, hcs⟩ := List.forall_mem_cons.mp hplain
  have hstep : step ⟨.unquoted, ended, none⟩ c = some ⟨.unquoted, ended, some [c]⟩ := by
    have hnot : ∀ d, some c ≠ some d → ¬ ((none : Option (List Char)) = none ∧ c = d) :=
      fun d hd h => hd (congrArg some h.2)
    unfold step
    dsimp only
    rw [hc]
    dsimp only
    rw [if_neg (hnot _ hcomment), if_neg (hnot _ hhome)]
    rfl
  rw [List.foldlM_cons, hstep]
  exact foldlM_plain hcs [c]

theorem foldlM_joined {ws : List (List Char)} (hws : ∀ w ∈ ws, IsWord w) (ended : List (List Char)) :
    ((joined ws).foldlM step ⟨.unquoted, ended, none⟩).bind result = some (ended ++ ws) := by
  induction ws generalizing ended with
  | nil => rfl
  | cons w ws ih =>
      obtain ⟨hw, hws⟩ := List.forall_mem_cons.mp hws
      cases ws with
      | nil =>
          rw [joined_singleton, foldlM_word hw]
          rfl
      | cons w' ws =>
          rw [joined_cons_cons, List.append_assoc, List.foldlM_append, foldlM_word hw]
          have hrest := ih hws (ended ++ [w])
          rw [List.append_assoc] at hrest
          exact hrest

/-- A line no longer than its words put together. -/
theorem isWord_of_length_le {line : List Char} {ws : List (List Char)} (h : words line = some ws)
    (hle : line.length ≤ (joined ws).length) : ∀ w ∈ ws, IsWord w := by
  cases ws with
  | nil => exact List.forall_mem_nil _
  | cons w ws =>
      obtain ⟨hsize, hall⟩ := words_spec h
      have hjoined := size_joined (List.cons_ne_nil w ws)
      exact hall (by omega)

/-- **The words of words put together** are these words, iff each stands for itself. -/
theorem words_joined_iff (ws : List (List Char)) :
    words (joined ws) = some ws ↔ ∀ w ∈ ws, IsWord w := by
  exact ⟨fun h => isWord_of_length_le h (Nat.le_refl _), fun hws => foldlM_joined hws []⟩

/-! ## Through a C string -/

theorem length_upToNul_le (s : List Char) : (upToNul s).length ≤ s.length :=
  (List.takeWhile_prefix _).length_le

theorem upToNul_eq {s : List Char} (h : ∀ c ∈ s, kind c ≠ .special) : upToNul s = s := by
  refine List.takeWhile_eq_self_iff.mpr fun c hc => bne_iff_ne.mpr fun hzero => h c hc ?_
  have hchar : c = Char.ofNat 0 := by rw [← hzero, Char.ofNat_toNat]
  rw [hchar]
  decide

theorem not_special_of_mem_joined {ws : List (List Char)} (hws : ∀ w ∈ ws, IsWord w) :
    ∀ c ∈ joined ws, kind c ≠ .special := by
  have hword : ∀ w, IsWord w → ∀ c ∈ w, kind c ≠ .special := by
    intro w hw c hc hspecial
    rw [hw.2.1 c hc] at hspecial
    cases hspecial
  induction ws with
  | nil => exact List.forall_mem_nil _
  | cons w ws ih =>
      obtain ⟨hw, hws⟩ := List.forall_mem_cons.mp hws
      cases ws with
      | nil =>
          rw [joined_singleton]
          exact hword w hw
      | cons w' ws =>
          rw [joined_cons_cons]
          refine List.forall_mem_append.mpr ⟨List.forall_mem_append.mpr ⟨hword w hw, ?_⟩, ih hws⟩
          exact List.forall_mem_singleton.mpr (by decide)

/-- **The same through a C string.** -/
theorem words_upToNul_iff (ws : List (List Char)) :
    words (upToNul (joined ws)) = some ws ↔ ∀ w ∈ ws, IsWord w := by
  constructor
  · exact fun h => isWord_of_length_le h (length_upToNul_le _)
  · intro hws
    rw [upToNul_eq (not_special_of_mem_joined hws)]
    exact (words_joined_iff ws).mpr hws

end Lib.Shell
