import Mathlib.Data.List.TakeWhile
import Mathlib.Data.Int.Notation

/-!
# `Lib.Scan` — what a line of text starts with and contains

The first word of a line, the first place of a part of it, and the integer at its start, as `strtol` reads
it in base ten (`readInt_eq_some_iff`).

`choose` goes through a table and takes the first entry that is asked for. An entry that is asked for is taken
iff none in front of it is (`choose_eq_iff`).
-/

namespace Lib.Scan

/-! ## Words -/

section Words

variable {α : Type} (blank : α → Bool)

def firstWord (text : List α) : List α := (text.dropWhile blank).takeWhile fun c => !blank c

def afterFirstWord (text : List α) : List α := (text.dropWhile blank).dropWhile fun c => !blank c

theorem firstWord_infix (text : List α) : firstWord blank text <:+: text :=
  (List.takeWhile_prefix _).isInfix.trans (List.dropWhile_suffix _).isInfix

end Words

/-! ## The first place of a part -/

section Parts

variable {α : Type} [DecidableEq α]

/-- Where the part is found first. -/
def findPart (part : List α) : List α → Option Nat
  | [] => if part = [] then some 0 else none
  | c :: text => if part.isPrefixOf (c :: text) then some 0 else (findPart part text).map (· + 1)

/-- **A part is found**, and ends in the text. -/
theorem findPart_of_infix {part text : List α} (h : part <:+: text) :
    ∃ pos, findPart part text = some pos ∧ pos + part.length ≤ text.length := by
  induction text with
  | nil =>
      obtain rfl := List.infix_nil.mp h
      exact ⟨0, rfl, Nat.le_refl _⟩
  | cons c text ih =>
      unfold findPart
      by_cases hprefix : part.isPrefixOf (c :: text)
      · rw [if_pos hprefix]
        refine ⟨0, rfl, ?_⟩
        rw [Nat.zero_add]
        exact (List.isPrefixOf_iff_prefix.mp hprefix).length_le
      · rw [if_neg hprefix]
        have htext : part <:+: text := by
          rcases List.infix_cons_iff.mp h with hp | hi
          · exact absurd (List.isPrefixOf_iff_prefix.mpr hp) hprefix
          · exact hi
        obtain ⟨pos, hpos, hle⟩ := ih htext
        refine ⟨pos + 1, ?_, ?_⟩
        · rw [hpos]
          rfl
        · rw [List.length_cons]
          omega

end Parts

/-! ## Numbers -/

/-- `isspace` in the C locale. -/
def isSpace (c : Char) : Bool := c == ' ' || (9 ≤ c.toNat && c.toNat ≤ 13)

/-- The number that is written with these digits. -/
def digitsValue (digits : List Char) : Nat := digits.foldl (fun n c => 10 * n + (c.toNat - '0'.toNat)) 0

/-- A sign in front, and what is behind it. -/
def splitSign : List Char → Bool × List Char
  | [] => (false, [])
  | c :: text => if c = '-' then (true, text) else if c = '+' then (false, text) else (false, c :: text)

/-- The integer at the start: spaces, a sign, and all digits that follow; `none` if there is no digit. -/
def readInt (text : List Char) : Option Int :=
  let (negative, unsigned) := splitSign (text.dropWhile isSpace)
  let digits := unsigned.takeWhile Char.isDigit
  if digits.isEmpty then none
  else some (if negative then -(digitsValue digits : Int) else digitsValue digits)

/-- **A text that starts with this integer.** -/
def StartsWithInt (text : List Char) (n : Int) : Prop :=
  ∃ spaces sign digits rest, text = spaces ++ (sign ++ (digits ++ rest)) ∧
    (∀ c ∈ spaces, isSpace c = true) ∧ digits ≠ [] ∧ (∀ c ∈ digits, c.isDigit = true) ∧
    (∀ c ∈ rest.head?, c.isDigit = false) ∧
    ((sign = [] ∨ sign = ['+']) ∧ n = digitsValue digits ∨ sign = ['-'] ∧ n = -(digitsValue digits : Int))

theorem StartsWithInt.ne_nil {text : List Char} {n : Int} (h : StartsWithInt text n) : text ≠ [] := by
  obtain ⟨spaces, sign, digits, rest, rfl, -, hne, -⟩ := h
  intro hnil
  obtain ⟨-, hnil⟩ := List.append_eq_nil_iff.mp hnil
  obtain ⟨-, hnil⟩ := List.append_eq_nil_iff.mp hnil
  exact hne (List.append_eq_nil_iff.mp hnil).1

/-- A run and what stops it. -/
theorem span_append {α : Type} {p : α → Bool} {run rest : List α} (hrun : ∀ c ∈ run, p c = true)
    (hrest : ∀ c ∈ rest.head?, p c = false) :
    (run ++ rest).takeWhile p = run ∧ (run ++ rest).dropWhile p = rest := by
  rw [List.takeWhile_append_of_pos hrun, List.dropWhile_append_of_pos hrun]
  cases rest with
  | nil => exact ⟨List.append_nil _, rfl⟩
  | cons c rest =>
      have hc : ¬ p c = true := by
        rw [hrest c rfl]
        exact Bool.false_ne_true
      rw [List.takeWhile_cons_of_neg hc, List.dropWhile_cons_of_neg hc, List.append_nil]
      exact ⟨rfl, rfl⟩

theorem head?_dropWhile {α : Type} (p : α → Bool) (text : List α) :
    ∀ c ∈ (text.dropWhile p).head?, p c = false := by
  intro c hc
  have h := List.head?_dropWhile_not p text
  rw [Option.mem_def.mp hc] at h
  simpa using h

theorem splitSign_spec (text : List Char) :
    ∃ sign, text = sign ++ (splitSign text).2 ∧
      ((sign = [] ∨ sign = ['+']) ∧ (splitSign text).1 = false ∨
        sign = ['-'] ∧ (splitSign text).1 = true) := by
  cases text with
  | nil => exact ⟨[], rfl, .inl ⟨.inl rfl, rfl⟩⟩
  | cons c text =>
      unfold splitSign
      dsimp only
      by_cases hminus : c = '-'
      · rw [if_pos hminus]
        exact ⟨['-'], by rw [hminus]; rfl, .inr ⟨rfl, rfl⟩⟩
      by_cases hplus : c = '+'
      · rw [if_neg hminus, if_pos hplus]
        exact ⟨['+'], by rw [hplus]; rfl, .inl ⟨.inr rfl, rfl⟩⟩
      · rw [if_neg hminus, if_neg hplus]
        exact ⟨[], rfl, .inl ⟨.inl rfl, rfl⟩⟩

theorem isSpace_of_isDigit {c : Char} (h : c.isDigit = true) : isSpace c = false := by
  have hle : 48 ≤ c.toNat := by
    unfold Char.isDigit at h
    simp only [Bool.and_eq_true, decide_eq_true_eq, ge_iff_le] at h
    exact UInt32.le_iff_toNat_le.mp h.1
  have hne : c ≠ ' ' := by
    rintro rfl
    exact absurd h (by decide)
  unfold isSpace
  rw [beq_eq_false_iff_ne.mpr hne, Bool.false_or, Bool.and_eq_false_iff]
  refine .inr (decide_eq_false ?_)
  omega

theorem splitSign_digit {d : Char} (h : d.isDigit = true) (text : List Char) :
    splitSign (d :: text) = (false, d :: text) := by
  have hminus : d ≠ '-' := by
    rintro rfl
    exact absurd h (by decide)
  have hplus : d ≠ '+' := by
    rintro rfl
    exact absurd h (by decide)
  unfold splitSign
  dsimp only
  rw [if_neg hminus, if_neg hplus]

/-- **What is read** is the integer that the text starts with. -/
theorem readInt_eq_some_iff (text : List Char) (n : Int) : readInt text = some n ↔ StartsWithInt text n := by
  constructor
  · intro h
    obtain ⟨sign, hsign, hvalue⟩ := splitSign_spec (text.dropWhile isSpace)
    unfold readInt at h
    dsimp only at h
    split at h
    · cases h
    · rename_i hdigits
      refine ⟨text.takeWhile isSpace, sign, _, (splitSign (text.dropWhile isSpace)).2.dropWhile Char.isDigit,
        ?_, fun c hc => List.mem_takeWhile_imp hc, fun hnil => hdigits (List.isEmpty_iff.mpr hnil),
        fun c hc => List.mem_takeWhile_imp hc, head?_dropWhile _ _, ?_⟩
      · rw [List.takeWhile_append_dropWhile, ← hsign, List.takeWhile_append_dropWhile]
      · rcases hvalue with ⟨hform, hsigned⟩ | ⟨hform, hsigned⟩
        · rw [hsigned] at h
          exact .inl ⟨hform, (Option.some.inj h).symm⟩
        · rw [hsigned] at h
          exact .inr ⟨hform, (Option.some.inj h).symm⟩
  · rintro ⟨spaces, sign, digits, rest, rfl, hspaces, hne, hdigits, hrest, hvalue⟩
    obtain ⟨htake, -⟩ := span_append hdigits hrest
    -- neither a sign nor a digit is a space, so the spaces end where they are said to
    obtain ⟨d, more, hcons⟩ := List.exists_cons_of_ne_nil hne
    have hd : d.isDigit = true := hdigits d (hcons ▸ List.mem_cons_self)
    have hsigned : ∀ c ∈ (sign ++ (digits ++ rest)).head?, isSpace c = false := by
      rw [hcons]
      rcases hvalue with ⟨rfl | rfl, -⟩ | ⟨rfl, -⟩
      · rintro c ⟨⟩
        exact isSpace_of_isDigit hd
      · rintro c ⟨⟩
        rfl
      · rintro c ⟨⟩
        rfl
    have hread : ∀ negative, splitSign (sign ++ (digits ++ rest)) = (negative, digits ++ rest) →
        readInt (spaces ++ (sign ++ (digits ++ rest))) =
          some (if negative then -(digitsValue digits : Int) else digitsValue digits) := by
      intro negative hsplit
      unfold readInt
      rw [(span_append hspaces hsigned).2, hsplit]
      dsimp only
      rw [htake, if_neg fun hempty => hne (List.isEmpty_iff.mp hempty)]
    rcases hvalue with ⟨rfl | rfl, rfl⟩ | ⟨rfl, rfl⟩
    · refine hread false ?_
      rw [hcons]
      exact splitSign_digit hd _
    · exact hread false rfl
    · exact hread true rfl

/-! ## The first entry that is asked for -/

section Choice

variable {κ β : Type}

/-- The value of the first entry that is asked for. -/
def choose (asked : κ → Bool) (otherwise : β) : List (κ × β) → β
  | [] => otherwise
  | entry :: table => if asked entry.1 then entry.2 else choose asked otherwise table

/-- **An entry that is asked for** is chosen iff no entry in front of it is asked for. -/
theorem choose_eq_iff [DecidableEq κ] [DecidableEq β] {asked : κ → Bool} {otherwise : β}
    {table : List (κ × β)} {entry : κ × β} (hasked : asked entry.1 = true) (hmem : entry ∈ table)
    (hnodup : (table.map Prod.snd).Nodup) : choose asked otherwise table = entry.2 ↔
      ∀ earlier ∈ table.takeWhile fun e => e ≠ entry, asked earlier.1 = false := by
  induction table with
  | nil => exact absurd hmem List.not_mem_nil
  | cons first table ih =>
      obtain ⟨hfirst, hnodup⟩ := List.nodup_cons.mp hnodup
      unfold choose
      by_cases heq : first = entry
      · -- nothing is in front of it
        rw [heq, if_pos hasked, List.takeWhile_cons_of_neg (by simp)]
        exact iff_of_true rfl (List.forall_mem_nil _)
      · have hmem : entry ∈ table := (List.mem_cons.mp hmem).resolve_left fun h => heq h.symm
        have hne : first.2 ≠ entry.2 := fun h => hfirst (h ▸ List.mem_map_of_mem hmem)
        rw [List.takeWhile_cons_of_pos (by simpa using heq), List.forall_mem_cons, ← ih hmem hnodup]
        cases hasked : asked first.1 with
        | true => exact ⟨fun h => absurd h hne, fun h => (nomatch h.1)⟩
        | false => exact ⟨fun h => ⟨rfl, h⟩, And.right⟩

end Choice

end Lib.Scan
