import Kufibot.Lib.Json
import Mathlib.Data.List.Basic
import Mathlib.Tactic.IntervalCases
import Mathlib.Tactic.SplitIfs

/-!
# `Lib.JsonText` — JSON text as Python writes it

`json.dumps(value, ensure_ascii=False)` and its UTF-8 bytes. How a float is written is a parameter: nothing
here depends on it as long as it is written without control characters.

A JSON text has no control characters (`printable_chars`), so its bytes have no zero, and it is at least as
long as each of its members (`length_chars_le`).
-/

namespace Lib

/-- The UTF-8 bytes of a list of characters. -/
def encode (cs : List Char) : List UInt8 := cs.flatMap String.utf8EncodeChar

/-- `text.encode("utf-8")`. -/
def utf8 (text : String) : List UInt8 := encode text.toList

/-- No control characters. -/
def Printable (cs : List Char) : Prop := ∀ c ∈ cs, 0x20 ≤ c.toNat

instance (cs : List Char) : Decidable (Printable cs) :=
  List.decidableBAll (fun c : Char => 0x20 ≤ c.toNat) cs

namespace Json

/-- What a character of a string becomes. -/
def escapeChar (c : Char) : List Char :=
  if c = '\\' then ['\\', '\\']
  else if c.toNat = 0x22 then ['\\', c]
  else if c.toNat = 0x08 then ['\\', 'b']
  else if c.toNat = 0x0c then ['\\', 'f']
  else if c = '\n' then ['\\', 'n']
  else if c = '\r' then ['\\', 'r']
  else if c = '\t' then ['\\', 't']
  else if c.toNat < 0x20 then
    ['\\', 'u', '0', '0', Nat.digitChar (c.toNat / 16), Nat.digitChar (c.toNat % 16)]
  else [c]

def quote (cs : List Char) : List Char := "\"".toList ++ cs.flatMap escapeChar ++ "\"".toList

section Writer

variable (repr : ℚ → String)

mutual

def chars : Json → List Char
  | .null => "null".toList
  | .bool true => "true".toList
  | .bool false => "false".toList
  | .int n => (toString n).toList
  | .float q => (repr q).toList
  | .string s => quote s.toList
  | .array items => "[".toList ++ itemChars items ++ "]".toList
  | .object members => "\x7b".toList ++ memberChars members ++ "\x7d".toList

def itemChars : List Json → List Char
  | [] => []
  | [item] => chars item
  | item :: items => chars item ++ ", ".toList ++ itemChars items

def memberChars : List (String × Json) → List Char
  | [] => []
  | [(key, value)] => quote key.toList ++ ": ".toList ++ chars value
  | (key, value) :: members =>
      quote key.toList ++ ": ".toList ++ chars value ++ ", ".toList ++ memberChars members

end

theorem chars_string (s : String) : chars repr (.string s) = quote s.toList := rfl

theorem chars_object (members : List (String × Json)) :
    chars repr (.object members) = "\x7b".toList ++ memberChars repr members ++ "\x7d".toList := rfl

theorem memberChars_singleton (key : String) (value : Json) :
    memberChars repr [(key, value)] = quote key.toList ++ ": ".toList ++ chars repr value := rfl

theorem memberChars_cons_cons (member next : String × Json) (members : List (String × Json)) :
    memberChars repr (member :: next :: members) =
      memberChars repr [member] ++ ", ".toList ++ memberChars repr (next :: members) := rfl

/-- `json.dumps(value, ensure_ascii=False)`. -/
def dumps (j : Json) : String := String.ofList (chars repr j)

example : chars (fun _ => "0.5") (.object [("a\n", .int (-12)), ("b", .array [.null, .float (1 / 2)])]) =
    "\x7b\"a\\n\": -12, \"b\": [null, 0.5]\x7d".toList := by decide

/-! ## No control characters -/

theorem printable_append {cs ds : List Char} (hcs : Printable cs) (hds : Printable ds) :
    Printable (cs ++ ds) := by
  intro c hc
  rcases List.mem_append.mp hc with hc | hc
  · exact hcs c hc
  · exact hds c hc

theorem printable_nat (n : Nat) : Printable n.repr.toList := by
  intro c hc
  rw [Nat.toList_repr] at hc
  have hdigit := Nat.isDigit_of_mem_toDigits (by decide) (by decide) hc
  simp only [Char.isDigit, Bool.and_eq_true, decide_eq_true_eq, ge_iff_le] at hdigit
  have hzero : '0'.val ≤ c.val := hdigit.1
  have hle : '0'.val.toNat ≤ c.val.toNat := hzero
  exact Nat.le_trans (by decide) hle

theorem printable_int (n : Int) : Printable (toString n).toList := by
  cases n with
  | ofNat n => exact printable_nat n
  | negSucc n =>
      show Printable ("-" ++ (n + 1).repr).toList
      rw [String.toList_append]
      exact printable_append (by decide) (printable_nat _)

theorem le_digitChar {n : Nat} (h : n < 16) : 0x20 ≤ (Nat.digitChar n).toNat := by
  interval_cases n <;> decide

/-- **An escaped character** is a pair, the code of a control character, or the character itself. -/
theorem escapeChar_cases (c : Char) :
    (∃ e : Char, 0x20 ≤ e.toNat ∧ escapeChar c = ['\\', e]) ∨
      (c.toNat < 0x20 ∧ escapeChar c =
        ['\\', 'u', '0', '0', Nat.digitChar (c.toNat / 16), Nat.digitChar (c.toNat % 16)]) ∨
      0x20 ≤ c.toNat ∧ escapeChar c = [c] := by
  unfold escapeChar
  by_cases hbackslash : c = '\\'
  · rw [if_pos hbackslash]
    exact .inl ⟨_, by decide, rfl⟩
  rw [if_neg hbackslash]
  by_cases hquote : c.toNat = 0x22
  · rw [if_pos hquote]
    exact .inl ⟨_, by omega, rfl⟩
  rw [if_neg hquote]
  by_cases hb : c.toNat = 0x08
  · rw [if_pos hb]
    exact .inl ⟨_, by decide, rfl⟩
  rw [if_neg hb]
  by_cases hf : c.toNat = 0x0c
  · rw [if_pos hf]
    exact .inl ⟨_, by decide, rfl⟩
  rw [if_neg hf]
  by_cases hn : c = '\n'
  · rw [if_pos hn]
    exact .inl ⟨_, by decide, rfl⟩
  rw [if_neg hn]
  by_cases hr : c = '\r'
  · rw [if_pos hr]
    exact .inl ⟨_, by decide, rfl⟩
  rw [if_neg hr]
  by_cases ht : c = '\t'
  · rw [if_pos ht]
    exact .inl ⟨_, by decide, rfl⟩
  rw [if_neg ht]
  by_cases hcontrol : c.toNat < 0x20
  · rw [if_pos hcontrol]
    exact .inr (.inl ⟨hcontrol, rfl⟩)
  · rw [if_neg hcontrol]
    exact .inr (.inr ⟨Nat.le_of_not_lt hcontrol, rfl⟩)

theorem printable_escapeChar (c : Char) : Printable (escapeChar c) := by
  intro d hd
  rcases escapeChar_cases c with ⟨e, he, heq⟩ | ⟨hcontrol, heq⟩ | ⟨hc, heq⟩
  · rw [heq] at hd
    rcases List.mem_cons.mp hd with rfl | hd
    · decide
    · rw [List.mem_singleton.mp hd]
      exact he
  · rw [heq] at hd
    simp only [List.mem_cons, List.not_mem_nil, or_false] at hd
    rcases hd with rfl | rfl | rfl | rfl | rfl | rfl
    · decide
    · decide
    · decide
    · decide
    · exact le_digitChar (by omega)
    · exact le_digitChar (by omega)
  · rw [heq] at hd
    rw [List.mem_singleton.mp hd]
    exact hc

theorem printable_quote (cs : List Char) : Printable (quote cs) := by
  refine printable_append (printable_append (by decide) fun d hd => ?_) (by decide)
  obtain ⟨c, -, hd⟩ := List.mem_flatMap.mp hd
  exact printable_escapeChar c d hd

variable {repr}

mutual

/-- **A JSON text has no control characters.** -/
theorem printable_chars (hrepr : ∀ q, Printable (repr q).toList) (j : Json) :
    Printable (chars repr j) := by
  cases j with
  | null => exact (by decide : Printable "null".toList)
  | bool b =>
      cases b with
      | false => exact (by decide : Printable "false".toList)
      | true => exact (by decide : Printable "true".toList)
  | int n => exact printable_int n
  | float q => exact hrepr q
  | string s => exact printable_quote s.toList
  | array items =>
      exact printable_append (printable_append (by decide) (printable_itemChars hrepr items)) (by decide)
  | object members =>
      exact printable_append (printable_append (by decide) (printable_memberChars hrepr members))
        (by decide)

theorem printable_itemChars (hrepr : ∀ q, Printable (repr q).toList) (items : List Json) :
    Printable (itemChars repr items) := by
  match items with
  | [] => exact (by decide : Printable [])
  | [item] => exact printable_chars hrepr item
  | item :: next :: items =>
      exact printable_append (printable_append (printable_chars hrepr item) (by decide))
        (printable_itemChars hrepr (next :: items))

theorem printable_memberChars (hrepr : ∀ q, Printable (repr q).toList) (members : List (String × Json)) :
    Printable (memberChars repr members) := by
  match members with
  | [] => exact (by decide : Printable [])
  | [(key, value)] =>
      exact printable_append (printable_append (printable_quote key.toList) (by decide))
        (printable_chars hrepr value)
  | (key, value) :: next :: members =>
      have hmember : Printable (quote key.toList ++ ": ".toList ++ chars repr value) :=
        printable_append (printable_append (printable_quote key.toList) (by decide))
          (printable_chars hrepr value)
      exact printable_append (printable_append hmember (by decide))
        (printable_memberChars hrepr (next :: members))

end

variable (repr)

/-- The text of an object begins with its first key. -/
theorem chars_object_cons (key : String) (value : Json) (members : List (String × Json)) :
    ∃ rest, chars repr (.object ((key, value) :: members)) = "\x7b".toList ++ quote key.toList ++ rest := by
  match members with
  | [] =>
      refine ⟨": ".toList ++ chars repr value ++ "\x7d".toList, ?_⟩
      rw [chars_object, memberChars_singleton]
      simp only [List.append_assoc]
  | next :: members =>
      refine ⟨": ".toList ++ chars repr value ++ ", ".toList ++ memberChars repr (next :: members) ++
        "\x7d".toList, ?_⟩
      rw [chars_object, memberChars_cons_cons, memberChars_singleton]
      simp only [List.append_assoc]

/-! ## Length -/

theorem length_quote_le (cs : List Char) : cs.length ≤ (quote cs).length := by
  have hescape : cs.length ≤ (cs.flatMap escapeChar).length := by
    induction cs with
    | nil => exact Nat.le_refl _
    | cons c cs ih =>
        have hchar : 1 ≤ (escapeChar c).length := by
          rcases escapeChar_cases c with ⟨e, -, heq⟩ | ⟨-, heq⟩ | ⟨-, heq⟩
          all_goals
            rw [heq]
            exact Nat.le_add_left _ _
        simp only [List.flatMap_cons, List.length_append, List.length_cons]
        omega
  simp only [quote, List.length_append]
  omega

theorem length_memberChars_le {key : String} {value : Json} {members : List (String × Json)}
    (h : (key, value) ∈ members) : (chars repr value).length ≤ (memberChars repr members).length := by
  match members with
  | [] => exact absurd h List.not_mem_nil
  | [member] =>
      rw [← List.mem_singleton.mp h]
      rw [memberChars_singleton, List.length_append]
      exact Nat.le_add_left _ _
  | member :: next :: members =>
      rw [memberChars_cons_cons, List.length_append, List.length_append]
      rcases List.mem_cons.mp h with rfl | h
      · rw [memberChars_singleton, List.length_append]
        omega
      · have hrest := length_memberChars_le h
        omega

/-- **A JSON text is at least as long as each member of the object.** -/
theorem length_chars_le {key : String} {value : Json} {members : List (String × Json)}
    (h : (key, value) ∈ members) : (chars repr value).length ≤ (chars repr (.object members)).length := by
  have hmember := length_memberChars_le repr h
  rw [chars_object, List.length_append, List.length_append]
  omega

end Writer

end Json

/-! ## Bytes -/

theorem utf8_ofList (cs : List Char) : utf8 (String.ofList cs) = encode cs := by
  rw [utf8, String.toList_ofList]

theorem encode_append (cs ds : List Char) : encode (cs ++ ds) = encode cs ++ encode ds :=
  List.flatMap_append

theorem zero_ne_ofNat {n : Nat} (hpos : 0 < n) (h : n < 256) : (0 : UInt8) ≠ UInt8.ofNat n := by
  intro hzero
  have hmod : 0 = n % 256 := congrArg UInt8.toNat hzero
  omega

theorem zero_not_mem_utf8EncodeChar {c : Char} (h : c.toNat ≠ 0) : 0 ∉ String.utf8EncodeChar c := by
  have hpos : 0 < c.val.toNat := Nat.pos_of_ne_zero h
  unfold String.utf8EncodeChar
  simp only
  split_ifs with h1 h2 h3
  all_goals
    simp only [List.mem_cons, List.not_mem_nil, or_false, not_or]
  · exact zero_ne_ofNat hpos (by omega)
  · exact ⟨zero_ne_ofNat (by omega) (by omega), zero_ne_ofNat (by omega) (by omega)⟩
  · exact ⟨zero_ne_ofNat (by omega) (by omega), zero_ne_ofNat (by omega) (by omega),
      zero_ne_ofNat (by omega) (by omega)⟩
  · exact ⟨zero_ne_ofNat (by omega) (by omega), zero_ne_ofNat (by omega) (by omega),
      zero_ne_ofNat (by omega) (by omega), zero_ne_ofNat (by omega) (by omega)⟩

theorem zero_not_mem_encode {cs : List Char} (h : Printable cs) : 0 ∉ encode cs := by
  intro hzero
  obtain ⟨c, hc, hzero⟩ := List.mem_flatMap.mp hzero
  have hprintable := h c hc
  exact zero_not_mem_utf8EncodeChar (by omega) hzero

theorem length_le_length_encode (cs : List Char) : cs.length ≤ (encode cs).length := by
  induction cs with
  | nil => exact Nat.le_refl _
  | cons c cs ih =>
      have hchar : 1 ≤ c.utf8Size := c.utf8Size_pos
      unfold encode at ih ⊢
      simp only [List.flatMap_cons, List.length_append, List.length_cons, String.length_utf8EncodeChar]
      omega

end Lib
