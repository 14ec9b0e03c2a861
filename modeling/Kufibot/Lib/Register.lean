import Mathlib.Data.BitVec

/-!
# `Lib.Register` — fields of a register, written by read-modify-write

A `Field` is a mask shifted to its place. `Field.write` clears the bits of the field and or-s the new value
in; it does not cut the value to the mask, so a value that is too wide spills into the bits above
(`frame_iff`). Inside the field the value is there whatever the register was (`getLsbD_write_of_mem`).
-/

namespace Lib.Register

variable {w : Nat}

/-- The bits `mask << offset`. -/
structure Field (w : Nat) where
  mask : BitVec w
  offset : Nat

namespace Field

/-- `r & ~(mask << offset) | value << offset`. -/
def write (f : Field w) (value r : BitVec w) : BitVec w :=
  (r &&& ~~~(f.mask <<< f.offset)) ||| (value <<< f.offset)

/-- The bit belongs to the field. -/
def Mem (f : Field w) (i : Nat) : Prop := (f.mask <<< f.offset).getLsbD i = true

instance (f : Field w) (i : Nat) : Decidable (f.Mem i) := inferInstanceAs (Decidable (_ = _))

variable {f : Field w} {value r : BitVec w} {i : Nat}

theorem getLsbD_write (hi : i < w) : (f.write value r).getLsbD i =
    ((r.getLsbD i && !(f.mask <<< f.offset).getLsbD i) || (value <<< f.offset).getLsbD i) := by
  rw [write, BitVec.getLsbD_or, BitVec.getLsbD_and, BitVec.getLsbD_not, decide_eq_true hi, Bool.true_and]

/-- **What was there before does not matter inside the field.** -/
theorem getLsbD_write_of_mem (hi : i < w) (h : f.Mem i) :
    (f.write value r).getLsbD i = (value <<< f.offset).getLsbD i := by
  have hmask : (f.mask <<< f.offset).getLsbD i = true := h
  rw [getLsbD_write hi, hmask, Bool.not_true, Bool.and_false, Bool.false_or]

theorem getLsbD_write_of_not_mem (hi : i < w) (h : ¬ f.Mem i) :
    (f.write value r).getLsbD i = (r.getLsbD i || (value <<< f.offset).getLsbD i) := by
  have hmask : (f.mask <<< f.offset).getLsbD i = false := Bool.eq_false_iff.mpr h
  rw [getLsbD_write hi, hmask, Bool.not_false, Bool.and_true]

/-- **When a write stays in its field, exactly**: where the value spills over, the bit is set already. -/
theorem frame_iff : (∀ i, i < w → ¬ f.Mem i → (f.write value r).getLsbD i = r.getLsbD i) ↔
    ∀ i, i < w → ¬ f.Mem i → (value <<< f.offset).getLsbD i = true → r.getLsbD i = true := by
  constructor
  · intro h i hi hmem hspill
    have hbit := h i hi hmem
    rw [getLsbD_write_of_not_mem hi hmem, hspill, Bool.or_true] at hbit
    exact hbit.symm
  · intro h i hi hmem
    rw [getLsbD_write_of_not_mem hi hmem]
    cases hspill : (value <<< f.offset).getLsbD i with
    | false => exact Bool.or_false _
    | true => rw [h i hi hmem hspill]; rfl

theorem getLsbD_write_write {f' : Field w} {value' : BitVec w} (hdisjoint : ∀ i, f.Mem i → ¬ f'.Mem i)
    (hi : i < w) (hmem : f.Mem i) : (f'.write value' (f.write value r)).getLsbD i =
      ((value <<< f.offset).getLsbD i || (value' <<< f'.offset).getLsbD i) := by
  rw [getLsbD_write_of_not_mem hi (hdisjoint i hmem), getLsbD_write_of_mem hi hmem]

/-- **When writes of two fields commute, exactly**: neither sets a bit in the field of the other that the
    other leaves clear. -/
theorem write_comm_iff {f' : Field w} {value' : BitVec w} (hdisjoint : ∀ i, f.Mem i → ¬ f'.Mem i) :
    f'.write value' (f.write value r) = f.write value (f'.write value' r) ↔
      ∀ i, i < w →
        (f.Mem i → (value' <<< f'.offset).getLsbD i = true → (value <<< f.offset).getLsbD i = true) ∧
        (f'.Mem i → (value <<< f.offset).getLsbD i = true → (value' <<< f'.offset).getLsbD i = true) := by
  have hdisjoint' : ∀ i, f'.Mem i → ¬ f.Mem i := fun i hmem' hmem => hdisjoint i hmem hmem'
  have absorb : ∀ a b : Bool, (a || b) = a ↔ (b = true → a = true) := by decide
  constructor
  · intro heq i hi
    have hbit : (f'.write value' (f.write value r)).getLsbD i =
        (f.write value (f'.write value' r)).getLsbD i := by rw [heq]
    constructor
    · intro hmem
      rw [getLsbD_write_write hdisjoint hi hmem, getLsbD_write_of_mem hi hmem] at hbit
      exact (absorb _ _).mp hbit
    · intro hmem'
      rw [getLsbD_write_write hdisjoint' hi hmem', getLsbD_write_of_mem hi hmem'] at hbit
      exact (absorb _ _).mp hbit.symm
  · intro h
    apply BitVec.eq_of_getLsbD_eq
    intro i hi
    by_cases hmem : f.Mem i
    · rw [getLsbD_write_write hdisjoint hi hmem, getLsbD_write_of_mem hi hmem]
      exact (absorb _ _).mpr ((h i hi).1 hmem)
    · by_cases hmem' : f'.Mem i
      · rw [getLsbD_write_write hdisjoint' hi hmem', getLsbD_write_of_mem hi hmem']
        exact ((absorb _ _).mpr ((h i hi).2 hmem')).symm
      · rw [getLsbD_write_of_not_mem hi hmem', getLsbD_write_of_not_mem hi hmem,
          getLsbD_write_of_not_mem hi hmem, getLsbD_write_of_not_mem hi hmem', Bool.or_right_comm]

end Field

end Lib.Register
