import Mathlib.Tactic.IntervalCases
import Kufibot.Lib.Register
import Kufibot.Lib.System

/-!
# `Drivers.INA219` — the configuration register of the power sensor

Five setters share the configuration register: each reads it, clears its own field, or-s its value in and
writes it back. The value of an ADC field is meant to have four bits, the first of them for 12 bits of
resolution; `setBusADC` and `setShuntADC` set bit 7 of the value in its place. So 12 bits on the bus set bit
14, which no setter clears, and 12 bits on the shunt set bit 10, which belongs to the bus.

`NoSpill` is the condition on a call and the register it finds under which it stays in its field
(`setters_independent_iff`).
-/

namespace Kufibot

open Lib Lib.Register

inductive BusVoltageRange where
  | busVolRange16V
  | busVolRange32V
deriving DecidableEq, Repr

inductive PGABits where
  | pgaBits1
  | pgaBits2
  | pgaBits4
  | pgaBits8
deriving DecidableEq, Repr

inductive ADCBits where
  | adcBits9
  | adcBits10
  | adcBits11
  | adcBits12
deriving DecidableEq, Repr

inductive ADCSample where
  | adcSample1
  | adcSample2
  | adcSample4
  | adcSample8
  | adcSample16
  | adcSample32
  | adcSample64
  | adcSample128
deriving DecidableEq, Repr

inductive INA219Mode where
  | powerDown
  | shuntVolTrig
  | busVolTrig
  | shuntAndBusVolTrig
  | adcOff
  | shuntVolCon
  | busVolCon
  | shuntAndBusVolCon
deriving DecidableEq, Repr

/-! ### `static_cast<uint16_t>` -/

def BusVoltageRange.toUInt16 (range : BusVoltageRange) : BitVec 16 := .ofNat 16 range.ctorIdx

def PGABits.toUInt16 (bits : PGABits) : BitVec 16 := .ofNat 16 bits.ctorIdx

def ADCBits.toUInt16 (bits : ADCBits) : BitVec 16 := .ofNat 16 bits.ctorIdx

def ADCSample.toUInt16 (sample : ADCSample) : BitVec 16 := .ofNat 16 sample.ctorIdx

def INA219Mode.toUInt16 (mode : INA219Mode) : BitVec 16 := .ofNat 16 mode.ctorIdx

/-! ## The driver -/

/-- The words that were written to the device last; it answers each read with them. -/
structure INA219Driver where
  words : Nat → BitVec 16

namespace INA219Driver

def regConfig : Nat := 0x00

/-- The device has the bytes the other way round. -/
def swapBytes (value : BitVec 16) : BitVec 16 := ((value &&& 0xFF) <<< 8) ||| ((value &&& 0xFF00) >>> 8)

def writeWord (reg : Nat) (value : BitVec 16) (d : INA219Driver) : INA219Driver :=
  { d with words := fun r => if r = reg then value else d.words r }

def writeRegister (reg : Nat) (value : BitVec 16) (d : INA219Driver) : INA219Driver :=
  d.writeWord reg (swapBytes value)

/-- An `int16_t`. -/
def readRegister (reg : Nat) (d : INA219Driver) : Int := (swapBytes (d.words reg)).toInt

/-- `uint16_t conf = readRegister(REG_CONFIG)`. -/
def conf (d : INA219Driver) : BitVec 16 := .ofInt 16 (d.readRegister regConfig)

/-- `conf &= ~(mask << offset); conf |= value << offset;` -/
def writeField (field : Field 16) (value : BitVec 16) (d : INA219Driver) : INA219Driver :=
  d.writeRegister regConfig (field.write value d.conf)

/-! ### The five fields -/

def busRangeField : Field 16 where
  mask := 0x01
  offset := 13

def pgaField : Field 16 where
  mask := 0x03
  offset := 11

def busADCField : Field 16 where
  mask := 0x0F
  offset := 7

def shuntADCField : Field 16 where
  mask := 0x0F
  offset := 3

def modeField : Field 16 where
  mask := 0x07
  offset := 0

def setBusRange (range : BusVoltageRange) : INA219Driver → INA219Driver :=
  writeField busRangeField range.toUInt16

def setPGA (bits : PGABits) : INA219Driver → INA219Driver := writeField pgaField bits.toUInt16

/-- `bits < ADC_BITS_12 && sample > ADC_SAMPLE_1`. -/
def invalidADC (bits : ADCBits) (sample : ADCSample) : Bool :=
  bits.ctorIdx < ADCBits.adcBits12.ctorIdx && sample.ctorIdx > ADCSample.adcSample1.ctorIdx

/-- For 12 bits a flag and the number of samples; the flag is bit 7. -/
def adcValue (bits : ADCBits) (sample : ADCSample) : BitVec 16 :=
  if bits.ctorIdx < ADCBits.adcBits12.ctorIdx then bits.toUInt16 else 0x80 ||| sample.toUInt16

def setBusADC (bits : ADCBits) (sample : ADCSample) (d : INA219Driver) : INA219Driver :=
  if invalidADC bits sample then d else d.writeField busADCField (adcValue bits sample)

def setShuntADC (bits : ADCBits) (sample : ADCSample) (d : INA219Driver) : INA219Driver :=
  if invalidADC bits sample then d else d.writeField shuntADCField (adcValue bits sample)

def setMode (mode : INA219Mode) : INA219Driver → INA219Driver := writeField modeField mode.toUInt16

/-! ### Reading back -/

theorem swapBytes_swapBytes (value : BitVec 16) : swapBytes (swapBytes value) = value := by
  ext i hi
  interval_cases i <;> simp [swapBytes]

theorem conf_writeRegister (value : BitVec 16) (d : INA219Driver) :
    (d.writeRegister regConfig value).conf = value := by
  show BitVec.ofInt 16 (swapBytes (swapBytes value)).toInt = value
  rw [swapBytes_swapBytes, BitVec.ofInt_toInt]

@[simp] theorem conf_writeField (field : Field 16) (value : BitVec 16) (d : INA219Driver) :
    (d.writeField field value).conf = field.write value d.conf :=
  conf_writeRegister _ d

end INA219Driver

/-! ## Calls of the setters -/

inductive ConfigField where
  | busRange
  | pga
  | busADC
  | shuntADC
  | mode
deriving DecidableEq, Repr

namespace ConfigField

/-- The bits of a field. -/
def Contains : ConfigField → Nat → Prop
  | .busRange, i => i = 13
  | .pga, i => 11 ≤ i ∧ i ≤ 12
  | .busADC, i => 7 ≤ i ∧ i ≤ 10
  | .shuntADC, i => 3 ≤ i ∧ i ≤ 6
  | .mode, i => i ≤ 2

instance (field : ConfigField) (i : Nat) : Decidable (field.Contains i) :=
  match field with
  | .busRange => inferInstanceAs (Decidable (i = 13))
  | .pga => inferInstanceAs (Decidable (11 ≤ i ∧ i ≤ 12))
  | .busADC => inferInstanceAs (Decidable (7 ≤ i ∧ i ≤ 10))
  | .shuntADC => inferInstanceAs (Decidable (3 ≤ i ∧ i ≤ 6))
  | .mode => inferInstanceAs (Decidable (i ≤ 2))

theorem lt_of_contains {field : ConfigField} {i : Nat} (h : field.Contains i) : i < 16 := by
  cases field <;> simp only [Contains] at h <;> omega

def bits : ConfigField → Field 16
  | .busRange => INA219Driver.busRangeField
  | .pga => INA219Driver.pgaField
  | .busADC => INA219Driver.busADCField
  | .shuntADC => INA219Driver.shuntADCField
  | .mode => INA219Driver.modeField

theorem mem_bits_iff (field : ConfigField) {i : Nat} (hi : i < 16) :
    field.bits.Mem i ↔ field.Contains i := by
  revert i
  cases field <;> decide

theorem disjoint {field field' : ConfigField} (h : field ≠ field') (i : Nat) (hi : field.Contains i) :
    ¬ field'.Contains i := by
  cases field <;> cases field' <;> simp only [Contains] at hi ⊢ <;> first | omega | exact absurd rfl h

theorem mem_bits_disjoint {field field' : ConfigField} (h : field ≠ field') (i : Nat)
    (hmem : field.bits.Mem i) : ¬ field'.bits.Mem i := by
  intro hmem'
  have hi : i < 16 := BitVec.lt_of_getLsbD hmem
  exact disjoint h i ((mem_bits_iff field hi).mp hmem) ((mem_bits_iff field' hi).mp hmem')

end ConfigField

/-- A call of a setter. -/
inductive ConfigCall where
  | setBusRange (range : BusVoltageRange)
  | setPGA (bits : PGABits)
  | setBusADC (bits : ADCBits) (sample : ADCSample)
  | setShuntADC (bits : ADCBits) (sample : ADCSample)
  | setMode (mode : INA219Mode)
deriving DecidableEq, Repr

namespace ConfigCall

def field : ConfigCall → ConfigField
  | .setBusRange _ => .busRange
  | .setPGA _ => .pga
  | .setBusADC _ _ => .busADC
  | .setShuntADC _ _ => .shuntADC
  | .setMode _ => .mode

def value : ConfigCall → BitVec 16
  | .setBusRange range => range.toUInt16
  | .setPGA bits => bits.toUInt16
  | .setBusADC bits sample => INA219Driver.adcValue bits sample
  | .setShuntADC bits sample => INA219Driver.adcValue bits sample
  | .setMode mode => mode.toUInt16

/-- The bits that are or-ed into the register. -/
def written (call : ConfigCall) : BitVec 16 := call.value <<< call.field.bits.offset

/-- The arguments may be combined. -/
def Valid : ConfigCall → Prop
  | .setBusADC bits sample => INA219Driver.invalidADC bits sample = false
  | .setShuntADC bits sample => INA219Driver.invalidADC bits sample = false
  | _ => True

instance (call : ConfigCall) : Decidable call.Valid :=
  match call with
  | .setBusADC bits sample => inferInstanceAs (Decidable (INA219Driver.invalidADC bits sample = false))
  | .setShuntADC bits sample => inferInstanceAs (Decidable (INA219Driver.invalidADC bits sample = false))
  | .setBusRange _ => isTrue trivial
  | .setPGA _ => isTrue trivial
  | .setMode _ => isTrue trivial

def perform : ConfigCall → INA219Driver → INA219Driver
  | .setBusRange range => INA219Driver.setBusRange range
  | .setPGA bits => INA219Driver.setPGA bits
  | .setBusADC bits sample => INA219Driver.setBusADC bits sample
  | .setShuntADC bits sample => INA219Driver.setShuntADC bits sample
  | .setMode mode => INA219Driver.setMode mode

/-- **One setter** is one write of its field. -/
theorem conf_perform {call : ConfigCall} (h : call.Valid) (d : INA219Driver) :
    (call.perform d).conf = call.field.bits.write call.value d.conf := by
  cases call with
  | setBusRange range => exact INA219Driver.conf_writeField ..
  | setPGA bits => exact INA219Driver.conf_writeField ..
  | setBusADC bits sample =>
      show (INA219Driver.setBusADC bits sample d).conf = _
      have hvalid : ¬ INA219Driver.invalidADC bits sample = true := Bool.eq_false_iff.mp h
      rw [INA219Driver.setBusADC, if_neg hvalid]
      exact INA219Driver.conf_writeField ..
  | setShuntADC bits sample =>
      show (INA219Driver.setShuntADC bits sample d).conf = _
      have hvalid : ¬ INA219Driver.invalidADC bits sample = true := Bool.eq_false_iff.mp h
      rw [INA219Driver.setShuntADC, if_neg hvalid]
      exact INA219Driver.conf_writeField ..
  | setMode mode => exact INA219Driver.conf_writeField ..

/-! ### Where a value spills over -/

/-- The bit outside its field that a call sets. -/
def spillBit : ConfigCall → Option Nat
  | .setBusADC .adcBits12 _ => some 14
  | .setShuntADC .adcBits12 _ => some 10
  | _ => none

theorem spillBit_eq_some_iff {call : ConfigCall} (h : call.Valid) {i : Nat} (hi : i < 16) :
    call.spillBit = some i ↔ ¬ call.field.Contains i ∧ call.written.getLsbD i = true := by
  revert i
  cases call with
  | setBusRange range => cases range <;> decide
  | setPGA bits => cases bits <;> decide
  | setBusADC bits sample =>
      revert h
      cases bits <;> cases sample <;> decide
  | setShuntADC bits sample =>
      revert h
      cases bits <;> cases sample <;> decide
  | setMode mode => cases mode <;> decide

/-- The call changes the bits of its own field only. -/
def OwnBitsOnly (call : ConfigCall) (d : INA219Driver) : Prop :=
  ∀ i, i < 16 → ¬ call.field.Contains i → (call.perform d).conf.getLsbD i = d.conf.getLsbD i

/-- The bit that the call would set outside its field is set already. -/
def NoSpill (call : ConfigCall) (d : INA219Driver) : Prop :=
  ∀ i, call.spillBit = some i → d.conf.getLsbD i = true

/-- **One call** stays in its field iff it spills nothing. -/
theorem ownBitsOnly_iff {call : ConfigCall} (h : call.Valid) (d : INA219Driver) :
    call.OwnBitsOnly d ↔ call.NoSpill d := by
  have hlt : ∀ i, call.spillBit = some i → i < 16 := by
    intro i hspill
    cases call with
    | setBusADC bits _ => cases bits <;> cases hspill; decide
    | setShuntADC bits _ => cases bits <;> cases hspill; decide
    | _ => cases hspill
  have hframe : call.OwnBitsOnly d ↔ ∀ i, i < 16 → ¬ call.field.bits.Mem i →
      (call.field.bits.write call.value d.conf).getLsbD i = d.conf.getLsbD i := by
    unfold OwnBitsOnly
    rw [conf_perform h]
    refine forall₂_congr fun i hi => ?_
    rw [ConfigField.mem_bits_iff _ hi]
  rw [hframe, Field.frame_iff]
  constructor
  · intro hall i hspill
    have hi := hlt i hspill
    obtain ⟨hmem, hbit⟩ := (spillBit_eq_some_iff h hi).mp hspill
    exact hall i hi (mt (ConfigField.mem_bits_iff _ hi).mp hmem) hbit
  · intro hno i hi hmem hbit
    exact hno i ((spillBit_eq_some_iff h hi).mpr ⟨mt (ConfigField.mem_bits_iff _ hi).mpr hmem, hbit⟩)

/-- A bit of its own field is as the call says, whatever the register was. -/
theorem getLsbD_perform {call : ConfigCall} (h : call.Valid) (d : INA219Driver) {i : Nat}
    (hi : call.field.Contains i) : (call.perform d).conf.getLsbD i = call.written.getLsbD i := by
  have hlt : i < 16 := ConfigField.lt_of_contains hi
  rw [conf_perform h]
  exact Field.getLsbD_write_of_mem hlt ((ConfigField.mem_bits_iff _ hlt).mpr hi)

/-! ### Two calls -/

/-- The shunt sets bit 10 with 12 bits, and the bus clears it. -/
def Clash : ConfigCall → ConfigCall → Prop
  | .setBusADC _ _, .setShuntADC bits _ => bits = .adcBits12
  | .setShuntADC bits _, .setBusADC _ _ => bits = .adcBits12
  | _, _ => False

theorem clash_comm {call call' : ConfigCall} : call.Clash call' ↔ call'.Clash call := by
  cases call <;> cases call' <;> exact Iff.rfl

/-- Only the 12 bits of the shunt reach into another field: that of the bus. -/
theorem spillBit_contains {call : ConfigCall} {field : ConfigField} {i : Nat} (h : call.spillBit = some i)
    (hi : field.Contains i) :
    field = .busADC ∧ i = 10 ∧ ∃ sample, call = .setShuntADC .adcBits12 sample := by
  cases call with
  | setBusADC bits sample =>
      cases bits <;> cases h
      cases field <;> simp only [ConfigField.Contains] at hi <;> omega
  | setShuntADC bits sample =>
      cases bits <;> cases h
      cases field <;> simp only [ConfigField.Contains] at hi <;> try omega
      exact ⟨rfl, rfl, sample, rfl⟩
  | _ => cases h

/-- The bus clears bit 10. -/
theorem written_setBusADC (bits : ADCBits) (sample : ADCSample) :
    (ConfigCall.setBusADC bits sample).written.getLsbD 10 = false := by
  cases bits <;> cases sample <;> rfl

/-- A call sets a bit in the field of another that the other leaves clear, only if they clash. -/
theorem clash_iff {call call' : ConfigCall} (h' : call'.Valid) (hfield : call.field ≠ call'.field) :
    (∃ i, i < 16 ∧ call.field.Contains i ∧ call'.written.getLsbD i = true ∧
      call.written.getLsbD i = false) ↔ call.field = .busADC ∧ call.Clash call' := by
  constructor
  · rintro ⟨i, hi, hmem, hbit', _⟩
    have hspill := (spillBit_eq_some_iff h' hi).mpr ⟨ConfigField.disjoint hfield i hmem, hbit'⟩
    obtain ⟨hbusADC, rfl, sample', rfl⟩ := spillBit_contains hspill hmem
    refine ⟨hbusADC, ?_⟩
    cases call with
    | setBusADC bits sample => rfl
    | _ => cases hbusADC
  · rintro ⟨hbusADC, hclash⟩
    cases call with
    | setBusADC bits sample =>
        cases call' with
        | setShuntADC bits' sample' =>
            obtain rfl : bits' = .adcBits12 := hclash
            have hspill := (spillBit_eq_some_iff h' (by decide : 10 < 16)).mp rfl
            exact ⟨10, by decide, by show 7 ≤ 10 ∧ 10 ≤ 10; decide, hspill.2, written_setBusADC ..⟩
        | _ => exact absurd hclash id
    | _ => cases hbusADC

/-- **Two calls for different fields** commute iff they do not clash. -/
theorem perform_comm_iff {call call' : ConfigCall} (h : call.Valid) (h' : call'.Valid)
    (hfield : call.field ≠ call'.field) (d : INA219Driver) :
    (call'.perform (call.perform d)).conf = (call.perform (call'.perform d)).conf ↔
      ¬ call.Clash call' := by
  rw [conf_perform h', conf_perform h, conf_perform h, conf_perform h',
    Field.write_comm_iff (ConfigField.mem_bits_disjoint hfield)]
  constructor
  · intro hall hclash
    have hmem : ∀ {c : ConfigCall} {i : Nat}, i < 16 → c.field.Contains i → c.field.bits.Mem i :=
      fun hi hc => (ConfigField.mem_bits_iff _ hi).mpr hc
    -- the bit that is lost is one of the bus, whichever call comes first
    by_cases hbus : call.field = .busADC
    · obtain ⟨i, hi, hc, hbit', hbit⟩ := (clash_iff h' hfield).mpr ⟨hbus, hclash⟩
      exact Bool.eq_false_iff.mp hbit ((hall i hi).1 (hmem hi hc) hbit')
    · have hbus' : call'.field = .busADC := by
        cases call <;> cases call' <;> first | exact absurd rfl hbus | exact absurd hclash id | rfl
      obtain ⟨i, hi, hc, hbit, hbit'⟩ :=
        (clash_iff h hfield.symm).mpr ⟨hbus', clash_comm.mp hclash⟩
      exact Bool.eq_false_iff.mp hbit' ((hall i hi).2 (hmem hi hc) hbit)
  · intro hclash i hi
    constructor
    · intro hmem hbit'
      by_contra hbit
      refine hclash ((clash_iff h' hfield).mp ⟨i, hi, ?_, hbit', Bool.eq_false_iff.mpr hbit⟩).2
      exact (ConfigField.mem_bits_iff _ hi).mp hmem
    · intro hmem' hbit
      by_contra hbit'
      refine hclash (clash_comm.mp
        ((clash_iff h hfield.symm).mp ⟨i, hi, ?_, hbit, Bool.eq_false_iff.mpr hbit'⟩).2)
      exact (ConfigField.mem_bits_iff _ hi).mp hmem'

end ConfigCall

/-! ## Runs -/

namespace INA219Driver

/-- Any calls with arguments that may be combined, whatever the registers hold at first. -/
def system : System INA219Driver ConfigCall where
  init _ := True
  step d call := if call.Valid then some (call.perform d) else none

theorem step_eq_some {d e : INA219Driver} {call : ConfigCall} (h : system.step d call = some e) :
    call.Valid ∧ e = call.perform d := by
  unfold system at h
  simp only [Option.ite_none_right_eq_some, Option.some.injEq] at h
  exact ⟨h.1, h.2.symm⟩

/-- In a run a call stays in its field iff it spills nothing. -/
theorem ownBitsOnly_iff_of_run {d e : INA219Driver} {tr : List (INA219Driver × ConfigCall)}
    (h : system.Run d tr e) : ∀ x ∈ tr, x.2.OwnBitsOnly x.1 ↔ x.2.NoSpill x.1 := by
  induction h with
  | nil =>
      intro x hx
      exact absurd hx List.not_mem_nil
  | snoc hrun hstep ih =>
      rw [List.forall_mem_append, List.forall_mem_singleton]
      exact ⟨ih, ConfigCall.ownBitsOnly_iff (step_eq_some hstep).1 _⟩

/-- The last call for a field. -/
def lastCall (field : ConfigField) (calls : List ConfigCall) : Option ConfigCall :=
  calls.reverse.find? fun call => call.field = field

theorem lastCall_append (field : ConfigField) (calls : List ConfigCall) (call : ConfigCall) :
    lastCall field (calls ++ [call]) = if call.field = field then some call else lastCall field calls := by
  unfold lastCall
  rw [List.reverse_append, List.reverse_singleton, List.singleton_append, List.find?_cons]
  by_cases h : call.field = field
  · rw [if_pos h, decide_eq_true h]
  · rw [if_neg h, decide_eq_false h]

/-- What the calls make of a bit of a field: the last call for the field decides, or nothing has changed. -/
def bitAfter (d : INA219Driver) (calls : List ConfigCall) (field : ConfigField) (i : Nat) : Bool :=
  match lastCall field calls with
  | some call => call.written.getLsbD i
  | none => d.conf.getLsbD i

/-- **The register at the end of a run** in which every call stays in its field. -/
theorem conf_of_run {d e : INA219Driver} {tr : List (INA219Driver × ConfigCall)}
    (h : system.Run d tr e) (hown : ∀ x ∈ tr, x.2.OwnBitsOnly x.1) {i : Nat} (hi : i < 16) :
    (∀ field : ConfigField, field.Contains i →
      e.conf.getLsbD i = bitAfter d (tr.map Prod.snd) field i) ∧
    ((∀ field : ConfigField, ¬ field.Contains i) → e.conf.getLsbD i = d.conf.getLsbD i) := by
  induction h with
  | nil => exact ⟨fun field _ => rfl, fun _ => rfl⟩
  | @snoc tr d' e call hrun hstep ih =>
      obtain ⟨hown, hlast⟩ := List.forall_mem_append.mp hown
      obtain ⟨ihfield, ihfree⟩ := ih hown
      obtain ⟨hvalid, rfl⟩ := step_eq_some hstep
      -- the last call sets the bits of its field, and leaves the others as the calls before made them
      have hcall : call.OwnBitsOnly d' := hlast _ (List.mem_singleton.mpr rfl)
      constructor
      · intro field hfield
        rw [List.map_append, List.map_singleton, bitAfter, lastCall_append]
        by_cases heq : call.field = field
        · rw [if_pos heq]
          exact ConfigCall.getLsbD_perform hvalid d' (heq ▸ hfield)
        · rw [if_neg heq, hcall i hi (ConfigField.disjoint (Ne.symm heq) i hfield)]
          exact ihfield field hfield
      · intro hfree
        rw [hcall i hi (hfree call.field), ihfree hfree]

/-- The register depends on the last call for each field only. -/
theorem conf_eq_of_lastCall {d e e' : INA219Driver} {tr tr' : List (INA219Driver × ConfigCall)}
    (h : system.Run d tr e) (hown : ∀ x ∈ tr, x.2.OwnBitsOnly x.1)
    (h' : system.Run d tr' e') (hown' : ∀ x ∈ tr', x.2.OwnBitsOnly x.1)
    (hlast : ∀ field, lastCall field (tr.map Prod.snd) = lastCall field (tr'.map Prod.snd)) :
    e.conf = e'.conf := by
  apply BitVec.eq_of_getLsbD_eq
  intro i hi
  obtain ⟨hfield, hfree⟩ := conf_of_run h hown hi
  obtain ⟨hfield', hfree'⟩ := conf_of_run h' hown' hi
  -- bits 14 and 15 belong to no field
  by_cases hexists : ∃ field : ConfigField, field.Contains i
  · obtain ⟨field, hcontains⟩ := hexists
    rw [hfield field hcontains, hfield' field hcontains, bitAfter, bitAfter, hlast field]
  · have hnone := not_exists.mp hexists
    rw [hfree hnone, hfree' hnone]

/-- **When the setters are independent.** In a run every call stays in its own field iff it spills nothing
    in the register it finds. Then the register at the end depends only on the last call for each field,
    and two calls for different fields commute iff they are not one for the ADC of the bus and one with 12
    bits for the shunt. -/
theorem setters_independent_iff {d e : INA219Driver} {tr : List (INA219Driver × ConfigCall)}
    (h : system.Run d tr e) :
    ((∀ x ∈ tr, x.2.OwnBitsOnly x.1) ↔ ∀ x ∈ tr, x.2.NoSpill x.1) ∧
    ((∀ x ∈ tr, x.2.NoSpill x.1) →
      (∀ field : ConfigField, ∀ i, field.Contains i →
        e.conf.getLsbD i = bitAfter d (tr.map Prod.snd) field i) ∧
      ∀ tr' e', system.Run d tr' e' → (∀ x ∈ tr', x.2.NoSpill x.1) →
        (∀ field, lastCall field (tr.map Prod.snd) = lastCall field (tr'.map Prod.snd)) →
          e.conf = e'.conf) ∧
    ∀ call call' : ConfigCall, call.Valid → call'.Valid → call.field ≠ call'.field →
      ((call'.perform (call.perform d)).conf = (call.perform (call'.perform d)).conf ↔
        ¬ call.Clash call') := by
  have hiff := ownBitsOnly_iff_of_run h
  refine ⟨forall₂_congr hiff, fun hspill => ?_, ?_⟩
  · have hown : ∀ x ∈ tr, x.2.OwnBitsOnly x.1 := fun x hx => (hiff x hx).mpr (hspill x hx)
    constructor
    · intro field i hi
      exact (conf_of_run h hown (ConfigField.lt_of_contains hi)).1 field hi
    · intro tr' e' h' hspill' hlast
      have hown' : ∀ x ∈ tr', x.2.OwnBitsOnly x.1 := by
        intro x hx
        exact (ownBitsOnly_iff_of_run h' x hx).mpr (hspill' x hx)
      exact conf_eq_of_lastCall h hown h' hown' hlast
  · intro call call' hvalid hvalid' hfield
    exact ConfigCall.perform_comm_iff hvalid hvalid' hfield d

/-! ### Two runs -/

/-- All registers are zero. -/
def cleared : INA219Driver where
  words _ := 0

/-- **A setter changes the field of another**: 12 bits for the shunt set bit 10, which belongs to the bus,
    and with the last calls in the other order the register ends up different. -/
theorem setShuntADC_spills :
    (ConfigCall.setShuntADC .adcBits12 .adcSample8).Valid ∧
      ¬ (ConfigCall.setShuntADC .adcBits12 .adcSample8).OwnBitsOnly cleared ∧
      (cleared.setShuntADC .adcBits12 .adcSample8).conf.getLsbD 10 = true ∧
      ((cleared.setShuntADC .adcBits12 .adcSample8).setBusADC .adcBits9 .adcSample1).conf ≠
        ((cleared.setBusADC .adcBits9 .adcSample1).setShuntADC .adcBits12 .adcSample8).conf := by
  refine ⟨rfl, ?_, by decide, by decide⟩
  intro hown
  have hbit := hown 10 (by decide) (by decide)
  revert hbit
  decide

/-- Calls without 12 bits of resolution. -/
def coarseCalls : List ConfigCall :=
  [.setBusADC .adcBits11 .adcSample1, .setMode .shuntAndBusVolCon, .setShuntADC .adcBits10 .adcSample1]

theorem setters_independent_iff_run : ∃ (e : INA219Driver) (tr : List (INA219Driver × ConfigCall)),
    system.Run cleared tr e ∧ tr.map Prod.snd = coarseCalls ∧ ∀ x ∈ tr, x.2.OwnBitsOnly x.1 := by
  obtain ⟨tr, hrun, hcalls⟩ := System.Run.of_exec (rfl : system.exec cleared coarseCalls = some _)
  refine ⟨_, tr, hrun, hcalls, (setters_independent_iff hrun).1.mpr ?_⟩
  intro x hx i hspill
  have hnone : ∀ call ∈ coarseCalls, call.spillBit = none := by decide
  rw [hnone x.2 (hcalls ▸ List.mem_map_of_mem hx)] at hspill
  cases hspill

end INA219Driver

end Kufibot
