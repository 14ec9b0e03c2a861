import Kufibot.Messages

/-!
# `Drivers.PCA9685` — the PWM driver

The driver writes four registers per channel: the counts at which the output goes on and off. The model
keeps the register file, and beside it the list of duty cycles asked for, newest first, because a count
outside 16 bits does not fit in the registers.
-/

namespace Kufibot

/-- One call of `setDutyCycle`. -/
structure DutyCycle where
  channel : Nat
  on : Int
  off : Int
deriving DecidableEq, Repr

structure PCA9685Driver where
  /-- The register file: address to byte. -/
  registers : Nat → UInt8
  /-- Ghost: the duty cycles asked for, newest first. -/
  dutyCycles : List DutyCycle

namespace PCA9685Driver

def led0OnL : Nat := 0x06
def led0OnH : Nat := 0x07
def led0OffL : Nat := 0x08
def led0OffH : Nat := 0x09

def writeByte (reg : Nat) (value : UInt8) (d : PCA9685Driver) : PCA9685Driver :=
  { d with registers := fun r => if r = reg then value else d.registers r }

/-- The low byte of an `int` (`x & 0xFF`). -/
def lowByte (x : Int) : UInt8 := toUInt8 x

/-- The second byte of an `int` (`0xFF & (x >> 8)`). -/
def highByte (x : Int) : UInt8 := toUInt8 (x / 256)

def setDutyCycle (channel : Nat) (on off : Int) (d : PCA9685Driver) : PCA9685Driver :=
  let d := d.writeByte (led0OnL + 4 * channel) (lowByte on)
  let d := d.writeByte (led0OnH + 4 * channel) (highByte on)
  let d := d.writeByte (led0OffL + 4 * channel) (lowByte off)
  let d := d.writeByte (led0OffH + 4 * channel) (highByte off)
  { d with dutyCycles := ⟨channel, on, off⟩ :: d.dutyCycles }

/-- `pulse` in microseconds, at 50 Hz. -/
def setDutyCyclePulse (channel : Nat) (pulse : Int) (d : PCA9685Driver) : PCA9685Driver :=
  d.setDutyCycle channel 0 ((pulse * 4096).tdiv 20000)

def setDutyCyclePercent (channel : Nat) (duty : Int) (d : PCA9685Driver) : PCA9685Driver :=
  d.setDutyCycle channel 0 ((duty * 4096).tdiv 100)

def setChannelLevel (channel : Nat) (level : Int) (d : PCA9685Driver) : PCA9685Driver :=
  if level = 1 then d.setDutyCycle channel 0 4095 else d.setDutyCycle channel 0 0

/-- The off-count a channel's registers hold. -/
def dutyCount (d : PCA9685Driver) (channel : Nat) : Nat :=
  (d.registers (led0OffL + 4 * channel)).toNat + 256 * (d.registers (led0OffH + 4 * channel)).toNat

end PCA9685Driver

end Kufibot
