import Kufibot.Controllers.Controller
import Kufibot.Messages.Json

/-!
# `Controllers.Sensors` — the compass, the distance sensor and the power meter

The three sensor controllers answer a reading with zeros when they are disabled or have not initialised, and
the distance sensor also when its frame is incomplete or does not begin with `YY`. Nothing in the data tells
such an answer from a measurement.
-/

namespace Kufibot

/-- What the devices answer at one time. -/
structure SensorAnswers where
  /-- `readHMC5883l`, converted to the members of `CompassData`. -/
  axis : CompassData
  /-- What `read` puts into the buffer of nine bytes; `none` if `select` times out. -/
  uart : Option (List UInt8)
  /-- `readINA219`. -/
  ina219 : PowerData

/-- `DistanceData{}`. -/
def DistanceData.zero : DistanceData := ⟨0, 0, 0⟩

/-- `PowerData{}`. -/
def PowerData.zero : PowerData := ⟨0, 0, 0, 0⟩

namespace CompassController

def getCompassData (answers : SensorAnswers) (c : Controller) : CompassData :=
  if !c.isEnabled || !c.isReady then ⟨0, 0, 0⟩ else answers.axis

end CompassController

namespace DistanceController

/-- Two bytes of a frame, the low one first: `low + (high << 8)`. -/
def word (low high : UInt8) : Int := (low.toNat : Int) + 256 * (high.toNat : Int)

/-- The frame in the buffer; its last byte is not looked at. -/
def frame : List UInt8 → DistanceData
  | [y, y', distL, distH, stL, stH, tempL, tempH, _] =>
      if y = 'Y'.toUInt8 ∧ y' = 'Y'.toUInt8 then
        ⟨word distL distH, word stL stH, word tempL tempH / 8 - 256⟩
      else .zero
  | _ => .zero

def getDistance (answers : SensorAnswers) (c : Controller) : DistanceData :=
  if !c.isEnabled then .zero
  else if !c.isReady then .zero
  else
    match answers.uart with
    | none => .zero
    | some buffer => frame buffer

end DistanceController

namespace PowerController

def getConsumption (answers : SensorAnswers) (c : Controller) : PowerData :=
  if !c.isEnabled || !c.isReady then .zero else answers.ina219

end PowerController

/-! ## A reading that shows whether the controller is enabled -/

/-- North is at 90 degrees, an obstacle at 50 cm, and the battery at 12 V. -/
def SensorAnswers.nonzero : SensorAnswers where
  axis := ⟨90, 0, 0⟩
  uart := some ['Y'.toUInt8, 'Y'.toUInt8, 50, 0, 0, 0, 0, 0, 0]
  ina219 := ⟨12, 0, 0, 0⟩

section Nonzero

variable {c : Controller}

theorem getCompassData_nonzero (h : c.isReady = true) :
    CompassController.getCompassData .nonzero (c.setEnable true) ≠
      CompassController.getCompassData .nonzero (c.setEnable false) := by
  obtain ⟨enable, initialized⟩ := c
  cases h
  cases enable <;> decide

theorem getDistance_nonzero (h : c.isReady = true) :
    DistanceController.getDistance .nonzero (c.setEnable true) ≠
      DistanceController.getDistance .nonzero (c.setEnable false) := by
  obtain ⟨enable, initialized⟩ := c
  cases h
  cases enable <;> decide

theorem getConsumption_nonzero (h : c.isReady = true) :
    PowerController.getConsumption .nonzero (c.setEnable true) ≠
      PowerController.getConsumption .nonzero (c.setEnable false) := by
  obtain ⟨enable, initialized⟩ := c
  cases h
  cases enable <;> decide

end Nonzero

end Kufibot
