import Kufibot.Controllers.Controller
import Kufibot.Drivers.PCA9685

/-!
# `Controllers.DCMotor` — the two drive motors

Every command is dropped while the controller is disabled or not ready, `stop` included; the PWM
registers then keep their last value. No command touches the flags (`flags` lemmas).
-/

namespace Kufibot

inductive DCMotorDirection where
  | forward
  | backward
deriving DecidableEq, Repr

inductive DCMotor where
  | left
  | right
deriving DecidableEq, Repr

structure DCMotorController extends Controller where
  driver : PCA9685Driver

namespace DCMotorController

def pwmA : Nat := 0
def aIn1 : Nat := 1
def aIn2 : Nat := 2
def pwmB : Nat := 5
def bIn1 : Nat := 3
def bIn2 : Nat := 4

/-- The constructor, with what `initPCA9685` returns. -/
def constructed (ret : Bool) (driver : PCA9685Driver) : DCMotorController :=
  { driver, initialized := ret }

def setEnable (enable : Bool) (c : DCMotorController) : DCMotorController :=
  { c with toController := c.toController.setEnable enable }

def setDirection (pin1 pin2 : Nat) (direction : DCMotorDirection) (c : DCMotorController) :
    DCMotorController :=
  match direction with
  | .forward => { c with driver := (c.driver.setChannelLevel pin1 0).setChannelLevel pin2 1 }
  | .backward => { c with driver := (c.driver.setChannelLevel pin1 1).setChannelLevel pin2 0 }

/-- The left motor is mounted the other way round. A speed above 100 is only warned about. -/
def run (motor : DCMotor) (direction : DCMotorDirection) (speed : Int) (c : DCMotorController) :
    DCMotorController :=
  if !c.isEnabled || !c.isReady then c
  else
    match motor with
    | .left =>
        let direction := match direction with
          | .forward => .backward
          | .backward => .forward
        setDirection aIn1 aIn2 direction
          { c with driver := c.driver.setDutyCyclePercent pwmA speed }
    | .right =>
        setDirection bIn1 bIn2 direction
          { c with driver := c.driver.setDutyCyclePercent pwmB speed }

/-- The two wheels of a drive command: the right motor first. -/
def drive (right left : DCMotorDirection) (magnitude : Int) (c : DCMotorController) :
    DCMotorController :=
  if !c.isEnabled || !c.isReady then c
  else run .left left magnitude (run .right right magnitude c)

def forward (magnitude : Int) : DCMotorController → DCMotorController :=
  drive .forward .forward magnitude

def backward (magnitude : Int) : DCMotorController → DCMotorController :=
  drive .backward .backward magnitude

def turnRight (magnitude : Int) : DCMotorController → DCMotorController :=
  drive .forward .backward magnitude

def turnLeft (magnitude : Int) : DCMotorController → DCMotorController :=
  drive .backward .forward magnitude

def stop (c : DCMotorController) : DCMotorController :=
  if !c.isEnabled || !c.isReady then c
  else
    { c with driver := (c.driver.setDutyCyclePercent pwmA 0).setDutyCyclePercent pwmB 0 }

/-! ## Commands keep the flags -/

@[simp] theorem setDirection_flags (pin1 pin2 : Nat) (dir : DCMotorDirection) (c : DCMotorController) :
    (setDirection pin1 pin2 dir c).toController = c.toController := by
  cases dir <;> rfl

@[simp] theorem run_flags (m : DCMotor) (dir : DCMotorDirection) (speed : Int) (c : DCMotorController) :
    (run m dir speed c).toController = c.toController := by
  unfold run
  split
  · rfl
  · cases m <;> simp

@[simp] theorem drive_flags (right left : DCMotorDirection) (n : Int) (c : DCMotorController) :
    (drive right left n c).toController = c.toController := by
  unfold drive
  split <;> simp

@[simp] theorem stop_flags (c : DCMotorController) : (stop c).toController = c.toController := by
  unfold stop
  split <;> rfl

end DCMotorController

end Kufibot
