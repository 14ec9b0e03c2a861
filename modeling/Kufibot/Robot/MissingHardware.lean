import Kufibot.Lib.System
import Kufibot.Robot.JointMapCommand
import Kufibot.Robot.MotionInt

/-!
# `Robot.MissingHardware` — commands to a robot whose drivers have failed

A controller whose driver does not answer stays uninitialised and drops every command. A servo controller
that failed has recorded no joint either, and `control_motion` looks up the joints of a map with `at`, which
throws for a joint that is not recorded; nothing on the worker thread catches it. All other lookups insert a
default, into a copy.

In every state that the controllers can get into, either all joints are recorded or none (`Settled`), so
whether a command throws depends on the command alone. Apart from that it returns iff it computes values of
`int` only (`control_motion_returns_iff`).
-/

namespace Kufibot

open Lib ServoMotorController

/-! ## All joints or none -/

/-- All joints are recorded if the controller has initialised, and none if it has failed. -/
def Settled (c : ServoMotorController) : Prop := ∀ j, (c.currentJointAngles j).isSome = c.isReady

theorem settled_constructed (ret : Bool) (saved : JointMap) (driver : PCA9685Driver) :
    Settled (.constructed ret saved driver) := by
  intro j
  cases ret with
  | true => cases j <;> rfl
  | false => rfl

theorem settled_setJointAngle : KeptBySetJointAngle Settled := by
  intro c joint target h j
  -- only a controller that is ready records an angle
  by_cases hobeys : c.Obeys
  · have hready : (c.setJointAngle joint target).isReady = true := (obeys_setJointAngle hobeys _ _).2
    rw [hready]
    by_cases hj : j = joint
    · rw [setJointAngle_eq hobeys, hj]
      show (if joint = joint then _ else _ : Option UInt8).isSome = true
      rw [if_pos rfl]
      rfl
    · have hother : (c.setJointAngle joint target).currentJointAngles j = c.currentJointAngles j := by
        rw [setJointAngle_eq hobeys]
        exact (if_neg hj).trans (foldl_commandAngle_recorded hj _ c)
      rw [hother, h j, hobeys.2]
  · rw [setJointAngle_of_not_obeys hobeys]
    exact h j

/-! ## The controllers of a robot -/

/-- What happens to the controllers between two commands, and a command. -/
inductive ControllerAction where
  | setEnable (servo dcMotor : Bool)
  | controlMotion (trig : Trig) (positions : JointPositionList) (data : ControlData)

namespace Controllers

def step (c : Controllers) : ControllerAction → Option Controllers
  | .setEnable servo dcMotor =>
      some { c with servo := c.servo.setEnable servo, dcMotor := c.dcMotor.setEnable dcMotor }
  | .controlMotion trig positions data => OnInt.controlMotion trig positions data c

/-- Each driver answers or does not. -/
def system : System Controllers ControllerAction where
  init c := (∃ ret saved driver, c.servo = .constructed ret saved driver) ∧
    ∃ ret driver, c.dcMotor = .constructed ret driver
  step := step

theorem settled_of_reachable {c : Controllers} (h : system.Reachable c) : Settled c.servo := by
  refine h.invariant (I := fun c => Settled c.servo) ?_ ?_
  · rintro c ⟨⟨ret, saved, driver, hservo⟩, _⟩
    rw [hservo]
    exact settled_constructed ret saved driver
  · intro c action d hc _ hstep
    cases action with
    | setEnable servo dcMotor => cases hstep; exact hc
    | controlMotion trig positions data =>
        exact kept_controlMotion settled_setJointAngle hc (OnInt.controlMotion_eq_some_iff.mp hstep).2

end Controllers

/-! ## The exception -/

/-- The map of joints, if no payload before it is set. -/
def jointMapOf (data : ControlData) : Option JointMap :=
  if data.bodyJoystick.isSome || data.headJoystick.isSome || data.leftArmAngle.isSome ||
      data.rightArmAngle.isSome || data.leftEye.isSome || data.rightEye.isSome || data.jointAngle.isSome then
    none
  else data.jointAngles

/-- Only a map of joints can throw. -/
theorem controlMotion_isSome_iff (trig : Trig) (positions : JointPositionList) (data : ControlData)
    (c : Controllers) : (controlMotion trig positions data c).isSome ↔
      ∀ requested, jointMapOf data = some requested → (moveJoints requested c.servo).isSome := by
  obtain ⟨_, jointAngle, jointAngles, head, body, leftArm, rightArm, leftEye, rightEye⟩ := data
  unfold controlMotion jointMapOf
  -- the payloads in the order in which they are read
  cases body
  case some body => simp
  cases head
  case some head => simp
  cases leftArm
  case some angle => simp
  cases rightArm
  case some angle => simp
  cases leftEye
  case some state => simp
  cases rightEye
  case some state => simp
  cases jointAngle
  case some jointAngle => simp
  cases jointAngles <;> simp

/-- `at` finds the joint, or throws. -/
theorem moveJoint_isSome_iff (requested recorded : JointMap) (c : ServoMotorController)
    (joint : ServoMotorJoint) : (moveJoint requested recorded c joint).isSome ↔
      (requested joint = none ∨ (recorded joint).isSome) := by
  unfold moveJoint
  cases requested joint with
  | none => simp
  | some angle => simp

theorem foldlM_moveJoint_isSome_iff (requested recorded : JointMap) (joints : List ServoMotorJoint)
    (c : ServoMotorController) : (joints.foldlM (moveJoint requested recorded) c).isSome ↔
      ∀ j ∈ joints, requested j = none ∨ (recorded j).isSome := by
  induction joints generalizing c with
  | nil =>
      refine ⟨fun _ j hj => absurd hj List.not_mem_nil, fun _ => rfl⟩
  | cons joint joints ih =>
      rw [List.foldlM_cons, List.forall_mem_cons, ← moveJoint_isSome_iff requested recorded c joint]
      cases hmove : moveJoint requested recorded c joint with
      | none => simp
      | some d => simpa using ih d

theorem moveJoints_isSome_iff {requested : JointMap} {c : ServoMotorController} (h : Settled c) :
    (moveJoints requested c).isSome ↔ c.isReady = true ∨ ∀ j, requested j = none := by
  have hall : (moveJoints requested c).isSome ↔ ∀ j, requested j = none ∨ c.isReady = true := by
    rw [moveJoints, foldlM_moveJoint_isSome_iff]
    constructor
    · intro hjoints j
      rw [← h j]
      exact hjoints j (mem_jointOrder j)
    · intro hjoints j _
      rw [getAllJointsAngle, h j]
      exact hjoints j
  rw [hall, forall_or_right, or_comm]

/-- **When a command returns, exactly**: it computes values of `int` only; and the servo controller has
    initialised, or a payload before the map of joints is set, or there is no such map, or it names no joint. -/
theorem control_motion_returns_iff {c : Controllers} (h : Controllers.system.Reachable c) (trig : Trig)
    (positions : JointPositionList) (data : ControlData) :
    (OnInt.controlMotion trig positions data c).isSome ↔
      ComputesInts trig positions data c ∧
        ∀ requested, jointMapOf data = some requested →
          c.servo.isReady = true ∨ ∀ j, requested j = none := by
  have hthrows : (controlMotion trig positions data c).isSome ↔
      ∀ requested, jointMapOf data = some requested → c.servo.isReady = true ∨ ∀ j, requested j = none := by
    rw [controlMotion_isSome_iff]
    refine forall₂_congr fun requested _ => ?_
    exact moveJoints_isSome_iff (Controllers.settled_of_reachable h)
  rw [← hthrows]
  simp only [Option.isSome_iff_exists, OnInt.controlMotion_eq_some_iff, exists_and_left]

/-- A robot whose servo driver does not answer. -/
def servoMissing : Controllers where
  compass := {}
  distance := {}
  power := {}
  servo := .constructed false (fun _ => none) { registers := fun _ => 0, dutyCycles := [] }
  dcMotor := .constructed true { registers := fun _ => 0, dutyCycles := [] }

theorem servoMissing_reachable : Controllers.system.Reachable servoMissing :=
  .init ⟨⟨false, fun _ => none, _, rfl⟩, true, _, rfl⟩

/-- The neck alone, at 30 degrees. -/
def neckOnly : JointMap := fun joint => if joint = .neck then some 30 else none

/-- A robot whose drivers answer. -/
def nothingMissing : Controllers := { servoMissing with servo := levelHead }

theorem nothingMissing_reachable : Controllers.system.Reachable nothingMissing :=
  .init ⟨⟨true, fun _ => none, _, rfl⟩, true, _, rfl⟩

/-- **The promise is broken**: without the servo driver, a map with one joint throws. -/
theorem control_motion_throws : ∃ c, Controllers.system.Reachable c ∧
    OnInt.controlMotion .right (fun _ _ => 90) { jointAngles := some neckOnly } c = none :=
  ⟨servoMissing, servoMissing_reachable, rfl⟩

/-- Without the servo driver, a command for one joint does nothing, and returns. With it, a head joystick next
    to the least `int` is undefined. -/
theorem control_motion_returns_single :
    (OnInt.controlMotion .right (fun _ _ => 90) { jointAngle := some (.neck, 30) } servoMissing).isSome ∧
      ¬ (OnInt.controlMotion .up someLimits
        { headJoystick := some { angle := 90, strength := -2147483647 } } nothingMissing).isSome := by
  refine ⟨(control_motion_returns_iff servoMissing_reachable _ _ _).mpr ⟨trivial, ?_⟩, ?_⟩
  · intro requested hrequested
    cases hrequested
  · intro hreturns
    have hints := ((control_motion_returns_iff nothingMissing_reachable _ _ _).mp hreturns).1
    exact not_headFitsInt_levelHead hints.1

end Kufibot
