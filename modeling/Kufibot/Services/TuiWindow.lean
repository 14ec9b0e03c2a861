import Kufibot.Robot.MissingHardware
import Kufibot.Tui.MainWindow

/-!
# `Services.TuiWindow` — the sensor data of the robot on the text interface

`RobotControllerService` publishes what `Robot::getSensorValues` reads, and `TuiService` hands it to the main
window in three parts. All readings are set, so the measurements are always complete; but the joints are
those that the servo controller has recorded, which are none if its driver did not answer, and the body
controller window looks every joint up with `at`.

So the interface outlives a message of the robot iff the servo controller has initialised
(`window_survives_iff`).
-/

namespace Kufibot

open Lib

/-- `Robot::getSensorValues`, with what the sensors read. -/
def Controllers.getSensorValues (compassData : CompassData) (distanceData : DistanceData)
    (powerData : PowerData) (c : Controllers) : SensorData where
  compassData := some compassData
  distanceData := some distanceData
  powerData := some powerData
  currentJointAngles := some c.servo.getAllJointsAngle

/-- `TuiService::subcribed_data_receive` of sensor data, with the callbacks that `openTui` sets. -/
def receiveSensorData (data : SensorData) : List TuiAction :=
  .queueSensorData data ::
    ((data.compassData.map fun compassData => .queueCompassDirection compassData.angle.toNat).toList ++
      (data.currentJointAngles.map .queueServoJoints).toList)

def TuiAction.isValue : TuiAction → Bool
  | .queueSensorData _ | .queueCompassDirection _ | .queueServoJoints _ => true
  | _ => false

/-- The values that are queued come from a robot whose servo controller has initialised, or failed. -/
def FromRobot (ready : Bool) (a : TuiAction) : Prop :=
  a.isValue = true → ∃ compassData distanceData powerData c, Controllers.system.Reachable c ∧
    c.servo.isReady = ready ∧ a ∈ receiveSensorData (c.getSensorValues compassData distanceData powerData)

/-! ## What the robot sends -/

theorem sensorData_complete {ready : Bool} {data : SensorData} (h : FromRobot ready (.queueSensorData data)) :
    (updateSensorDataCallback data).isSome = true := by
  obtain ⟨compassData, distanceData, powerData, c, -, -, hmem⟩ := h rfl
  obtain hdata | hmem := List.mem_cons.mp hmem
  · obtain rfl := TuiAction.queueSensorData.inj hdata
    rfl
  · simp [Controllers.getSensorValues] at hmem

/-- All fields of the window find their joint, or the first lookup throws. -/
theorem updateServoJointsCallback_isSome {joints : JointMap} {ready : Bool}
    (h : ∀ j, (joints j).isSome = ready) : (updateServoJointsCallback joints).isSome = ready := by
  unfold updateServoJointsCallback fieldOrder
  cases ready with
  | true =>
      choose angle hangle using fun j => Option.isSome_iff_exists.mp (h j)
      simp [hangle]
  | false =>
      have hnone : joints .rightArm = none :=
        Option.isNone_iff_eq_none.mp (Option.isSome_eq_false_iff.mp (h .rightArm))
      simp [hnone]

theorem jointAngles_complete {ready : Bool} {joints : JointMap}
    (h : FromRobot ready (.queueServoJoints joints)) : (updateServoJointsCallback joints).isSome = ready := by
  obtain ⟨compassData, distanceData, powerData, c, hreach, hready, hmem⟩ := h rfl
  have hjoints : joints = c.servo.getAllJointsAngle := by
    simpa [receiveSensorData, Controllers.getSensorValues] using hmem
  refine updateServoJointsCallback_isSome fun j => ?_
  rw [hjoints, ← hready]
  exact Controllers.settled_of_reachable hreach j

namespace TextInterface

/-! ## Runs with the values of one robot -/

/-- The values queued so far are those of a robot whose servo controller has initialised, or failed. -/
structure QueuedBy (ready : Bool) (s : TextInterface) : Prop where
  sensorData : ∀ data ∈ s.sensorData, (updateSensorDataCallback data).isSome = true
  jointAngles : ∀ joints ∈ s.jointAngles, (updateServoJointsCallback joints).isSome = ready

variable {useTui ready : Bool} {constructedAt : Int} {s t : TextInterface} {a : TuiAction}

theorem queuedBy_step (h : QueuedBy ready s) (ha : FromRobot ready a) (hstep : s.step a = some t) :
    QueuedBy ready t := by
  obtain ⟨hdata, hjoints⟩ := h
  cases a with
  | log f function formattedStr =>
      rw [step_log hstep]
      cases s.logger.opened <;> exact ⟨hdata, hjoints⟩
  | queueSensorData data =>
      cases hstep
      refine ⟨?_, hjoints⟩
      rw [List.forall_mem_append, List.forall_mem_singleton]
      exact ⟨hdata, sensorData_complete ha⟩
  | queueServoJoints joints =>
      cases hstep
      refine ⟨hdata, ?_⟩
      rw [List.forall_mem_append, List.forall_mem_singleton]
      exact ⟨hjoints, jointAngles_complete ha⟩
  | onTimer | work now =>
      obtain ⟨w, -, rfl⟩ := Option.map_eq_some_iff.mp hstep
      exact ⟨hdata, hjoints⟩
  | _ =>
      cases hstep
      exact ⟨hdata, hjoints⟩

theorem queuedBy_of_reachable
    (h : (system useTui logLevel constructedAt).ReachableVia (fun _ a => FromRobot ready a) s) :
    QueuedBy ready s := by
  refine h.invariant (I := QueuedBy ready) ?_ fun s a t hs ha hstep => queuedBy_step hs ha hstep
  rintro s rfl
  exact ⟨nofun, nofun⟩

/-- A batch whose values are complete does not throw. -/
theorem not_thrown_step (hq : QueuedBy true s)
    (hlatest : s.window.KeepsLatest s.sensorData s.directions s.jointAngles)
    (hthrown : s.window.thrown = false) (hstep : s.step a = some t) : t.window.thrown = false := by
  cases a with
  | log f function formattedStr =>
      rw [step_log hstep]
      cases s.logger.opened <;> exact hthrown
  | onTimer =>
      obtain ⟨w, hw, rfl⟩ := Option.map_eq_some_iff.mp hstep
      obtain ⟨-, -, rfl⟩ := MainWindow.onTimer_eq hw
      exact hthrown
  | work now =>
      obtain ⟨w, hw, rfl⟩ := Option.map_eq_some_iff.mp hstep
      obtain ⟨hdata, -, hjoints⟩ := hlatest
      cases MainWindow.works_of_work hw with
      | throws hhand hthrows =>
          rw [MainWindow.handed_some hhand] at hdata hjoints
          obtain ⟨data, rfl, hnone⟩ | ⟨-, -, joints, rfl, hnone⟩ := hthrows
          · have hsome := hq.sensorData data hdata.mem_of_inHand
            rw [hnone] at hsome
            cases hsome
          · have hsome := hq.jointAngles joints hjoints.mem_of_inHand
            rw [hnone] at hsome
            cases hsome
      | refresh =>
          obtain heq | heq := MainWindow.refresh_eq now s.window <;> rw [heq] <;> exact hthrown
      | _ => exact hthrown
  | _ =>
      cases hstep
      exact hthrown

theorem not_thrown_of_ready
    (h : (system useTui logLevel constructedAt).ReachableVia (fun _ a => FromRobot true a) s) :
    s.window.thrown = false := by
  induction h with
  | init h => rw [h]; rfl
  | step hs _ hstep ih =>
      exact not_thrown_step (queuedBy_of_reachable hs) (keepsLatest_of_reachable hs.reachable ih) ih hstep

/-- The window takes up only what has every joint. -/
theorem shown_joints (h : (system useTui logLevel constructedAt).Reachable s) :
    ∀ joints ∈ s.window.jointAngles, (updateServoJointsCallback joints).isSome = true := by
  refine h.invariant
    (I := fun s => ∀ joints ∈ s.window.jointAngles, (updateServoJointsCallback joints).isSome = true) ?_ ?_
  · rintro s rfl
    exact nofun
  · intro s a t hs _ hstep
    cases a with
    | log f function formattedStr =>
        rw [step_log hstep]
        cases s.logger.opened <;> exact hs
    | onTimer =>
        obtain ⟨w, hw, rfl⟩ := Option.map_eq_some_iff.mp hstep
        obtain ⟨-, -, rfl⟩ := MainWindow.onTimer_eq hw
        exact hs
    | work now =>
        obtain ⟨w, hw, rfl⟩ := Option.map_eq_some_iff.mp hstep
        cases MainWindow.works_of_work hw with
        | joints _ hjoints => exact List.forall_mem_append.mpr ⟨hs, List.forall_mem_singleton.mpr hjoints⟩
        | refresh =>
            obtain heq | heq := MainWindow.refresh_eq now s.window <;> rw [heq] <;> exact hs
        | _ => exact hs
    | _ =>
        cases hstep
        exact hs

/-- **The interface outlives a message of the robot iff the servo controller has initialised.** Once the joints
    of a message have been queued, the next call of the timer that runs to its end throws exactly if they are
    those of a controller whose driver did not answer. -/
theorem window_survives_iff
    (h : (system useTui logLevel constructedAt).ReachableVia (fun _ a => FromRobot ready a) s)
    (hidle : s.window.inHand = none) (hthrown : s.window.thrown = false) (hreceived : s.jointAngles ≠ [])
    (now : Int) :
    ∃ n w, (system useTui logLevel constructedAt).exec s (.onTimer :: List.replicate n (.work now)) =
        some { s with window := w } ∧ w.inHand = none ∧ (w.thrown = false ↔ ready = true) := by
  obtain ⟨n, w, hexec, hidle', hshows⟩ := timer_shows_everything h.reachable hidle hthrown now
  have hrobot : ∀ a ∈ TuiAction.onTimer :: List.replicate n (.work now), FromRobot ready a := by
    intro a ha
    obtain rfl | ha := List.mem_cons.mp ha
    · exact nofun
    · rw [List.eq_of_mem_replicate ha]
      exact nofun
  have hreach := System.reachableVia_of_exec h (fun a ha _ => hrobot a ha) hexec
  refine ⟨n, w, hexec, hidle', fun hw => ?_, fun hready => ?_⟩
  · -- the window has shown the last joints, and shows no joints of a controller that failed
    have hlast := hshows.jointAngles hw
    obtain ⟨joints, hjoints⟩ := Option.isSome_iff_exists.mp (List.getLast?_isSome.mpr hreceived)
    have hshown : joints ∈ w.jointAngles := List.mem_of_getLast? (hlast.trans hjoints)
    have hqueued : joints ∈ s.jointAngles := List.mem_of_getLast? hjoints
    exact ((queuedBy_of_reachable h).jointAngles joints hqueued).symm.trans
      (shown_joints hreach.reachable joints hshown)
  · subst hready
    exact not_thrown_of_ready hreach

/-- A message of the robot without its servo driver. -/
def replyWithoutServo : List TuiAction :=
  receiveSensorData (servoMissing.getSensorValues ⟨90, 0, 0⟩ ⟨50, 0, 0⟩ ⟨12, 0, 0, 0⟩)

/-- It ends the interface. -/
theorem window_survives_without_servo : ∃ s,
    (system true .debug 0).exec (initial true .debug 0) replyWithoutServo = some s ∧
      ∃ n w, (system true .debug 0).exec s (.onTimer :: List.replicate n (.work 100)) =
          some { s with window := w } ∧
        w.inHand = none ∧ (w.thrown = false ↔ false = true) := by
  have hrobot : ∀ a ∈ replyWithoutServo, ∀ _ : TextInterface, FromRobot false a := fun a ha _ _ =>
    ⟨_, _, _, servoMissing, servoMissing_reachable, rfl, ha⟩
  have hexec : (system true .debug 0).exec (initial true .debug 0) replyWithoutServo = some _ := rfl
  exact ⟨_, hexec, window_survives_iff (System.reachableVia_of_exec (.init rfl) hrobot hexec) rfl rfl
    (List.cons_ne_nil _ _) 100⟩

end TextInterface

end Kufibot
