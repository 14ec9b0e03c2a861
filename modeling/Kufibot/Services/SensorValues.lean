import Kufibot.Controllers.Sensors
import Kufibot.Robot.Run
import Kufibot.Services.TuiWindow

/-!
# `Services.SensorValues` — what the robot says it senses

The robot service publishes `Robot::getSensorValues` behind every command and on every request.
`IdleState` enables the sensors and `MovingState` disables them; of the children of `MovingState` all but
`TuiControlState` enable them again. So a session that the text interface opens is blind, and so is one of a
source that has no state of its own: all that is published meanwhile are zeros. `CriticalErrorState` keeps
the sensors as it finds them, for good.

The published values are measurements in every state of a run iff no such session is opened
(`readings_are_measured_iff`).
-/

namespace Kufibot

open Lib

namespace Controllers

/-- `Robot::getSensorValues`. -/
def readSensors (answers : SensorAnswers) (c : Controllers) : SensorData :=
  c.getSensorValues (CompassController.getCompassData answers c.compass)
    (DistanceController.getDistance answers c.distance) (PowerController.getConsumption answers c.power)

/-- The sensors enabled, or disabled. -/
def setSensors (enable : Bool) (c : Controllers) : Controllers :=
  { c with
    compass := c.compass.setEnable enable
    distance := c.distance.setEnable enable
    power := c.power.setEnable enable }

/-- What a reading would be with all sensors enabled: what those that have initialised answer. -/
def measured (answers : SensorAnswers) (c : Controllers) : SensorData :=
  (c.setSensors true).readSensors answers

/-- At least one sensor has initialised. -/
def SensorReady (c : Controllers) : Prop :=
  c.compass.isReady = true ∨ c.distance.isReady = true ∨ c.power.isReady = true

/-- The sensors are those of `hardware`, all enabled or all disabled. -/
structure SensorsAre (hardware : Controllers) (enable : Bool) (c : Controllers) : Prop where
  compass : c.compass = hardware.compass.setEnable enable
  distance : c.distance = hardware.distance.setEnable enable
  power : c.power = hardware.power.setEnable enable

section Readings

variable {hardware c d : Controllers} {enable : Bool}

theorem SensorsAre.congr (h : SensorsAre hardware enable c) (hflags : SameFlags c d) :
    SensorsAre hardware enable d :=
  ⟨hflags.compass.trans h.compass, hflags.distance.trans h.distance, hflags.power.trans h.power⟩

/-- Whatever was enabled before. -/
theorem SensorsAre.set (h : SensorsAre hardware enable c) (after : Bool) :
    SensorsAre hardware after (c.setSensors after) := by
  refine ⟨?_, ?_, ?_⟩
  · exact (congrArg (Controller.setEnable after) h.compass).trans rfl
  · exact (congrArg (Controller.setEnable after) h.distance).trans rfl
  · exact (congrArg (Controller.setEnable after) h.power).trans rfl

/-- **The readings are measurements** iff the sensors are enabled: some answer shows the difference. -/
theorem SensorsAre.readSensors_iff (h : SensorsAre hardware enable c) (hready : hardware.SensorReady) :
    (∀ answers, c.readSensors answers = c.measured answers) ↔ enable = true := by
  constructor
  · intro hmeasured
    by_contra henable
    obtain rfl : enable = false := Bool.eq_false_iff.mpr henable
    have hsame := hmeasured .nonzero
    simp only [measured, setSensors, readSensors, getSensorValues, h.compass, h.distance, h.power,
      SensorData.mk.injEq, Option.some.injEq] at hsame
    obtain ⟨hcompass, hdistance, hpower, _⟩ := hsame
    rcases hready with hready | hready | hready
    · exact getCompassData_nonzero hready hcompass.symm
    · exact getDistance_nonzero hready hdistance.symm
    · exact getConsumption_nonzero hready hpower.symm
  · rintro rfl answers
    simp only [measured, setSensors, readSensors, getSensorValues, h.compass, h.distance, h.power]
    rfl

end Readings

end Controllers

namespace RobotState

/-- The sensors are enabled behind the entry into this state. -/
def senses : RobotState → Bool
  | .movingState | .tuiControlState => false
  | .idleState | .criticalErrorState | .initializeState | .remoteControlState | .talkingState |
    .trackingState => true

end RobotState

namespace Robot

open Controllers

/-- The values that the robot hands out are measurements, whatever the devices answer. -/
def Senses (m : Robot) : Prop :=
  ∀ answers, m.env.controllers.readSensors answers = m.env.controllers.measured answers

/-- The action does not open a session without sensors. -/
def OpensWithSensors (m : Robot) : Action → Prop
  | .dispatch => ∀ e, m.currentState = some .idleState → m.env.core.eventQueue.head? = some e →
      e.type = .control → e.source = .remoteConnectionService ∨ e.source = .expressionService ∨
        e.source = .landmarkTrackerService
  | _ => True

/-! ## One step -/

variable {hardware : Controllers} {enable : Bool}

theorem senses_sessionState_iff (source : SourceService) : (RobotState.sessionState source).senses = true ↔
    source = .remoteConnectionService ∨ source = .expressionService ∨ source = .landmarkTrackerService := by
  cases source <;> decide

/-- **Opening a session** enables the sensors iff the state that runs it does. -/
theorem sensors_openSession (env : RobotEnv) (h : SensorsAre hardware enable env.controllers)
    (e : ControlEvent) :
    SensorsAre hardware (RobotState.sessionState e.source).senses (env.openSession e).controllers := by
  cases hsource : e.source <;>
    simp only [RobotEnv.openSession, RobotState.sessionState, MovingState.onEnter, hsource]
  -- the last of the calls decides
  all_goals exact ⟨(h.set _).compass, (h.set _).distance, (h.set _).power⟩

theorem sensors_controlMotion (env : RobotEnv) (h : SensorsAre hardware enable env.controllers)
    (data : ControlData) : SensorsAre hardware enable (env.controlMotion data).controllers := by
  unfold RobotEnv.controlMotion
  split
  · rename_i hmotion
    exact h.congr (controlMotion_flags hmotion)
  · exact h

/-- A command leaves the sensors alone. -/
theorem sensors_execute (env : RobotEnv) (h : SensorsAre hardware enable env.controllers) {s : RobotState}
    {e : ControlEvent} (htype : e.type = .control) :
    SensorsAre hardware enable (env.execute s e).controllers := by
  rcases RobotEnv.execute_eq htype env with heq | heq | heq <;> rw [heq]
  · exact h
  · exact sensors_controlMotion _ h _
  · exact sensors_controlMotion env.refreshLastEventTime h _

/-! ## Runs -/

/-- The sensors are those that the robot was created with. -/
def KeepsSensors (hardware : Controllers) (m : Robot) : Prop :=
  ∃ enable, SensorsAre hardware enable m.env.controllers

/-- A step keeps the sensors, and leaves them enabled iff it does not open a session without them. -/
theorem sensors_steps {m t : Robot} {a : Action} (h : SensorsAre hardware enable m.env.controllers)
    (hst : Steps m a t) : ∃ after, SensorsAre hardware after t.env.controllers ∧
      (enable = true → (after = true ↔ m.OpensWithSensors a)) := by
  cases hst with
  | post ev => exact ⟨enable, h, fun henable => iff_of_true henable trivial⟩
  | expire => exact ⟨enable, h, fun henable => iff_of_true henable trivial⟩
  | @dispatch e core _ hpop hd =>
      have hhead := Core.head?_of_popEvent hpop
      -- outside `IdleState`, and of another type, no event opens a session
      have hother : (∀ e', m.currentState = some .idleState → m.env.core.eventQueue.head? = some e' →
          e'.type ≠ .control) → m.OpensWithSensors .dispatch :=
        fun hnone e' hidle he' htype => absurd htype (hnone e' hidle he')
      have hnotIdle : ∀ {s : RobotState}, m.currentState = some s → s.InMotion →
          m.OpensWithSensors .dispatch := by
        intro s hcur hs
        refine hother fun e' hidle _ => ?_
        cases current_unique hcur hidle
        exact absurd hs (by decide)
      cases hd with
      | @ignored s hcur hign =>
          refine ⟨enable, h, fun henable => iff_of_true henable (hother fun e' hidle he' htype => ?_)⟩
          cases current_unique hcur hidle
          obtain rfl := Option.some.inj (hhead.symm.trans he')
          exact hign rfl htype
      | opened hcur htype =>
          refine ⟨_, sensors_execute _ (sensors_openSession (m.withCore core).env h e) htype,
            fun _ => (senses_sessionState_iff e.source).trans ?_⟩
          constructor
          · intro hsource e' _ he' _
            obtain rfl := Option.some.inj (hhead.symm.trans he')
            exact hsource
          · exact fun hok => hok e hcur hhead htype
      | executed hcur hexec htype =>
          exact ⟨enable, sensors_execute (m.withCore core).env h htype, fun henable =>
            iff_of_true henable (hnotIdle hcur (RobotState.executes_inMotion hexec))⟩
      | rearmed hcur hs => exact ⟨enable, h, fun henable => iff_of_true henable (hnotIdle hcur hs)⟩
      | timedOut hcur hs | stopped hcur hs =>
          have hidle := h.set true
          exact ⟨true, ⟨hidle.compass, hidle.distance, hidle.power⟩, fun _ =>
            iff_of_true rfl (hnotIdle hcur hs)⟩
      | failed hcur hs =>
          -- the sensors stay as they are
          exact ⟨enable, h, fun henable => iff_of_true henable (hnotIdle hcur hs)⟩

/-- **The robot hands out measurements** in every state of a run, if at least one sensor has initialised, iff
    every control event that is dispatched in `IdleState` comes from the remote connection, the expression
    service or the tracker: a session of another source hands out zeros. -/
theorem readings_are_measured_iff {m t : Robot} {tr : List (Robot × Action)} (hm : system.init m)
    (hready : m.env.controllers.SensorReady) (hrun : system.Run m tr t) :
    (∀ u ∈ System.visited tr t, u.Senses) ↔ ∀ x ∈ tr, x.1.OpensWithSensors x.2 := by
  have hinit : SensorsAre m.env.controllers true m.env.controllers := by
    obtain ⟨clock, reads, controllers, trig, jointAngles, rfl⟩ := hm
    rw [start_create]
    exact ⟨rfl, rfl, rfl⟩
  refine hrun.forall_iff (I := fun u => Started u ∧ KeepsSensors m.env.controllers u) (fun _ _ => True)
    ?_ ?_ ⟨started_init hm, true, hinit⟩ ((hinit.readSensors_iff hready).mpr rfl) (fun _ _ => trivial)
  · rintro s a u ⟨hs, enable, hsensors⟩ hst
    obtain ⟨after, hafter, _⟩ := sensors_steps hsensors (steps_of_step hs hst)
    exact ⟨started_step hs hst, after, hafter⟩
  · rintro s a u ⟨hs, enable, hsensors⟩ hsenses _ hst
    obtain ⟨after, hafter, hiff⟩ := sensors_steps hsensors (steps_of_step hs hst)
    exact (hafter.readSensors_iff hready).trans (hiff ((hsensors.readSensors_iff hready).mp hsenses))

/-- A session of the text interface. -/
def driveFromTui : List Action := [.post (driveEvent .tuiService), .dispatch]

/-- The robot measures until the session begins, and then hands out zeros. -/
theorem readings_are_measured_tui : ∃ (t : Robot) (tr : List (Robot × Action)),
    system.Run fresh tr t ∧ tr.map Prod.snd = driveFromTui ∧
      (t.env.controllers.readSensors .nonzero).distanceData = some .zero ∧
      ¬ ∀ x ∈ tr, x.1.OpensWithSensors x.2 := by
  have hexec : (system.exec fresh driveFromTui).map (fun t =>
      ((t.env.controllers.readSensors .nonzero).distanceData,
        (t.env.controllers.measured .nonzero).distanceData)) =
      some (some ⟨0, 0, 0⟩, some ⟨50, 0, -256⟩) := rfl
  obtain ⟨t, ht, hshown⟩ := Option.map_eq_some_iff.mp hexec
  obtain ⟨hread, hmeasured⟩ := Prod.mk.inj hshown
  obtain ⟨tr, hrun, hacts⟩ := System.Run.of_exec ht
  refine ⟨t, tr, hrun, hacts, hread, fun hok => ?_⟩
  have hsenses := (readings_are_measured_iff fresh_init (.inl rfl) hrun).mpr hok t
    (List.mem_append_right _ (List.mem_singleton.mpr rfl)) .nonzero
  have hsame := hread.symm.trans ((congrArg SensorData.distanceData hsenses).trans hmeasured)
  exact absurd hsame (by decide)

end Robot

end Kufibot
