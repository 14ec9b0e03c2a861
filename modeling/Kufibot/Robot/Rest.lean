import Kufibot.Robot.Run

/-!
# `Robot.Rest` — whether the motors are at rest outside motion

Outside motion the servo and the DC motor controller should be disabled and both drive motors at duty
zero. A session ends without a call of `stop`: `IdleState` only disables the controllers, which keeps the
PWM registers as they are, and `CriticalErrorState` does not even do that.

`rest_iff` says when the motors are at rest all the same: no critical error is dispatched in motion, and
every stop and every expired timeout that is dispatched in motion finds the drive motors at duty zero.
-/

namespace Kufibot

open Lib

/-- Both drive motors are at duty zero. -/
def Controllers.WheelsStopped (c : Controllers) : Prop :=
  c.dcMotor.driver.dutyCount DCMotorController.pwmA = 0 ∧
    c.dcMotor.driver.dutyCount DCMotorController.pwmB = 0

/-- The motors are at rest. -/
structure Controllers.AtRest (c : Controllers) : Prop where
  servo : c.servo.isEnabled = false
  dcMotor : c.dcMotor.isEnabled = false
  wheels : c.WheelsStopped

namespace Robot

/-- Outside motion the motors are at rest. -/
def RestsOutsideMotion (m : Robot) : Prop :=
  ∀ s, m.currentState = some s → ¬ s.InMotion → m.env.controllers.AtRest

/-- The event ends a motion, so the wheels had better be stopped. -/
def EndsMotion (m : Robot) (e : ControlEvent) : Prop :=
  e.type = .stop ∨ (e.type = .timeout ∧ m.env.Expired)

/-- The action does not end a motion by a critical error, nor in any way while the wheels turn. -/
def EndsAtRest (m : Robot) : Action → Prop
  | .dispatch => ∀ s e, m.currentState = some s → s.InMotion →
      m.env.core.eventQueue.head? = some e →
        e.type ≠ .criticalError ∧ (m.EndsMotion e → m.env.controllers.WheelsStopped)
  | _ => True

/-! ## The DC motor controller in motion -/

/-- In motion the DC motor controller is enabled. -/
def DriveEnabled (m : Robot) : Prop :=
  ∀ s, m.currentState = some s → s.InMotion → m.env.controllers.dcMotor.isEnabled = true

theorem controlMotion_dcMotor_enable (data : ControlData) (env : RobotEnv) :
    (env.controlMotion data).controllers.dcMotor.isEnabled =
      env.controllers.dcMotor.isEnabled := by
  unfold RobotEnv.controlMotion
  split
  · rename_i h
    exact congrArg Controller.isEnabled (controlMotion_flags h).dcMotor
  · rfl

theorem execute_dcMotor_enable {s : RobotState} {e : ControlEvent} (htype : e.type = .control)
    (env : RobotEnv) :
    (env.execute s e).controllers.dcMotor.isEnabled = env.controllers.dcMotor.isEnabled := by
  rcases RobotEnv.execute_eq htype env with h | h | h <;> rw [h]
  · exact controlMotion_dcMotor_enable ..
  · exact controlMotion_dcMotor_enable ..

theorem driveEnabled_steps {m t : Robot} {a : Action} (h : DriveEnabled m) (hst : Steps m a t) :
    DriveEnabled t := by
  intro s hcur hs
  cases hst with
  | post ev => exact h s hcur hs
  | expire => exact h s hcur hs
  | dispatch _ hd =>
      cases hd with
      | ignored => exact h s hcur hs
      | opened _ htype =>
          exact (execute_dcMotor_enable htype _).trans (RobotEnv.openSession_dcMotor_enable ..)
      | executed _ _ htype => exact (execute_dcMotor_enable htype _).trans (h s hcur hs)
      | rearmed => exact h s hcur hs
      | timedOut => cases hcur; exact absurd hs (by decide)
      | stopped => cases hcur; exact absurd hs (by decide)
      | failed => cases hcur; exact absurd hs (by decide)

/-! ## One step -/

theorem endsAtRest_iff {m : Robot} {s : RobotState} {e : ControlEvent} {core : Core ControlEvent}
    (hpop : m.env.core.popEvent = some (e, core)) (hcur : m.currentState = some s)
    (hs : s.InMotion) :
    EndsAtRest m .dispatch ↔
      e.type ≠ .criticalError ∧ (m.EndsMotion e → m.env.controllers.WheelsStopped) := by
  have hhead := Core.head?_of_popEvent hpop
  constructor
  · exact fun h => h s e hcur hs hhead
  · intro h s' e' _ _ he'
    obtain rfl := Option.some.inj (hhead.symm.trans he')
    exact h

/-- Outside motion every dispatch meets the condition. -/
theorem endsAtRest_of_rest {m : Robot} {s : RobotState} (hcur : m.currentState = some s)
    (hs : ¬ s.InMotion) : EndsAtRest m .dispatch := by
  intro s' e hcur' hs'
  obtain rfl := current_unique hcur hcur'
  exact absurd hs' hs

/-- `IdleState` disables both controllers, and leaves the registers of the wheels alone. -/
theorem idle_atRest_iff (env : RobotEnv) :
    (env.setEnableSensorContinuousReadings true).controllers.AtRest ↔
      env.controllers.WheelsStopped :=
  ⟨fun h => h.wheels, fun h => ⟨rfl, rfl, h⟩⟩

theorem rests_of_inMotion {m : Robot} {s : RobotState} (hcur : m.currentState = some s)
    (hs : s.InMotion) : RestsOutsideMotion m := by
  intro s' hcur' hs'
  obtain rfl := current_unique hcur hcur'
  exact absurd hs hs'

theorem rests_leaveFor_iff {s : RobotState} (hs : ¬ s.InMotion) (env : RobotEnv) (m : Robot) :
    RestsOutsideMotion (m.leaveFor s env) ↔ env.controllers.AtRest := by
  constructor
  · exact fun h => h s rfl hs
  · rintro h s' hcur _
    cases hcur
    exact h

/-- Taking an event from the queue does not read the clock. -/
theorem expired_withCore {m : Robot} {e : ControlEvent} {core : Core ControlEvent}
    (hpop : m.env.core.popEvent = some (e, core)) :
    (m.withCore core).env.Expired ↔ m.env.Expired := by
  rw [(Core.popEvent_eq_some hpop).2]
  rfl

theorem rests_dispatch {m t : Robot} {e : ControlEvent} {core : Core ControlEvent}
    (h : RestsOutsideMotion m) (hdrive : DriveEnabled m)
    (hpop : m.env.core.popEvent = some (e, core)) (hd : Dispatched (m.withCore core) e t) :
    RestsOutsideMotion t ↔ EndsAtRest m .dispatch := by
  cases hd with
  | @ignored s hcur hign =>
      refine iff_of_true h ?_
      by_cases hs : s.InMotion
      · rw [endsAtRest_iff hpop hcur hs]
        rw [RobotState.Ignores, if_pos hs] at hign
        rcases hign with htype | htype | ⟨htype, _⟩ <;> simp [EndsMotion, htype]
      · exact endsAtRest_of_rest hcur hs
  | opened hcur htype =>
      exact iff_of_true (rests_of_inMotion rfl (RobotState.sessionState_inMotion _))
        (endsAtRest_of_rest hcur (by decide))
  | executed hcur hexec htype =>
      -- a command may turn the wheels, but the robot stays in motion
      have hs := RobotState.executes_inMotion hexec
      refine iff_of_true (rests_of_inMotion hcur hs) ?_
      rw [endsAtRest_iff hpop hcur hs]
      simp [EndsMotion, htype]
  | rearmed hcur hs htype hfresh =>
      refine iff_of_true (rests_of_inMotion hcur hs) ?_
      rw [endsAtRest_iff hpop hcur hs]
      refine ⟨by rw [htype]; decide, ?_⟩
      rintro (hstop | ⟨_, hexpired⟩)
      · exact absurd (hstop.symm.trans htype) (by decide)
      · exact absurd ((expired_withCore hpop).mpr hexpired) hfresh
  | timedOut hcur hs htype hexpired =>
      rw [rests_leaveFor_iff (by decide), idle_atRest_iff, endsAtRest_iff hpop hcur hs]
      constructor
      · exact fun hwheels => ⟨by rw [htype]; decide, fun _ => hwheels⟩
      · exact fun hok => hok.2 (.inr ⟨htype, (expired_withCore hpop).mp hexpired⟩)
  | stopped hcur hs htype =>
      -- disabling the controllers does not write the duty cycles
      rw [rests_leaveFor_iff (by decide), idle_atRest_iff, endsAtRest_iff hpop hcur hs]
      constructor
      · exact fun hwheels => ⟨by rw [htype]; decide, fun _ => hwheels⟩
      · exact fun hok => hok.2 (.inl htype)
  | @failed s hcur hs htype =>
      -- nobody has disabled the DC motor controller
      rw [rests_leaveFor_iff (by decide), endsAtRest_iff hpop hcur hs]
      refine iff_of_false (fun hrest => ?_) (fun hok => hok.1 htype)
      exact absurd ((hdrive s hcur hs).symm.trans hrest.dcMotor) (by decide)

theorem rests_steps {m t : Robot} {a : Action} (h : RestsOutsideMotion m) (hdrive : DriveEnabled m)
    (hst : Steps m a t) : RestsOutsideMotion t ↔ EndsAtRest m a := by
  cases hst with
  | post => exact iff_of_true h trivial
  | expire => exact iff_of_true h trivial
  | dispatch hpop hd => exact rests_dispatch h hdrive hpop hd

/-- **When the motors are at rest outside motion.** In a run of a robot whose wheels are stopped at the
    start, the motors are at rest outside motion in every state iff no critical error is dispatched in
    motion and every stop and every expired timeout dispatched in motion finds the wheels stopped. -/
theorem rest_iff {m t : Robot} {tr : List (Robot × Action)} (hm : system.init m)
    (hwheels : m.env.controllers.WheelsStopped) (hrun : system.Run m tr t) :
    (∀ u ∈ System.visited tr t, u.RestsOutsideMotion) ↔ ∀ x ∈ tr, EndsAtRest x.1 x.2 := by
  refine hrun.forall_iff (I := fun m => Started m ∧ DriveEnabled m) (fun _ _ => True)
    ?_ ?_ ⟨started_init hm, ?_⟩ ?_ (fun _ _ => trivial)
  · rintro s a t ⟨hs, hdrive⟩ hst
    exact ⟨started_step hs hst, driveEnabled_steps hdrive (steps_of_step hs hst)⟩
  · rintro s a t ⟨hs, hdrive⟩ hrests _ hst
    exact rests_steps hrests hdrive (steps_of_step hs hst)
  all_goals
    obtain ⟨clock, reads, controllers, trig, jointAngles, rfl⟩ := hm
    rw [start_create] at hwheels ⊢
    rintro s ⟨⟩ hs
  · exact absurd hs (by decide)
  · exact ⟨rfl, rfl, hwheels⟩

/-- A session is opened at full speed and ended by a stop. -/
def driveAndStop : List Action :=
  [.post (driveEvent .remoteConnectionService), .dispatch, .post { type := .stop }, .dispatch]

/-- It leaves the wheels at 95 percent, in `IdleState`. -/
theorem driveAndStop_exec :
    ∃ t, system.exec fresh driveAndStop = some t ∧ ¬ t.RestsOutsideMotion := by
  have hrun : (system.exec fresh driveAndStop).map (fun t => (t.currentState,
      t.env.controllers.dcMotor.driver.dutyCount DCMotorController.pwmA)) =
        some (some .idleState, 3891) := rfl
  obtain ⟨t, hexec, hstate⟩ := Option.map_eq_some_iff.mp hrun
  obtain ⟨hcur, hduty⟩ := Prod.mk.inj hstate
  refine ⟨t, hexec, fun hrests => ?_⟩
  have hzero := (hrests _ hcur (by decide)).wheels.1
  rw [hduty] at hzero
  cases hzero

/-- **The wheels keep turning.** After a stop the robot is in `IdleState` and nobody can stop the wheels,
    which are at 95 percent. -/
theorem wheels_turn_in_idle : ∃ t, system.Reachable t ∧ ¬ t.RestsOutsideMotion := by
  obtain ⟨t, hexec, hturns⟩ := driveAndStop_exec
  exact ⟨t, System.reachableVia_of_exec fresh_reachable (fun _ _ _ => trivial) hexec, hturns⟩

/-- In that run some step ends a motion while the wheels turn. -/
theorem rest_iff_driveAndStop : ∃ (t : Robot) (tr : List (Robot × Action)),
    system.Run fresh tr t ∧ tr.map Prod.snd = driveAndStop ∧ ¬ ∀ x ∈ tr, EndsAtRest x.1 x.2 := by
  obtain ⟨t, hexec, hturns⟩ := driveAndStop_exec
  obtain ⟨tr, hrun, hacts⟩ := System.Run.of_exec hexec
  refine ⟨t, tr, hrun, hacts, fun hok => hturns ?_⟩
  exact (rest_iff fresh_init ⟨rfl, rfl⟩ hrun).mpr hok t (by simp [System.visited])

end Robot

end Kufibot
