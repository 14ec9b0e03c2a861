import Kufibot.Lib.System
import Kufibot.Robot.Dispatch

/-!
# `Robot.Run` — the runs of `Robot`

`Robot` as a labelled system: anybody posts events, the worker moves due timers to the queue, and the
worker dispatches the front of the queue, in any order. It starts behind the initial transition
(`start_create`) and ends when an exception has escaped.

`Started` is the part of the state that no step changes; with it every step is one of the three of
`Steps`, and a dispatch is one of the seven things of `Dispatched`. The frame lemmas say which parts of
the environment a session touches.
-/

namespace Kufibot

open Lib

/-! ## Frames -/

namespace RobotEnv

@[simp] theorem tick_core (env : RobotEnv) : env.tick.core = env.core.tick := rfl

@[simp] theorem tick_timeoutMs (env : RobotEnv) : env.tick.timeoutMs = env.timeoutMs := rfl

@[simp] theorem addPostDelayedEvent_core (s : RobotState) (env : RobotEnv) :
    (env.addPostDelayedEvent s).core = env.core.postDelayedEvent timeoutEvent (env.timeoutMs s) := rfl

@[simp] theorem controlMotion_core (data : ControlData) (env : RobotEnv) :
    (env.controlMotion data).core = env.core := by
  unfold controlMotion; split <;> rfl

@[simp] theorem controlMotion_timeoutMs (data : ControlData) (env : RobotEnv) :
    (env.controlMotion data).timeoutMs = env.timeoutMs := by
  unfold controlMotion; split <;> rfl

@[simp] theorem controlMotion_motions (data : ControlData) (env : RobotEnv) :
    (env.controlMotion data).motions = env.motions ++ [data] := by
  unfold controlMotion; split <;> rfl

@[simp] theorem controlMotion_lastEventTime (data : ControlData) (env : RobotEnv) :
    (env.controlMotion data).lastEventTime = env.lastEventTime := by
  unfold controlMotion; split <;> rfl

@[simp] theorem controlMotion_entrySource (data : ControlData) (env : RobotEnv) :
    (env.controlMotion data).entrySource = env.entrySource := by
  unfold controlMotion; split <;> rfl

/-- **What opening a session does**: the watchdog is armed, the DC motor controller is enabled, and apart
    from that only the other controllers and the entry source may change. -/
theorem openSession_eq (e : ControlEvent) (env : RobotEnv) : ∃ controllers entrySource,
    env.openSession e = { env.addPostDelayedEvent .movingState with
      controllers := controllers
      enableSensorContinuousReadings := false
      entrySource := entrySource } ∧ controllers.dcMotor.isEnabled = true := by
  cases hsource : e.source <;>
    simp only [openSession, RobotState.sessionState, MovingState.onEnter, hsource]
  -- a child that takes over enables the sensors and the servos too
  all_goals exact ⟨_, _, rfl, rfl⟩

theorem openSession_core (e : ControlEvent) (env : RobotEnv) :
    (env.openSession e).core =
      env.core.postDelayedEvent timeoutEvent (env.timeoutMs .movingState) := by
  obtain ⟨controllers, entrySource, h, _⟩ := openSession_eq e env
  rw [h]; rfl

theorem openSession_timeoutMs (e : ControlEvent) (env : RobotEnv) :
    (env.openSession e).timeoutMs = env.timeoutMs := by
  obtain ⟨controllers, entrySource, h, _⟩ := openSession_eq e env
  rw [h]; rfl

theorem openSession_motions (e : ControlEvent) (env : RobotEnv) :
    (env.openSession e).motions = env.motions := by
  obtain ⟨controllers, entrySource, h, _⟩ := openSession_eq e env
  rw [h]; rfl

theorem openSession_dcMotor_enable (e : ControlEvent) (env : RobotEnv) :
    (env.openSession e).controllers.dcMotor.isEnabled = true := by
  obtain ⟨controllers, entrySource, h, hdrive⟩ := openSession_eq e env
  rw [h]; exact hdrive

/-- What executing a control event may do: nothing, or a command, with or without a refresh. -/
theorem execute_eq {s : RobotState} {e : ControlEvent} (htype : e.type = .control) (env : RobotEnv) :
    env.execute s e = env ∨
      env.execute s e = env.controlMotion e.controlData ∨
      env.execute s e = env.refreshLastEventTime.controlMotion e.controlData := by
  by_cases hexec : s.Executes e.source
  · rw [Robot.execute_control hexec htype]
    split
    · exact .inr (.inr rfl)
    · exact .inr (.inl rfl)
  · exact .inl (Robot.execute_of_not hexec htype env)

theorem execute_running {s : RobotState} {e : ControlEvent} (htype : e.type = .control)
    (env : RobotEnv) : (env.execute s e).core.running = env.core.running := by
  rcases execute_eq htype env with h | h | h <;> rw [h] <;> simp [refreshLastEventTime, Core.tick]

theorem execute_timeoutMs {s : RobotState} {e : ControlEvent} (htype : e.type = .control)
    (env : RobotEnv) : (env.execute s e).timeoutMs = env.timeoutMs := by
  rcases execute_eq htype env with h | h | h <;> rw [h] <;> simp [refreshLastEventTime]

theorem execute_pending {s : RobotState} {e : ControlEvent} (htype : e.type = .control)
    (p : ControlEvent → Bool) (env : RobotEnv) :
    (env.execute s e).core.pending p = env.core.pending p := by
  rcases execute_eq htype env with h | h | h <;> rw [h] <;> simp [refreshLastEventTime]

end RobotEnv

namespace Robot

/-! ## The system -/

/-- What can happen next. -/
inductive Action where
  | post (ev : ControlEvent)
  /-- The worker reads the clock and moves the first timer, which is due, to the queue. -/
  | expire
  /-- The worker dispatches the front of the queue. -/
  | dispatch

def withCore (core : Core ControlEvent) (m : Robot) : Robot :=
  { m with env := { m.env with core := core } }

def step (m : Robot) (a : Action) : Option Robot :=
  if m.env.terminated then none
  else
    match a with
    | .post ev => some (m.withCore (m.env.core.postEvent ev))
    | .expire => (m.env.core.tick.expireFirst m.env.core.now).map m.withCore
    | .dispatch => m.env.core.popEvent.map fun popped => (m.withCore popped.2).dispatch popped.1

/-- `Robot` with its worker, from the end of the initial transition on. -/
def system : System Robot Action where
  init m := ∃ clock reads controllers trig jointAngles,
    m = start (create clock reads controllers trig jointAngles)
  step := step

/-- The initial transition enters `InitializeState`, which answers with `IdleState`. -/
theorem start_create (clock : SteadyClock) (reads : Nat) (controllers : Controllers) (trig : Trig)
    (jointAngles : Option JointPositionList) :
    start (create clock reads controllers trig jointAngles) =
      { currentState := some .idleState
        env := ((RobotEnv.create clock reads controllers trig jointAngles).setRunning
          true).initializeRobot.2.setEnableSensorContinuousReadings true
        calls := [.onEnter .initializeState, .onEnter .idleState] } := rfl

/-! ## Steps -/

/-- What holds from the start on: the machine runs, with the timeout of the constructor, in a state other
    than `InitializeState`. -/
structure Started (m : Robot) : Prop where
  running : m.env.core.running = true
  timeoutMs : m.env.timeoutMs .movingState = 5000
  current : ∃ s, m.currentState = some s ∧ s ≠ .initializeState

/-- **Everything a step can be.** -/
inductive Steps (m : Robot) : Action → Robot → Prop where
  | post (ev : ControlEvent) : Steps m (.post ev) (m.withCore (m.env.core.postEvent ev))
  | expire {core : Core ControlEvent}
      (hexpire : m.env.core.tick.expireFirst m.env.core.now = some core) :
      Steps m .expire (m.withCore core)
  | dispatch {e : ControlEvent} {core : Core ControlEvent} {t : Robot}
      (hpop : m.env.core.popEvent = some (e, core)) (hdispatch : Dispatched (m.withCore core) e t) :
      Steps m .dispatch t

/-- There is one current state. -/
theorem current_unique {m : Robot} {s s' : RobotState} (h : m.currentState = some s)
    (h' : m.currentState = some s') : s = s' :=
  Option.some.inj (h.symm.trans h')

theorem started_withCore {m : Robot} {core : Core ControlEvent} (hm : Started m)
    (hrun : core.running = m.env.core.running) : Started (m.withCore core) :=
  ⟨hrun.trans hm.running, hm.timeoutMs, hm.current⟩

theorem steps_of_step {m t : Robot} {a : Action} (hm : Started m) (hst : m.step a = some t) :
    Steps m a t := by
  obtain ⟨_, hst⟩ := Option.ite_none_left_eq_some.mp hst
  cases a with
  | post ev => cases hst; exact .post ev
  | expire =>
      obtain ⟨core, hexpire, rfl⟩ := Option.map_eq_some_iff.mp hst
      exact .expire hexpire
  | dispatch =>
      obtain ⟨⟨e, core⟩, hpop, rfl⟩ := Option.map_eq_some_iff.mp hst
      have hpopped : Started (m.withCore core) := started_withCore hm (Core.popEvent_running hpop)
      obtain ⟨s, hcur, _⟩ := hpopped.current
      exact .dispatch hpop (dispatch_cases hpopped.running hcur e)

theorem sessionState_ne (source : SourceService) :
    RobotState.sessionState source ≠ .initializeState := by
  cases source <;> decide

theorem started_dispatched {m t : Robot} {e : ControlEvent} (hm : Started m)
    (h : Dispatched m e t) : Started t := by
  cases h with
  | ignored => exact hm
  | opened _ htype =>
      refine ⟨?_, ?_, _, rfl, sessionState_ne e.source⟩
      · rw [openSession, RobotEnv.execute_running htype, RobotEnv.openSession_core]
        simpa using hm.running
      · rw [openSession, RobotEnv.execute_timeoutMs htype, RobotEnv.openSession_timeoutMs]
        exact hm.timeoutMs
  | executed _ _ htype =>
      refine ⟨?_, ?_, hm.current⟩
      · exact (RobotEnv.execute_running htype _).trans hm.running
      · exact (congrFun (RobotEnv.execute_timeoutMs htype _) _).trans hm.timeoutMs
  | rearmed => exact ⟨by simpa using hm.running, hm.timeoutMs, hm.current⟩
  | timedOut => exact ⟨hm.running, hm.timeoutMs, _, rfl, by decide⟩
  | stopped => exact ⟨hm.running, hm.timeoutMs, _, rfl, by decide⟩
  | failed => exact ⟨hm.running, hm.timeoutMs, _, rfl, by decide⟩

theorem started_steps {m t : Robot} {a : Action} (hm : Started m) (h : Steps m a t) : Started t := by
  cases h with
  | post ev => exact started_withCore hm rfl
  | expire hexpire => exact started_withCore hm ((Core.expireFirst_running hexpire).trans rfl)
  | dispatch hpop hdispatch =>
      exact started_dispatched (started_withCore hm (Core.popEvent_running hpop)) hdispatch

theorem started_init {m : Robot} (h : system.init m) : Started m := by
  obtain ⟨clock, reads, controllers, trig, jointAngles, rfl⟩ := h
  rw [start_create]
  exact ⟨rfl, rfl, _, rfl, by decide⟩

theorem started_step {m t : Robot} {a : Action} (hm : Started m) (hst : system.step m a = some t) :
    Started t :=
  started_steps hm (steps_of_step hm hst)

theorem started_reachable {m : Robot} (h : system.Reachable m) : Started m :=
  h.invariant (fun _ => started_init) fun _ _ _ hs _ hst => started_step hs hst

/-- The invariant rule for `Robot`: what holds behind the initial transition and survives every step from
    a started machine holds in every reachable state. -/
theorem reachable_induction {I : Robot → Prop} (hinit : ∀ m, system.init m → I m)
    (hstep : ∀ m a t, Started m → I m → Steps m a t → I t) {m : Robot} (h : system.Reachable m) :
    I m := by
  refine (h.invariant (I := fun m => Started m ∧ I m) ?_ ?_).2
  · exact fun m hm => ⟨started_init hm, hinit m hm⟩
  · rintro m a t ⟨hm, hI⟩ _ hst
    exact ⟨started_step hm hst, hstep m a t hm hI (steps_of_step hm hst)⟩

/-! ## Dispatching one event -/

/-- The worker dispatches `e`, the front of the queue, and this leads to `t`. -/
def Dispatches (m : Robot) (e : ControlEvent) (t : Robot) : Prop :=
  m.env.core.eventQueue.head? = some e ∧ m.step .dispatch = some t

theorem Dispatches.dispatched {m t : Robot} {e : ControlEvent} (hm : Started m)
    (h : m.Dispatches e t) :
    ∃ core, m.env.core.popEvent = some (e, core) ∧ Dispatched (m.withCore core) e t := by
  obtain ⟨hhead, hst⟩ := h
  cases steps_of_step hm hst with
  | @dispatch e' core _ hpop hdispatch =>
      obtain rfl : e' = e := Option.some.inj ((Core.head?_of_popEvent hpop).symm.trans hhead)
      exact ⟨core, hpop, hdispatch⟩

/-! ## A robot to run -/

/-- Controllers that are ready, with all PWM registers at zero and all joints at 90 degrees. -/
def readyControllers : Controllers where
  compass := { initialized := true }
  distance := { initialized := true }
  power := { initialized := true }
  servo := {
    initialized := true
    driver := { registers := fun _ => 0, dutyCycles := [] }
    currentJointAngles := fun _ => some 90
    saveFile := none }
  dcMotor := { initialized := true, driver := { registers := fun _ => 0, dutyCycles := [] } }

/-- Enough for a run without a head joystick. -/
def noTrig : Trig where
  sinDeg _ := 0
  cosDeg _ := 0
  abs_sinDeg_le _ := by simp
  abs_cosDeg_le _ := by simp

/-- A robot that has just been started, on a clock with this period. -/
def freshOn (periodMs : Nat) : Robot :=
  start (create (tickingClock periodMs) 0 readyControllers noTrig none)

/-- On a clock that advances by one second from reading to reading. -/
def fresh : Robot := freshOn 1000

theorem freshOn_init (periodMs : Nat) : system.init (freshOn periodMs) := ⟨_, _, _, _, _, rfl⟩

theorem fresh_init : system.init fresh := freshOn_init 1000

theorem fresh_reachable : system.Reachable fresh := .init fresh_init

/-- The same robot with one event in its queue. -/
def freshWith (e : ControlEvent) : Robot := fresh.withCore (fresh.env.core.postEvent e)

theorem freshWith_reachable (e : ControlEvent) : system.Reachable (freshWith e) :=
  .step fresh_reachable (a := .post e) trivial rfl

/-- A body joystick at full strength, from this source. -/
def driveEvent (source : SourceService) : ControlEvent :=
  { type := .control, source := source, controlData := { bodyJoystick := some ⟨90, 100⟩ } }

end Robot

end Kufibot
