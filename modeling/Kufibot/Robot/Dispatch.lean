import Kufibot.Robot.States
import Kufibot.StateMachine.TransitionLaw

/-!
# `Robot.Dispatch` — everything one dispatched event can do

`dispatch_cases` says once what the handlers, the bubbling to the parent, a transition, the redirecting
`onEnter` of `MovingState` and the replay of the cause add up to. Seven things can happen to an event
(`Dispatched`); every invariant of `Robot` is proved by cases on them, and never unfolds a handler again.
-/

namespace Kufibot

open Lib

namespace RobotState

/-- The state in which a session runs that an event of this source opens. -/
def sessionState : SourceService → RobotState
  | .tuiService => .tuiControlState
  | .remoteConnectionService => .remoteControlState
  | .expressionService | .landmarkTrackerService => .talkingState
  | _ => .movingState

/-- The state executes control events of this source. -/
def Executes : RobotState → SourceService → Prop
  | .tuiControlState, source => source = .tuiService
  | .remoteControlState, _ | .talkingState, _ | .trackingState, _ => True
  | .idleState, _ | .movingState, _ | .criticalErrorState, _ | .initializeState, _ => False

instance : ∀ (s : RobotState) (source : SourceService), Decidable (s.Executes source)
  | .tuiControlState, source => inferInstanceAs (Decidable (source = .tuiService))
  | .remoteControlState, _ | .talkingState, _ | .trackingState, _ => isTrue trivial
  | .idleState, _ | .movingState, _ | .criticalErrorState, _ | .initializeState, _ => isFalse id

/-- A control event of this source refreshes the session that is open in the state. -/
def Refreshes : RobotState → SourceService → RobotEnv → Bool
  | .talkingState, source, env => source = env.entrySource
  | _, _, _ => true

/-- Neither the state nor its parent does anything about the event. -/
def Ignores (s : RobotState) (e : ControlEvent) : Prop :=
  if s.InMotion then
    e.type = .none ∨ e.type = .listenVoice ∨ (e.type = .control ∧ ¬ s.Executes e.source)
  else s = .idleState → e.type ≠ .control

theorem sessionState_inMotion (source : SourceService) : (sessionState source).InMotion := by
  cases source <;> decide

theorem executes_inMotion {s : RobotState} {source : SourceService} (h : s.Executes source) :
    s.InMotion := by
  cases s <;> first | exact .inr rfl | exact absurd h id

theorem not_executes_of_ignores {s : RobotState} {e : ControlEvent} (htype : e.type = .control)
    (hign : s.Ignores e) : ¬ s.Executes e.source := by
  intro hexec
  rw [Ignores, if_pos (executes_inMotion hexec), htype] at hign
  rcases hign with h | h | ⟨_, h⟩
  · cases h
  · cases h
  · exact h hexec

end RobotState

namespace RobotEnv

/-- The session has not been refreshed for longer than its timeout allows. -/
def Expired (env : RobotEnv) : Prop :=
  env.timeoutMs .movingState - 10 < countMs (env.core.now - env.lastEventTime .movingState)

/-- The clock has been read. -/
def tick (env : RobotEnv) : RobotEnv := { env with core := env.core.tick }

/-- What a state does about a control event. -/
def execute (s : RobotState) (e : ControlEvent) (env : RobotEnv) : RobotEnv := (s.onEvent e env).2

/-- `MovingState` is entered, and then the state that runs the session. -/
def openSession (e : ControlEvent) (env : RobotEnv) : RobotEnv :=
  let env := (MovingState.onEnter e env).2
  match RobotState.sessionState e.source with
  | .movingState => env
  | s => (s.onEnter e env).2

end RobotEnv

namespace Robot

/-- The current state and its ancestors are left for a root, which has taken over `env`. -/
def leaveFor (t : RobotState) (env : RobotEnv) (m : Robot) : Robot where
  currentState := some t
  env := env
  calls := m.calls ++ (robotStates.ancestors m.currentState).map .onExit ++ [.onEnter t]

/-- `IdleState` is left for the state that runs the session. -/
def openSession (e : ControlEvent) (m : Robot) : Robot where
  currentState := some (RobotState.sessionState e.source)
  env := (m.env.openSession e).execute (RobotState.sessionState e.source) e
  calls := m.calls ++ [.onExit .idleState, .onEnter .movingState] ++
    match RobotState.sessionState e.source with
    | .movingState => []
    | s => [.onEnter s]

/-- **What can happen to a dispatched event.** -/
inductive Dispatched (m : Robot) (e : ControlEvent) : Robot → Prop where
  | ignored {s : RobotState} (hcur : m.currentState = some s) (hign : s.Ignores e) :
      Dispatched m e m
  | opened (hcur : m.currentState = some .idleState) (htype : e.type = .control) :
      Dispatched m e (m.openSession e)
  | executed {s : RobotState} (hcur : m.currentState = some s) (hexec : s.Executes e.source)
      (htype : e.type = .control) : Dispatched m e { m with env := m.env.execute s e }
  | rearmed {s : RobotState} (hcur : m.currentState = some s) (hs : s.InMotion)
      (htype : e.type = .timeout) (hfresh : ¬ m.env.Expired) :
      Dispatched m e { m with env := m.env.tick.addPostDelayedEvent .movingState }
  | timedOut {s : RobotState} (hcur : m.currentState = some s) (hs : s.InMotion)
      (htype : e.type = .timeout) (hexpired : m.env.Expired) :
      Dispatched m e (m.leaveFor .idleState (m.env.tick.setEnableSensorContinuousReadings true))
  | stopped {s : RobotState} (hcur : m.currentState = some s) (hs : s.InMotion)
      (htype : e.type = .stop) :
      Dispatched m e (m.leaveFor .idleState (m.env.setEnableSensorContinuousReadings true))
  | failed {s : RobotState} (hcur : m.currentState = some s) (hs : s.InMotion)
      (htype : e.type = .criticalError) : Dispatched m e (m.leaveFor .criticalErrorState m.env)

/-! ## Transitions to a root -/

/-- A root is entered, and the state that has taken over handles the cause. -/
def enter (t : RobotState) (cause : ControlEvent) (m : Robot) : Robot :=
  let entered := robotHandlers.enterLoop cause [t] t m
  (robotHandlers.callOnEvent entered.1 cause { entered.2 with currentState := some entered.1 }).2

/-- Without a common ancestor the whole chain is exited, and no `onExit` does anything. -/
theorem exitLoop_none (cause : ControlEvent) (chain : List RobotState) (m : Robot) :
    robotHandlers.exitLoop none cause chain m = { m with calls := m.calls ++ chain.map .onExit } := by
  induction chain generalizing m with
  | nil => simp [Handlers.exitLoop]
  | cons s chain ih =>
      rw [Handlers.exitLoop, if_neg (Option.some_ne_none s), ih]
      simp [Handlers.callOnExit, robotHandlers, RobotState.onExit]

theorem transition_root {t : RobotState} {cause : ControlEvent} {m : Robot}
    (hrun : m.env.core.running = true) (hroot : t.parent = none)
    (hnot : t ∉ robotStates.ancestors m.currentState) :
    m.transition t cause =
      enter t cause { m with calls := m.calls ++ (robotStates.ancestors m.currentState).map .onExit } := by
  have hchain : robotStates.ancestors (some t) = [t] := by
    rw [Forest.ancestors_some, show robotStates.parent t = none from hroot, Forest.ancestors_none]
  -- the two chains have nothing in common, so everything is exited and the whole of `[t]` entered
  have hlca : Handlers.lowestCommonAncestor (robotStates.ancestors m.currentState) [t] = none := by
    have hdisjoint : ∀ a ∈ robotStates.ancestors m.currentState, a ∉ [t] := by
      rintro a ha ht
      exact hnot (List.mem_singleton.mp ht ▸ ha)
    simpa using Handlers.lowestCommonAncestor_fork (C := []) hdisjoint
  have hrunning : robotHandlers.running m.env = true := hrun
  simp only [transition, Handlers.transition, hrunning, Bool.not_true, Bool.false_eq_true, if_false,
    hchain, hlca, exitLoop_none]
  rfl

theorem enter_idle {cause : ControlEvent} (h : cause.type ≠ .control) (m : Robot) :
    enter .idleState cause m =
      { currentState := some .idleState
        env := m.env.setEnableSensorContinuousReadings true
        calls := m.calls ++ [.onEnter .idleState] } := by
  cases htype : cause.type <;>
    simp_all [enter, Handlers.enterLoop, Handlers.callOnEnter, Handlers.callOnEvent, robotHandlers,
      RobotState.onEnter, RobotState.onEvent, IdleState.onEnter, IdleState.onEvent, stayOnThisState]

theorem enter_criticalError (cause : ControlEvent) (m : Robot) :
    enter .criticalErrorState cause m =
      { currentState := some .criticalErrorState
        env := m.env
        calls := m.calls ++ [.onEnter .criticalErrorState] } := rfl

/-- A control event that opens a session is executed by the state that takes over. -/
theorem enter_moving (e : ControlEvent) (m : Robot) :
    enter .movingState e m =
      { currentState := some (RobotState.sessionState e.source)
        env := (m.env.openSession e).execute (RobotState.sessionState e.source) e
        calls := m.calls ++ [.onEnter .movingState] ++
          match RobotState.sessionState e.source with
          | .movingState => []
          | s => [.onEnter s] } := by
  cases hsource : e.source <;>
    simp [enter, Handlers.enterLoop, Handlers.callOnEnter, Handlers.callOnEvent, robotHandlers,
      RobotState.onEnter, MovingState.onEnter, RobotEnv.openSession, RobotState.sessionState,
      RobotEnv.execute, hsource, stayOnThisState, transTo]

/-! ## Bubbling -/

theorem ancestors_root {s : RobotState} (hs : s.parent = none) :
    robotStates.ancestors (some s) = [s] := by
  rw [Forest.ancestors_some, show robotStates.parent s = none from hs, Forest.ancestors_none]

theorem ancestors_child {s : RobotState} (hs : s.parent = some .movingState) :
    robotStates.ancestors (some s) = [s, .movingState] := by
  rw [Forest.ancestors_some, show robotStates.parent s = some .movingState from hs,
    ancestors_root rfl]

/-- Only `MovingState` and its children are in the chain of a state in motion. -/
theorem inMotion_of_mem_ancestors {s t : RobotState} (hs : s.InMotion)
    (ht : t ∈ robotStates.ancestors (some s)) : t.InMotion := by
  rcases hs with rfl | hs
  · rw [ancestors_root rfl] at ht
    exact .inl (List.mem_singleton.mp ht)
  · rw [ancestors_child hs] at ht
    rcases List.mem_cons.mp ht with rfl | ht
    · exact .inr hs
    · exact .inl (List.mem_singleton.mp ht)

/-- The children of `MovingState` leave every event to it. -/
theorem onEvent_child {s : RobotState} (hs : s.parent = some .movingState) (e : ControlEvent)
    (env : RobotEnv) : s.onEvent e env = (none, env.execute s e) := by
  refine Prod.ext ?_ rfl
  have hcontrol : ∀ refresh, (controlEvent refresh e env).1 = none := by
    intro refresh
    unfold controlEvent
    split <;> rfl
  cases s <;> cases hs
  · show (TuiControlState.onEvent e env).1 = none
    unfold TuiControlState.onEvent
    split
    · rfl
    · exact hcontrol true
  all_goals exact hcontrol _

theorem controlEvent_of_ne {e : ControlEvent} (h : e.type ≠ .control) (refresh : Bool)
    (env : RobotEnv) : controlEvent refresh e env = stayOnThisState env := by
  unfold controlEvent
  split
  · rename_i htype; exact absurd htype h
  · rfl

theorem controlEvent_of_eq {e : ControlEvent} (h : e.type = .control) (refresh : Bool)
    (env : RobotEnv) :
    controlEvent refresh e env = stayOnThisState
      ((if refresh then env.refreshLastEventTime else env).controlMotion e.controlData) := by
  simp only [controlEvent, h]

/-- A child does nothing about an event that is not a control event it executes. -/
theorem execute_child {s : RobotState} (hs : s.parent = some .movingState) {e : ControlEvent}
    (h : e.type = .control → ¬ s.Executes e.source) (env : RobotEnv) : env.execute s e = env := by
  have hcontrol : (∀ source, s.Executes source) → ∀ refresh, (controlEvent refresh e env).2 = env :=
    fun hall refresh => by rw [controlEvent_of_ne (fun htype => h htype (hall _))]; rfl
  cases s <;> cases hs
  · show (TuiControlState.onEvent e env).2 = env
    unfold TuiControlState.onEvent
    split
    · rfl
    · rename_i hsource
      rw [controlEvent_of_ne (fun htype => h htype (Classical.not_not.mp hsource))]
      rfl
  all_goals exact hcontrol (fun _ => trivial) _

/-- A control event that a state does not execute changes nothing there. -/
theorem execute_of_not {s : RobotState} {e : ControlEvent} (hexec : ¬ s.Executes e.source)
    (htype : e.type = .control) (env : RobotEnv) : env.execute s e = env := by
  by_cases hs : s.parent = some .movingState
  · exact execute_child hs (fun _ => hexec) env
  · cases s with
    | idleState =>
        show (IdleState.onEvent e env).2 = env
        simp only [IdleState.onEvent, htype, transTo]
    | movingState =>
        show (MovingState.onEvent e env).2 = env
        simp only [MovingState.onEvent, htype, stayOnThisState]
    | criticalErrorState => rfl
    | initializeState => rfl
    | _ => exact absurd rfl hs

/-- **What it means to execute a control event**: the session is refreshed, and the command goes to
    `control_motion`. -/
theorem execute_control {s : RobotState} {e : ControlEvent} (hexec : s.Executes e.source)
    (htype : e.type = .control) (env : RobotEnv) :
    env.execute s e =
      (if s.Refreshes e.source env then env.refreshLastEventTime else env).controlMotion
        e.controlData := by
  cases s with
  | tuiControlState =>
      have hsource : e.source = .tuiService := hexec
      show (TuiControlState.onEvent e env).2 = _
      rw [TuiControlState.onEvent, if_neg (not_not_intro hsource), controlEvent_of_eq htype]
      rfl
  | remoteControlState => exact congrArg Prod.snd (controlEvent_of_eq htype true env)
  | talkingState => exact congrArg Prod.snd (controlEvent_of_eq htype _ env)
  | trackingState => exact congrArg Prod.snd (controlEvent_of_eq htype true env)
  | _ => exact absurd hexec id

/-- `MovingState` handles an event, for itself or for one of its children. -/
def offerMoving (e : ControlEvent) (m : Robot) : Robot :=
  robotHandlers.dispatchLoop robotStates e [.movingState] m

theorem dispatch_child {m : Robot} {s : RobotState} (hcur : m.currentState = some s)
    (hs : s.parent = some .movingState) (e : ControlEvent) :
    m.dispatch e = offerMoving e { m with env := m.env.execute s e } := by
  have hcall : robotHandlers.callOnEvent s e m = (none, { m with env := m.env.execute s e }) := by
    simp only [Handlers.callOnEvent, robotHandlers, onEvent_child hs]
  have hchain : robotStates.ancestors m.currentState = [s, .movingState] := by
    rw [hcur, ancestors_child hs]
  rw [dispatch, Handlers.dispatch, hchain, Handlers.dispatchLoop, hcall]
  rfl

theorem dispatch_moving {m : Robot} (hcur : m.currentState = some .movingState) (e : ControlEvent) :
    m.dispatch e = offerMoving e m := by
  rw [dispatch, Handlers.dispatch, hcur, ancestors_root rfl]
  rfl

/-- An event that is not executed reaches `MovingState` as it is. -/
theorem dispatch_inMotion {m : Robot} {s : RobotState} (hcur : m.currentState = some s)
    (hs : s.InMotion) {e : ControlEvent} (h : e.type = .control → ¬ s.Executes e.source) :
    m.dispatch e = offerMoving e m := by
  rcases hs with rfl | hs
  · exact dispatch_moving hcur e
  · rw [dispatch_child hcur hs, execute_child hs h]

theorem offerMoving_stay {m : Robot} {e : ControlEvent} {env : RobotEnv}
    (h : MovingState.onEvent e m.env = stayOnThisState env) :
    offerMoving e m = { m with env := env } := by
  have hcall : robotHandlers.callOnEvent .movingState e m = (none, { m with env := env }) := by
    simp only [Handlers.callOnEvent, robotHandlers, RobotState.onEvent, h, stayOnThisState]
  rw [offerMoving, Handlers.dispatchLoop, hcall]
  rfl

theorem offerMoving_trans {m : Robot} {s t : RobotState} {e : ControlEvent} {env : RobotEnv}
    (hcur : m.currentState = some s) (hs : s.InMotion) (hrun : env.core.running = true)
    (hroot : t.parent = none) (ht : ¬ t.InMotion) (h : MovingState.onEvent e m.env = transTo t env) :
    offerMoving e m =
      enter t e { m with
        env := env, calls := m.calls ++ (robotStates.ancestors m.currentState).map .onExit } := by
  have hcall : robotHandlers.callOnEvent .movingState e m = (some t, { m with env := env }) := by
    simp only [Handlers.callOnEvent, robotHandlers, RobotState.onEvent, h, transTo]
  have hne : t ≠ .movingState := fun he => ht (.inl he)
  rw [offerMoving, Handlers.dispatchLoop, hcall]
  simp only [if_neg hne]
  refine transition_root hrun hroot fun hmem => ht (inMotion_of_mem_ancestors hs ?_)
  rwa [← hcur]

theorem dispatch_root {m : Robot} {s : RobotState} (hcur : m.currentState = some s)
    (hs : s.parent = none) {e : ControlEvent} (h : s.onEvent e m.env = stayOnThisState m.env) :
    m.dispatch e = m := by
  have hcall : robotHandlers.callOnEvent s e m = (none, m) := by
    simp only [Handlers.callOnEvent, robotHandlers, h, stayOnThisState]
  rw [dispatch, Handlers.dispatch, hcur, ancestors_root hs, Handlers.dispatchLoop, hcall]
  rfl

theorem dispatch_idle {m : Robot} (hrun : m.env.core.running = true)
    (hcur : m.currentState = some .idleState) {e : ControlEvent} (htype : e.type = .control) :
    m.dispatch e = m.openSession e := by
  have hcall : robotHandlers.callOnEvent .idleState e m = (some .movingState, m) := by
    simp only [Handlers.callOnEvent, robotHandlers, RobotState.onEvent, IdleState.onEvent, htype,
      transTo]
  have hnot : RobotState.movingState ∉ robotStates.ancestors m.currentState := by
    rw [hcur, ancestors_root rfl]; decide
  rw [dispatch, Handlers.dispatch, hcur, ancestors_root rfl, Handlers.dispatchLoop, hcall]
  show m.transition .movingState e = _
  rw [transition_root hrun rfl hnot, enter_moving, hcur, ancestors_root rfl]
  simp [openSession]

theorem dispatch_ignored {m : Robot} {s : RobotState} (hcur : m.currentState = some s)
    (hs : ¬ s.InMotion) {e : ControlEvent} (hign : s.Ignores e) : m.dispatch e = m := by
  simp only [RobotState.Ignores, if_neg hs] at hign
  have hidle : e.type ≠ .control → IdleState.onEvent e m.env = stayOnThisState m.env := by
    intro h
    unfold IdleState.onEvent
    split
    · rename_i htype; exact absurd htype h
    · rfl
  cases s with
  | idleState => exact dispatch_root hcur rfl (hidle (hign rfl))
  | criticalErrorState => exact dispatch_root hcur rfl rfl
  | initializeState => exact dispatch_root hcur rfl rfl
  | movingState => exact absurd (.inl rfl) hs
  | _ => exact absurd (.inr rfl) hs

theorem dispatch_executed {m : Robot} {s : RobotState} (hcur : m.currentState = some s)
    (hs : s.InMotion) {e : ControlEvent} (hexec : s.Executes e.source) (htype : e.type = .control) :
    m.dispatch e = { m with env := m.env.execute s e } := by
  rcases hs with rfl | hs
  · exact absurd hexec id
  · rw [dispatch_child hcur hs]
    exact offerMoving_stay (by simp only [MovingState.onEvent, htype])

/-- What `MovingState` does about an event that nobody has executed. -/
theorem offerMoving_cases {m : Robot} {s : RobotState} (hrun : m.env.core.running = true)
    (hcur : m.currentState = some s) (hs : s.InMotion) {e : ControlEvent}
    (hexec : e.type = .control → ¬ s.Executes e.source) : Dispatched m e (offerMoving e m) := by
  have hignored : (e.type = .none ∨ e.type = .listenVoice ∨ e.type = .control) →
      Dispatched m e (offerMoving e m) := by
    intro htype
    have hstay : MovingState.onEvent e m.env = stayOnThisState m.env := by
      rcases htype with h | h | h <;> simp only [MovingState.onEvent, h]
    rw [offerMoving_stay hstay]
    refine .ignored hcur ?_
    rw [RobotState.Ignores, if_pos hs]
    exact htype.imp_right (Or.imp_right fun h => ⟨h, hexec h⟩)
  cases htype : e.type with
  | none => exact hignored (.inl htype)
  | listenVoice => exact hignored (.inr (.inl htype))
  | control => exact hignored (.inr (.inr htype))
  | criticalError =>
      have htrans : MovingState.onEvent e m.env = transTo .criticalErrorState m.env := by
        simp only [MovingState.onEvent, htype]
      rw [offerMoving_trans hcur hs hrun rfl (by decide) htrans, enter_criticalError]
      exact .failed hcur hs htype
  | stop =>
      have htrans : MovingState.onEvent e m.env = transTo .idleState m.env := by
        simp only [MovingState.onEvent, htype]
      rw [offerMoving_trans hcur hs hrun rfl (by decide) htrans, enter_idle (by simp [htype])]
      exact .stopped hcur hs htype
  | timeout =>
      by_cases hexpired : m.env.Expired
      · have htrans : MovingState.onEvent e m.env = transTo .idleState m.env.tick := by
          simp only [MovingState.onEvent, htype]
          exact if_neg (not_le.mpr hexpired)
        have hticked : m.env.tick.core.running = true := hrun
        rw [offerMoving_trans hcur hs hticked rfl (by decide) htrans, enter_idle (by simp [htype])]
        exact .timedOut hcur hs htype hexpired
      · have hstay : MovingState.onEvent e m.env =
            stayOnThisState (m.env.tick.addPostDelayedEvent .movingState) := by
          simp only [MovingState.onEvent, htype]
          exact if_pos (not_lt.mp hexpired)
        rw [offerMoving_stay hstay]
        exact .rearmed hcur hs htype hexpired

/-- **One of the seven things happens** to an event that is dispatched while the machine runs. -/
theorem dispatch_cases {m : Robot} {s : RobotState} (hrun : m.env.core.running = true)
    (hcur : m.currentState = some s) (e : ControlEvent) : Dispatched m e (m.dispatch e) := by
  -- in motion an event is executed or left to `MovingState`; elsewhere only `IdleState` acts
  by_cases hs : s.InMotion
  · by_cases hexec : e.type = .control ∧ s.Executes e.source
    · obtain ⟨htype, hexec⟩ := hexec
      rw [dispatch_executed hcur hs hexec htype]
      exact .executed hcur hexec htype
    · rw [dispatch_inMotion hcur hs (not_and.mp hexec)]
      exact offerMoving_cases hrun hcur hs (not_and.mp hexec)
  · by_cases hopen : s = .idleState ∧ e.type = .control
    · obtain ⟨rfl, htype⟩ := hopen
      rw [dispatch_idle hrun hcur htype]
      exact .opened hcur htype
    · have hign : s.Ignores e := by
        simpa only [RobotState.Ignores, if_neg hs] using not_and.mp hopen
      rw [dispatch_ignored hcur hs hign]
      exact .ignored hcur hign

end Robot

end Kufibot
