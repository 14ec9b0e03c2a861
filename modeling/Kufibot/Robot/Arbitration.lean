import Kufibot.Robot.Run

/-!
# `Robot.Arbitration` — which control events are executed

A control event goes to `control_motion` at most once, and `Commands` says in which state and from which
source (`control_arbitration`): neither the bubbling to the parent nor the replay of the cause after a
transition executes it again.
-/

namespace Kufibot

open Lib

namespace RobotState

/-- The control events of this source that are commands in the state: those that open a session with a
    state that executes them, and those the state executes itself. -/
def Commands (s : RobotState) (source : SourceService) : Prop :=
  (s = .idleState ∧ (source = .tuiService ∨ source = .remoteConnectionService ∨
      source = .expressionService ∨ source = .landmarkTrackerService)) ∨
    (s = .tuiControlState ∧ source = .tuiService) ∨
    s = .remoteControlState ∨ s = .talkingState ∨ s = .trackingState

instance (s : RobotState) (source : SourceService) : Decidable (s.Commands source) :=
  inferInstanceAs (Decidable (_ ∨ _))

/-- In motion a command is what the state executes. -/
theorem commands_iff_executes {s : RobotState} (hs : s ≠ .idleState) (source : SourceService) :
    s.Commands source ↔ s.Executes source := by
  cases s <;> simp_all [Commands, Executes]

/-- A session executes the event that opens it, except in `MovingState` itself. -/
theorem commands_idle_iff (source : SourceService) :
    idleState.Commands source ↔ (sessionState source).Executes source := by
  cases source <;> simp [Commands, sessionState, Executes]

/-- What a state ignores is no command there. -/
theorem not_commands_of_ignores {s : RobotState} {e : ControlEvent} (htype : e.type = .control)
    (hign : s.Ignores e) : ¬ s.Commands e.source := by
  by_cases hidle : s = .idleState
  · rw [hidle, Ignores, if_neg (by decide)] at hign
    exact absurd htype (hign rfl)
  · rw [commands_iff_executes hidle]
    exact not_executes_of_ignores htype hign

end RobotState

namespace Robot

theorem execute_motions {s : RobotState} {e : ControlEvent} (htype : e.type = .control)
    (env : RobotEnv) :
    (env.execute s e).motions =
      env.motions ++ if s.Executes e.source then [e.controlData] else [] := by
  by_cases hexec : s.Executes e.source
  · rw [execute_control hexec htype, if_pos hexec]
    split <;> simp [RobotEnv.refreshLastEventTime]
  · rw [execute_of_not hexec htype, if_neg hexec, List.append_nil]

theorem dispatched_motions {m t : Robot} {s : RobotState} {e : ControlEvent}
    (hcur : m.currentState = some s) (h : Dispatched m e t) (htype : e.type = .control) :
    t.env.motions = m.env.motions ++ if s.Commands e.source then [e.controlData] else [] := by
  have hother : ∀ {ty}, e.type = ty → ty ≠ .control → False := fun h hne => hne (h ▸ htype)
  cases h with
  | ignored hcur' hign =>
      rw [current_unique hcur' hcur] at hign
      rw [if_neg (RobotState.not_commands_of_ignores htype hign), List.append_nil]
  | opened hcur' =>
      -- the replayed cause is executed by the state that has taken over, or by nobody
      rw [current_unique hcur hcur']
      simp only [openSession, execute_motions htype, RobotEnv.openSession_motions,
        RobotState.commands_idle_iff]
  | executed hcur' hexec =>
      rw [current_unique hcur' hcur] at hexec ⊢
      have hidle : s ≠ .idleState := by rintro rfl; exact hexec
      simp only [execute_motions htype, RobotState.commands_iff_executes hidle]
  | rearmed _ _ h => exact (hother h (by decide)).elim
  | timedOut _ _ h => exact (hother h (by decide)).elim
  | stopped _ _ h => exact (hother h (by decide)).elim
  | failed _ _ h => exact (hother h (by decide)).elim

/-- **Control arbitration.** A dispatched control event is executed exactly once if it is a command in
    the current state, and not at all otherwise. -/
theorem control_arbitration {m t : Robot} {s : RobotState} {e : ControlEvent}
    (hm : system.Reachable m) (hcur : m.currentState = some s) (hd : m.Dispatches e t)
    (htype : e.type = .control) :
    t.env.motions = m.env.motions ++ if s.Commands e.source then [e.controlData] else [] := by
  obtain ⟨core, _, hdispatch⟩ := hd.dispatched (started_reachable hm)
  exact dispatched_motions (m := m.withCore core) hcur hdispatch htype

/-- The remote connection opens a session, and its command is executed once. -/
theorem control_arbitration_remote :
    ∃ m t : Robot, m.currentState = some .idleState ∧
      m.Dispatches (driveEvent .remoteConnectionService) t ∧
      t.env.motions = m.env.motions ++ [(driveEvent .remoteConnectionService).controlData] := by
  refine ⟨freshWith (driveEvent .remoteConnectionService), _, rfl, ⟨rfl, rfl⟩, ?_⟩
  exact control_arbitration (s := .idleState) (freshWith_reachable _) rfl ⟨rfl, rfl⟩ rfl

end Robot

end Kufibot
