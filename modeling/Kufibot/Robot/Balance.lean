import Kufibot.Robot.Run
import Kufibot.StateMachine.Balance

/-!
# `Robot.Balance` — whether entries and exits balance

After each completed transition the open state objects should be the current state and its ancestors.
An ordinary transition keeps this, and so does the redirect of `MovingState` into one of its children.
The redirect of `InitializeState` does not: the state is entered and never exited. `balanced_iff` says
that it is the only exception.
-/

namespace Kufibot

open Lib

namespace Robot

/-- The state object is balanced against the current state and its ancestors. -/
def BalancedAt (s : RobotState) (m : Robot) : Prop :=
  Balanced s m.calls (robotStates.ancestors m.currentState)

theorem balancedAt_leaveFor {s t : RobotState} {m : Robot} (h : BalancedAt s m)
    (ht : t.parent = none) (env : RobotEnv) : BalancedAt s (m.leaveFor t env) := by
  have hswitch := balanced_switch h (robotStates.ancestors_nodup _) (List.nodup_singleton t)
  rw [BalancedAt, leaveFor, ancestors_root ht]
  exact hswitch

/-- The chain of the state that runs a session is entered from the root. -/
theorem openSession_calls (e : ControlEvent) (m : Robot) :
    (m.openSession e).calls = m.calls ++ [RobotState.idleState].map .onExit ++
      (robotStates.ancestors (some (RobotState.sessionState e.source))).reverse.map .onEnter := by
  rw [openSession, List.append_assoc, List.append_assoc]
  refine congrArg (m.calls ++ ·) ?_
  cases e.source <;> rfl

theorem balancedAt_openSession {s : RobotState} {m : Robot} (h : BalancedAt s m)
    (hcur : m.currentState = some .idleState) (e : ControlEvent) :
    BalancedAt s (m.openSession e) := by
  rw [BalancedAt, hcur, ancestors_root rfl] at h
  have hnodup := List.nodup_reverse.mpr
    (robotStates.ancestors_nodup (some (RobotState.sessionState e.source)))
  have hswitch := balanced_switch h (List.nodup_singleton _) hnodup
  rw [BalancedAt, openSession_calls]
  exact hswitch.congr List.mem_reverse

theorem balancedAt_steps {s : RobotState} {m t : Robot} {a : Action} (h : BalancedAt s m)
    (hst : Steps m a t) : BalancedAt s t := by
  cases hst with
  | post => exact h
  | expire => exact h
  | @dispatch e core _ _ hd =>
      have h : BalancedAt s (m.withCore core) := h
      cases hd with
      | ignored => exact h
      | opened hcur => exact balancedAt_openSession h hcur e
      | executed => exact h
      | rearmed => exact h
      | timedOut => exact balancedAt_leaveFor h rfl _
      | stopped => exact balancedAt_leaveFor h rfl _
      | failed => exact balancedAt_leaveFor h rfl _

/-- Behind the initial transition `IdleState` is open. -/
theorem balancedAt_start {s : RobotState} (hs : s ≠ .initializeState) (clock : SteadyClock)
    (reads : Nat) (controllers : Controllers) (trig : Trig) (jointAngles : Option JointPositionList) :
    BalancedAt s (start (create clock reads controllers trig jointAngles)) := by
  show Balanced s [.onEnter .initializeState, .onEnter .idleState] [.idleState]
  cases s with
  | initializeState => exact absurd rfl hs
  | _ => decide

/-! ## `InitializeState` -/

/-- `InitializeState` has been entered, and never called again. -/
def InitializeStateOpen (m : Robot) : Prop :=
  callsOf .initializeState m.calls = [.onEnter .initializeState]

theorem initializeStateOpen_append {m : Robot} {calls : List (Call RobotState)}
    (h : InitializeStateOpen m) (hcalls : callsOf .initializeState calls = []) :
    callsOf .initializeState (m.calls ++ calls) = [.onEnter .initializeState] := by
  rw [callsOf_append, hcalls, List.append_nil]
  exact h

theorem initializeStateOpen_leaveFor {s t : RobotState} {m : Robot} (h : InitializeStateOpen m)
    (hcur : m.currentState = some s) (hs : s.InMotion) (ht : t ≠ .initializeState) (env : RobotEnv) :
    InitializeStateOpen (m.leaveFor t env) := by
  -- only states in motion are exited
  have hexits : callsOf .initializeState
      ((robotStates.ancestors m.currentState).map Call.onExit) = [] := by
    have hnot : RobotState.initializeState ∉ robotStates.ancestors m.currentState := by
      rw [hcur]
      exact fun hmem => absurd (inMotion_of_mem_ancestors hs hmem) (by decide)
    rw [callsOf_map (fun _ => rfl) (robotStates.ancestors_nodup _), if_neg hnot]
  have henter : callsOf .initializeState [Call.onEnter t] = [] := by
    simp [callsOf, Call.state, ht]
  rw [InitializeStateOpen, leaveFor, List.append_assoc]
  exact initializeStateOpen_append h (by rw [callsOf_append, hexits, henter]; rfl)

theorem initializeStateOpen_steps {m t : Robot} {a : Action} (h : InitializeStateOpen m)
    (hst : Steps m a t) : InitializeStateOpen t := by
  cases hst with
  | post => exact h
  | expire => exact h
  | @dispatch e core _ _ hd =>
      have h : InitializeStateOpen (m.withCore core) := h
      cases hd with
      | ignored => exact h
      | opened =>
          rw [InitializeStateOpen, openSession, List.append_assoc]
          refine initializeStateOpen_append h ?_
          cases e.source <;> rfl
      | executed => exact h
      | rearmed => exact h
      | timedOut hcur hs => exact initializeStateOpen_leaveFor h hcur hs (by decide) _
      | stopped hcur hs => exact initializeStateOpen_leaveFor h hcur hs (by decide) _
      | failed hcur hs => exact initializeStateOpen_leaveFor h hcur hs (by decide) _

theorem not_balancedAt_initializeState {m : Robot} (hm : Started m) (h : InitializeStateOpen m) :
    ¬ BalancedAt .initializeState m := by
  rintro ⟨_, hopen⟩
  obtain ⟨s, hcur, hs⟩ := hm.current
  have hisOpen : IsOpen .initializeState m.calls := by rw [IsOpen, h]; rfl
  have hmem := hopen.mp hisOpen
  rw [hcur] at hmem
  cases s with
  | initializeState => exact hs rfl
  | _ => exact absurd hmem (by decide)

/-- **Which state objects balance.** In every reachable state a state object is balanced iff it is not
    `InitializeState`. -/
theorem balanced_iff {m : Robot} (hm : system.Reachable m) (s : RobotState) :
    BalancedAt s m ↔ s ≠ .initializeState := by
  constructor
  · rintro h rfl
    refine not_balancedAt_initializeState (started_reachable hm) ?_ h
    refine reachable_induction ?_ (fun _ _ _ _ => initializeStateOpen_steps) hm
    rintro m ⟨clock, reads, controllers, trig, jointAngles, rfl⟩
    rfl
  · intro hs
    refine reachable_induction ?_ (fun _ _ _ _ => balancedAt_steps) hm
    rintro m ⟨clock, reads, controllers, trig, jointAngles, rfl⟩
    exact balancedAt_start hs ..

/-- **`InitializeState` stays open.** Behind the initial transition it has been entered and not exited,
    and it is neither the current state nor an ancestor of it. -/
theorem initializeState_not_exited : ∃ m, system.Reachable m ∧ ¬ ∀ s, BalancedAt s m := by
  refine ⟨fresh, fresh_reachable, fun h => ?_⟩
  have hbalanced : Balanced .initializeState [.onEnter .initializeState, .onEnter .idleState]
      [RobotState.idleState] := h .initializeState
  exact absurd hbalanced (by decide)

/-- Behind the initial transition `IdleState` is balanced and `InitializeState` is not. -/
theorem balanced_iff_fresh : BalancedAt .idleState fresh ∧ ¬ BalancedAt .initializeState fresh :=
  ⟨(balanced_iff fresh_reachable .idleState).mpr (by decide),
    fun h => (balanced_iff fresh_reachable .initializeState).mp h rfl⟩

end Robot

end Kufibot
