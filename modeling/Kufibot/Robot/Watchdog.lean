import Kufibot.Robot.Run

/-!
# `Robot.Watchdog` — the timeout that ends a motion

`MovingState` arms a timeout when it is entered and again whenever it skips one. So a timeout is always
pending while `Robot` is in motion (`watchdog_armed`). Leaving by a stop or a critical error does not
clear it, though: a control event that opens the next session before the old timeout has been consumed
puts a second one beside it. `single_watchdog_iff` says that this is the only way to have two.
-/

namespace Kufibot

open Lib

def ControlEvent.isTimeout (e : ControlEvent) : Bool := e.type = .timeout

namespace Robot

/-- How many timeouts are pending, in the timers and in the queue together. -/
def pendingTimeouts (m : Robot) : Nat := m.env.core.pending ControlEvent.isTimeout

theorem pending_postDelayedEvent {core : Core ControlEvent} {delayMs : Int} (h : 0 < delayMs) :
    (core.postDelayedEvent timeoutEvent delayMs).pending ControlEvent.isTimeout =
      core.pending ControlEvent.isTimeout + 1 := by
  rw [Core.postDelayedEvent_pos h, Core.pending_scheduleAt, Core.pending_tick]
  rfl

theorem pendingTimeouts_openSession {m : Robot} (hm : Started m) {e : ControlEvent}
    (htype : e.type = .control) : (m.openSession e).pendingTimeouts = m.pendingTimeouts + 1 := by
  have hpos : 0 < m.env.timeoutMs .movingState := by rw [hm.timeoutMs]; decide
  rw [pendingTimeouts, openSession, RobotEnv.execute_pending htype, RobotEnv.openSession_core,
    pending_postDelayedEvent hpos]
  rfl

theorem pendingTimeouts_rearm {m : Robot} (hm : Started m) :
    pendingTimeouts { m with env := m.env.tick.addPostDelayedEvent .movingState } =
      m.pendingTimeouts + 1 := by
  have hpos : 0 < m.env.tick.timeoutMs .movingState := by
    rw [RobotEnv.tick_timeoutMs, hm.timeoutMs]; decide
  rw [pendingTimeouts, RobotEnv.addPostDelayedEvent_core, pending_postDelayedEvent hpos]
  rfl

theorem pendingTimeouts_execute {m : Robot} {s : RobotState} {e : ControlEvent}
    (htype : e.type = .control) :
    pendingTimeouts { m with env := m.env.execute s e } = m.pendingTimeouts :=
  RobotEnv.execute_pending htype _ _

theorem pendingTimeouts_popTimeout {m : Robot} {e : ControlEvent} {core : Core ControlEvent}
    (hpop : m.env.core.popEvent = some (e, core)) (htype : e.type = .timeout) :
    (m.withCore core).pendingTimeouts + 1 = m.pendingTimeouts := by
  have h := Core.pending_popEvent (p := ControlEvent.isTimeout) hpop
  rw [show e.isTimeout = true from decide_eq_true htype, if_pos rfl] at h
  exact h.symm

theorem pendingTimeouts_popOther {m : Robot} {e : ControlEvent} {core : Core ControlEvent}
    (hpop : m.env.core.popEvent = some (e, core)) (htype : e.type ≠ .timeout) :
    (m.withCore core).pendingTimeouts = m.pendingTimeouts := by
  have h := Core.pending_popEvent (p := ControlEvent.isTimeout) hpop
  rw [show e.isTimeout = false from decide_eq_false htype, if_neg Bool.false_ne_true] at h
  exact h.symm

theorem pendingTimeouts_pop_le {m : Robot} {e : ControlEvent} {core : Core ControlEvent}
    (hpop : m.env.core.popEvent = some (e, core)) :
    (m.withCore core).pendingTimeouts ≤ m.pendingTimeouts := by
  by_cases htype : e.type = .timeout
  · exact Nat.le_of_lt (Nat.lt_of_succ_le (pendingTimeouts_popTimeout hpop htype).le)
  · exact (pendingTimeouts_popOther hpop htype).le

theorem pendingTimeouts_expire {m : Robot} {core : Core ControlEvent}
    (hexpire : m.env.core.tick.expireFirst m.env.core.now = some core) :
    (m.withCore core).pendingTimeouts = m.pendingTimeouts :=
  (Core.pending_expireFirst hexpire).trans (Core.pending_tick _ m.env.core)

theorem pendingTimeouts_post (m : Robot) (ev : ControlEvent) :
    (m.withCore (m.env.core.postEvent ev)).pendingTimeouts =
      m.pendingTimeouts + if ev.isTimeout then 1 else 0 :=
  Core.pending_postEvent ..

/-! ## Always armed -/

/-- In motion a timeout is pending. -/
def Armed (m : Robot) : Prop :=
  ∀ s, m.currentState = some s → s.InMotion → 1 ≤ m.pendingTimeouts

theorem armed_dispatch {m t : Robot} {e : ControlEvent} {core : Core ControlEvent} (hm : Started m)
    (h : Armed m) (hpop : m.env.core.popEvent = some (e, core))
    (hd : Dispatched (m.withCore core) e t) : Armed t := by
  have hm' : Started (m.withCore core) := started_withCore hm (Core.popEvent_running hpop)
  intro s hcur hs
  cases hd with
  | ignored hcur' hign =>
      -- no state in motion ignores a timeout
      obtain rfl := current_unique hcur' hcur
      have htype : e.type ≠ .timeout := by
        rw [RobotState.Ignores, if_pos hs] at hign
        rintro htype
        rw [htype] at hign
        simp at hign
      rw [pendingTimeouts_popOther hpop htype]
      exact h _ hcur' hs
  | opened _ htype => rw [pendingTimeouts_openSession hm' htype]; exact Nat.le_add_left 1 _
  | executed hcur' _ htype =>
      rw [pendingTimeouts_execute htype, pendingTimeouts_popOther hpop (by rw [htype]; decide)]
      exact h s hcur hs
  | rearmed => rw [pendingTimeouts_rearm hm']; exact Nat.le_add_left 1 _
  | timedOut => cases hcur; exact absurd hs (by decide)
  | stopped => cases hcur; exact absurd hs (by decide)
  | failed => cases hcur; exact absurd hs (by decide)

theorem armed_steps {m t : Robot} {a : Action} (hm : Started m) (h : Armed m) (hst : Steps m a t) :
    Armed t := by
  cases hst with
  | post ev =>
      intro s hcur hs
      rw [pendingTimeouts_post]
      exact Nat.le_add_right_of_le (h s hcur hs)
  | expire hexpire =>
      intro s hcur hs
      rw [pendingTimeouts_expire hexpire]
      exact h s hcur hs
  | dispatch hpop hd => exact armed_dispatch hm h hpop hd

/-- **The watchdog is always armed**: in motion at least one timeout is pending. -/
theorem watchdog_armed {m : Robot} {s : RobotState} (hm : system.Reachable m)
    (hcur : m.currentState = some s) (hs : s.InMotion) : 1 ≤ m.pendingTimeouts := by
  refine reachable_induction (I := Armed) ?_ (fun _ _ _ => armed_steps) hm s hcur hs
  rintro m ⟨clock, reads, controllers, trig, jointAngles, rfl⟩ s hcur hs
  rw [start_create] at hcur
  cases hcur
  exact absurd hs (by decide)

/-- In the session that the remote connection opens a timeout is pending. -/
theorem watchdog_armed_remote : ∃ m : Robot,
    m.currentState = some .remoteControlState ∧ 1 ≤ m.pendingTimeouts := by
  have hstep : ∃ t, (freshWith (driveEvent .remoteConnectionService)).step .dispatch = some t ∧
      t.currentState = some .remoteControlState := ⟨_, rfl, rfl⟩
  obtain ⟨t, hst, hcur⟩ := hstep
  have hreach : system.Reachable t := .step (freshWith_reachable _) (a := .dispatch) trivial hst
  exact ⟨t, hcur, watchdog_armed hreach hcur (by decide)⟩

/-! ## At most one -/

/-- The action does not post a timeout from outside. -/
def PostsNoTimeout : Action → Prop
  | .post ev => ev.type ≠ .timeout
  | _ => True

/-- No session is opened while a timeout is pending. -/
def NoStaleTimeout (m : Robot) : Action → Prop
  | .dispatch => m.currentState = some .idleState →
      ∀ e, m.env.core.eventQueue.head? = some e → e.type = .control → m.pendingTimeouts = 0
  | _ => True

theorem noStaleTimeout_iff {m : Robot} {e : ControlEvent} {core : Core ControlEvent}
    (hpop : m.env.core.popEvent = some (e, core)) :
    NoStaleTimeout m .dispatch ↔
      (m.currentState = some .idleState → e.type = .control → m.pendingTimeouts = 0) := by
  have hhead := Core.head?_of_popEvent hpop
  constructor
  · exact fun h hidle => h hidle e hhead
  · intro h hidle e' he'
    obtain rfl := Option.some.inj (hhead.symm.trans he')
    exact h hidle

/-- From a state with at most one timeout, a step leads to two exactly if it opens a session while one is
    pending. -/
theorem single_steps {m t : Robot} {a : Action} (hm : Started m) (h : m.pendingTimeouts ≤ 1)
    (hquiet : PostsNoTimeout a) (hst : Steps m a t) : t.pendingTimeouts ≤ 1 ↔ NoStaleTimeout m a := by
  cases hst with
  | post ev =>
      have hev : ev.isTimeout = false := decide_eq_false hquiet
      rw [pendingTimeouts_post, hev]
      exact iff_of_true h trivial
  | expire hexpire =>
      rw [pendingTimeouts_expire hexpire]
      exact iff_of_true h trivial
  | @dispatch e core _ hpop hd =>
      have hm' : Started (m.withCore core) := started_withCore hm (Core.popEvent_running hpop)
      have hle := (pendingTimeouts_pop_le hpop).trans h
      rw [noStaleTimeout_iff hpop]
      have hother : e.type ≠ .control → m.currentState = some .idleState → e.type = .control →
          m.pendingTimeouts = 0 := fun hne _ hctl => absurd hctl hne
      cases hd with
      | ignored hcur hign =>
          refine iff_of_true hle fun hidle htype => ?_
          obtain rfl := current_unique hcur hidle
          rw [RobotState.Ignores, if_neg (by decide)] at hign
          exact absurd htype (hign rfl)
      | opened hcur htype =>
          -- the only step that adds a timeout without using one up
          rw [pendingTimeouts_openSession hm' htype,
            pendingTimeouts_popOther hpop (by rw [htype]; decide)]
          constructor
          · intro hone _ _; omega
          · intro hnone; rw [hnone hcur htype]
      | executed hcur hexec htype =>
          rw [pendingTimeouts_execute htype]
          refine iff_of_true hle fun hidle _ => ?_
          obtain rfl := current_unique hcur hidle
          exact absurd hexec id
      | rearmed _ _ htype =>
          -- the timeout that was skipped is replaced by a new one
          rw [pendingTimeouts_rearm hm', pendingTimeouts_popTimeout hpop htype]
          exact iff_of_true h (hother (by rw [htype]; decide))
      | timedOut _ _ htype => exact iff_of_true hle (hother (by rw [htype]; decide))
      | stopped _ _ htype => exact iff_of_true hle (hother (by rw [htype]; decide))
      | failed _ _ htype => exact iff_of_true hle (hother (by rw [htype]; decide))

/-- **When there is never more than one timeout.** In a run in which nobody posts a timeout from outside,
    at most one is pending in every state iff no session is ever opened while one is pending. -/
theorem single_watchdog_iff {m t : Robot} {tr : List (Robot × Action)} (hm : system.init m)
    (hrun : system.Run m tr t) (hquiet : ∀ x ∈ tr, PostsNoTimeout x.2) :
    (∀ u ∈ System.visited tr t, u.pendingTimeouts ≤ 1) ↔ ∀ x ∈ tr, NoStaleTimeout x.1 x.2 := by
  refine hrun.forall_iff (I := Started) (fun _ a => PostsNoTimeout a)
    (fun _ _ _ => started_step) ?_ (started_init hm) ?_ hquiet
  · intro s a t hs hone ha hst
    exact single_steps hs hone ha (steps_of_step hs hst)
  · obtain ⟨clock, reads, controllers, trig, jointAngles, rfl⟩ := hm
    rw [start_create]
    exact Nat.zero_le 1

/-- Two sessions, the first of them ended by a stop. -/
def stopAndReopen : List Action :=
  [.post (driveEvent .tuiService), .dispatch, .post { type := .stop }, .dispatch,
    .post (driveEvent .tuiService), .dispatch]

theorem stopAndReopen_quiet : ∀ a ∈ stopAndReopen, PostsNoTimeout a := by
  simp [stopAndReopen, PostsNoTimeout, driveEvent]

/-- **A timeout leaks.** The stop does not clear the timeout of the first session, so the second session
    runs with two. -/
theorem two_watchdogs_pending :
    ∃ t, system.ReachableVia (fun _ a => PostsNoTimeout a) t ∧ ¬ t.pendingTimeouts ≤ 1 := by
  have hrun : (system.exec fresh stopAndReopen).map pendingTimeouts = some 2 := rfl
  obtain ⟨t, ht, htwo⟩ := System.exists_of_exec (.init fresh_init)
    (fun a ha _ => stopAndReopen_quiet a ha) hrun
  exact ⟨t, ht, by omega⟩

/-- In that run some step opens a session while a timeout is pending. -/
theorem single_watchdog_iff_stopAndReopen : ∃ (t : Robot) (tr : List (Robot × Action)),
    system.Run fresh tr t ∧ tr.map Prod.snd = stopAndReopen ∧
      ¬ ∀ x ∈ tr, NoStaleTimeout x.1 x.2 := by
  have hrun : (system.exec fresh stopAndReopen).map pendingTimeouts = some 2 := rfl
  obtain ⟨t, hexec, htwo⟩ := Option.map_eq_some_iff.mp hrun
  obtain ⟨tr, hrun, hacts⟩ := System.Run.of_exec hexec
  have hquiet : ∀ x ∈ tr, PostsNoTimeout x.2 :=
    fun x hx => stopAndReopen_quiet x.2 (hacts ▸ List.mem_map_of_mem hx)
  refine ⟨t, tr, hrun, hacts, fun hok => ?_⟩
  have hone := (single_watchdog_iff fresh_init hrun hquiet).mpr hok t (by simp [System.visited])
  omega

end Robot

end Kufibot
