import Kufibot.Robot.Run

/-!
# `Robot.Session` — what keeps a session alive

A session is opened from `IdleState` by a control event of one of four sources. Its refresh time is
`_lastEventTime` of `MovingState`, which three child states write under three rules; `lastRefresh` is what
it should be, computed from the events of the session alone. `SessionInv` says that the two agree, and
that the entry source of `TalkingState` is that of this session and not of an earlier one; so a timeout
ends the session iff it was refreshed too long ago (`session_keep_alive`).
-/

namespace Kufibot

open Lib

/-- The sources that open a session with a state of its own. -/
def SourceService.OpensSession (source : SourceService) : Prop :=
  source = .tuiService ∨ source = .remoteConnectionService ∨ source = .expressionService ∨
    source = .landmarkTrackerService

namespace Robot

/-- `MovingState` or one of its children is the current state. -/
def InMotion (m : Robot) : Prop := ∃ s, m.currentState = some s ∧ s.InMotion

/-- A control event refreshes a session of source `S`: from the text user interface in `TuiControlState`,
    from anybody in `RemoteControlState`, from `S` in `TalkingState`. -/
def RefreshesSession (S : SourceService) (s : RobotState) (e : ControlEvent) : Prop :=
  e.type = .control ∧
    ((s = .tuiControlState ∧ e.source = .tuiService) ∨ s = .remoteControlState ∨
      (s = .talkingState ∧ e.source = S))

instance (S : SourceService) (s : RobotState) (e : ControlEvent) :
    Decidable (RefreshesSession S s e) :=
  inferInstanceAs (Decidable (_ ∧ _))

/-- The action dispatches an event that refreshes the session. -/
def refreshes (S : SourceService) (m : Robot) : Action → Bool
  | .dispatch =>
      match m.currentState, m.env.core.eventQueue.head? with
      | some s, some e => RefreshesSession S s e
      | _, _ => false
  | _ => false

/-- When a session of source `S`, opened at `opening`, was refreshed last. -/
def lastRefresh (S : SourceService) (opening : Time) (tr : List (Robot × Action)) : Time :=
  tr.foldl (fun last x => if refreshes S x.1 x.2 then x.1.env.core.now else last) opening

theorem lastRefresh_snoc (S : SourceService) (opening : Time) (tr : List (Robot × Action))
    (x : Robot × Action) :
    lastRefresh S opening (tr ++ [x]) =
      if refreshes S x.1 x.2 then x.1.env.core.now else lastRefresh S opening tr := by
  simp [lastRefresh]

/-- The invariant of a session of source `S` that was refreshed last at `last`. -/
structure SessionInv (S : SourceService) (last : Time) (m : Robot) : Prop where
  current : m.currentState = some (RobotState.sessionState S)
  refreshed : m.env.lastEventTime .movingState = last
  entry : RobotState.sessionState S = .talkingState → m.env.entrySource = S

/-! ## The session states -/

theorem sessionState_cases {S : SourceService} (hS : S.OpensSession) :
    (RobotState.sessionState S = .tuiControlState ∧ S = .tuiService) ∨
      RobotState.sessionState S = .remoteControlState ∨
      RobotState.sessionState S = .talkingState := by
  rcases hS with rfl | rfl | rfl | rfl <;> simp [RobotState.sessionState]

theorem sessionState_executes {S : SourceService} (hS : S.OpensSession) :
    (RobotState.sessionState S).Executes S := by
  rcases hS with rfl | rfl | rfl | rfl <;> simp [RobotState.sessionState, RobotState.Executes]

theorem executes_of_refreshesSession {S : SourceService} {s : RobotState} {e : ControlEvent}
    (h : RefreshesSession S s e) : s.Executes e.source := by
  rcases h.2 with ⟨rfl, hsource⟩ | rfl | ⟨rfl, _⟩
  · exact hsource
  · trivial
  · trivial

/-- In the state of the session the children's rule is the session's. -/
theorem refreshesSession_iff {S : SourceService} (hS : S.OpensSession) {m : Robot} {e : ControlEvent}
    (hentry : RobotState.sessionState S = .talkingState → m.env.entrySource = S)
    (htype : e.type = .control) (hexec : (RobotState.sessionState S).Executes e.source) :
    RefreshesSession S (RobotState.sessionState S) e ↔
      (RobotState.sessionState S).Refreshes e.source m.env = true := by
  rcases sessionState_cases hS with ⟨hs, _⟩ | hs | hs
  · rw [hs] at hexec ⊢
    exact iff_of_true ⟨htype, .inl ⟨rfl, hexec⟩⟩ rfl
  · rw [hs]
    exact iff_of_true ⟨htype, .inr (.inl rfl)⟩ rfl
  · have hsource : m.env.entrySource = S := hentry hs
    rw [hs]
    simp [RefreshesSession, RobotState.Refreshes, htype, hsource]

theorem refreshes_dispatch {S : SourceService} {m : Robot} {s : RobotState} {e : ControlEvent}
    {core : Core ControlEvent} (hcur : m.currentState = some s)
    (hpop : m.env.core.popEvent = some (e, core)) :
    refreshes S m .dispatch = decide (RefreshesSession S s e) := by
  simp only [refreshes, hcur, Core.head?_of_popEvent hpop]

/-! ## The opening -/

/-- In `IdleState` a control event opens a session. -/
theorem eq_openSession {m t : Robot} {e : ControlEvent} (hidle : m.currentState = some .idleState)
    (htype : e.type = .control) (hd : Dispatched m e t) : t = m.openSession e := by
  have hnot : ∀ {s}, m.currentState = some s → ¬ s.InMotion := by
    intro s hcur
    rw [current_unique hcur hidle]; decide
  cases hd with
  | opened => rfl
  | ignored hcur hign =>
      rw [RobotState.Ignores, if_neg (hnot hcur)] at hign
      exact absurd htype (hign (current_unique hcur hidle))
  | executed hcur hexec => exact absurd (RobotState.executes_inMotion hexec) (hnot hcur)
  | rearmed hcur h => exact absurd h (hnot hcur)
  | timedOut hcur h => exact absurd h (hnot hcur)
  | stopped hcur h => exact absurd h (hnot hcur)
  | failed hcur h => exact absurd h (hnot hcur)

theorem openSession_entrySource {e : ControlEvent}
    (h : RobotState.sessionState e.source = .talkingState) (env : RobotEnv) :
    (env.openSession e).entrySource = e.source := by
  simp only [RobotEnv.openSession, h]
  rfl

/-- The opening event is executed by the state that takes over, and refreshes the session. -/
theorem sessionInv_opened {e : ControlEvent} (hsource : e.source.OpensSession)
    (htype : e.type = .control) (m : Robot) :
    SessionInv e.source (m.openSession e).env.core.lastReading (m.openSession e) := by
  have hrefreshes : (RobotState.sessionState e.source).Refreshes e.source (m.env.openSession e) =
      true := by
    rcases sessionState_cases hsource with ⟨hs, _⟩ | hs | hs
    · rw [hs]; rfl
    · rw [hs]; rfl
    · rw [hs]
      exact decide_eq_true (openSession_entrySource hs m.env).symm
  -- the replayed cause writes the refresh time that the session starts with
  have henv : (m.openSession e).env =
      (m.env.openSession e).refreshLastEventTime.controlMotion e.controlData := by
    rw [openSession, execute_control (sessionState_executes hsource) htype, if_pos hrefreshes]
  refine ⟨rfl, ?_, fun hs => ?_⟩
  · rw [henv, RobotEnv.controlMotion_lastEventTime, RobotEnv.controlMotion_core]
    rfl
  · rw [henv, RobotEnv.controlMotion_entrySource]
    exact openSession_entrySource hs m.env

/-! ## One step of the session -/

theorem SessionInv.withCore {S : SourceService} {last : Time} {m : Robot} (h : SessionInv S last m)
    (core : Core ControlEvent) : SessionInv S last (m.withCore core) :=
  ⟨h.current, h.refreshed, h.entry⟩

theorem not_inMotion_leaveFor {s : RobotState} (hs : ¬ s.InMotion) (env : RobotEnv) (m : Robot) :
    ¬ (m.leaveFor s env).InMotion := by
  rintro ⟨_, ⟨⟩, hs'⟩
  exact hs hs'

/-- A command of the session: the refresh time is written iff the event refreshes the session. -/
theorem sessionInv_executed {S : SourceService} (hS : S.OpensSession) {last : Time} {m : Robot}
    {e : ControlEvent} (h : SessionInv S last m) (htype : e.type = .control)
    (hexec : (RobotState.sessionState S).Executes e.source) :
    SessionInv S
      (if RefreshesSession S (RobotState.sessionState S) e then m.env.core.now else last)
      { m with env := m.env.execute (RobotState.sessionState S) e } := by
  have hiff := refreshesSession_iff hS h.entry htype hexec
  have henv := execute_control hexec htype m.env
  by_cases hrefresh : RefreshesSession S (RobotState.sessionState S) e
  · rw [if_pos (hiff.mp hrefresh)] at henv
    rw [if_pos hrefresh, henv]
    refine ⟨h.current, ?_, fun hs => ?_⟩
    · rw [RobotEnv.controlMotion_lastEventTime]; rfl
    · rw [RobotEnv.controlMotion_entrySource]; exact h.entry hs
  · rw [if_neg (fun hr => hrefresh (hiff.mpr hr))] at henv
    rw [if_neg hrefresh, henv]
    refine ⟨h.current, ?_, fun hs => ?_⟩
    · rw [RobotEnv.controlMotion_lastEventTime]; exact h.refreshed
    · rw [RobotEnv.controlMotion_entrySource]; exact h.entry hs

theorem sessionInv_dispatch {S : SourceService} (hS : S.OpensSession) {last : Time} {m t : Robot}
    {e : ControlEvent} {core : Core ControlEvent} (h : SessionInv S last m)
    (hpop : m.env.core.popEvent = some (e, core)) (hd : Dispatched (m.withCore core) e t)
    (ht : t.InMotion) :
    SessionInv S (if refreshes S m .dispatch then m.env.core.now else last) t := by
  have hcore := h.withCore core
  have hs : ∀ {s}, (m.withCore core).currentState = some s → s = RobotState.sessionState S :=
    fun hcur => current_unique hcur h.current
  -- whatever does not refresh the session keeps the old time
  have hkeep : ¬ RefreshesSession S (RobotState.sessionState S) e →
      (if refreshes S m .dispatch then m.env.core.now else last) = last := by
    intro hno
    rw [refreshes_dispatch h.current hpop, decide_eq_false hno]
    rfl
  cases hd with
  | ignored hcur hign =>
      rw [hs hcur] at hign
      have hno : ¬ RefreshesSession S (RobotState.sessionState S) e := fun hrefresh =>
        RobotState.not_executes_of_ignores hrefresh.1 hign (executes_of_refreshesSession hrefresh)
      rw [hkeep hno]
      exact hcore
  | opened hcur =>
      -- a session is not opened twice: its state is not `IdleState`
      have hmotion := RobotState.sessionState_inMotion S
      rw [← hs hcur] at hmotion
      exact absurd hmotion (by decide)
  | executed hcur hexec htype =>
      rw [hs hcur] at hexec ⊢
      have hnow : (m.withCore core).env.core.now = m.env.core.now := Core.popEvent_now hpop
      have hexecuted := sessionInv_executed hS hcore htype hexec
      rw [hnow] at hexecuted
      rw [refreshes_dispatch h.current hpop]
      simpa only [decide_eq_true_eq] using hexecuted
  | rearmed _ _ htype =>
      rw [hkeep (fun hr => absurd (hr.1.symm.trans htype) (by decide))]
      exact ⟨hcore.current, hcore.refreshed, hcore.entry⟩
  | timedOut => exact absurd ht (not_inMotion_leaveFor (by decide) _ _)
  | stopped => exact absurd ht (not_inMotion_leaveFor (by decide) _ _)
  | failed => exact absurd ht (not_inMotion_leaveFor (by decide) _ _)

theorem sessionInv_steps {S : SourceService} (hS : S.OpensSession) {last : Time} {m t : Robot}
    {a : Action} (h : SessionInv S last m) (hst : Steps m a t) (ht : t.InMotion) :
    SessionInv S (if refreshes S m a then m.env.core.now else last) t := by
  cases hst with
  | post => exact h.withCore _
  | expire => exact h.withCore _
  | dispatch hpop hd => exact sessionInv_dispatch hS h hpop hd ht

/-- The invariant holds at the end of every run that stays in motion. -/
theorem sessionInv_run {S : SourceService} (hS : S.OpensSession) {opening : Time} {m t : Robot}
    {tr : List (Robot × Action)} (hm : Started m) (h : SessionInv S opening m)
    (hrun : system.Run m tr t) (hmotion : ∀ u ∈ System.visited tr t, u.InMotion) :
    SessionInv S (lastRefresh S opening tr) t := by
  induction hrun with
  | nil => exact h
  | @snoc tr t u a hrun hst ih =>
      rw [System.visited_snoc] at hmotion
      obtain ⟨hmotion, hu⟩ := List.forall_mem_append.mp hmotion
      have hstarted : Started t := hrun.invariant (fun _ _ _ => started_step) hm
      rw [lastRefresh_snoc]
      exact sessionInv_steps hS (ih hmotion) (steps_of_step hstarted hst)
        (hu u (List.mem_singleton.mpr rfl))

/-! ## The timeout -/

/-- A timeout ends a session exactly if it was refreshed more than 4990 ms ago. -/
theorem sessionInv_timeout {S : SourceService} {last : Time} {m t : Robot} {e : ControlEvent}
    {core : Core ControlEvent} (hm : Started m) (h : SessionInv S last m)
    (hpop : m.env.core.popEvent = some (e, core)) (hd : Dispatched (m.withCore core) e t)
    (htype : e.type = .timeout) :
    t.currentState = some .idleState ↔ 4990 < countMs (m.env.core.now - last) := by
  have hexpired : (m.withCore core).env.Expired ↔ 4990 < countMs (m.env.core.now - last) := by
    have hnow : (m.withCore core).env.core.now = m.env.core.now := Core.popEvent_now hpop
    have htimeout : (m.withCore core).env.timeoutMs .movingState = 5000 := hm.timeoutMs
    have hlast : (m.withCore core).env.lastEventTime .movingState = last := h.refreshed
    rw [RobotEnv.Expired, hnow, htimeout, hlast]
    omega
  have hmotion := RobotState.sessionState_inMotion S
  have hs : ∀ {s}, (m.withCore core).currentState = some s → s = RobotState.sessionState S :=
    fun hcur => current_unique hcur h.current
  have hother : ∀ {ty}, e.type = ty → ty ≠ .timeout → False := fun h hne => hne (h ▸ htype)
  cases hd with
  | ignored hcur hign =>
      rw [hs hcur, RobotState.Ignores, if_pos hmotion, htype] at hign
      simp at hign
  | opened _ h => exact (hother h (by decide)).elim
  | executed _ _ h => exact (hother h (by decide)).elim
  | rearmed hcur hs' _ hfresh =>
      refine iff_of_false ?_ (fun hlong => hfresh (hexpired.mpr hlong))
      intro hidle
      obtain rfl := current_unique hcur hidle
      exact absurd hs' (by decide)
  | timedOut _ _ _ hold => exact iff_of_true rfl (hexpired.mp hold)
  | stopped _ _ h => exact (hother h (by decide)).elim
  | failed _ _ h => exact (hother h (by decide)).elim

/-- **Session keep-alive.** Let `e₀` open a session of one of the four sources, and let the run after it
    stay in motion. A timeout that is dispatched then leads to `IdleState` iff the session was refreshed
    last more than 4990 ms before. -/
theorem session_keep_alive {m₀ m₁ m₂ m₃ : Robot} {e₀ e : ControlEvent}
    {tr : List (Robot × Action)} (hm : system.Reachable m₀)
    (hidle : m₀.currentState = some .idleState) (hopen : m₀.Dispatches e₀ m₁)
    (hcontrol : e₀.type = .control) (hsource : e₀.source.OpensSession)
    (hrun : system.Run m₁ tr m₂) (hmotion : ∀ u ∈ System.visited tr m₂, u.InMotion)
    (hclose : m₂.Dispatches e m₃) (htimeout : e.type = .timeout) :
    m₃.currentState = some .idleState ↔
      4990 < countMs (m₂.env.core.now - lastRefresh e₀.source m₁.env.core.lastReading tr) := by
  have hstarted := started_reachable hm
  obtain ⟨core, hpop, hd⟩ := hopen.dispatched hstarted
  have hopened : m₁ = (m₀.withCore core).openSession e₀ := eq_openSession hidle hcontrol hd
  have hinv : SessionInv e₀.source m₁.env.core.lastReading m₁ := by
    rw [hopened]
    exact sessionInv_opened hsource hcontrol _
  have hstarted₁ : Started m₁ := started_step (a := .dispatch) hstarted hopen.2
  have hstarted₂ : Started m₂ := hrun.invariant (fun _ _ _ => started_step) hstarted₁
  obtain ⟨core₂, hpop₂, hd₂⟩ := hclose.dispatched hstarted₂
  exact sessionInv_timeout hstarted₂ (sessionInv_run hsource hstarted₁ hinv hrun hmotion) hpop₂ hd₂
    htimeout

/-! ## A session that times out -/

/-- Six seconds pass from reading to reading, and the remote connection is about to open a session. -/
def beforeSession : Robot :=
  (freshOn 6000).withCore ((freshOn 6000).env.core.postEvent (driveEvent .remoteConnectionService))

def inSession : Robot := (beforeSession.step .dispatch).get rfl

def withTimeout : Robot := (inSession.step .expire).get rfl

/-- The timeout is dispatched twelve seconds after the session was opened, which ends it. -/
theorem session_keep_alive_remote :
    ∃ t, withTimeout.Dispatches timeoutEvent t ∧ t.currentState = some .idleState := by
  have hreach : system.Reachable beforeSession :=
    .step (.init (freshOn_init 6000)) (a := .post (driveEvent .remoteConnectionService)) trivial rfl
  have hrun : system.Run inSession [(inSession, .expire)] withTimeout := .snoc .nil rfl
  have hmotion : ∀ u ∈ System.visited [(inSession, Action.expire)] withTimeout, u.InMotion := by
    simp only [System.visited, List.map_cons, List.map_nil, List.cons_append, List.nil_append,
      List.forall_mem_cons]
    exact ⟨⟨_, rfl, by decide⟩, ⟨_, rfl, by decide⟩, fun _ h => absurd h List.not_mem_nil⟩
  have hopen : beforeSession.Dispatches (driveEvent .remoteConnectionService) inSession := ⟨rfl, rfl⟩
  obtain ⟨t, hclose⟩ : ∃ t, withTimeout.Dispatches timeoutEvent t := ⟨_, rfl, rfl⟩
  refine ⟨t, hclose, ?_⟩
  exact (session_keep_alive hreach rfl hopen rfl (.inr (.inl rfl)) hrun hmotion hclose rfl).mpr
    (by decide)

end Robot

end Kufibot
