import Kufibot.Services.SingleLoop

/-!
# `Services.Restart` — a service whose loop ended by itself is started again

Here the calls come one after another, while the loops go on. `stop()` joins the service thread only when
it finds `_running` true. A loop that clears the flag itself (its camera or its socket does not open)
therefore leaves a joinable handle behind that no later `stop()` takes back, and the next `start()` assigns
over it. `HandleTakenBack` is the condition: no `start()` gets past its test after such an end
(`start_never_terminates`).
-/

namespace Kufibot

open Lib

/-- `start()` is past its test and its thread not yet in the handle. -/
def CallPc.starting : CallPc → Bool
  | .startInitialize | .startFlag | .startLaunch | .startAssign _ => true
  | _ => false

/-- `start()` has set `_running`, and its thread is not yet in the handle. -/
def CallPc.flagged : CallPc → Bool
  | .startLaunch | .startAssign _ => true
  | _ => false

/-- `stop()` has cleared `_running` and is about to take the handle back. -/
def CallPc.closing : CallPc → Bool
  | .stopHandle | .stopJoin _ => true
  | _ => false

namespace Service

/-- The calls come in a sequence: one begins when no other is under way. -/
def Sequential (s : Service) : LifecycleAction → Prop
  | .startCall _ | .stopCall _ => ∀ c, s.calls c = none
  | _ => True

/-- No `start()` gets past its test after the last loop has ended on its own and was not joined. -/
def HandleTakenBack (s : Service) : LifecycleAction → Prop
  | .call c _ => s.calls c = some .startTest → s.disabled = false → s.running = false →
      s.endedAlone = false
  | _ => True

/-! ## One call at a time -/

/-- Nobody but `c` is in a call. -/
def Alone (s : Service) (c : Caller) : Prop := ∀ c', c' ≠ c → s.calls c' = none

theorem alone_goTo {s : Service} {c c' : Caller} {pc pc' : CallPc} (h : s.Alone c)
    (hpc : (s.goTo c pc).calls c' = some pc') : c' = c ∧ pc' = pc := by
  by_cases hc : c' = c
  · subst hc
    rw [goTo_calls, Function.update_self] at hpc
    exact ⟨rfl, (Option.some.inj hpc).symm⟩
  · rw [goTo_calls, Function.update_of_ne hc, h c' hc] at hpc
    cases hpc

theorem alone_finish {s : Service} {c : Caller} (h : s.Alone c) (c' : Caller) :
    (s.finish c).calls c' = none := by
  by_cases hc : c' = c
  · subst hc
    exact Function.update_self _ _ _
  · rw [finish_calls, Function.update_of_ne hc, h c' hc]

/-- A launched thread is about to be assigned to the handle. -/
def Assigning (s : Service) (t : Nat) : Prop := ∃ c, s.calls c = some (.startAssign t)

/-- What holds along a sequence of calls. -/
structure SequenceInv (s : Service) : Prop where
  oneCall : ∀ c pc, s.calls c = some pc → s.Alone c
  /-- A thread that has not tried to open its resource is in the handle, or on its way there. -/
  entry : ∀ t, s.threads t = some .entry → s.serviceThread = some t ∨ s.Assigning t
  ended : s.endedAlone = true → s.serviceThread.isSome ∨ ∃ t, s.Assigning t
  /-- A service thread calls from the body of its loop. -/
  own : ∀ t pc, s.calls (.service t) = some pc → s.threads t = some .body
  joining : ∀ c t, s.calls c = some (.stopJoin t) → s.serviceThread = some t

theorem not_assigning {s : Service} {c : Caller} {pc : CallPc} (hc : s.Alone c)
    (hpc : s.calls c = some pc) (hne : ∀ t, pc ≠ .startAssign t) (t : Nat) : ¬ s.Assigning t := by
  rintro ⟨c', hc'⟩
  by_cases hcc : c' = c
  · subst hcc
    rw [hpc] at hc'
    exact hne t (Option.some.inj hc')
  · rw [hc c' hcc] at hc'
    cases hc'

/-- A call begins or goes on to a point where it has nothing to assign. -/
theorem sequenceInv_goTo {s : Service} {c : Caller} {pc : CallPc} (h : SequenceInv s) (hc : s.Alone c)
    (hnone : ∀ t, ¬ s.Assigning t) (hjoin : ∀ t, pc = .stopJoin t → s.serviceThread = some t)
    (hown : ∀ t, c = .service t → s.threads t = some .body) : SequenceInv (s.goTo c pc) where
  oneCall c' pc' hc' c'' hne := by
    obtain ⟨rfl, -⟩ := alone_goTo hc hc'
    rw [goTo_calls, Function.update_of_ne hne, hc c'' hne]
  entry t ht := .inl ((h.entry t ht).resolve_right (hnone t))
  ended he := .inl ((h.ended he).resolve_right fun ⟨t, ht⟩ => hnone t ht)
  own t pc' hc' := hown t (alone_goTo hc hc').1.symm
  joining c' t hc' := hjoin t (alone_goTo hc hc').2.symm

/-- A call returns when the handle holds whatever it must. -/
theorem sequenceInv_finish {s : Service} {c : Caller} (hc : s.Alone c)
    (hentry : ∀ t, s.threads t = some .entry → s.serviceThread = some t)
    (hended : s.endedAlone = true → s.serviceThread.isSome) : SequenceInv (s.finish c) where
  oneCall c' pc' hc' := by rw [alone_finish hc] at hc'; cases hc'
  entry t ht := .inl (hentry t ht)
  ended he := .inl (hended he)
  own t pc' hc' := by rw [alone_finish hc] at hc'; cases hc'
  joining c' t hc' := by rw [alone_finish hc] at hc'; cases hc'

/-- The invariant does not read the flags. -/
theorem sequenceInv_congr {s r : Service} (h : SequenceInv s) (hcalls : r.calls = s.calls)
    (hthreads : r.threads = s.threads) (hhandle : r.serviceThread = s.serviceThread)
    (hended : r.endedAlone = s.endedAlone) : SequenceInv r where
  oneCall := by unfold Alone; rw [hcalls]; exact h.oneCall
  entry := by unfold Assigning; rw [hcalls, hthreads, hhandle]; exact h.entry
  ended := by unfold Assigning; rw [hcalls, hhandle, hended]; exact h.ended
  own := by rw [hcalls, hthreads]; exact h.own
  joining := by rw [hcalls, hhandle]; exact h.joining

/-- A thread is launched, and its number goes to the call that will put it into the handle. -/
theorem sequenceInv_launch {s : Service} {c : Caller} (hc : s.Alone c)
    (hfresh : s.threads s.launched = none)
    (hentry : ∀ t, s.threads t = some .entry → s.serviceThread = some t)
    (hended : s.endedAlone = true → s.serviceThread.isSome)
    (hown : ∀ t, c = .service t → s.threads t = some .body) :
    SequenceInv (goTo { s with
      threads := Function.update s.threads s.launched (some .entry)
      launched := s.launched + 1 } c (.startAssign s.launched)) := by
  have hthread : ∀ t, t ≠ s.launched →
      Function.update s.threads s.launched (some .entry) t = s.threads t :=
    fun t ht => Function.update_of_ne ht _ _
  constructor
  · intro c' pc' hc' c'' hne
    obtain ⟨rfl, -⟩ := alone_goTo hc hc'
    rw [goTo_calls, Function.update_of_ne hne, hc c'' hne]
  · intro t ht
    by_cases htl : t = s.launched
    · subst htl
      exact .inr ⟨c, Function.update_self _ _ _⟩
    · exact .inl (hentry t ((hthread t htl).symm.trans ht))
  · exact fun he => .inl (hended he)
  · intro t pc' hc'
    obtain ⟨hct, -⟩ := alone_goTo hc hc'
    by_cases htl : t = s.launched
    · -- the caller's own thread was launched before
      subst htl
      exact absurd (hfresh.symm.trans (hown _ hct.symm)) (by decide)
    · exact (hthread t htl).trans (hown t hct.symm)
  · intro c' t hc'
    cases (alone_goTo hc hc').2

theorem sequenceInv_call {s s' : Service} {c : Caller} {pc : CallPc} (h : SequenceInv s)
    (hfresh : s.threads s.launched = none) (hpc : s.calls c = some pc) (hst : CallSteps s c pc s') :
    SequenceInv s' := by
  have hc : s.Alone c := h.oneCall c pc hpc
  have hown : ∀ t, c = .service t → s.threads t = some .body := by
    rintro t rfl
    exact h.own t pc hpc
  have hnone := not_assigning hc hpc
  have hentry : (∀ t, pc ≠ .startAssign t) → ∀ t, s.threads t = some .entry → s.serviceThread = some t :=
    fun hne t ht => (h.entry t ht).resolve_right (hnone hne t)
  have hended : (∀ t, pc ≠ .startAssign t) → s.endedAlone = true → s.serviceThread.isSome :=
    fun hne he => (h.ended he).resolve_right fun ⟨t, ht⟩ => hnone hne t ht
  cases hst with
  | refuse _ => exact sequenceInv_finish hc (hentry (by simp)) (hended (by simp))
  | pass _ _ hpc' =>
      refine sequenceInv_goTo h hc (hnone (by simp)) ?_ hown
      rintro t rfl
      simp at hpc'
  | initialized =>
      have h' : SequenceInv { s with initialized := true } := sequenceInv_congr h rfl rfl rfl rfl
      exact sequenceInv_goTo h' hc (hnone (by simp)) (by simp) hown
  | notInitialized =>
      exact sequenceInv_finish (s := { s with initialized := false }) hc (hentry (by simp))
        (hended (by simp))
  | flag =>
      have h' : SequenceInv { s with running := true } := sequenceInv_congr h rfl rfl rfl rfl
      exact sequenceInv_goTo h' hc (hnone (by simp)) (by simp) hown
  | launch => exact sequenceInv_launch hc hfresh (hentry (by simp)) (hended (by simp)) hown
  | terminate _ => exact sequenceInv_congr h rfl rfl rfl rfl
  | @assign t hs =>
      refine sequenceInv_finish (s := { s with serviceThread := some t }) hc (fun t' ht' => ?_) fun _ => rfl
      -- the handle was empty, so only this thread can be at its entry
      obtain ⟨c', hc'⟩ := (h.entry t' ht').resolve_left (by rw [hs]; exact Option.some_ne_none t' ∘ Eq.symm)
      by_cases hcc : c' = c
      · subst hcc
        rw [hpc] at hc'
        cases hc'
        rfl
      · rw [hc c' hcc] at hc'
        cases hc'
  | stopped _ => exact sequenceInv_finish hc (hentry (by simp)) (hended (by simp))
  | stop _ => exact sequenceInv_goTo h hc (hnone (by simp)) (by simp) hown
  | clear =>
      have h' : SequenceInv { s with running := false } := sequenceInv_congr h rfl rfl rfl rfl
      exact sequenceInv_goTo h' hc (hnone (by simp)) (by simp) hown
  | noHandle _ => exact sequenceInv_finish hc (hentry (by simp)) (hended (by simp))
  | @detach t hs hct =>
      -- the thread in the handle is the caller, which is in its body
      refine sequenceInv_finish (s := s.release) hc (fun t' ht' => ?_) (nomatch ·)
      have htt : some t = some t' := hs.symm.trans (hentry (by simp) t' ht')
      cases htt
      exact absurd ((hown t hct).symm.trans ht') (by decide)
  | @wait t hs _ =>
      refine sequenceInv_goTo h hc (hnone (by simp)) ?_ hown
      rintro t' ht'
      cases ht'
      exact hs
  | @join t hreturned =>
      refine sequenceInv_finish (s := s.release) hc (fun t' ht' => ?_) (nomatch ·)
      have htt : some t = some t' := (h.joining c t hpc).symm.trans (hentry (by simp) t' ht')
      cases htt
      exact absurd (hreturned.symm.trans ht') (by decide)

/-- A loop moves on, possibly giving up. -/
theorem sequenceInv_loop {s s' : Service} {t : Nat} {pc : LoopPc} (h : SequenceInv s)
    (hcall : s.calls (.service t) = none) (hpc : pc ≠ .entry)
    (hthreads : s'.threads = Function.update s.threads t (some pc)) (hcalls : s'.calls = s.calls)
    (hhandle : s'.serviceThread = s.serviceThread)
    (hended : s'.endedAlone = true → s.endedAlone = true ∨ s.threads t = some .entry) :
    SequenceInv s' := by
  have hassigning : ∀ t', s'.Assigning t' ↔ s.Assigning t' := by
    intro t'
    unfold Assigning
    rw [hcalls]
  constructor
  · unfold Alone
    rw [hcalls]
    exact h.oneCall
  · intro t' ht'
    rw [hthreads] at ht'
    rw [hhandle, hassigning]
    by_cases htt : t' = t
    · subst htt
      rw [Function.update_self] at ht'
      exact absurd (Option.some.inj ht') hpc
    · exact h.entry t' (by rwa [Function.update_of_ne htt] at ht')
  · intro he
    simp only [hhandle, hassigning]
    rcases hended he with he | ht
    · exact h.ended he
    · rcases h.entry t ht with hs | ha
      · exact .inl (by rw [hs]; rfl)
      · exact .inr ⟨t, ha⟩
  · intro t' pc' hc'
    rw [hcalls] at hc'
    have htt : t' ≠ t := by
      rintro rfl
      rw [hcall] at hc'
      cases hc'
    rw [hthreads, Function.update_of_ne htt]
    exact h.own t' pc' hc'
  · rw [hcalls, hhandle]
    exact h.joining

theorem own_of_mayCall {s : Service} {c : Caller} (h : s.mayCall c = true) (t : Nat)
    (hc : c = .service t) : s.threads t = some .body := by
  subst hc
  simpa [mayCall] using (Bool.and_eq_true_iff.mp h).2

theorem sequenceInv_step {s s' : Service} {a : LifecycleAction} (h : SequenceInv s)
    (hfresh : s.threads s.launched = none) (hok : s.Sequential a) (hst : Steps s a s') :
    SequenceInv s' := by
  cases hst with
  | @startCall c hmay =>
      have hnone : ∀ t, ¬ s.Assigning t := fun t ⟨c', hc'⟩ => by rw [hok c'] at hc'; cases hc'
      exact sequenceInv_goTo h (fun c' _ => hok c') hnone (by simp) (own_of_mayCall hmay)
  | @stopCall c hmay =>
      have hnone : ∀ t, ¬ s.Assigning t := fun t ⟨c', hc'⟩ => by rw [hok c'] at hc'; cases hc'
      exact sequenceInv_goTo h (fun c' _ => hok c') hnone (by simp) (own_of_mayCall hmay)
  | call hpc hst => exact sequenceInv_call h hfresh hpc hst
  | advance hcall _ _ hpc' => exact sequenceInv_loop h hcall hpc' rfl rfl rfl .inl
  | giveUp hcall hpc => exact sequenceInv_loop h hcall (by decide) rfl rfl rfl fun _ => .inr hpc
  | disable =>
      unfold disable
      split
      · exact h
      · exact sequenceInv_congr h rfl rfl rfl rfl
  | enable => exact sequenceInv_congr h rfl rfl rfl rfl

theorem sequenceInv_reachable {s : Service} (h : system.ReachableVia Sequential s) : SequenceInv s := by
  induction h with
  | init hs =>
      cases hs
      constructor <;> intros <;> simp_all [constructed]
  | step hs hok hst ih =>
      exact sequenceInv_step ih (threads_fresh hs.reachable (Nat.le_refl _)) hok (steps_of_step hst).2

/-! ## The handle is free when a thread is assigned -/

/-- What holds along a sequence of calls that meets `HandleTakenBack`. -/
structure RestartInv (s : Service) : Prop where
  alive : s.terminated = false
  /-- A joinable handle: the loop runs, or it ended on its own, or `stop()` is about to take it back. -/
  handle : s.serviceThread.isSome → s.running = true ∨ s.endedAlone = true ∨
    ∃ c pc, s.calls c = some pc ∧ pc.closing = true
  starting : ∀ c pc, s.calls c = some pc → pc.starting = true → s.serviceThread = none
  flagged : ∀ c pc, s.calls c = some pc → pc.flagged = true → s.running = true ∨ s.endedAlone = true

/-- A call returns: the loop runs, or it ended on its own, or the handle is free. -/
theorem restartInv_finish {s : Service} {c : Caller} (hc : s.Alone c) (halive : s.terminated = false)
    (hhandle : s.serviceThread.isSome → s.running = true ∨ s.endedAlone = true) :
    RestartInv (s.finish c) where
  alive := halive
  handle hs := (hhandle hs).imp_right .inl
  starting c' pc' hc' := by rw [alone_finish hc] at hc'; cases hc'
  flagged c' pc' hc' := by rw [alone_finish hc] at hc'; cases hc'

theorem restartInv_goTo {s : Service} {c : Caller} {pc : CallPc} (hc : s.Alone c)
    (halive : s.terminated = false)
    (hhandle : s.serviceThread.isSome → s.running = true ∨ s.endedAlone = true ∨ pc.closing = true)
    (hstarting : pc.starting = true → s.serviceThread = none)
    (hflagged : pc.flagged = true → s.running = true ∨ s.endedAlone = true) :
    RestartInv (s.goTo c pc) where
  alive := halive
  handle hs := (hhandle hs).imp_right fun h => h.imp_right fun h => ⟨c, pc, Function.update_self _ _ _, h⟩
  starting _ _ hc' hpc' := hstarting ((alone_goTo hc hc').2 ▸ hpc')
  flagged _ _ hc' hpc' := hflagged ((alone_goTo hc hc').2 ▸ hpc')

theorem restartInv_call {s s' : Service} {c : Caller} {initialized : Bool} {pc : CallPc}
    (hseq : SequenceInv s) (h : RestartInv s) (hpc : s.calls c = some pc)
    (hok : s.HandleTakenBack (.call c initialized)) (hst : CallSteps s c pc s') : RestartInv s' := by
  have hc : s.Alone c := hseq.oneCall c pc hpc
  -- the only call under way is this one
  have hhandle : pc.closing = false → s.serviceThread.isSome → s.running = true ∨ s.endedAlone = true := by
    intro hnot hs
    rcases h.handle hs with h | h | ⟨c', pc', hc', hcl⟩
    · exact .inl h
    · exact .inr h
    · by_cases hcc : c' = c
      · subst hcc
        rw [Option.some.inj (hpc.symm.trans hc'), hcl] at hnot
        cases hnot
      · rw [hc c' hcc] at hc'
        cases hc'
  have hfree := h.starting c pc hpc
  cases hst with
  | refuse _ => exact restartInv_finish hc h.alive (hhandle rfl)
  | pass hdisabled hrunning hpc' =>
      have hended := hok hpc hdisabled hrunning
      have hempty : s.serviceThread = none := by
        refine Option.not_isSome_iff_eq_none.mp fun hs => ?_
        rcases hhandle rfl hs with h | h
        · rw [hrunning] at h; cases h
        · rw [hended] at h; cases h
      refine restartInv_goTo hc h.alive (fun hs => ?_) (fun _ => hempty) fun hfl => ?_
      · rw [hempty] at hs; cases hs
      · rcases hpc' with rfl | rfl <;> cases hfl
  | initialized =>
      refine restartInv_goTo (s := { s with initialized := true }) hc h.alive ?_ (fun _ => hfree rfl)
        (nomatch ·)
      exact fun hs => (hhandle rfl hs).imp_right .inl
  | notInitialized => exact restartInv_finish (s := { s with initialized := false }) hc h.alive (hhandle rfl)
  | flag =>
      exact restartInv_goTo (s := { s with running := true }) hc h.alive (fun _ => .inl rfl)
        (fun _ => hfree rfl) fun _ => .inl rfl
  | launch =>
      refine restartInv_goTo (s := { s with
        threads := Function.update s.threads s.launched (some .entry)
        launched := s.launched + 1 }) hc h.alive ?_ (fun _ => hfree rfl) fun _ => h.flagged c _ hpc rfl
      exact fun hs => (hhandle rfl hs).imp_right .inl
  | @terminate t hs =>
      rw [hfree rfl] at hs
      cases hs
  | @assign t _ =>
      exact restartInv_finish (s := { s with serviceThread := some t }) hc h.alive fun _ =>
        h.flagged c _ hpc rfl
  | stopped _ => exact restartInv_finish hc h.alive (hhandle rfl)
  | stop hrunning => exact restartInv_goTo hc h.alive (fun _ => .inl hrunning) (nomatch ·) (nomatch ·)
  | clear =>
      exact restartInv_goTo (s := { s with running := false }) hc h.alive (fun _ => .inr (.inr rfl))
        (nomatch ·) (nomatch ·)
  | noHandle hs =>
      refine restartInv_finish hc h.alive fun h' => ?_
      rw [hs] at h'
      cases h'
  | detach _ _ => exact restartInv_finish (s := s.release) hc h.alive (nomatch ·)
  | wait _ _ => exact restartInv_goTo hc h.alive (fun _ => .inr (.inr rfl)) (nomatch ·) (nomatch ·)
  | join _ => exact restartInv_finish (s := s.release) hc h.alive (nomatch ·)

theorem restartInv_step {s s' : Service} {a : LifecycleAction} (hseq : SequenceInv s) (h : RestartInv s)
    (hok : s.Sequential a ∧ s.HandleTakenBack a) (hst : Steps s a s') : RestartInv s' := by
  -- between two calls, nobody is about to take the handle back
  have hidle : (∀ c, s.calls c = none) → s.serviceThread.isSome →
      s.running = true ∨ s.endedAlone = true := by
    intro hcalls hs
    rcases h.handle hs with h | h | ⟨c', pc', hc', -⟩
    · exact .inl h
    · exact .inr h
    · rw [hcalls c'] at hc'
      cases hc'
  cases hst with
  | startCall _ =>
      exact restartInv_goTo (fun c' _ => hok.1 c') h.alive (fun hs => (hidle hok.1 hs).imp_right .inl)
        (nomatch ·) (nomatch ·)
  | stopCall _ =>
      exact restartInv_goTo (fun c' _ => hok.1 c') h.alive (fun hs => (hidle hok.1 hs).imp_right .inl)
        (nomatch ·) (nomatch ·)
  | call hpc hst => exact restartInv_call hseq h hpc hok.2 hst
  | advance _ _ _ _ => exact ⟨h.alive, h.handle, h.starting, h.flagged⟩
  | giveUp _ _ =>
      -- whoever relied on the flag may rely on the end of the loop
      have hended : s.running = true ∨ s.endedAlone = true → (s.endedAlone || s.running) = true := by
        rintro (h | h) <;> simp [h]
      refine ⟨h.alive, fun hs => .inr ?_, h.starting, fun c pc hc hpc => .inr (hended (h.flagged c pc hc hpc))⟩
      rcases h.handle hs with h | h | h
      · exact .inl (hended (.inl h))
      · exact .inl (hended (.inr h))
      · exact .inr h
  | disable =>
      unfold disable
      split
      · exact h
      · exact ⟨h.alive, h.handle, h.starting, h.flagged⟩
  | enable => exact ⟨h.alive, h.handle, h.starting, h.flagged⟩

theorem restartInv_reachable {s : Service}
    (h : system.ReachableVia (fun s a => s.Sequential a ∧ s.HandleTakenBack a) s) :
    SequenceInv s ∧ RestartInv s := by
  induction h with
  | init hs =>
      cases hs
      refine ⟨sequenceInv_reachable (.init rfl), ?_⟩
      constructor <;> intros <;> simp_all [constructed]
  | step hs hok hst ih =>
      have hfresh := threads_fresh hs.reachable (Nat.le_refl _)
      obtain ⟨-, hst⟩ := steps_of_step hst
      exact ⟨sequenceInv_step ih.1 hfresh hok.1 hst, restartInv_step ih.1 ih.2 hok hst⟩

/-! ## Any other restart terminates the process -/

theorem terminates_of_not_takenBack {s s' : Service} {a : LifecycleAction}
    (hs : system.ReachableVia Sequential s) (hbad : ¬ s.HandleTakenBack a) (hst : s.step a = some s') :
    ∃ c n u, system.exec s' (List.replicate n (.call c true)) = some u ∧ u.terminated = true := by
  cases a with
  | call c initialized =>
      simp only [HandleTakenBack, Classical.not_imp, Bool.not_eq_false] at hbad
      obtain ⟨hpc, hdisabled, hrunning, hended⟩ := hbad
      obtain ⟨hterm, -⟩ := steps_of_step hst
      have hseq := sequenceInv_reachable hs
      -- the handle still holds the thread whose loop ended on its own
      have hhandle : s.serviceThread.isSome := by
        refine (hseq.ended hended).resolve_right fun ⟨t, ht⟩ => ?_
        exact not_assigning (hseq.oneCall c _ hpc) hpc (by simp) t ht
      obtain ⟨pc, hl, rfl⟩ := launching_of_pass hpc hdisabled hrunning hst
      have hc : (s.goTo c pc).Launching c := ⟨pc, Function.update_self _ _ _, hl⟩
      obtain ⟨n, u, hexec, hu⟩ := launches hc hterm
      refine ⟨c, n + 1, { u with terminated := true }, ?_, rfl⟩
      have hassign : system.step u (.call c true) = some { u with terminated := true } := by
        have hsome : u.serviceThread.isSome := by rw [hu.handle]; exact hhandle
        simp [system, step, hu.terminated, hu.caller, callStep, hsome]
      rw [List.replicate_add, System.exec_append, hexec]
      show (system.step u _).bind _ = _
      rw [hassign]
      rfl
  | _ => exact absurd trivial hbad

/-- **When a restart is safe.** Along every sequence of calls in which no `start()` gets past its test
    after the last loop ended on its own and was not joined, no thread is assigned over a joinable handle;
    and any other `start()` that gets past its test terminates the process when it goes on. -/
theorem start_never_terminates (s : Service) :
    (system.ReachableVia (fun s a => s.Sequential a ∧ s.HandleTakenBack a) s → s.terminated = false) ∧
      ∀ a s', system.ReachableVia Sequential s → ¬ s.HandleTakenBack a → s.step a = some s' →
        ∃ c n u, system.exec s' (List.replicate n (.call c true)) = some u ∧ u.terminated = true :=
  ⟨fun h => (restartInv_reachable h).2.alive, fun _ _ hs hbad hst =>
    terminates_of_not_takenBack hs hbad hst⟩

/-! ## Two runs -/

/-- The steps of calls and loops may come in any order. -/
theorem sequential_of_exec {s s' : Service} {c : Caller} {n : Nat}
    (hs : system.ReachableVia Sequential s)
    (h : system.exec s (List.replicate n (.call c true)) = some s') : system.ReachableVia Sequential s' := by
  refine System.reachableVia_of_exec hs (fun a ha u => ?_) h
  rw [List.eq_of_mem_replicate ha]
  trivial

/-- The first `start()` is over, and the camera did not open. -/
theorem camera_failed : ∃ s, system.ReachableVia (fun s a => s.Sequential a ∧ s.HandleTakenBack a) s ∧
    (∀ c, s.calls c = none) ∧ s.disabled = false ∧ s.running = false ∧ s.initialized = true ∧
      s.terminated = false ∧ s.endedAlone = true := by
  let Ok : Service → LifecycleAction → Prop := fun s a => s.Sequential a ∧ s.HandleTakenBack a
  have htest : system.ReachableVia Ok (constructed.goTo (.other 0) .startTest) :=
    .step (a := .startCall (.other 0)) (.init rfl) ⟨fun _ => rfl, trivial⟩ rfl
  have hok : ∀ {s : Service}, s.endedAlone = false → Ok s (.call (.other 0) true) :=
    fun h => ⟨trivial, fun _ _ _ => h⟩
  have hinit : system.ReachableVia Ok _ := htest.step (hok rfl) rfl
  have hflag : system.ReachableVia Ok _ := hinit.step (hok rfl) rfl
  have hlaunch : system.ReachableVia Ok _ := hflag.step (hok rfl) rfl
  have hassign : system.ReachableVia Ok _ := hlaunch.step (hok rfl) rfl
  have hdone : system.ReachableVia Ok _ := hassign.step (hok rfl) rfl
  have hfail : system.ReachableVia Ok _ := hdone.step (a := .loop 0 false) ⟨trivial, trivial⟩ rfl
  have hreturn : system.ReachableVia Ok _ := hfail.step (a := .loop 0 true) ⟨trivial, trivial⟩ rfl
  refine ⟨_, hreturn, fun c => ?_, rfl, rfl, rfl, rfl, rfl⟩
  by_cases hc : c = .other 0
  · subst hc
    rfl
  · simp [goTo, constructed, hc]

/-- The service whose camera did not open is asked to start again. -/
theorem restart_after_failure : ∃ s s', system.ReachableVia Sequential s ∧
    ¬ s.HandleTakenBack (.call (.other 0) true) ∧ s.step (.call (.other 0) true) = some s' := by
  obtain ⟨s, hs, hcalls, hdisabled, hrunning, hinit, hterm, hended⟩ := camera_failed
  have hs : system.ReachableVia Sequential s := hs.mono fun _ _ h => h.1
  refine ⟨s.goTo (.other 0) .startTest, (s.goTo (.other 0) .startTest).goTo (.other 0) .startFlag, ?_, ?_, ?_⟩
  · refine hs.step (a := .startCall (.other 0)) hcalls ?_
    simp [system, step, hterm, mayCall, hcalls]
  · intro h
    have h := h (by simp) hdisabled hrunning
    rw [show (s.goTo (.other 0) .startTest).endedAlone = true from hended] at h
    cases h
  · simp [step, goTo, hterm, callStep, hdisabled, hrunning, hinit]

/-- **The restart that terminates the process**: the camera does not open, and the service is started
    again. -/
theorem start_terminates : ∃ s, system.ReachableVia Sequential s ∧ s.terminated = true := by
  obtain ⟨s, s', hs, hbad, hst⟩ := restart_after_failure
  obtain ⟨c, n, u, hexec, hu⟩ := terminates_of_not_takenBack hs hbad hst
  exact ⟨u, sequential_of_exec (hs.step (a := .call (.other 0) true) trivial hst) hexec, hu⟩

/-- Both directions at work: the failed camera alone does no harm, the restart after it does. -/
theorem start_never_terminates_runs :
    (∃ s : Service, s.endedAlone = true ∧ s.terminated = false) ∧
      ∃ (s u : Service) (c : Caller) (n : Nat),
        system.exec s (List.replicate n (.call c true)) = some u ∧ u.terminated = true := by
  constructor
  · obtain ⟨s, hs, -, -, -, -, -, hended⟩ := camera_failed
    exact ⟨s, hended, (start_never_terminates s).1 hs⟩
  · obtain ⟨s, s', hs, hbad, hst⟩ := restart_after_failure
    obtain ⟨c, n, u, hexec, hu⟩ := (start_never_terminates s).2 _ s' hs hbad hst
    exact ⟨s', u, c, n, hexec, hu⟩

end Service

end Kufibot
