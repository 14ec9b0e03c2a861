import Kufibot.Services.Lifecycle

/-!
# `Services.SingleLoop` — how many threads execute `service_function`

A thread is launched by a `start()` that found `_running` false. That flag says nothing about the loop:
a service that stopped itself goes on with its iteration. `LoopGone` asks of each `start()` that gets past
its test that no loop is executing and that no other `start()` is past its own; then there is never more
than one loop, and any `start()` without it can go on to launch a second one.
-/

namespace Kufibot

open Lib

/-- The point lies between the test of `_running` and the launch of the new thread. -/
def CallPc.launching : CallPc → Bool
  | .startInitialize | .startFlag | .startLaunch => true
  | _ => false

namespace Service

/-- Thread `t` is executing `service_function`. -/
def Executing (s : Service) (t : Nat) : Prop := ∃ pc, s.threads t = some pc ∧ pc ≠ .returned

/-- A `start()` of `c` is going to launch a thread. -/
def Launching (s : Service) (c : Caller) : Prop := ∃ pc, s.calls c = some pc ∧ pc.launching = true

/-- **At most one live service loop.** -/
def AtMostOneLoop (s : Service) : Prop := ∀ t t', s.Executing t → s.Executing t' → t = t'

/-- A `start()` gets past its test only when no loop is executing and none is going to be launched. -/
def LoopGone (s : Service) : LifecycleAction → Prop
  | .call c _ => s.calls c = some .startTest → s.disabled = false → s.running = false →
      (∀ t, ¬ s.Executing t) ∧ ∀ c', ¬ s.Launching c'
  | _ => True

/-! ## What a step does to the loops -/

theorem launching_goTo {s : Service} {c c' : Caller} {pc : CallPc} (h : (s.goTo c pc).Launching c') :
    (c' = c ∧ pc.launching = true) ∨ s.Launching c' := by
  obtain ⟨pc', hpc', hl⟩ := h
  by_cases hc : c' = c
  · subst hc
    have hpc : pc = pc' := by simpa [goTo] using hpc'
    exact .inl ⟨rfl, hpc ▸ hl⟩
  · exact .inr ⟨pc', by simpa [goTo, hc] using hpc', hl⟩

theorem launching_finish {s : Service} {c c' : Caller} (h : (s.finish c).Launching c') :
    s.Launching c' := by
  obtain ⟨pc', hpc', hl⟩ := h
  by_cases hc : c' = c
  · subst hc
    simp [finish] at hpc'
  · exact ⟨pc', by simpa [finish, hc] using hpc', hl⟩

theorem executing_update {s : Service} {t t' : Nat} {pc : LoopPc} {f : Nat → Option LoopPc}
    (hf : f = Function.update s.threads t (some pc)) (h : ∃ pc', f t' = some pc' ∧ pc' ≠ .returned) :
    t' = t ∨ s.Executing t' := by
  subst hf
  by_cases ht : t' = t
  · exact .inl ht
  · obtain ⟨pc', hpc', hlive⟩ := h
    exact .inr ⟨pc', by simpa [ht] using hpc', hlive⟩

/-- How a step changes who executes and who is going to launch. -/
inductive LoopEffect (s : Service) (a : LifecycleAction) (s' : Service) : Prop where
  /-- Nobody starts to do either. -/
  | fewer (hloops : ∀ t, s'.Executing t → s.Executing t) (hcalls : ∀ c, s'.Launching c → s.Launching c)
  /-- A `start()` gets past its test. -/
  | pass {c : Caller} {initialized : Bool} (ha : a = .call c initialized)
      (hpc : s.calls c = some .startTest) (hdisabled : s.disabled = false) (hrunning : s.running = false)
      (hloops : ∀ t, s'.Executing t → s.Executing t)
      (hcalls : ∀ c', s'.Launching c' → c' = c ∨ s.Launching c')
  /-- A `start()` launches its thread. -/
  | launch {c : Caller} (hc : s.Launching c)
      (hloops : ∀ t, s'.Executing t → t = s.launched ∨ s.Executing t)
      (hcalls : ∀ c', s'.Launching c' → c' ≠ c ∧ s.Launching c')

theorem loopEffect_of_callSteps {s s' : Service} {c : Caller} {initialized : Bool} {pc : CallPc}
    (hpc : s.calls c = some pc) (h : CallSteps s c pc s') :
    LoopEffect s (.call c initialized) s' := by
  -- a step to a point before the launch is one of a `start()` that was there already
  have goes : ∀ {r : Service} {pc' : CallPc}, r.calls = s.calls →
      (pc'.launching = true → pc.launching = true) →
      ∀ c', (r.goTo c pc').Launching c' → s.Launching c' := by
    rintro r pc' hr hl c' hc'
    rcases launching_goTo hc' with ⟨rfl, hl'⟩ | ⟨pc'', hpc'', hl''⟩
    · exact ⟨pc, hpc, hl hl'⟩
    · exact ⟨pc'', by rw [← hr]; exact hpc'', hl''⟩
  cases h with
  | refuse h => exact .fewer (fun _ => id) fun _ => launching_finish
  | @pass pc' hdisabled hrunning hpc' =>
      refine .pass rfl hpc hdisabled hrunning (fun _ => id) fun c' hc' => ?_
      exact (launching_goTo hc').imp_left And.left
  | initialized => exact .fewer (fun _ => id) (goes rfl fun _ => rfl)
  | notInitialized => exact .fewer (fun _ => id) fun c' hc' => launching_finish (s := s) hc'
  | flag => exact .fewer (fun _ => id) (goes rfl fun _ => rfl)
  | launch =>
      refine .launch ⟨_, hpc, rfl⟩ (fun t ht => executing_update rfl ht) fun c' hc' => ?_
      refine ⟨fun hcc => ?_, goes rfl (fun _ => rfl) c' hc'⟩
      subst hcc
      obtain ⟨pc', hpc', hl⟩ := hc'
      have hpc' : CallPc.startAssign s.launched = pc' := by simpa [goTo] using hpc'
      subst hpc'
      cases hl
  | terminate h => exact .fewer (fun _ => id) fun _ => id
  | assign h => exact .fewer (fun _ => id) fun c' hc' => launching_finish (s := s) hc'
  | stopped h => exact .fewer (fun _ => id) fun _ => launching_finish
  | stop h => exact .fewer (fun _ => id) (goes rfl (nomatch ·))
  | clear => exact .fewer (fun _ => id) (goes rfl (nomatch ·))
  | noHandle h => exact .fewer (fun _ => id) fun _ => launching_finish
  | detach h hc => exact .fewer (fun _ => id) fun c' hc' => launching_finish (s := s) hc'
  | wait h hc => exact .fewer (fun _ => id) (goes rfl (nomatch ·))
  | join h => exact .fewer (fun _ => id) fun c' hc' => launching_finish (s := s) hc'

theorem loopEffect_of_steps {s s' : Service} {a : LifecycleAction} (h : Steps s a s') :
    LoopEffect s a s' := by
  cases h with
  | startCall h =>
      refine .fewer (fun _ => id) fun c' hc' => ?_
      exact (launching_goTo hc').resolve_left fun h => Bool.false_ne_true h.2
  | stopCall h =>
      refine .fewer (fun _ => id) fun c' hc' => ?_
      exact (launching_goTo hc').resolve_left fun h => Bool.false_ne_true h.2
  | call hpc h => exact loopEffect_of_callSteps hpc h
  | advance hcall hpc hlive hpc' =>
      refine .fewer (fun t' ht' => ?_) fun _ => id
      rcases executing_update rfl ht' with rfl | ht'
      · exact ⟨_, hpc, hlive⟩
      · exact ht'
  | giveUp hcall hpc =>
      refine .fewer (fun t' ht' => ?_) fun _ => id
      rcases executing_update rfl ht' with rfl | ht'
      · exact ⟨_, hpc, by decide⟩
      · exact ht'
  | disable =>
      unfold disable
      split <;> exact .fewer (fun _ => id) fun _ => id
  | enable => exact .fewer (fun _ => id) fun _ => id

/-! ## One loop under `LoopGone` -/

structure LoopInv (s : Service) : Prop where
  oneLauncher : ∀ c c', s.Launching c → s.Launching c' → c = c'
  launchesAlone : ∀ c t, s.Launching c → ¬ s.Executing t
  oneLoop : s.AtMostOneLoop

theorem loopInv_step {s s' : Service} {a : LifecycleAction} (h : LoopInv s) (hok : s.LoopGone a)
    (hst : Steps s a s') : LoopInv s' := by
  cases loopEffect_of_steps hst with
  | fewer hloops hcalls =>
      constructor
      · intro c c' hc hc'
        exact h.oneLauncher c c' (hcalls c hc) (hcalls c' hc')
      · intro c t hc ht
        exact h.launchesAlone c t (hcalls c hc) (hloops t ht)
      · intro t t' ht ht'
        exact h.oneLoop t t' (hloops t ht) (hloops t' ht')
  | @pass c initialized ha hpc hdisabled hrunning hloops hcalls =>
      subst ha
      obtain ⟨hnoLoop, hnoLauncher⟩ := hok hpc hdisabled hrunning
      have honly : ∀ c', s'.Launching c' → c' = c := fun c' hc' =>
        (hcalls c' hc').resolve_right (hnoLauncher c')
      constructor
      · intro c₁ c₂ h₁ h₂
        rw [honly c₁ h₁, honly c₂ h₂]
      · intro _ t _ ht
        exact hnoLoop t (hloops t ht)
      · intro t _ ht _
        exact absurd (hloops t ht) (hnoLoop t)
  | @launch c hc hloops hcalls =>
      -- the launcher was the only one, and no loop was executing
      have honly : ∀ t, s'.Executing t → t = s.launched := fun t ht =>
        (hloops t ht).resolve_right (h.launchesAlone c t hc)
      constructor
      · intro c₁ _ h₁ _
        exact absurd (h.oneLauncher c₁ c (hcalls c₁ h₁).2 hc) (hcalls c₁ h₁).1
      · intro c' _ hc' _
        exact absurd (h.oneLauncher c' c (hcalls c' hc').2 hc) (hcalls c' hc').1
      · intro t t' ht ht'
        rw [honly t ht, honly t' ht']

theorem loopInv_of_loopGone {s : Service} (h : system.ReachableVia LoopGone s) : LoopInv s := by
  refine h.invariant ?_ fun s a s' hs hok hst => ?_
  · rintro _ rfl
    refine ⟨?_, ?_, ?_⟩
    · rintro c _ ⟨_, hpc, _⟩
      cases hpc
    · rintro c _ ⟨_, hpc, _⟩
      cases hpc
    · rintro t _ ⟨_, hpc, _⟩
      cases hpc
  · exact loopInv_step hs hok (steps_of_step hst).2

/-! ## Any other `start()` can launch a second loop -/

/-- Threads that were not launched yet are nowhere. -/
theorem threads_fresh {s : Service} (h : system.Reachable s) {t : Nat} (ht : s.launched ≤ t) :
    s.threads t = none := by
  have main : ∀ t, s.launched ≤ t → s.threads t = none := by
    refine h.invariant (I := fun s : Service => ∀ t, s.launched ≤ t → s.threads t = none) ?_
      fun s a s' hs _ hst => ?_
    · rintro _ rfl t _
      rfl
    -- a thread that moves has been launched
    have moved : ∀ {t : Nat} {pc pc' : LoopPc}, s.threads t = some pc →
        ∀ t', s.launched ≤ t' → Function.update s.threads t (some pc') t' = none := by
      intro t pc pc' hpc t' ht'
      rw [Function.update_of_ne ?_, hs t' ht']
      rintro rfl
      rw [hs t' ht'] at hpc
      cases hpc
    cases (steps_of_step hst).2 with
    | call hpc h =>
        cases h with
        | launch =>
            intro t ht
            have ht : s.launched + 1 ≤ t := ht
            show Function.update s.threads s.launched _ t = none
            rw [Function.update_of_ne (by omega), hs t (by omega)]
        | _ => exact hs
    | advance hcall hpc hlive hpc' => exact moved hpc
    | giveUp hcall hpc => exact moved hpc
    | disable => unfold disable; split <;> exact hs
    | _ => exact hs
  exact main t ht

/-- `s'` comes from `s` by the launch of one thread in a call of `c`. -/
structure Launched (c : Caller) (s s' : Service) : Prop where
  threads : s'.threads = Function.update s.threads s.launched (some .entry)
  handle : s'.serviceThread = s.serviceThread
  terminated : s'.terminated = false
  caller : s'.calls c = some (.startAssign s.launched)
  others : ∀ c', c' ≠ c → s'.calls c' = s.calls c'

/-- A `start()` that is going to launch a thread does so when it alone goes on. -/
theorem launches {s : Service} {c : Caller} (hc : s.Launching c) (hterm : s.terminated = false) :
    ∃ n s', system.exec s (List.replicate n (.call c true)) = some s' ∧ Launched c s s' := by
  -- a step of the call to an earlier point leaves all the rest for the next one
  have hback : ∀ r r' : Service, system.step r (.call c true) = some r' → r'.threads = r.threads →
      r'.launched = r.launched → r'.serviceThread = r.serviceThread →
      (∀ c', c' ≠ c → r'.calls c' = r.calls c') →
      (∃ n s', system.exec r' (List.replicate n (.call c true)) = some s' ∧ Launched c r' s') →
      ∃ n s', system.exec r (List.replicate n (.call c true)) = some s' ∧ Launched c r s' := by
    rintro r r' hst hthreads hlaunched hhandle hothers ⟨n, s', hexec, hl⟩
    refine ⟨n + 1, s', ?_, ?_, ?_, hl.terminated, ?_, fun c' hc' => ?_⟩
    · rw [List.replicate_succ, System.exec, hst]
      exact hexec
    · rw [hl.threads, hthreads, hlaunched]
    · rw [hl.handle, hhandle]
    · rw [hl.caller, hlaunched]
    · rw [hl.others c' hc', hothers c' hc']
  have hlaunch : ∀ r : Service, r.calls c = some .startLaunch → r.terminated = false →
      ∃ n s', system.exec r (List.replicate n (.call c true)) = some s' ∧ Launched c r s' := by
    intro r hr hrt
    refine ⟨1, { r with
      threads := Function.update r.threads r.launched (some .entry)
      launched := r.launched + 1 }.goTo c (.startAssign r.launched), ?_, rfl, rfl, hrt, ?_, ?_⟩
    · simp [System.exec, system, step, hrt, hr, callStep]
    · exact Function.update_self _ _ _
    · exact fun c' hc' => Function.update_of_ne hc' _ _
  have hflag : ∀ r : Service, r.calls c = some .startFlag → r.terminated = false →
      ∃ n s', system.exec r (List.replicate n (.call c true)) = some s' ∧ Launched c r s' := by
    intro r hr hrt
    refine hback r ({ r with running := true }.goTo c .startLaunch) ?_ rfl rfl rfl ?_
      (hlaunch _ (Function.update_self _ _ _) hrt)
    · simp [system, step, hrt, hr, callStep]
    · exact fun c' hc' => Function.update_of_ne hc' _ _
  obtain ⟨pc, hpc, hl⟩ := hc
  cases pc with
  | startLaunch => exact hlaunch s hpc hterm
  | startFlag => exact hflag s hpc hterm
  | startInitialize =>
      refine hback s ({ s with initialized := true }.goTo c .startFlag) ?_ rfl rfl rfl ?_
        (hflag _ (Function.update_self _ _ _) hterm)
      · simp [system, step, hterm, hpc, callStep]
      · exact fun c' hc' => Function.update_of_ne hc' _ _
  | _ => cases hl

/-- A loop that is executing and a `start()` that is going to launch one make two. -/
theorem two_loops {s : Service} (hs : system.Reachable s) {c : Caller} {t : Nat} (hc : s.Launching c)
    (ht : s.Executing t) (hterm : s.terminated = false) :
    ∃ as s', system.exec s as = some s' ∧ ¬ s'.AtMostOneLoop := by
  obtain ⟨n, s', hexec, hl⟩ := launches hc hterm
  obtain ⟨pc, hpc, hlive⟩ := ht
  have hne : t ≠ s.launched := by
    intro h
    rw [threads_fresh hs (Nat.le_of_eq h.symm)] at hpc
    cases hpc
  refine ⟨_, s', hexec, fun hone => hne (hone t s.launched ⟨pc, ?_, hlive⟩ ⟨.entry, ?_, by decide⟩)⟩
  · rw [hl.threads, Function.update_of_ne hne, hpc]
  · rw [hl.threads, Function.update_self]

/-- A `start()` that gets past its test is going to launch a thread. -/
theorem launching_of_pass {s s' : Service} {c : Caller} {initialized : Bool}
    (hpc : s.calls c = some .startTest) (hdisabled : s.disabled = false) (hrunning : s.running = false)
    (hst : s.step (.call c initialized) = some s') :
    ∃ pc : CallPc, pc.launching = true ∧ s' = s.goTo c pc := by
  obtain ⟨-, hsteps⟩ := steps_of_step hst
  cases hsteps with
  | @call _ _ pc _ hpc' h =>
      have hpc : pc = .startTest := Option.some.inj (hpc'.symm.trans hpc)
      subst hpc
      cases h with
      | refuse h => simp [hdisabled, hrunning] at h
      | @pass pc hd hr hpc => exact ⟨pc, by rcases hpc with rfl | rfl <;> rfl, rfl⟩

theorem second_loop_of_not_loopGone {s s' : Service} {a : LifecycleAction} (hs : system.Reachable s)
    (hbad : ¬ s.LoopGone a) (hst : s.step a = some s') :
    ∃ as u, system.exec s' as = some u ∧ ¬ u.AtMostOneLoop := by
  cases a with
  | call c initialized =>
      simp only [LoopGone, Classical.not_imp, not_and_or, not_forall, not_not] at hbad
      obtain ⟨hpc, hdisabled, hrunning, hbad⟩ := hbad
      have hs' : system.Reachable s' := .step (a := .call c initialized) hs trivial hst
      obtain ⟨hterm, -⟩ := steps_of_step hst
      obtain ⟨pc, hl, rfl⟩ := launching_of_pass hpc hdisabled hrunning hst
      have hc : (s.goTo c pc).Launching c := ⟨pc, Function.update_self _ _ _, hl⟩
      rcases hbad with ⟨t, ht⟩ | ⟨c', hc'⟩
      · exact two_loops hs' hc ht hterm
      · have hne : c ≠ c' := by
          rintro rfl
          obtain ⟨pc', hpc', hl'⟩ := hc'
          rw [hpc] at hpc'
          cases hpc'
          cases hl'
        -- first `c'` launches its thread, then `c`
        obtain ⟨pc', hpc', hl'⟩ := hc'
        have hlater : (s.goTo c pc).Launching c' :=
          ⟨pc', by rw [← hpc']; exact Function.update_of_ne (Ne.symm hne) _ _, hl'⟩
        obtain ⟨n, u, hexec, hlaunched⟩ := launches hlater hterm
        have hu : system.Reachable u := System.reachableVia_of_exec hs' (fun _ _ _ => trivial) hexec
        have hcu : u.Launching c := ⟨pc, by
          rw [hlaunched.others c hne]
          exact Function.update_self _ _ _, hl⟩
        have htu : u.Executing s.launched := ⟨.entry, by
          rw [hlaunched.threads]
          exact Function.update_self _ _ _, by decide⟩
        obtain ⟨bs, v, hexec', htwo⟩ := two_loops hu hcu htu hlaunched.terminated
        exact ⟨_ ++ bs, v, by rw [System.exec_append, hexec]; exact hexec', htwo⟩
  | _ => exact absurd trivial hbad

/-- **When at most one loop is live.** If every `start()` that gets past its test does so with no loop
    executing and no other `start()` about to launch one, there is at most one loop at every moment; after
    any other one there can be two. -/
theorem at_most_one_loop (s : Service) :
    (system.ReachableVia LoopGone s → s.AtMostOneLoop) ∧
      ∀ a s', system.Reachable s → ¬ s.LoopGone a → s.step a = some s' →
        ∃ as u, system.exec s' as = some u ∧ ¬ u.AtMostOneLoop :=
  ⟨fun h => (loopInv_of_loopGone h).oneLoop, fun _ _ hs hbad hst =>
    second_loop_of_not_loopGone hs hbad hst⟩

/-! ## Two runs -/

/-- A `start()` by a thread outside, up to the assignment of the new thread. -/
def startByOther : List LifecycleAction :=
  [.startCall (.other 0), .call (.other 0) true, .call (.other 0) true, .call (.other 0) true,
    .call (.other 0) true, .call (.other 0) true]

/-- The loop of thread 0 gets into its body and stops its service from there. -/
def selfStop : List LifecycleAction :=
  [.loop 0 true, .loop 0 true, .stopCall (.service 0), .call (.service 0) true,
    .call (.service 0) true, .call (.service 0) true]

/-- The service is started again: it is initialized already. -/
def startAgain : List LifecycleAction :=
  [.startCall (.other 0), .call (.other 0) true, .call (.other 0) true, .call (.other 0) true,
    .call (.other 0) true]

/-- **Two loops**: the service stops itself and is started again before its first loop reads the flag;
    both loops find it set and go on. -/
theorem two_loops_run : ∃ s, system.Reachable s ∧ ¬ s.AtMostOneLoop := by
  have hrun : (system.exec constructed
      (startByOther ++ selfStop ++ startAgain ++
        [.loop 0 true, .loop 0 true, .loop 1 true, .loop 1 true])).map
      (fun s => (s.threads 0, s.threads 1, s.terminated)) =
        some (some .body, some .body, false) := rfl
  obtain ⟨s, hs, hstate⟩ :=
    System.exists_of_exec (System.ReachableVia.init rfl) (fun _ _ _ => trivial) hrun
  simp only [Prod.mk.injEq] at hstate
  obtain ⟨h0, h1, -⟩ := hstate
  refine ⟨s, hs, fun hone => ?_⟩
  have h := hone 0 1 ⟨.body, h0, by decide⟩ ⟨.body, h1, by decide⟩
  omega

/-- The first thread has been launched, and nothing else has happened. -/
theorem launched_loopGone : ∃ s, system.ReachableVia LoopGone s ∧ s.Executing 0 := by
  have htest : system.ReachableVia LoopGone (constructed.goTo (.other 0) .startTest) :=
    .step (a := .startCall (.other 0)) (.init rfl) trivial rfl
  have hpass : system.ReachableVia LoopGone
      ((constructed.goTo (.other 0) .startTest).goTo (.other 0) .startInitialize) := by
    refine .step (a := .call (.other 0) true) htest (fun _ _ _ => ⟨?_, ?_⟩) rfl
    · rintro t ⟨_, hpc, -⟩
      cases hpc
    · rintro c ⟨pc, hpc, hl⟩
      by_cases hc : c = .other 0
      · subst hc
        cases hpc
        cases hl
      · simp [goTo, constructed, hc] at hpc
  have later : ∀ {s : Service}, s.calls (.other 0) ≠ some .startTest →
      s.LoopGone (.call (.other 0) true) := fun h hpc => absurd hpc h
  have hflag : system.ReachableVia LoopGone _ := hpass.step (later (by decide)) rfl
  have hlaunch : system.ReachableVia LoopGone _ := hflag.step (later (by decide)) rfl
  have hloop : system.ReachableVia LoopGone _ := hlaunch.step (later (by decide)) rfl
  exact ⟨_, hloop, .entry, rfl, by decide⟩

/-- Both directions at work: one loop after the first `start()`, and a `start()` while the loop that
    stopped itself is still in its body leads to two. -/
theorem at_most_one_loop_runs :
    (∃ s : Service, s.Executing 0 ∧ s.AtMostOneLoop) ∧
      ∃ (s s' u : Service) (a : LifecycleAction) (as : List LifecycleAction),
        s.step a = some s' ∧ system.exec s' as = some u ∧ ¬ u.AtMostOneLoop := by
  constructor
  · obtain ⟨s, hs, hloop⟩ := launched_loopGone
    exact ⟨s, hloop, (at_most_one_loop s).1 hs⟩
  · have hrun : (system.exec constructed
        (startByOther ++ selfStop ++ [.startCall (.other 0)])).map
        (fun s => (s.threads 0, s.calls (.other 0), s.disabled, s.running, s.initialized, s.terminated)) =
          some (some .body, some .startTest, false, false, true, false) := rfl
    obtain ⟨s, hs, hstate⟩ :=
      System.exists_of_exec (System.ReachableVia.init rfl) (fun _ _ _ => trivial) hrun
    simp only [Prod.mk.injEq] at hstate
    obtain ⟨h0, hpc, hdisabled, hrunning, hinit, hterm⟩ := hstate
    have hbad : ¬ s.LoopGone (.call (.other 0) true) := fun h =>
      (h hpc hdisabled hrunning).1 0 ⟨.body, h0, by decide⟩
    have hst : s.step (.call (.other 0) true) = some (s.goTo (.other 0) .startFlag) := by
      simp [step, hterm, hpc, callStep, hdisabled, hrunning, hinit]
    obtain ⟨as, u, hexec, htwo⟩ := (at_most_one_loop s).2 _ _ hs hbad hst
    exact ⟨s, _, u, _, as, hst, hexec, htwo⟩

end Service

end Kufibot
