import Kufibot.Services.Restart

/-!
# `Services.OneMaster` — a service that one thread starts and stops

When all the calls of `stop` come from one thread, and so do the calls of `start` that get past their test,
then `stop` keeps what it promises: a service whose `_running` is false outside of such a call has no thread
that executes its loop (`MasterInv.no_loop`), and it never has two (`MasterInv.one_loop`). The calls of
`start` that find the service running may come from anywhere.
-/

namespace Kufibot

open Lib

/-- The call is one of `stop`. -/
def CallPc.isStop : CallPc → Bool
  | .stopTest | .stopFlag | .stopHandle | .stopJoin _ => true
  | _ => false

namespace Service

/-! ## What becomes of the calls -/

/-- Where a call that is at `pc` after a step comes from. -/
inductive CallOrigin (s : Service) (a : LifecycleAction) (c : Caller) (pc : CallPc) : Prop where
  | kept (h : s.calls c = some pc)
  /-- It has gone on; a call of `start` remains one, and so does one of `stop`. -/
  | moved {pc' : CallPc} {initialized : Bool} (ha : a = .call c initialized) (h : s.calls c = some pc')
      (hstop : pc'.isStop = pc.isStop)
  | startCall (ha : a = .startCall c) (hpc : pc = .startTest)
  | stopCall (ha : a = .stopCall c) (hpc : pc = .stopTest)

theorem callOrigin_of_steps {s s' : Service} {a : LifecycleAction} {c : Caller} {pc : CallPc}
    (h : Steps s a s') (hpc : s'.calls c = some pc) : CallOrigin s a c pc := by
  have hgoTo : ∀ {r : Service} {c' : Caller} {pc' : CallPc}, (r.goTo c' pc').calls c = some pc →
      r.calls = s.calls → c = c' ∧ pc = pc' ∨ s.calls c = some pc := by
    intro r c' pc' hcall hr
    by_cases hc : c = c'
    · subst hc
      rw [goTo_calls, Function.update_self] at hcall
      exact .inl ⟨rfl, (Option.some.inj hcall).symm⟩
    · rw [goTo_calls, Function.update_of_ne hc, hr] at hcall
      exact .inr hcall
  have hfinish : ∀ {r : Service} {c' : Caller}, (r.finish c').calls c = some pc → r.calls = s.calls →
      s.calls c = some pc := by
    intro r c' hcall hr
    by_cases hc : c = c'
    · subst hc
      rw [finish_calls, Function.update_self] at hcall
      cases hcall
    · rwa [finish_calls, Function.update_of_ne hc, hr] at hcall
  cases h with
  | startCall _ =>
      rcases hgoTo hpc rfl with ⟨rfl, rfl⟩ | h
      · exact .startCall rfl rfl
      · exact .kept h
  | stopCall _ =>
      rcases hgoTo hpc rfl with ⟨rfl, rfl⟩ | h
      · exact .stopCall rfl rfl
      · exact .kept h
  | @call c' initialized pc' _ hpc' hst =>
      have goes : ∀ {r : Service} {pc'' : CallPc}, (r.goTo c' pc'').calls c = some pc → r.calls = s.calls →
          pc'.isStop = pc''.isStop → CallOrigin s (.call c' initialized) c pc := by
        intro r pc'' hcall hr hstop
        rcases hgoTo hcall hr with ⟨rfl, rfl⟩ | h
        · exact .moved rfl hpc' hstop
        · exact .kept h
      cases hst with
      | refuse _ | stopped _ => exact .kept (hfinish hpc rfl)
      | notInitialized | assign _ | noHandle _ | detach _ _ | join _ => exact .kept (hfinish hpc rfl)
      | pass _ _ hpc'' => exact goes hpc rfl (by rcases hpc'' with rfl | rfl <;> rfl)
      | initialized | flag | launch | stop _ | clear | wait _ _ => exact goes hpc rfl rfl
      | terminate _ => exact .kept hpc
  | advance _ _ _ _ | giveUp _ _ | enable => exact .kept hpc
  | disable =>
      unfold disable at hpc
      split at hpc <;> exact .kept hpc

/-- `_running` is set by a call of `start` that is past its test. -/
theorem running_of_steps {s s' : Service} {a : LifecycleAction} (h : Steps s a s') (hoff : s.running = false)
    (hon : s'.running = true) : ∃ c initialized, a = .call c initialized ∧ s.calls c = some .startFlag := by
  have hne : ∀ {b : Bool}, b = s.running → b ≠ true := by
    rintro b rfl
    rw [hoff]
    exact Bool.false_ne_true
  cases h with
  | @call c initialized pc _ hpc hst =>
      cases hst with
      | flag => exact ⟨c, initialized, rfl, hpc⟩
      | clear => cases hon
      | _ => exact absurd hon (hne rfl)
  | giveUp => cases hon
  | disable =>
      unfold disable at hon
      split at hon <;> exact absurd hon (hne rfl)
  | _ => exact absurd hon (hne rfl)

/-- A thread goes on only by its own steps. -/
theorem threads_of_steps {s s' : Service} {a : LifecycleAction} {t : Nat} {pc : LoopPc}
    (hs : system.Reachable s) (h : Steps s a s') (hpc : s.threads t = some pc)
    (hne : ∀ opened, a ≠ .loop t opened) : s'.threads t = some pc := by
  cases h with
  | @call c _ _ _ _ hst =>
      cases hst with
      | launch =>
          have hlaunched : t ≠ s.launched := by
            rintro rfl
            rw [threads_fresh hs (Nat.le_refl _)] at hpc
            cases hpc
          exact (Function.update_of_ne hlaunched _ _).trans hpc
      | _ => exact hpc
  | @advance t' opened _ _ _ _ _ _ =>
      have ht : t ≠ t' := by
        rintro rfl
        exact hne opened rfl
      exact (Function.update_of_ne ht _ _).trans hpc
  | @giveUp t' _ _ =>
      have ht : t ≠ t' := by
        rintro rfl
        exact hne false rfl
      exact (Function.update_of_ne ht _ _).trans hpc
  | disable =>
      unfold disable
      split <;> exact hpc
  | _ => exact hpc

/-! ## One master -/

/-- Only the master stops the service, no other `start` gets past its test, and no loop gives up. -/
def Mastered (master : Caller) (s : Service) : LifecycleAction → Prop
  | .stopCall c => c = master
  | .call c _ => c ≠ master → s.calls c = some .startTest → s.running = true
  | .loop _ opened => opened = true
  | _ => True

/-- How the handle, the flag and the loops stand, depending on where the master is in its call. -/
structure MasterAt (s : Service) (call : Option CallPc) : Prop where
  held : ∀ t, s.Executing t → s.serviceThread = some t ∨ call = some (.startAssign t)
  off : s.running = false → s.serviceThread = none ∨ ∃ pc, call = some pc ∧ pc.closing = true
  starting : ∀ pc, call = some pc → pc.starting = true → s.serviceThread = none
  flagged : ∀ pc, call = some pc → pc.flagged = true → s.running = true
  joining : ∀ t, call = some (.stopJoin t) → s.serviceThread = some t
  closing : ∀ pc, call = some pc → pc.closing = true → s.running = false

structure MasterInv (master : Caller) (s : Service) : Prop where
  others : ∀ c, c ≠ master → ∀ pc, s.calls c = some pc → pc = .startTest
  master : MasterAt s (s.calls master)

variable {master : Caller} {s s' : Service}

/-- The service was stopped, and the master is not about to join its thread. -/
theorem MasterInv.no_loop (h : MasterInv master s) (hoff : s.running = false)
    (hcall : ∀ pc, s.calls master = some pc → pc.closing = false) (t : Nat) : ¬ s.Executing t := by
  intro ht
  rcases h.master.held t ht with hheld | hassign
  · rcases h.master.off hoff with hnone | ⟨pc, hpc, hclosing⟩
    · rw [hnone] at hheld
      cases hheld
    · rw [hcall pc hpc] at hclosing
      cases hclosing
  · rw [h.master.flagged _ hassign rfl] at hoff
    cases hoff

theorem MasterInv.one_loop (h : MasterInv master s) : s.AtMostOneLoop := by
  intro t t' ht ht'
  -- while the master assigns a thread, the handle is empty
  have hassign : ∀ t t', s.serviceThread = some t → s.calls master ≠ some (.startAssign t') := by
    intro t t' hheld hcall
    rw [h.master.starting _ hcall rfl] at hheld
    cases hheld
  rcases h.master.held t ht with hheld | hcall
  · rcases h.master.held t' ht' with hheld' | hcall'
    · exact Option.some.inj (hheld.symm.trans hheld')
    · exact absurd hcall' (hassign t t' hheld)
  · rcases h.master.held t' ht' with hheld' | hcall'
    · exact absurd hcall (hassign t' t hheld')
    · exact CallPc.startAssign.inj (Option.some.inj (hcall.symm.trans hcall'))

/-- The calls are not read. -/
theorem MasterAt.congr {call : Option CallPc} (h : MasterAt s call) (hthreads : s'.threads = s.threads)
    (hhandle : s'.serviceThread = s.serviceThread) (hrunning : s'.running = s.running) : MasterAt s' call := by
  have hexec : ∀ t, s'.Executing t → s.Executing t := by
    rintro t ⟨pc, hpc, hlive⟩
    exact ⟨pc, hthreads ▸ hpc, hlive⟩
  constructor
  · exact fun t ht => by rw [hhandle]; exact h.held t (hexec t ht)
  · rw [hhandle, hrunning]; exact h.off
  · rw [hhandle]; exact h.starting
  · rw [hrunning]; exact h.flagged
  · rw [hhandle]; exact h.joining
  · rw [hrunning]; exact h.closing

/-- The master is at a given point of a call. -/
theorem MasterAt.of_pc {pc : CallPc} (held : ∀ t, s.Executing t → s.serviceThread = some t ∨ pc = .startAssign t)
    (off : s.running = false → s.serviceThread = none ∨ pc.closing = true)
    (starting : pc.starting = true → s.serviceThread = none) (flagged : pc.flagged = true → s.running = true)
    (joining : ∀ t, pc = .stopJoin t → s.serviceThread = some t)
    (closing : pc.closing = true → s.running = false) : MasterAt s (some pc) where
  held t ht := (held t ht).imp_right (congrArg some)
  off hoff := (off hoff).imp_right fun hc => ⟨pc, rfl, hc⟩
  starting _ h hs := starting (Option.some.inj h ▸ hs)
  flagged _ h hf := flagged (Option.some.inj h ▸ hf)
  joining t h := joining t (Option.some.inj h)
  closing _ h hc := closing (Option.some.inj h ▸ hc)

/-- The master's call has returned. -/
theorem MasterAt.of_none (held : ∀ t, s.Executing t → s.serviceThread = some t)
    (off : s.running = false → s.serviceThread = none) : MasterAt s none where
  held t ht := .inl (held t ht)
  off hoff := .inl (off hoff)
  starting := nofun
  flagged := nofun
  joining := nofun
  closing := nofun

/-- A step of the master's own call. -/
theorem masterAt_call {pc : CallPc} (hmaster : ∀ t, master ≠ .service t) (h : MasterAt s (some pc))
    (hst : CallSteps s master pc s') : MasterAt s' (s'.calls master) := by
  have hcall : ∀ {r : Service} {pc' : CallPc}, (r.goTo master pc').calls master = some pc' :=
    Function.update_self _ _ _
  have hover : ∀ {r : Service}, (r.finish master).calls master = none := Function.update_self _ _ _
  -- but for the assignment, whoever executes is in the handle
  have hheld : (∀ t, pc ≠ .startAssign t) → ∀ t, s.Executing t → s.serviceThread = some t := fun hne t ht =>
    (h.held t ht).resolve_right fun heq => hne t (Option.some.inj heq)
  have hfree := h.starting pc rfl
  have hon := h.flagged pc rfl
  have hoff : pc.closing = false → s.running = false → s.serviceThread = none := by
    intro hclosing hoff
    refine (h.off hoff).resolve_right ?_
    rintro ⟨pc', hpc', hc⟩
    cases hpc'
    rw [hclosing] at hc
    cases hc
  cases hst with
  | refuse _ | stopped _ => rw [hover]; exact .of_none (hheld nofun) (hoff rfl)
  | pass _ hrunning hpc' =>
      rw [hcall]
      have hfree := hoff rfl hrunning
      refine .of_pc (fun t ht => .inl (hheld nofun t ht)) (fun _ => .inl hfree) (fun _ => hfree) (fun hf => ?_)
        (fun t heq => ?_) fun hc => ?_
      · rcases hpc' with rfl | rfl <;> cases hf
      · rcases hpc' with rfl | rfl <;> cases heq
      · rcases hpc' with rfl | rfl <;> cases hc
  | initialized =>
      rw [hcall]
      exact .of_pc (fun t ht => .inl (hheld nofun t ht)) (fun _ => .inl (hfree rfl)) (fun _ => hfree rfl)
        (nomatch ·) nofun (nomatch ·)
  | notInitialized => rw [hover]; exact .of_none (hheld nofun) (hoff rfl)
  | flag =>
      rw [hcall]
      exact .of_pc (fun t ht => .inl (hheld nofun t ht)) (nomatch ·) (fun _ => hfree rfl) (fun _ => rfl) nofun
        (nomatch ·)
  | launch =>
      rw [hcall]
      refine .of_pc (fun t ht => ?_) (fun hrunning => .inl (hoff rfl hrunning)) (fun _ => hfree rfl)
        (fun _ => hon rfl) nofun (nomatch ·)
      rcases executing_update rfl ht with rfl | ht
      · exact .inr rfl
      · exact .inl (hheld nofun t ht)
  | terminate hs =>
      rw [hfree rfl] at hs
      cases hs
  | @assign t _ =>
      rw [hover]
      refine .of_none (fun t' ht' => ?_) fun hrunning => ?_
      · rcases h.held t' ht' with hheld | hassign
        · rw [hfree rfl] at hheld
          cases hheld
        · cases hassign
          rfl
      · rw [show s.running = false from hrunning] at hon
        cases hon rfl
  | stop hrunning =>
      rw [hcall]
      refine .of_pc (fun t ht => .inl (hheld nofun t ht)) (fun hr => ?_) (nomatch ·) (nomatch ·) nofun (nomatch ·)
      rw [show s.running = false from hr] at hrunning
      cases hrunning
  | clear =>
      rw [hcall]
      exact .of_pc (fun t ht => .inl (hheld nofun t ht)) (fun _ => .inr rfl) (nomatch ·) (nomatch ·) nofun
        fun _ => rfl
  | noHandle hnone => rw [hover]; exact .of_none (hheld nofun) fun _ => hnone
  | @detach t _ hself => exact absurd hself (hmaster t)
  | @wait t hs _ =>
      rw [hcall]
      exact .of_pc (fun t ht => .inl (hheld nofun t ht)) (fun _ => .inr rfl) (nomatch ·) (nomatch ·)
        (fun t' heq => by cases heq; exact hs) fun _ => h.closing _ rfl rfl
  | @join t ht =>
      rw [hover]
      have hs := h.joining t rfl
      refine .of_none (fun t' ht' => ?_) fun _ => rfl
      -- the thread in the handle has returned
      obtain rfl := Option.some.inj (hs.symm.trans (hheld nofun t' ht'))
      obtain ⟨pc, hpc, hlive⟩ := ht'
      exact absurd (Option.some.inj (hpc.symm.trans ht)) hlive

/-- A call of `start` or `stop` that has not done anything yet. -/
theorem MasterAt.begin {call : CallPc} (h : MasterAt s none) (hcall : call = .startTest ∨ call = .stopTest) :
    MasterAt s (some call) := by
  have hheld : ∀ t, s.Executing t → s.serviceThread = some t := fun t ht => (h.held t ht).resolve_right nofun
  have hoff : s.running = false → s.serviceThread = none := fun hoff => (h.off hoff).resolve_right nofun
  rcases hcall with rfl | rfl <;>
    exact .of_pc (fun t ht => .inl (hheld t ht)) (fun hr => .inl (hoff hr)) (nomatch ·) (nomatch ·) nofun
      (nomatch ·)

theorem masterInv_steps {a : LifecycleAction} (hmaster : ∀ t, master ≠ .service t) (h : MasterInv master s)
    (hok : Mastered master s a) (hst : Steps s a s') : MasterInv master s' := by
  constructor
  · intro c hc pc hpc
    cases callOrigin_of_steps hst hpc with
    | kept h' => exact h.others c hc pc h'
    | @moved pc' initialized ha h' _ =>
        -- such a call is refused, and returns
        subst ha
        obtain rfl := h.others c hc pc' h'
        have hon := hok hc h'
        cases hst with
        | @call _ _ pc'' _ hpc'' hst =>
            obtain rfl := Option.some.inj (hpc''.symm.trans h')
            cases hst with
            | refuse => simp at hpc
            | pass _ hoff =>
                rw [hon] at hoff
                cases hoff
    | startCall _ hpc => exact hpc
    | stopCall ha _ =>
        subst ha
        exact absurd hok hc
  · have hmay : ∀ {c pc}, s.mayCall c = true → pc = .startTest ∨ pc = .stopTest →
        MasterAt (s.goTo c pc) ((s.goTo c pc).calls master) := by
      intro c pc hmay hpc
      by_cases hc : master = c
      · subst hc
        rw [goTo_calls, Function.update_self]
        have hnone : s.calls master = none := by
          simpa using (Bool.and_eq_true_iff.mp hmay).1
        have hmaster := h.master
        rw [hnone] at hmaster
        exact (hmaster.begin hpc).congr rfl rfl rfl
      · rw [goTo_calls, Function.update_of_ne hc]
        exact h.master.congr rfl rfl rfl
    cases hst with
    | startCall h' => exact hmay h' (.inl rfl)
    | stopCall h' => exact hmay h' (.inr rfl)
    | @call c _ pc _ hpc hst =>
        by_cases hc : master = c
        · subst hc
          have hmaster' := h.master
          rw [hpc] at hmaster'
          exact masterAt_call hmaster hmaster' hst
        · obtain rfl := h.others c (Ne.symm hc) pc hpc
          have hon := hok (Ne.symm hc) hpc
          cases hst with
          | refuse _ =>
              rw [finish_calls, Function.update_of_ne hc]
              exact h.master.congr rfl rfl rfl
          | pass _ hoff =>
              rw [hon] at hoff
              cases hoff
    | @advance t _ pc pc' _ hpc hlive _ =>
        have hexec : ∀ t', (∃ pc'', Function.update s.threads t (some pc') t' = some pc'' ∧ pc'' ≠ .returned) →
            s.Executing t' := by
          intro t' ht'
          rcases executing_update rfl ht' with rfl | ht'
          · exact ⟨pc, hpc, hlive⟩
          · exact ht'
        exact ⟨fun t' ht' => h.master.held t' (hexec t' ht'), h.master.off, h.master.starting, h.master.flagged,
          h.master.joining, h.master.closing⟩
    | giveUp => cases hok
    | disable =>
        unfold disable
        split
        · exact h.master
        · exact h.master.congr rfl rfl rfl
    | enable => exact h.master.congr rfl rfl rfl

/-! ## A call of `stop` -/

/-- Only its own steps move a call. -/
theorem calls_of_others {c : Caller} {pc : CallPc} {a : LifecycleAction} (h : Steps s a s')
    (hpc : s.calls c = some pc) (hne : ∀ initialized, a ≠ .call c initialized) : s'.calls c = some pc := by
  have hmay : ∀ c', s.mayCall c' = true → c ≠ c' := by
    rintro c' hmay rfl
    simp [mayCall, hpc] at hmay
  cases h with
  | startCall h' | stopCall h' => rw [goTo_calls, Function.update_of_ne (hmay _ h'), hpc]
  | @call c' initialized pc' _ _ hst =>
      have hc : c ≠ c' := by
        rintro rfl
        exact hne initialized rfl
      cases hst <;> first | exact hpc | exact (Function.update_of_ne hc _ _).trans hpc
  | disable =>
      unfold disable
      split <;> exact hpc
  | _ => exact hpc

/-- A call of `stop` that gets to the handle, or returns, leaves `_running` false. -/
theorem stop_clears {c : Caller} {pc : CallPc} {a : LifecycleAction} (h : Steps s a s')
    (hpc : s.calls c = some pc) (hstop : pc.isStop = true) (hopen : pc.closing = false)
    (hclose : ∀ pc', s'.calls c = some pc' → pc'.closing = true) : s'.running = false := by
  by_cases hne : ∃ initialized, a = .call c initialized
  · obtain ⟨initialized, rfl⟩ := hne
    cases h with
    | @call _ _ pc' _ hpc' hst =>
        obtain rfl := Option.some.inj (hpc'.symm.trans hpc)
        cases hst with
        | stopped hoff => exact hoff
        | stop _ => cases hclose _ (Function.update_self _ _ _)
        | clear => rfl
        | noHandle _ | detach _ _ | wait _ _ | join _ => cases hopen
        | _ => cases hstop
  · have hkept := calls_of_others h hpc fun initialized heq => hne ⟨initialized, heq⟩
    rw [hclose pc hkept] at hopen
    cases hopen

/-! ## A silent service -/

/-- Nobody executes the loop, nobody is about to, and `_running` is false. -/
structure Silent (s : Service) : Prop where
  off : s.running = false
  noLoop : ∀ t, ¬ s.Executing t
  noStart : ∀ c pc, s.calls c = some pc → pc.flagged = false

theorem silent_goTo {c : Caller} {pc : CallPc} (h : Silent s) (hpc : pc.flagged = false) :
    Silent (s.goTo c pc) := by
  refine ⟨h.off, h.noLoop, fun c' pc' hcall => ?_⟩
  by_cases hc : c' = c
  · subst hc
    rw [goTo_calls, Function.update_self] at hcall
    exact Option.some.inj hcall ▸ hpc
  · rw [goTo_calls, Function.update_of_ne hc] at hcall
    exact h.noStart c' pc' hcall

theorem silent_finish {c : Caller} (h : Silent s) : Silent (s.finish c) := by
  refine ⟨h.off, h.noLoop, fun c' pc' hcall => ?_⟩
  by_cases hc : c' = c
  · subst hc
    rw [finish_calls, Function.update_self] at hcall
    cases hcall
  · rw [finish_calls, Function.update_of_ne hc] at hcall
    exact h.noStart c' pc' hcall

/-- A silent service stays silent until a call of `start` sets the flag. -/
theorem silent_steps {a : LifecycleAction} (h : Silent s) (hst : Steps s a s')
    (hflag : ∀ c initialized, a = .call c initialized → s.calls c ≠ some .startFlag) : Silent s' := by
  cases hst with
  | startCall _ | stopCall _ => exact silent_goTo h rfl
  | @call c initialized pc _ hpc hst =>
      have hstart := h.noStart c pc hpc
      cases hst with
      | refuse _ | stopped _ | noHandle _ => exact silent_finish h
      | notInitialized => exact silent_finish (s := { s with initialized := false }) ⟨h.off, h.noLoop, h.noStart⟩
      | detach _ _ | join _ => exact silent_finish (s := s.release) ⟨h.off, h.noLoop, h.noStart⟩
      | pass _ _ hpc' => exact silent_goTo h (by rcases hpc' with rfl | rfl <;> rfl)
      | initialized => exact silent_goTo (s := { s with initialized := true }) ⟨h.off, h.noLoop, h.noStart⟩ rfl
      | flag => exact absurd hpc (hflag c initialized rfl)
      | launch | terminate _ | assign _ => cases hstart
      | stop hon => rw [h.off] at hon; cases hon
      | clear => exact silent_goTo (s := { s with running := false }) ⟨rfl, h.noLoop, h.noStart⟩ rfl
      | wait _ _ => exact silent_goTo h rfl
  | advance _ hpc hlive _ => exact absurd ⟨_, hpc, hlive⟩ (h.noLoop _)
  | giveUp _ hpc => exact absurd ⟨_, hpc, by decide⟩ (h.noLoop _)
  | disable =>
      unfold disable
      split <;> exact ⟨h.off, h.noLoop, h.noStart⟩
  | enable => exact ⟨h.off, h.noLoop, h.noStart⟩

/-- The master has stopped the service. -/
theorem MasterInv.silent (h : MasterInv master s) (hoff : s.running = false) (hcall : s.calls master = none) :
    Silent s := by
  refine ⟨hoff, h.no_loop hoff fun pc hpc => ?_, fun c pc hpc => ?_⟩
  · rw [hcall] at hpc
    cases hpc
  · by_cases hc : c = master
    · subst hc
      rw [hcall] at hpc
      cases hpc
    · rw [h.others c hc pc hpc]
      rfl

end Service

end Kufibot
