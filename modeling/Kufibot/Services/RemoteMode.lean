import Kufibot.Services.ModeCalls

/-!
# `Services.RemoteMode` — what the mode messages achieve

`AIModeOffCall` stops `ExpressionService`, then the tracker. The order matters: `ExpressionService::stop` waits
for its thread, which may be in the middle of a gesture and will start the tracker again when it is done. So
the tracker is stopped for good only behind `ExpressionService`, and it is: the robot is quiet until its mode
is switched on, or the console interferes (`remote_mode_is_quiet`). In the other direction, a gesture keeps
the tracker off as long as nobody switches the mode on (`gesture_is_undisturbed`).
-/

namespace Kufibot

open Lib MessageFabric

namespace ModeSwitch

variable {s t u : ModeSwitch}

/-! ## `ExpressionService` obeys the remote service -/

/-- The console does not stop `ExpressionService`, and starts it only while it runs anyway. -/
def ExpressionLeft (s : ModeSwitch) : ModeAction → Prop
  | .stopCall m _ => m ≠ .expression
  | .call m x _ => m = .expression → x ≠ .remote →
      (s.service .expression).calls x.caller = some .startTest → (s.service .expression).running = true
  | _ => True

/-- The remote service is the only one that stops `ExpressionService`. -/
abbrev ExpressionMastered (s : ModeSwitch) : Prop :=
  Service.MasterInv ModeThread.remote.caller (s.service .expression)

theorem request_of_mimic {r : ServiceId} {type : MessageType} {request : ModeRequest}
    (htype : type = .stopPerceptionRequest ∨ type = .startPerceptionRequest) :
    modeRequest r type ≠ some (.expression, request) := by
  rcases htype with rfl | rfl <;> cases r <;> nofun

theorem mastered_of_moves {a : ModeAction} {b : LifecycleAction} (h : ModeInv s) (hok : s.ExpressionLeft a)
    (hmoves : Moves s a .expression b) :
    Service.Mastered ModeThread.remote.caller (s.service .expression) b := by
  cases hmoves with
  | @deliver _ x p r _ request hp hrequest =>
      rcases hp with ⟨rfl, hp⟩ | ⟨k, rfl, hp⟩
      · split
        · exact rfl
        · exact trivial
      · exact absurd hrequest (request_of_mimic (h.mimicType k p hp))
  | startCall => exact trivial
  | stopCall => exact absurd rfl hok
  | @call _ x _ =>
      intro hne hcall
      exact hok rfl (fun hx => hne (congrArg ModeThread.caller hx)) hcall
  | loop => exact rfl

theorem expressionMastered_steps {a : ModeAction} (h : ModeInv s) (hm : s.ExpressionMastered)
    (hok : s.ExpressionLeft a) (hst : Steps s a t) : t.ExpressionMastered := by
  rcases moves_of_steps hst .expression with heq | ⟨b, hmoves, hservice⟩
  · unfold ExpressionMastered
    rw [heq]
    exact hm
  · exact Service.masterInv_steps (ModeThread.caller_ne_service .remote) hm (mastered_of_moves h hok hmoves)
      hservice

theorem expressionMastered_started : Service.MasterInv ModeThread.remote.caller startedService := by
  refine ⟨nofun, .of_none (fun k ⟨pc, hpc, _⟩ => ?_) nofun⟩
  by_cases hk : k = 0
  · subst hk
    rfl
  · rw [show startedService.threads k = none from Function.update_of_ne hk _ _] at hpc
    cases hpc

/-! ## The tracker between two starts -/

/-- As long as nobody starts the tracker, all the calls that it gets are ones of `stop`. -/
theorem tracker_calls_stop (h : ModeInv s) (hremote : ∀ p, s.remote = some p → p.type ≠ .aiModeOnCall)
    (hmimic : ∀ k p, s.mimic = some (k, p) → p.type ≠ .startPerceptionRequest) {c : Caller} {pc : CallPc}
    (hpc : (s.service .tracker).calls c = some pc) : pc.isStop = true := by
  obtain ⟨x, rfl, hx⟩ := h.calls _ c pc hpc
  cases x with
  | remote =>
      obtain ⟨p, hp, -, r, rest, request, -, hrequest, hstop⟩ := hx
      have htype := (h.modeType p hp).resolve_left (hremote p hp)
      rw [htype] at hrequest
      refine hstop.mpr ?_
      cases r <;> cases hrequest
      rfl
  | expression k =>
      obtain ⟨p, hp, -, r, rest, request, -, hrequest, hstop⟩ := hx
      have htype := (h.mimicType k p hp).resolve_right (hmimic k p hp)
      rw [htype] at hrequest
      refine hstop.mpr ?_
      cases r <;> cases hrequest
      rfl
  | outside n => exact hx.resolve_right fun hne => hne rfl

/-- A service whose calls are all ones of `stop` stays off. -/
theorem stays_off {m : ModeService} {a : ModeAction} (hoff : (s.service m).running = false)
    (hcalls : ∀ c pc, (s.service m).calls c = some pc → pc ≠ .startFlag) (hst : Steps s a t) :
    (t.service m).running = false := by
  rcases moves_of_steps hst m with heq | ⟨b, -, hservice⟩
  · rw [heq]
    exact hoff
  · by_contra hon
    obtain ⟨c, initialized, -, hcall⟩ := Service.running_of_steps hservice hoff (Bool.of_not_eq_false hon)
    exact hcalls c _ hcall rfl

/-! ## A publication that stops a service -/

/-- The publication `p` of thread `x` has stopped the service `m`, or will do so when it gets to `r`. -/
def Stops (s : ModeSwitch) (x : ModeThread) (p : Publication) (r : ServiceId) (m : ModeService) : Prop :=
  (s.service m).running = false ∨ r ∈ p.rest ∧
    (p.called = true → p.rest.head? = some r →
      (∀ pc, (s.service m).calls x.caller = some pc → pc.closing = true) → (s.service m).running = false)

variable {x : ModeThread} {p p' : Publication} {r : ServiceId} {m : ModeService}

/-- The publication itself goes on. -/
theorem stops_delivers (h : s.Stops x p r m) (hrequest : modeRequest r p.type = some (m, .stop))
    (hcalls : ∀ c pc, (s.service m).calls c = some pc → pc ≠ .startFlag)
    (hd : Delivers s x p u (some p')) : u.Stops x p' r m := by
  cases hd with
  | @skip r' rest hrest hskip _ =>
      refine h.imp_right fun ⟨hmem, _⟩ => ⟨?_, nofun⟩
      have hne : r ≠ r' := by
        rintro rfl
        exact hskip m hrequest
      rw [hrest] at hmem
      exact (List.mem_cons.mp hmem).resolve_left hne
  | @back r' rest m' request hrest hrequest' hcalled hback =>
      by_cases hr : r = r'
      · -- the handler of `r` has returned
        subst hr
        rw [hrequest] at hrequest'
        cases hrequest'
        left
        rcases h with hoff | ⟨-, hclear⟩
        · exact hoff
        · exact hclear hcalled (by rw [hrest]; rfl) fun pc hpc => by rw [hback] at hpc; cases hpc
      · refine h.imp_right fun ⟨hmem, _⟩ => ⟨?_, nofun⟩
        rw [hrest] at hmem
        exact (List.mem_cons.mp hmem).resolve_left hr
  | @call r' rest m' request a service hrest hrequest' hcalled ha hst =>
      have hst := (Service.steps_of_step hst).2
      by_cases hm : m = m'
      · subst hm
        rcases h with hoff | ⟨hmem, -⟩
        · left
          show (Function.update s.service m service m).running = false
          rw [Function.update_self]
          by_contra hon
          obtain ⟨c, initialized, -, hcall⟩ := Service.running_of_steps hst hoff (Bool.of_not_eq_false hon)
          exact hcalls c _ hcall rfl
        · -- the call has just begun
          refine .inr ⟨hmem, fun _ _ hclose => ?_⟩
          have hbegun : ∃ pc, service.calls x.caller = some pc ∧ pc.closing = false := by
            subst ha
            split at hst
            · cases hst; exact ⟨_, Function.update_self _ _ _, rfl⟩
            · cases hst; exact ⟨_, Function.update_self _ _ _, rfl⟩
          obtain ⟨pc, hpc, hopen⟩ := hbegun
          have hself : Function.update s.service m service m = service := Function.update_self _ _ _
          rw [hclose pc ((congrArg (Service.calls · x.caller) hself).trans hpc)] at hopen
          cases hopen
      · have hkept : Function.update s.service m' service m = s.service m := Function.update_of_ne hm _ _
        rcases h with hoff | ⟨hmem, -⟩
        · exact .inl ((congrArg Service.running hkept).trans hoff)
        · refine .inr ⟨hmem, fun _ hhead => ?_⟩
          -- the handler that calls is another one
          have hrr : r' = r := by
            have hhead : p.rest.head? = some r := hhead
            rw [hrest] at hhead
            exact Option.some.inj hhead
          subst hrr
          rw [hrequest] at hrequest'
          cases hrequest'
          exact absurd rfl hm

/-- Another step. -/
theorem stops_steps {a : ModeAction} (h : s.Stops x p r m)
    (hcalls : ∀ c pc, (s.service m).calls c = some pc → pc ≠ .startFlag)
    (hown : ∀ pc, (s.service m).calls x.caller = some pc → pc.isStop = true) (hst : Steps s a t) :
    t.Stops x p r m := by
  rcases h with hoff | ⟨hmem, hclear⟩
  · exact .inl (stays_off hoff hcalls hst)
  · refine .inr ⟨hmem, fun hcalled hhead hclose => ?_⟩
    by_cases hopen : ∃ pc, (s.service m).calls x.caller = some pc ∧ pc.closing = false
    · obtain ⟨pc, hpc, hopen⟩ := hopen
      rcases moves_of_steps hst m with heq | ⟨b, -, hservice⟩
      · rw [heq] at hclose
        rw [hclose pc hpc] at hopen
        cases hopen
      · exact Service.stop_clears hservice hpc (hown pc hpc) hopen hclose
    · refine stays_off (hclear hcalled hhead fun pc hpc => ?_) hcalls hst
      by_contra hne
      exact hopen ⟨pc, hpc, Bool.eq_false_iff.mpr hne⟩

/-- At the end of the publication the service is off. -/
theorem off_of_stops (h : s.Stops x p r m) (hrest : p.rest = []) : (s.service m).running = false := by
  refine h.resolve_right fun ⟨hmem, _⟩ => ?_
  rw [hrest] at hmem
  cases hmem

/-! ## The mode is switched off -/

/-- The remote service has stopped `ExpressionService`, and is about to stop the tracker; or it is about to
    stop both of them, in this order. -/
def SwitchingOff (s : ModeSwitch) (p : Publication) : Prop :=
  Ordered p.rest ∧ s.Stops .remote p .expression .expression ∨
    (s.service .expression).Silent ∧ s.Stops .remote p .tracker .tracker

/-- What holds in every state that is reached while the console leaves `ExpressionService` alone. -/
structure SwitchInv (s : ModeSwitch) : Prop where
  mode : ModeInv s
  mastered : s.ExpressionMastered
  switching : ∀ p, s.remote = some p → p.type = .aiModeOffCall → s.SwitchingOff p

/-- Nobody is in `makeMimic` when the loop of `ExpressionService` is not executed. -/
theorem mimic_eq_none_of_silent (h : ModeInv s) (hsilent : (s.service .expression).Silent) :
    s.mimic = none := by
  cases hmimic : s.mimic with
  | none => rfl
  | some q =>
      obtain ⟨k, p⟩ := q
      exact absurd ⟨_, h.mimic k (inMimic_iff.mpr (.inr ⟨p, hmimic⟩)), by decide⟩ (hsilent.noLoop k)

/-- The tracker is only stopped while `ExpressionService` is silent and the mode is not switched on. -/
theorem tracker_calls_stop_of_silent (h : ModeInv s) (hsilent : (s.service .expression).Silent)
    (hremote : ∀ p, s.remote = some p → p.type ≠ .aiModeOnCall) {c : Caller} {pc : CallPc}
    (hpc : (s.service .tracker).calls c = some pc) : pc.isStop = true := by
  refine tracker_calls_stop h hremote (fun k p hp => ?_) hpc
  rw [mimic_eq_none_of_silent h hsilent] at hp
  cases hp

/-- While the mode is switched off, the remote service only stops. -/
theorem remote_calls_stop {p : Publication} (h : ModeInv s) (hp : s.remote = some p)
    (htype : p.type = .aiModeOffCall) (hm : m ≠ .perception) {pc : CallPc}
    (hpc : (s.service m).calls ModeThread.remote.caller = some pc) : pc.isStop = true := by
  obtain ⟨x, hx, hserves⟩ := h.calls _ _ pc hpc
  obtain rfl := ModeThread.caller_injective hx
  obtain ⟨q, hq, -, r, rest, request, -, hrequest, hstop⟩ := hserves
  rw [hp] at hq
  cases hq
  rw [htype] at hrequest
  refine hstop.mpr ?_
  cases r <;> cases hrequest <;> first | rfl | exact absurd rfl hm

/-- Nobody sets the flag of `ExpressionService` while the mode is switched off. -/
theorem expression_no_startFlag {p : Publication} (h : SwitchInv s) (hp : s.remote = some p)
    (htype : p.type = .aiModeOffCall) (c : Caller) (pc : CallPc)
    (hpc : (s.service .expression).calls c = some pc) : pc ≠ .startFlag := by
  by_cases hc : c = ModeThread.remote.caller
  · subst hc
    rintro rfl
    cases remote_calls_stop h.mode hp htype (by decide) hpc
  · rw [h.mastered.others c hc pc hpc]
    nofun

theorem silent_of_steps {a : ModeAction} (hsilent : (s.service .expression).Silent)
    (hcalls : ∀ c pc, (s.service .expression).calls c = some pc → pc ≠ .startFlag) (hst : Steps s a t) :
    (t.service .expression).Silent := by
  rcases moves_of_steps hst .expression with heq | ⟨b, -, hservice⟩
  · rw [heq]
    exact hsilent
  · exact Service.silent_steps hsilent hservice fun c _ _ hcall => hcalls c _ hcall rfl

/-- A publication that begins. -/
theorem stops_of_mem (hmem : r ∈ p.rest) (hcalled : p.called = false) : s.Stops x p r m :=
  .inr ⟨hmem, fun h => by rw [hcalled] at h; cases h⟩

/-- The handler that stops the service has returned. -/
theorem off_of_back {rest : List ServiceId} (h : s.Stops x p r m) (hrest : p.rest = r :: rest)
    (hcalled : p.called = true) (hback : (s.service m).calls x.caller = none) :
    (s.service m).running = false := by
  rcases h with hoff | ⟨-, hclear⟩
  · exact hoff
  · exact hclear hcalled (by rw [hrest]; rfl) fun pc hpc => by rw [hback] at hpc; cases hpc

/-- The publication of `AIModeOffCall` goes on. -/
theorem switchingOff_delivers (h : SwitchInv s) (hp : s.remote = some p) (htype : p.type = .aiModeOffCall)
    (hd : Delivers s .remote p u (some p')) (hsilent : (s.service .expression).Silent →
      (u.service .expression).Silent) : u.SwitchingOff p' := by
  have hexpression : modeRequest .expression p.type = some (.expression, .stop) := by rw [htype]; rfl
  have htracker : modeRequest .tracker p.type = some (.tracker, .stop) := by rw [htype]; rfl
  rcases h.switching p hp htype with ⟨hordered, hstops⟩ | ⟨hsil, hstops⟩
  · have hstops' := stops_delivers hstops hexpression (expression_no_startFlag h hp htype) hd
    obtain ⟨l₁, l₂, hl, hnot, hmem⟩ := hordered
    -- a subscriber in front of `ExpressionService` is not the tracker
    have hbehind : ∀ {r rest}, p.rest = r :: rest → r ≠ .expression → Ordered rest := by
      intro r rest hrest hne
      cases l₁ with
      | nil =>
          rw [hl] at hrest
          exact absurd (List.cons.inj hrest).1.symm hne
      | cons r' l₁ =>
          rw [hl] at hrest
          exact ⟨l₁, l₂, (List.cons.inj hrest).2.symm, fun h => hnot (List.mem_cons_of_mem _ h), hmem⟩
    cases hd with
    | skip hrest hskip _ =>
        refine .inl ⟨hbehind hrest ?_, hstops'⟩
        rintro rfl
        exact hskip _ hexpression
    | call => exact .inl ⟨⟨l₁, l₂, hl, hnot, hmem⟩, hstops'⟩
    | @back r rest _ _ hrest hrequest hcalled hback =>
        by_cases hr : r = .expression
        · subst hr
          rw [hexpression] at hrequest
          cases hrequest
          have hoff := off_of_back hstops hrest hcalled hback
          refine .inr ⟨h.mastered.silent hoff hback, stops_of_mem ?_ rfl⟩
          -- the tracker is still to come
          have htracker : ServiceId.tracker ∈ p.rest := by
            rw [hl]
            exact List.mem_append_right _ (List.mem_cons_of_mem _ hmem)
          rw [hrest] at htracker
          exact (List.mem_cons.mp htracker).resolve_left (by decide)
        · exact .inl ⟨hbehind hrest hr, hstops'⟩
  · refine .inr ⟨hsilent hsil, stops_delivers hstops htracker (fun c pc hpc => ?_) hd⟩
    rintro rfl
    cases tracker_calls_stop_of_silent h.mode hsil (fun q hq => by rw [hp] at hq; cases hq; rw [htype]; nofun) hpc

theorem switchInv_steps {a : ModeAction} (h : SwitchInv s) (hok : s.ExpressionLeft a) (hst : Steps s a t) :
    SwitchInv t := by
  refine ⟨modeInv_steps h.mode hst, expressionMastered_steps h.mode h.mastered hok hst, fun q hq htype => ?_⟩
  -- another step, in the course of the publication
  have hother : t.remote = s.remote → t.SwitchingOff q := by
    intro hremote
    rw [hremote] at hq
    have hflag := expression_no_startFlag h hq htype
    rcases h.switching q hq htype with ⟨hordered, hstops⟩ | ⟨hsilent, hstops⟩
    · exact .inl ⟨hordered, stops_steps hstops hflag
        (fun pc hpc => remote_calls_stop h.mode hq htype (by decide) hpc) hst⟩
    · have hoff : ∀ p, s.remote = some p → p.type ≠ .aiModeOnCall := by
        intro p hp
        rw [hq] at hp
        cases hp
        rw [htype]
        nofun
      refine .inr ⟨silent_of_steps hsilent hflag hst, stops_steps hstops (fun c pc hpc => ?_) (fun pc hpc => ?_) hst⟩
      · rintro rfl
        cases tracker_calls_stop_of_silent h.mode hsilent hoff hpc
      · exact tracker_calls_stop_of_silent h.mode hsilent hoff hpc
  cases hst with
  | @publishMode on hnone =>
      cases hq
      have hordered := h.mode.ordered
      refine .inl ⟨hordered, stops_of_mem ?_ rfl⟩
      obtain ⟨l₁, l₂, hl, -, -⟩ := hordered
      show ServiceId.expression ∈ s.network.subscribers .remote
      rw [hl]
      exact List.mem_append_right _ List.mem_cons_self
  | @deliverMode p u p' hp hd =>
      obtain rfl : p' = some q := hq
      have htype' : p.type = .aiModeOffCall := (type_of_delivers hd).symm.trans htype
      have hst : Steps s .deliverMode { u with remote := some q } := .deliverMode hp hd
      have hsilent : (s.service .expression).Silent → (u.service .expression).Silent := fun hsilent =>
        silent_of_steps (t := { u with remote := some q }) hsilent (expression_no_startFlag h hp htype') hst
      have hswitching : u.SwitchingOff q := switchingOff_delivers h hp htype' hd hsilent
      exact hswitching
  | deliverMimic hp hd => exact hother (by cases hd <;> rfl)
  | _ => exact hother rfl

theorem switchInv_reachable (h : system.ReachableVia ExpressionLeft s) : SwitchInv s := by
  refine h.invariant ?_ fun s a t hs hok hst => switchInv_steps hs hok (steps_of_step hst)
  rintro _ ⟨network, hnetwork, rfl⟩
  exact ⟨modeInv_started hnetwork, expressionMastered_started, nofun⟩

/-! ## The mode is off -/

/-- **The robot is quiet**: `_running` is cleared in `ExpressionService` and in the tracker, and no gesture is
    performed. A thread that tested `_running` before may still be in its last iteration. -/
structure Quiet (s : ModeSwitch) : Prop where
  expression : (s.service .expression).running = false
  tracker : (s.service .tracker).running = false
  noMimic : ∀ k, s.inMimic k = false

/-- The console starts `ExpressionService`. -/
def ConsoleStarts (s : ModeSwitch) (a : ModeAction) : Prop :=
  ∃ n initialized, a = .call .expression (.outside n) initialized ∧
    (s.service .expression).calls (ModeThread.outside n).caller = some .startFlag

/-- The mode was switched off. -/
structure OffInv (s : ModeSwitch) : Prop where
  mode : ModeInv s
  expression : (s.service .expression).Silent
  tracker : (s.service .tracker).running = false
  remote : ∀ p, s.remote = some p → p.type = .aiModeOffCall

theorem OffInv.quiet (h : OffInv s) : s.Quiet := by
  refine ⟨h.expression.off, h.tracker, fun k => Bool.eq_false_iff.mpr fun hk => ?_⟩
  exact h.expression.noLoop k ⟨_, h.mode.mimic k hk, by decide⟩

/-- The publication of `AIModeOffCall` is over. -/
theorem offInv_of_over (h : SwitchInv s) (hp : s.remote = some p) (htype : p.type = .aiModeOffCall)
    (hst : s.step .deliverMode = some t) (hover : t.remote = none) : OffInv t := by
  have hst := steps_of_step hst
  have hmode := modeInv_steps h.mode hst
  cases hst with
  | @deliverMode q u p' hq hd =>
      rw [hp] at hq
      cases hq
      obtain rfl : p' = none := hover
      cases hd with
      | finished hrest =>
          rcases h.switching p hp htype with ⟨⟨l₁, l₂, hl, -, -⟩, -⟩ | ⟨hsilent, hstops⟩
          · rw [hrest] at hl
            exact absurd hl.symm (List.append_ne_nil_of_right_ne_nil _ (List.cons_ne_nil _ _))
          · exact ⟨hmode, hsilent, off_of_stops hstops hrest, nofun⟩

/-- Only the console can be about to set the flag of `ExpressionService`. -/
theorem OffInv.starter (h : OffInv s) {x : ModeThread}
    (hcall : (s.service .expression).calls x.caller = some .startFlag) : ∃ n, x = .outside n := by
  obtain ⟨y, hy, hserves⟩ := h.mode.calls _ _ _ hcall
  obtain rfl := ModeThread.caller_injective hy
  cases x with
  | remote =>
      obtain ⟨p, hp, -⟩ := hserves
      cases remote_calls_stop h.mode hp (h.remote p hp) (by decide) hcall
  | expression k =>
      obtain ⟨p, hp, -⟩ := hserves
      rw [mimic_eq_none_of_silent h.mode h.expression] at hp
      cases hp
  | outside n => exact ⟨n, rfl⟩

/-- It stays off until it is switched on, or the console starts `ExpressionService`. -/
theorem offInv_steps {a : ModeAction} (h : OffInv s) (hmode : a ≠ .publishMode true)
    (hconsole : ¬ s.ConsoleStarts a) (hst : Steps s a t) : OffInv t := by
  have hoff : ∀ p, s.remote = some p → p.type ≠ .aiModeOnCall := by
    intro p hp
    rw [h.remote p hp]
    nofun
  refine ⟨modeInv_steps h.mode hst, ?_, ?_, fun p hp => ?_⟩
  · rcases moves_of_steps hst .expression with heq | ⟨b, hmoves, hservice⟩
    · rw [heq]
      exact h.expression
    · refine Service.silent_steps h.expression hservice fun c initialized hb hcall => ?_
      cases hmoves with
      | deliver => split at hb <;> cases hb
      | @call _ x _ =>
          cases hb
          obtain ⟨n, rfl⟩ := h.starter hcall
          exact hconsole ⟨n, _, rfl, hcall⟩
      | startCall | stopCall | loop => cases hb
  · refine stays_off h.tracker (fun c pc hpc => ?_) hst
    rintro rfl
    cases tracker_calls_stop_of_silent h.mode h.expression hoff hpc
  · cases hst with
    | @publishMode on _ =>
        cases on with
        | true => exact absurd rfl hmode
        | false => cases hp; rfl
    | @deliverMode q u p' hq hd =>
        obtain rfl : p' = some p := hp
        exact (type_of_delivers hd).trans (h.remote q hq)
    | deliverMimic _ hd => exact h.remote p (by cases hd <;> exact hp)
    | _ => exact h.remote p hp

/-- Once the console has started `ExpressionService`, the robot is not quiet. -/
theorem not_quiet_of_consoleStarts {a : ModeAction} (hconsole : s.ConsoleStarts a) (hst : Steps s a t) :
    ¬ t.Quiet := by
  obtain ⟨n, initialized, rfl, hcall⟩ := hconsole
  intro hquiet
  cases hst with
  | call hst =>
      cases (Service.steps_of_step hst).2 with
      | @call _ _ pc _ hpc hst =>
          obtain rfl := Option.some.inj (hpc.symm.trans hcall)
          cases hst
          have hoff : (Function.update s.service .expression _ .expression).running = false :=
            hquiet.expression
          rw [Function.update_self] at hoff
          cases hoff

/-- **Switching the mode off silences the robot.** When the publication of `AIModeOffCall` is over, neither
    `ExpressionService` nor the tracker runs and no gesture is performed; and as long as the mode is not
    switched on again, this stays so in every state of the run if and only if the console does not start
    `ExpressionService`. Before, the console has left this service alone. -/
theorem remote_mode_is_quiet {tr : List (ModeSwitch × ModeAction)} (h : system.ReachableVia ExpressionLeft s)
    (hp : s.remote = some p) (htype : p.type = .aiModeOffCall) (hst : s.step .deliverMode = some t)
    (hover : t.remote = none) (hrun : system.Run t tr u) (hmode : ∀ x ∈ tr, x.2 ≠ .publishMode true) :
    (∀ v ∈ System.visited tr u, v.Quiet) ↔ ∀ x ∈ tr, ¬ x.1.ConsoleStarts x.2 := by
  have hoff := offInv_of_over (switchInv_reachable h) hp htype hst hover
  refine hrun.forall_iff_of_strong (P := OffInv) (fun _ a => a ≠ .publishMode true)
    (fun v a => ¬ v.ConsoleStarts a) (fun _ => OffInv.quiet) (fun v a w hv ha hok hst => ?_)
    (fun v a w _ hbad hst => ?_) hoff hmode
  · exact offInv_steps hv ha hok (steps_of_step hst)
  · exact not_quiet_of_consoleStarts (not_not.mp hbad) (steps_of_step hst)

/-- From the start to the end of the publication: `ExpressionService` is stopped, then the tracker. -/
def switchOff : List ModeAction :=
  [.publishMode false, .deliverMode, .call .expression .remote true, .call .expression .remote true,
    .call .expression .remote true, .loop .expression 0 true, .loop .expression 0 true,
    .loop .expression 0 true, .call .expression .remote true, .deliverMode, .deliverMode, .deliverMode,
    .deliverMode, .call .tracker .remote true, .call .tracker .remote true, .call .tracker .remote true,
    .loop .tracker 0 true, .loop .tracker 0 true, .loop .tracker 0 true, .call .tracker .remote true,
    .deliverMode]

theorem switchOff_left : ∀ a ∈ switchOff, ∀ s : ModeSwitch, s.ExpressionLeft a := by
  simp [switchOff, ExpressionLeft]

def startNetwork : Services ServiceId := (Services.system.exec Services.initial startUp).getD Services.initial

theorem started_reachable : system.ReachableVia ExpressionLeft (started startNetwork) :=
  .init ⟨startNetwork, rfl, rfl⟩

/-- The robot becomes quiet, and the console starts `ExpressionService` again. -/
theorem remote_mode_is_quiet_console : ∃ t u tr, system.Run t tr u ∧ t.Quiet ∧
    ¬ ∀ v ∈ System.visited tr u, v.Quiet := by
  have hrun : ∃ s t t₁ t₂ u, system.exec (started startNetwork) switchOff = some s ∧
      s.remote = some ⟨.aiModeOffCall, [], false⟩ ∧ s.step .deliverMode = some t ∧ t.remote = none ∧
      system.step t (.startCall .expression 0) = some t₁ ∧
      system.step t₁ (.call .expression (.outside 0) true) = some t₂ ∧
      (t₂.service .expression).calls (ModeThread.outside 0).caller = some .startFlag ∧
      system.step t₂ (.call .expression (.outside 0) true) = some u :=
    ⟨_, _, _, _, _, rfl, rfl, rfl, rfl, rfl, rfl, rfl, rfl⟩
  obtain ⟨s, t, t₁, t₂, u, hs, hp, hst, hover, h₁, h₂, hflag, h₃⟩ := hrun
  have hreach := System.reachableVia_of_exec started_reachable switchOff_left hs
  have hrun : system.Run t _ u := ((System.Run.nil.snoc h₁).snoc h₂).snoc h₃
  refine ⟨t, u, _, hrun, ?_, fun hall => ?_⟩
  · exact (remote_mode_is_quiet hreach hp rfl hst hover .nil (by simp)).mpr (by simp) t (by simp)
  · have hiff := remote_mode_is_quiet hreach hp rfl hst hover hrun (by simp)
    exact hiff.mp hall (t₂, .call .expression (.outside 0) true) (by simp) ⟨0, true, rfl, hflag⟩

/-! ## A gesture and the tracker -/

/-- Thread `k` of `ExpressionService` has begun with `makeMimic`, and the mode was not switched on since. -/
structure GestureInv (k : Nat) (s : ModeSwitch) : Prop where
  switch : SwitchInv s
  remote : ∀ p, s.remote = some p → p.type ≠ .aiModeOnCall
  performing : s.performing k = true → (s.service .tracker).running = false
  publishing : ∀ p, s.mimic = some (k, p) → p.type = .stopPerceptionRequest →
    s.Stops (.expression k) p .tracker .tracker

/-- One thread at a time is in `makeMimic`. -/
theorem inMimic_unique (h : SwitchInv s) {k k' : Nat} (hk : s.inMimic k = true) (hk' : s.inMimic k' = true) :
    k = k' :=
  h.mastered.one_loop k k' ⟨_, h.mode.mimic k hk, by decide⟩ ⟨_, h.mode.mimic k' hk', by decide⟩

/-- During a gesture nothing is published. -/
theorem mimic_eq_none_of_performing (h : SwitchInv s) {k : Nat} (hk : s.performing k = true) :
    s.mimic = none := by
  cases hmimic : s.mimic with
  | none => rfl
  | some q =>
      obtain ⟨k', p⟩ := q
      obtain rfl := inMimic_unique h (inMimic_iff.mpr (.inl hk)) (inMimic_iff.mpr (.inr ⟨p, hmimic⟩))
      rw [h.mode.idle k p hmimic] at hk
      cases hk

theorem gestureInv_steps {k : Nat} {a : ModeAction} (h : GestureInv k s) (hok : s.ExpressionLeft a)
    (hmode : a ≠ .publishMode true) (hst : Steps s a t) : GestureInv k t := by
  have hswitch := switchInv_steps h.switch hok hst
  have hremote : ∀ p, t.remote = some p → p.type ≠ .aiModeOnCall := by
    intro p hp
    cases hst with
    | @publishMode on _ =>
        cases on with
        | true => exact absurd rfl hmode
        | false => cases hp; nofun
    | @deliverMode q u p' hq hd =>
        obtain rfl : p' = some p := hp
        rw [type_of_delivers hd]
        exact h.remote q hq
    | deliverMimic _ hd => exact h.remote p (by cases hd <;> exact hp)
    | _ => exact h.remote p hp
  -- the tracker is only stopped during the gesture, and during the publication in front of it
  have hperforming : s.performing k = true → (t.service .tracker).running = false := by
    intro hk
    refine stays_off (h.performing hk) (fun c pc hpc => ?_) hst
    rintro rfl
    have hnone := mimic_eq_none_of_performing h.switch hk
    cases tracker_calls_stop h.switch.mode h.remote (fun k' p hp => by rw [hnone] at hp; cases hp) hpc
  have hstopping : ∀ {p : Publication}, s.mimic = some (k, p) → p.type = .stopPerceptionRequest →
      ∀ c pc, (s.service .tracker).calls c = some pc → pc.isStop = true := by
    intro p hp htype c pc hpc
    refine tracker_calls_stop h.switch.mode h.remote (fun k' q hq => ?_) hpc
    rw [hp] at hq
    cases hq
    rw [htype]
    nofun
  have hflag : ∀ {p : Publication}, s.mimic = some (k, p) → p.type = .stopPerceptionRequest →
      ∀ c pc, (s.service .tracker).calls c = some pc → pc ≠ .startFlag := by
    rintro p hp htype c _ hpc rfl
    cases hstopping hp htype c _ hpc
  have hother : t.mimic = s.mimic → ∀ p, t.mimic = some (k, p) → p.type = .stopPerceptionRequest →
      t.Stops (.expression k) p .tracker .tracker := by
    intro hmimic p hp htype
    rw [hmimic] at hp
    exact stops_steps (h.publishing p hp htype) (hflag hp htype) (fun pc hpc => hstopping hp htype _ pc hpc) hst
  refine ⟨hswitch, hremote, fun hk => ?_, ?_⟩
  · cases hst with
    | @mimicOver k' p hp hrest =>
        by_cases hkk : k = k'
        · subst hkk
          have htype : p.type = .stopPerceptionRequest := by simpa using hk
          exact off_of_stops (h.publishing p hp htype) hrest
        · exact h.performing ((Function.update_of_ne hkk _ _).symm.trans hk)
    | @motionDone k' hnone _ =>
        by_cases hkk : k = k'
        · subst hkk
          simp at hk
        · exact h.performing ((Function.update_of_ne hkk _ _).symm.trans hk)
    | deliverMode _ hd => exact hperforming (by cases hd <;> exact hk)
    | deliverMimic _ hd => exact hperforming (by cases hd <;> exact hk)
    | _ => exact hperforming hk
  · cases hst with
    | @makeMimic k' _ _ _ =>
        intro p hp _
        cases hp
        exact stops_of_mem h.switch.mode.tracked rfl
    | @motionDone k' _ _ =>
        intro p hp htype
        cases hp
        cases htype
    | @deliverMimic k' p p' u hp hd =>
        intro q hq htype
        cases hq
        have htype' : p.type = .stopPerceptionRequest := (type_of_delivers hd).symm.trans htype
        have hstops : u.Stops (.expression k) p' .tracker .tracker :=
          stops_delivers (h.publishing p hp htype') (by rw [htype']; rfl) (hflag hp htype') hd
        exact hstops
    | mimicOver => nofun
    | deliverMode _ hd => exact hother (by cases hd <;> rfl)
    | _ => exact hother rfl

/-- **A gesture is not disturbed.** When `ExpressionService` has begun with a gesture, and its publication of
    `StopPerceptionRequest` is over, the tracker is off (its `_running` is cleared) until the gesture is done,
    unless the mode is switched on in the meantime. If a query has stopped the tracker just before, this
    publication does not wait for its thread, and the last iteration may still publish. -/
theorem gesture_is_undisturbed {k : Nat} {tr : List (ModeSwitch × ModeAction)}
    (h : system.ReachableVia ExpressionLeft s) (hst : s.step (.makeMimic k) = some t)
    (hremote : ∀ p, s.remote = some p → p.type ≠ .aiModeOnCall) (hrun : system.Run t tr u)
    (hok : ∀ x ∈ tr, x.1.ExpressionLeft x.2 ∧ x.2 ≠ .publishMode true) :
    ∀ v ∈ System.visited tr u, v.performing k = true → (v.service .tracker).running = false := by
  have hswitch := switchInv_reachable (h.step (a := .makeMimic k) trivial hst)
  have hbegun : GestureInv k t := by
    cases steps_of_step hst with
    | makeMimic _ hidle _ =>
        refine ⟨hswitch, hremote, fun hk => ?_, fun p hp _ => ?_⟩
        · rw [show s.performing k = true from hk] at hidle
          cases hidle
        · cases hp
          exact stops_of_mem (switchInv_reachable h).mode.tracked rfl
  have hstep : ∀ v a w, GestureInv k v → v.ExpressionLeft a ∧ a ≠ .publishMode true →
      system.step v a = some w → GestureInv k w := fun v a w hv hok hst =>
    gestureInv_steps hv hok.1 hok.2 (steps_of_step hst)
  exact fun v hv => (hrun.invariantVia hstep hbegun hok v hv).performing

/-- The loop of `ExpressionService` gets to its body. -/
def toBody : List ModeAction := [.loop .expression 0 true, .loop .expression 0 true]

/-- `StopPerceptionRequest` gets to the camera, which is stopped, and to the tracker. -/
def beginGesture : List ModeAction :=
  [.deliverMimic, .call .perception (.expression 0) true, .call .perception (.expression 0) true,
    .call .perception (.expression 0) true, .loop .perception 0 true, .loop .perception 0 true,
    .loop .perception 0 true, .call .perception (.expression 0) true, .deliverMimic, .deliverMimic,
    .deliverMimic, .call .tracker (.expression 0) true, .call .tracker (.expression 0) true,
    .call .tracker (.expression 0) true, .loop .tracker 0 true, .loop .tracker 0 true,
    .loop .tracker 0 true, .call .tracker (.expression 0) true, .deliverMimic, .deliverMimic]

theorem beginGesture_left : ∀ a ∈ beginGesture, ∀ s : ModeSwitch,
    s.ExpressionLeft a ∧ a ≠ .publishMode true := by
  simp [beginGesture, ExpressionLeft]

/-- A gesture of the first thread, and the tracker meanwhile. -/
theorem gesture_is_undisturbed_first : ∃ s : ModeSwitch, s.performing 0 = true ∧
    (s.service .tracker).running = false := by
  have hrun : ∃ s t u, system.exec (started startNetwork) toBody = some s ∧ s.remote = none ∧
      s.step (.makeMimic 0) = some t ∧ system.exec t beginGesture = some u ∧ u.performing 0 = true :=
    ⟨_, _, _, rfl, rfl, rfl, rfl, rfl⟩
  obtain ⟨s, t, u, hs, hremote, hst, hexec, hperforming⟩ := hrun
  have hreach := System.reachableVia_of_exec started_reachable (by simp [toBody, ExpressionLeft]) hs
  obtain ⟨tr, hrun, hactions⟩ := System.Run.of_exec hexec
  refine ⟨u, hperforming, gesture_is_undisturbed hreach hst (fun p hp => ?_) hrun (fun x hx => ?_) u
    (by simp [System.visited]) hperforming⟩
  · rw [hremote] at hp
    cases hp
  · exact beginGesture_left x.2 (hactions ▸ List.mem_map_of_mem hx) x.1

end ModeSwitch

end Kufibot
