import Kufibot.Services.ModeSwitch

/-!
# `Services.ModeCalls` — who starts and stops the services

What holds in every reachable state of `Services.ModeSwitch` (`ModeInv`): every call of `start` or `stop`
belongs to the handler that a publication has got to, or to a command from outside (`CallsServed`); a thread
in `makeMimic` is in the body of its loop; and, because of the order in which `main` starts the services,
`ExpressionService` receives the messages of the remote service before the tracker does (`Ordered`).
`moves_of_steps` says which step of its own life cycle a service takes in a step of the whole.
-/

namespace Kufibot

open Lib MessageFabric

theorem ModeThread.caller_injective : Function.Injective ModeThread.caller := by
  intro x y h
  cases x <;> cases y <;> simp only [caller, Caller.other.injEq] at h <;> grind

theorem ModeThread.caller_ne_service (x : ModeThread) (t : Nat) : x.caller ≠ .service t := by
  cases x <;> nofun

/-- The handler of the next subscriber has called the service `m`. -/
def Publication.Asks (p : Publication) (m : ModeService) (stop : Bool) : Prop :=
  p.called = true ∧ ∃ r rest request, p.rest = r :: rest ∧ modeRequest r p.type = some (m, request) ∧
    (stop = true ↔ request = .stop)

namespace ModeSwitch

/-! ## Who calls whom -/

/-- What a call of thread `x` serves: a publication, or a command from outside. -/
def Serves (s : ModeSwitch) (m : ModeService) (stop : Bool) : ModeThread → Prop
  | .remote => ∃ p, s.remote = some p ∧ p.Asks m stop
  | .expression t => ∃ p, s.mimic = some (t, p) ∧ p.Asks m stop
  | .outside _ => stop = true ∨ m ≠ .tracker

/-- Every call serves something. -/
def CallsServed (s : ModeSwitch) : Prop := ∀ m c pc, (s.service m).calls c = some pc →
  ∃ x : ModeThread, c = x.caller ∧ s.Serves m pc.isStop x

variable {s t u : ModeSwitch}

/-- A service takes a step; what the calls serve stays, and a new call serves something as well. -/
theorem callsServed_service {m : ModeService} {a : LifecycleAction} {service : Service} (h : s.CallsServed)
    (hst : (s.service m).step a = some service) (ht : t.service = Function.update s.service m service)
    (hkeep : ∀ m' c pc (x : ModeThread), (s.service m').calls c = some pc → c = x.caller →
      s.Serves m' pc.isStop x → t.Serves m' pc.isStop x)
    (hstart : ∀ c, a = .startCall c → ∃ x : ModeThread, c = x.caller ∧ t.Serves m false x)
    (hstop : ∀ c, a = .stopCall c → ∃ x : ModeThread, c = x.caller ∧ t.Serves m true x) :
    t.CallsServed := by
  have hold : ∀ m' c pc, (s.service m').calls c = some pc →
      ∃ x : ModeThread, c = x.caller ∧ t.Serves m' pc.isStop x := by
    intro m' c pc hpc
    obtain ⟨x, rfl, hx⟩ := h m' c pc hpc
    exact ⟨x, rfl, hkeep m' _ pc x hpc rfl hx⟩
  intro m' c pc hpc
  rw [ht] at hpc
  by_cases hm : m' = m
  · subst hm
    rw [Function.update_self] at hpc
    cases Service.callOrigin_of_steps (Service.steps_of_step hst).2 hpc with
    | kept hpc' => exact hold m' c pc hpc'
    | moved _ hpc' hkind => exact hkind ▸ hold m' c _ hpc'
    | startCall ha hpc' => subst hpc'; exact hstart c ha
    | stopCall ha hpc' => subst hpc'; exact hstop c ha
  · rw [Function.update_of_ne hm] at hpc
    exact hold m' c pc hpc

/-- A thread that is between two handlers is in no call. -/
theorem callsServed_publication (h : s.CallsServed) (ht : t.service = s.service)
    (hkeep : ∀ m c pc (x : ModeThread), (s.service m).calls c = some pc → c = x.caller →
      s.Serves m pc.isStop x → t.Serves m pc.isStop x) : t.CallsServed := by
  intro m c pc hpc
  rw [ht] at hpc
  obtain ⟨x, rfl, hx⟩ := h m c pc hpc
  exact ⟨x, rfl, hkeep m _ pc x hpc rfl hx⟩

/-- What a publication of thread `x` that goes on leaves of the calls: it begins one, or there is none of
    this thread. -/
theorem not_calling_of_delivers {x : ModeThread} {p : Publication} {p' : Option Publication}
    (h : s.CallsServed) (hx : ∀ m stop, s.Serves m stop x → p.Asks m stop) (hd : Delivers s x p t p') :
    (∀ m, (s.service m).calls x.caller = none) := by
  intro m
  by_contra hcall
  obtain ⟨pc, hpc⟩ := Option.ne_none_iff_exists'.mp hcall
  obtain ⟨y, hy, hserves⟩ := h m _ pc hpc
  obtain rfl := ModeThread.caller_injective hy
  obtain ⟨hcalled, r, rest, request, hrest, hrequest, -⟩ := hx m _ hserves
  cases hd with
  | finished hrest' =>
      rw [hrest'] at hrest
      cases hrest
  | skip hrest' _ hnone =>
      rw [hrest'] at hrest
      cases hrest
      rcases hnone with hnone | hnot
      · rw [hnone] at hrequest
        cases hrequest
      · rw [hcalled] at hnot
        cases hnot
  | call _ _ hnot =>
      rw [hcalled] at hnot
      cases hnot
  | back hrest' hrequest' _ hback =>
      rw [hrest'] at hrest
      cases hrest
      rw [hrequest'] at hrequest
      cases hrequest
      rw [hback] at hpc
      cases hpc

/-- The publication of thread `x` has called the service `m`. -/
theorem asks_called {p : Publication} {r : ServiceId} {rest : List ServiceId} {m : ModeService}
    {request : ModeRequest} (hrest : p.rest = r :: rest) (hrequest : modeRequest r p.type = some (m, request)) :
    Publication.Asks { p with called := true } m (request = .stop) :=
  ⟨rfl, r, rest, request, hrest, hrequest, decide_eq_true_iff⟩

/-- A delivery by thread `x`, whatever becomes of its publication. -/
theorem callsServed_delivers {x : ModeThread} {p : Publication} {p' : Option Publication} (h : s.CallsServed)
    (hx : ∀ m stop, s.Serves m stop x → p.Asks m stop) (hd : Delivers s x p u p')
    (ht : t.service = u.service)
    (hothers : ∀ m stop y, y ≠ x → s.Serves m stop y → t.Serves m stop y)
    (hnew : ∀ m stop q, p' = some q → q.Asks m stop → t.Serves m stop x) : t.CallsServed := by
  have hnone := not_calling_of_delivers h hx hd
  have hkeep : ∀ m c pc (y : ModeThread), (s.service m).calls c = some pc → c = y.caller →
      s.Serves m pc.isStop y → t.Serves m pc.isStop y := by
    rintro m _ pc y hpc rfl hserves
    refine hothers m _ y (fun hy => ?_) hserves
    subst hy
    rw [hnone m] at hpc
    cases hpc
  cases hd with
  | finished | skip | back => exact callsServed_publication h ht hkeep
  | @call r rest m request a service hrest hrequest _ ha hst =>
      have hasks := asks_called hrest hrequest
      refine callsServed_service h hst ht hkeep (fun c hc => ?_) fun c hc => ?_
      · rw [ha] at hc
        split at hc
        · cases hc
        · rename_i hstop
          cases hc
          exact ⟨x, rfl, hnew m _ _ rfl (by simpa [hstop] using hasks)⟩
      · rw [ha] at hc
        split at hc
        · rename_i hstop
          cases hc
          exact ⟨x, rfl, hnew m _ _ rfl (by simpa [hstop] using hasks)⟩
        · cases hc

theorem callsServed_steps {a : ModeAction} (h : s.CallsServed) (hst : Steps s a t) : t.CallsServed := by
  -- a step that publishes nothing
  have hsame : ∀ {m : ModeService} {a : LifecycleAction} {service : Service},
      (s.service m).step a = some service →
      (∀ c, a = .startCall c → ∃ x : ModeThread, c = x.caller ∧ s.Serves m false x) →
      (∀ c, a = .stopCall c → ∃ x : ModeThread, c = x.caller ∧ s.Serves m true x) →
      CallsServed { s with service := Function.update s.service m service } := by
    intro m a service hst hstart hstop
    exact callsServed_service h hst rfl (fun _ _ _ x _ _ hx => by cases x <;> exact hx)
      (fun c hc => (hstart c hc).imp fun x hx => ⟨hx.1, by have := hx.2; cases x <;> exact this⟩)
      fun c hc => (hstop c hc).imp fun x hx => ⟨hx.1, by have := hx.2; cases x <;> exact this⟩
  cases hst with
  | publishMode hnone =>
      refine callsServed_publication h rfl fun m c pc x _ _ hx => ?_
      cases x with
      | remote => obtain ⟨p, hp, -⟩ := hx; rw [hnone] at hp; cases hp
      | expression _ | outside _ => exact hx
  | makeMimic hnone _ _ | motionDone hnone _ =>
      refine callsServed_publication h rfl fun m c pc x _ _ hx => ?_
      cases x with
      | expression _ => obtain ⟨p, hp, -⟩ := hx; rw [hnone] at hp; cases hp
      | remote | outside _ => exact hx
  | @deliverMode p u p' hp hd =>
      refine callsServed_delivers h (fun m stop hx => ?_) hd rfl (fun m stop y hy hx => ?_)
        fun m stop q hq hasks => ⟨q, hq, hasks⟩
      · obtain ⟨q, hq, hasks⟩ := hx
        rw [hp] at hq
        exact Option.some.inj hq ▸ hasks
      · cases y with
        | remote => exact absurd rfl hy
        | expression _ => cases hd <;> exact hx
        | outside _ => exact hx
  | @deliverMimic k p p' u hp hd =>
      refine callsServed_delivers h (fun m stop hx => ?_) hd rfl (fun m stop y hy hx => ?_)
        fun m stop q hq hasks => ⟨q, congrArg (Option.map (k, ·)) hq, hasks⟩
      · obtain ⟨q, hq, hasks⟩ := hx
        rw [hp] at hq
        cases hq
        exact hasks
      · cases y with
        | remote => cases hd <;> exact hx
        | expression k' =>
            obtain ⟨q, hq, -⟩ := hx
            rw [hp] at hq
            cases hq
            exact absurd rfl hy
        | outside _ => exact hx
  | @mimicOver k p hp hrest =>
      refine callsServed_publication h rfl fun m c pc x _ _ hx => ?_
      cases x with
      | expression k' =>
          obtain ⟨q, hq, -, r, rest, -, hrest', -⟩ := hx
          rw [hp] at hq
          cases hq
          rw [hrest] at hrest'
          cases hrest'
      | remote | outside _ => exact hx
  | @startCall m n service hm hst => exact hsame hst (fun c hc => ⟨.outside n, by cases hc; rfl, .inr hm⟩) nofun
  | @stopCall m n service hst => exact hsame hst nofun fun c hc => ⟨.outside n, by cases hc; rfl, .inl rfl⟩
  | call hst => exact hsame hst nofun nofun
  | loop _ hst => exact hsame hst nofun nofun
  | subscription _ _ =>
      exact callsServed_publication h rfl fun _ _ _ x _ _ hx => by cases x <;> exact hx

/-! ## What holds in every reachable state -/

/-- The subscribers of the remote service: `ExpressionService` receives a message before the tracker. -/
def Ordered (l : List ServiceId) : Prop :=
  ∃ l₁ l₂, l = l₁ ++ .expression :: l₂ ∧ .tracker ∉ l₁ ∧ .tracker ∈ l₂

structure ModeInv (s : ModeSwitch) : Prop where
  reachable : ∀ m, Service.system.Reachable (s.service m)
  calls : s.CallsServed
  /-- `makeMimic` is a part of the loop. -/
  mimic : ∀ k, s.inMimic k = true → (s.service .expression).threads k = some .body
  idle : ∀ k p, s.mimic = some (k, p) → s.performing k = false
  modeType : ∀ p, s.remote = some p → p.type = .aiModeOnCall ∨ p.type = .aiModeOffCall
  mimicType : ∀ k p, s.mimic = some (k, p) →
    p.type = .stopPerceptionRequest ∨ p.type = .startPerceptionRequest
  ordered : Ordered (s.network.subscribers .remote)
  tracked : .tracker ∈ s.network.subscribers .expression

theorem inMimic_iff {k : Nat} :
    s.inMimic k = true ↔ s.performing k = true ∨ ∃ p, s.mimic = some (k, p) := by
  unfold inMimic
  cases s.mimic with
  | none => simp
  | some q =>
      obtain ⟨k', p⟩ := q
      simp

/-- A service takes a step; a thread in `makeMimic` stays in the body of its loop. -/
theorem mimic_service {m : ModeService} {a : LifecycleAction} {service : Service} (h : ModeInv s)
    (hst : (s.service m).step a = some service)
    (hfree : ∀ k opened, m = .expression → s.inMimic k = true → a ≠ .loop k opened) (k : Nat)
    (hk : s.inMimic k = true) :
    ((Function.update s.service m service) .expression).threads k = some .body := by
  by_cases hm : m = .expression
  · subst hm
    rw [Function.update_self]
    exact Service.threads_of_steps (h.reachable _) (Service.steps_of_step hst).2 (h.mimic k hk)
      fun opened => hfree k opened rfl hk
  · rw [Function.update_of_ne (Ne.symm hm)]
    exact h.mimic k hk

theorem reachable_service {m : ModeService} {a : LifecycleAction} {service : Service} (h : ModeInv s)
    (hst : (s.service m).step a = some service) (m' : ModeService) :
    Service.system.Reachable (Function.update s.service m service m') := by
  by_cases hm : m' = m
  · subst hm
    rw [Function.update_self]
    exact (h.reachable m').step trivial hst
  · rw [Function.update_of_ne hm]
    exact h.reachable m'

theorem ordered_append {l : List ServiceId} (h : Ordered l) (l' : List ServiceId) : Ordered (l ++ l') := by
  obtain ⟨l₁, l₂, rfl, hnot, hmem⟩ := h
  exact ⟨l₁, l₂ ++ l', by simp, hnot, List.mem_append_left _ hmem⟩

theorem ordered_filter {l : List ServiceId} (h : Ordered l) : Ordered (l.filter (· ≠ .remote)) := by
  obtain ⟨l₁, l₂, rfl, hnot, hmem⟩ := h
  refine ⟨l₁.filter (· ≠ .remote), l₂.filter (· ≠ .remote), by simp, ?_, ?_⟩
  · exact fun hmem => hnot (List.mem_of_mem_filter hmem)
  · exact List.mem_filter.mpr ⟨hmem, by decide⟩

/-- The subscriptions that still change leave the three services where they are. -/
theorem subscribers_of_mayChange {n n' : Services ServiceId} {call : SubscriptionCall ServiceId}
    (hmay : mayChange call = true) (hst : n.step call = some n') (publisher : ServiceId) :
    (∃ l, n'.subscribers publisher = n.subscribers publisher ++ l) ∨
      n'.subscribers publisher = (n.subscribers publisher).filter (· ≠ .remote) := by
  cases call with
  | subscribeToService self service =>
      cases hst
      refine .inl ?_
      unfold Services.subscribeToService
      split
      · exact ⟨[], (List.append_nil _).symm⟩
      · by_cases hp : publisher = service
        · subst hp
          exact ⟨[self], Function.update_self _ _ _⟩
        · exact ⟨[], (Function.update_of_ne hp _ _).trans (List.append_nil _).symm⟩
  | unsubscribeFromService self service =>
      cases hst
      obtain rfl : self = .remote := of_decide_eq_true hmay
      unfold Services.unsubscribeFromService
      split
      · by_cases hp : publisher = service
        · subst hp
          exact .inr (Function.update_self _ _ _)
        · exact .inl ⟨[], (Function.update_of_ne hp _ _).trans (List.append_nil _).symm⟩
      · exact .inl ⟨[], (List.append_nil _).symm⟩
  | unsubscribeAllServices self => cases hmay

theorem startedService_reachable : Service.system.Reachable startedService := by
  have hexec : ∃ s, Service.system.exec Service.constructed
      [.startCall (.other 0), .call (.other 0) true, .call (.other 0) true, .call (.other 0) true,
        .call (.other 0) true, .call (.other 0) true] = some s ∧ s = startedService := by
    refine ⟨_, rfl, ?_⟩
    simp [startedService, Service.finish, Service.goTo, Service.constructed]
  obtain ⟨s, hexec, rfl⟩ := hexec
  exact System.reachableVia_of_exec (.init rfl) (fun _ _ _ => trivial) hexec

theorem modeInv_started {network : Services ServiceId}
    (hnetwork : Services.system.exec Services.initial startUp = some network) : ModeInv (started network) := by
  have hsubscribers : network.subscribers .remote = [.expression, .perception, .robot, .tracker] ∧
      network.subscribers .expression = [.perception, .robot, .tracker] := by
    have hexec : (Services.system.exec Services.initial startUp).map
        (fun n => (n.subscribers .remote, n.subscribers .expression)) =
        some ([.expression, .perception, .robot, .tracker], [.perception, .robot, .tracker]) := by decide
    rw [hnetwork] at hexec
    exact Prod.mk.inj (Option.some.inj hexec)
  constructor
  · exact fun _ => startedService_reachable
  · nofun
  · nofun
  · nofun
  · nofun
  · nofun
  · exact ⟨[], [.perception, .robot, .tracker], hsubscribers.1, List.not_mem_nil, by decide⟩
  · exact hsubscribers.2 ▸ (by decide : ServiceId.tracker ∈ [ServiceId.perception, .robot, .tracker])

/-- A step that only moves a service. -/
theorem modeInv_service {m : ModeService} {a : LifecycleAction} {service : Service} (h : ModeInv s)
    (hst : (s.service m).step a = some service)
    (hfree : ∀ k opened, m = .expression → s.inMimic k = true → a ≠ .loop k opened)
    (hcalls : CallsServed { s with service := Function.update s.service m service }) :
    ModeInv { s with service := Function.update s.service m service } :=
  ⟨reachable_service h hst, hcalls, mimic_service h hst hfree, h.idle, h.modeType, h.mimicType, h.ordered,
    h.tracked⟩

/-- A publication that goes on keeps its type. -/
theorem type_of_delivers {x : ModeThread} {p p' : Publication} (hd : Delivers s x p u (some p')) :
    p'.type = p.type := by
  cases hd <;> rfl

theorem modeInv_steps {a : ModeAction} (h : ModeInv s) (hst : Steps s a t) : ModeInv t := by
  have hcalls := callsServed_steps h.calls hst
  -- a call by another thread is not a step of a loop
  have hcall : ∀ {x : ModeThread} {request : ModeRequest} {k : Nat} {opened : Bool},
      (if request = .stop then LifecycleAction.stopCall x.caller else .startCall x.caller) ≠
        .loop k opened := by
    intro x request k opened
    split <;> nofun
  cases hst with
  | @publishMode on _ =>
      refine ⟨h.reachable, hcalls, h.mimic, h.idle, fun p hp => ?_, h.mimicType, h.ordered, h.tracked⟩
      cases hp
      cases on
      · exact .inr rfl
      · exact .inl rfl
  | @deliverMode p u p' hp hd =>
      have htype : ∀ q, p' = some q → q.type = .aiModeOnCall ∨ q.type = .aiModeOffCall := by
        rintro q rfl
        rw [type_of_delivers hd]
        exact h.modeType p hp
      cases hd with
      | finished | skip | back =>
          exact ⟨h.reachable, hcalls, h.mimic, h.idle, htype, h.mimicType, h.ordered, h.tracked⟩
      | call _ _ _ ha hst =>
          subst ha
          exact ⟨reachable_service h hst, hcalls, mimic_service h hst fun _ _ _ _ => hcall, h.idle, htype,
            h.mimicType, h.ordered, h.tracked⟩
  | @makeMimic k hnone hidle hbody =>
      refine ⟨h.reachable, hcalls, fun k' hk' => ?_, fun k' p hp => ?_, h.modeType, fun k' p hp => ?_, h.ordered,
        h.tracked⟩
      · rcases inMimic_iff.mp hk' with hk' | ⟨p, hp⟩
        · exact h.mimic k' (inMimic_iff.mpr (.inl hk'))
        · cases hp
          exact hbody
      · cases hp
        exact hidle
      · cases hp
        exact .inl rfl
  | @motionDone k hnone hperforming =>
      refine ⟨h.reachable, hcalls, fun k' hk' => ?_, fun k' p hp => ?_, h.modeType, fun k' p hp => ?_, h.ordered,
        h.tracked⟩
      · by_cases hkk : k' = k
        · subst hkk
          exact h.mimic _ (inMimic_iff.mpr (.inl hperforming))
        · rcases inMimic_iff.mp hk' with hk' | ⟨p, hp⟩
          · exact h.mimic k' (inMimic_iff.mpr (.inl ((Function.update_of_ne hkk _ _).symm.trans hk')))
          · cases hp
            exact absurd rfl hkk
      · cases hp
        exact Function.update_self _ _ _
      · cases hp
        exact .inr rfl
  | @deliverMimic k p p' u hp hd =>
      have hmimic : ∀ k', inMimic { s with mimic := some (k, p') } k' = true → s.inMimic k' = true := by
        intro k' hk'
        rcases inMimic_iff.mp hk' with hk' | ⟨q, hq⟩
        · exact inMimic_iff.mpr (.inl hk')
        · cases hq
          exact inMimic_iff.mpr (.inr ⟨p, hp⟩)
      have hidle : ∀ k' q, some (k, p') = some (k', q) → s.performing k' = false := by
        intro k' q hq
        cases hq
        exact h.idle k p hp
      have htype : ∀ k' q, some (k, p') = some (k', q) →
          q.type = .stopPerceptionRequest ∨ q.type = .startPerceptionRequest := by
        intro k' q hq
        cases hq
        rw [type_of_delivers hd]
        exact h.mimicType k p hp
      cases hd with
      | skip | back =>
          exact ⟨h.reachable, hcalls, fun k' hk' => h.mimic k' (hmimic k' hk'), hidle, h.modeType, htype,
            h.ordered, h.tracked⟩
      | call _ _ _ ha hst =>
          subst ha
          exact ⟨reachable_service h hst, hcalls,
            fun k' hk' => mimic_service h hst (fun _ _ _ _ => hcall) k' (hmimic k' hk'), hidle, h.modeType,
            htype, h.ordered, h.tracked⟩
  | @mimicOver k p hp _ =>
      refine ⟨h.reachable, hcalls, fun k' hk' => ?_, nofun, h.modeType, nofun, h.ordered, h.tracked⟩
      rcases inMimic_iff.mp hk' with hk' | ⟨q, hq⟩
      · by_cases hkk : k' = k
        · subst hkk
          exact h.mimic _ (inMimic_iff.mpr (.inr ⟨p, hp⟩))
        · exact h.mimic k' (inMimic_iff.mpr (.inl ((Function.update_of_ne hkk _ _).symm.trans hk')))
      · cases hq
  | startCall _ hst => exact modeInv_service h hst (fun _ _ _ _ => nofun) hcalls
  | stopCall hst => exact modeInv_service h hst (fun _ _ _ _ => nofun) hcalls
  | call hst => exact modeInv_service h hst (fun _ _ _ _ => nofun) hcalls
  | @loop m k opened service hfree hst =>
      refine modeInv_service h hst (fun k' opened' hm hk' heq => ?_) hcalls
      cases heq
      rw [hfree hm] at hk'
      cases hk'
  | subscription hmay hst =>
      refine ⟨h.reachable, hcalls, h.mimic, h.idle, h.modeType, h.mimicType, ?_, ?_⟩
      · rcases subscribers_of_mayChange hmay hst .remote with ⟨l, hl⟩ | hl
        · exact hl ▸ ordered_append h.ordered l
        · exact hl ▸ ordered_filter h.ordered
      · rcases subscribers_of_mayChange hmay hst .expression with ⟨l, hl⟩ | hl
        · exact hl ▸ List.mem_append_left _ h.tracked
        · exact hl ▸ List.mem_filter.mpr ⟨h.tracked, by decide⟩

/-! ## What a service does in a step -/

/-- The step that a service takes. -/
inductive Moves (s : ModeSwitch) : ModeAction → ModeService → LifecycleAction → Prop where
  | deliver {a : ModeAction} {x : ModeThread} {p : Publication} {r : ServiceId} {m : ModeService}
      {request : ModeRequest} (hp : x = .remote ∧ s.remote = some p ∨ ∃ k, x = .expression k ∧ s.mimic = some (k, p))
      (hrequest : modeRequest r p.type = some (m, request)) :
      Moves s a m (if request = .stop then .stopCall x.caller else .startCall x.caller)
  | startCall {m : ModeService} {n : Nat} :
      Moves s (.startCall m n) m (.startCall (ModeThread.outside n).caller)
  | stopCall {m : ModeService} {n : Nat} : Moves s (.stopCall m n) m (.stopCall (ModeThread.outside n).caller)
  | call {m : ModeService} {x : ModeThread} {initialized : Bool} :
      Moves s (.call m x initialized) m (.call x.caller initialized)
  | loop {m : ModeService} {t : Nat} {opened : Bool} :
      Moves s (.loop m t opened) m (.loop t (opens m opened))

/-- A service rests, or takes one step. -/
theorem moves_of_steps {a : ModeAction} (hst : Steps s a t) (m : ModeService) :
    t.service m = s.service m ∨ ∃ b, Moves s a m b ∧ Service.Steps (s.service m) b (t.service m) := by
  have hmove : ∀ {m' : ModeService} {b : LifecycleAction} {service : Service},
      (s.service m').step b = some service → Moves s a m' b →
      Function.update s.service m' service m = s.service m ∨ ∃ b, Moves s a m b ∧
        Service.Steps (s.service m) b (Function.update s.service m' service m) := by
    intro m' b service hst hmoves
    by_cases hm : m = m'
    · subst hm
      rw [Function.update_self]
      exact .inr ⟨b, hmoves, (Service.steps_of_step hst).2⟩
    · exact .inl (Function.update_of_ne hm _ _)
  cases hst with
  | deliverMode hp hd =>
      cases hd with
      | call _ hrequest _ ha hst => exact hmove hst (ha ▸ .deliver (.inl ⟨rfl, hp⟩) hrequest)
      | _ => exact .inl rfl
  | deliverMimic hp hd =>
      cases hd with
      | call _ hrequest _ ha hst => exact hmove hst (ha ▸ .deliver (.inr ⟨_, rfl, hp⟩) hrequest)
      | _ => exact .inl rfl
  | startCall _ hst => exact hmove hst .startCall
  | stopCall hst => exact hmove hst .stopCall
  | call hst => exact hmove hst .call
  | loop _ hst => exact hmove hst .loop
  | _ => exact .inl rfl

end ModeSwitch

end Kufibot
