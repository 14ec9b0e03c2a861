import Kufibot.Lib.Mirror
import Kufibot.Lib.System

/-!
# `Services.Subscription` — who receives what a service publishes

A subscription is stored twice: the publisher lists its subscribers, the subscriber lists the services it
is subscribed to. `Service::subscribe_to_service` looks for a duplicate in its own list only and then
writes both; both removals go by value. Every call keeps the two copies mirrored, so a message is
delivered once to each subscribed service and to nobody else (`publish_delivers_once`).
-/

namespace Kufibot

open Lib

/-- The services of a program, named by `α` (their addresses): the two lists of each. -/
structure Services (α : Type*) where
  /-- `Publisher::_subscribers`. -/
  subscribers : α → List α
  /-- `Service::_subscribedServices`. -/
  subscribedServices : α → List α

/-- A call of one service, `self`, with another one or itself. -/
inductive SubscriptionCall (α : Type*) where
  | subscribeToService (self subscribedService : α)
  | unsubscribeFromService (self subscribedService : α)
  | unsubscribeAllServices (self : α)

namespace Services

variable {α : Type*} [DecidableEq α]

/-! ## `Publisher` -/

def subscribe (publisher subscriber : α) (n : Services α) : Services α :=
  { n with
    subscribers :=
      Function.update n.subscribers publisher (n.subscribers publisher ++ [subscriber]) }

def unSubscribe (publisher subscriber : α) (n : Services α) : Services α :=
  { n with
    subscribers :=
      Function.update n.subscribers publisher
        ((n.subscribers publisher).filter (· ≠ subscriber)) }

omit [DecidableEq α] in
/-- The deliveries of one `publish`: the receiver and the message, in order. No subscriber is null, since
    a service only subscribes `this`. -/
def publish {μ : Type*} (publisher : α) (message : μ) (n : Services α) : List (α × μ) :=
  (n.subscribers publisher).map fun sub => (sub, message)

/-! ## `Service` -/

def unsubscribeAllServices (self : α) (n : Services α) : Services α :=
  let n' := (n.subscribedServices self).foldl (fun n service => n.unSubscribe service self) n
  { n' with subscribedServices := Function.update n'.subscribedServices self [] }

def subscribeToService (self subscribedService : α) (n : Services α) : Services α :=
  if subscribedService ∈ n.subscribedServices self then n
  else
    let n' := n.subscribe subscribedService self
    { n' with
      subscribedServices := Function.update n'.subscribedServices self
        (n'.subscribedServices self ++ [subscribedService]) }

def unsubscribeFromService (self subscribedService : α) (n : Services α) : Services α :=
  if subscribedService ∈ n.subscribedServices self then
    let n' := n.unSubscribe subscribedService self
    { n' with
      subscribedServices := Function.update n'.subscribedServices self
        ((n'.subscribedServices self).filter (· ≠ subscribedService)) }
  else n

def step (n : Services α) : SubscriptionCall α → Option (Services α)
  | .subscribeToService self service => some (n.subscribeToService self service)
  | .unsubscribeFromService self service => some (n.unsubscribeFromService self service)
  | .unsubscribeAllServices self => some (n.unsubscribeAllServices self)

/-- Nobody is subscribed yet. -/
def initial : Services α where
  subscribers _ := []
  subscribedServices _ := []

/-- The services and all their calls, in any order. -/
def system : System (Services α) (SubscriptionCall α) where
  init n := n = initial
  step := step

/-! ## The two copies agree -/

/-- The invariant: `subscribers` is the mirror image of `subscribedServices`. -/
def Mirrored (n : Services α) : Prop := Lib.Mirrored n.subscribedServices n.subscribers

/-- Unsubscribing from a list of services removes `self` from the lists of exactly these. -/
theorem foldl_unSubscribe (self : α) (services : List α) (n : Services α) :
    services.foldl (fun n service => n.unSubscribe service self) n =
      { n with
        subscribers := fun b =>
          if b ∈ services then (n.subscribers b).filter (· ≠ self) else n.subscribers b } := by
  induction services generalizing n with
  | nil => simp
  | cons service services ih =>
      rw [List.foldl_cons, ih]
      unfold unSubscribe
      congr 1
      funext b
      by_cases hb : b = service
      · subst hb
        simp
      · simp [hb]

theorem mirrored_subscribe {n : Services α} (h : n.Mirrored) (self service : α) :
    (n.subscribeToService self service).Mirrored := by
  unfold subscribeToService
  by_cases hmem : service ∈ n.subscribedServices self
  · rw [if_pos hmem]
    exact h
  · rw [if_neg hmem]
    exact h.push hmem

theorem mirrored_unsubscribe {n : Services α} (h : n.Mirrored) (self service : α) :
    (n.unsubscribeFromService self service).Mirrored := by
  unfold unsubscribeFromService
  by_cases hmem : service ∈ n.subscribedServices self
  · rw [if_pos hmem]
    exact h.erase self service
  · rw [if_neg hmem]
    exact h

theorem mirrored_unsubscribeAll {n : Services α} (h : n.Mirrored) (self : α) :
    (n.unsubscribeAllServices self).Mirrored := by
  unfold unsubscribeAllServices
  rw [foldl_unSubscribe]
  exact h.clear self

theorem mirrored_step {n n' : Services α} {call : SubscriptionCall α} (h : n.Mirrored)
    (hst : n.step call = some n') : n'.Mirrored := by
  cases call with
  | subscribeToService self service => cases hst; exact mirrored_subscribe h self service
  | unsubscribeFromService self service => cases hst; exact mirrored_unsubscribe h self service
  | unsubscribeAllServices self => cases hst; exact mirrored_unsubscribeAll h self

theorem mirrored_reachable {n : Services α} (h : system.Reachable n) : n.Mirrored := by
  refine h.invariant ?_ fun n call n' hn _ hst => ?_
  · rintro _ rfl
    exact .empty
  · exact mirrored_step hn (show n.step call = some n' from hst)

/-- **Every subscription is stored once on each side, and every message is delivered once**: to each
    service subscribed to the publisher, and to no other. -/
theorem publish_delivers_once {n : Services α} (h : system.Reachable n) (a b : α) :
    (n.subscribers b).count a = (n.subscribedServices a).count b ∧
      (n.subscribers b).count a ≤ 1 ∧
      ∀ {μ : Type} (message : μ),
        ((n.publish b message).map Prod.fst).count a =
            (if b ∈ n.subscribedServices a then 1 else 0) ∧
          ∀ delivery ∈ n.publish b message, delivery.2 = message := by
  have hm := mirrored_reachable h
  have hcount : (n.subscribers b).count a = if b ∈ n.subscribedServices a then 1 else 0 :=
    hm.count_bwd a b
  refine ⟨hm.count_eq a b, ?_, fun message => ⟨?_, fun delivery hd => ?_⟩⟩
  · rw [hcount]
    split <;> omega
  · have hfst : (n.publish b message).map Prod.fst = n.subscribers b := by
      simp [publish, Function.comp_def]
    rw [hfst, hcount]
  · obtain ⟨sub, -, rfl⟩ := List.mem_map.mp hd
    rfl

/-- Service 0 subscribes to 1 twice and to itself, and leaves 1: what it publishes still reaches itself,
    once, and what 1 publishes reaches nobody. -/
theorem publish_delivers_once_run : ∃ n : Services Nat,
    ((n.publish 0 "tick").map Prod.fst).count 0 = 1 ∧ ((n.publish 1 "tick").map Prod.fst).count 0 = 0 := by
  have hrun : (system.exec (initial : Services Nat)
      [.subscribeToService 0 1, .subscribeToService 0 1, .subscribeToService 0 0,
        .unsubscribeFromService 0 1]).map (fun n => n.subscribedServices 0) = some [0] := by decide
  obtain ⟨n, hn, hlist⟩ :=
    System.exists_of_exec (System.ReachableVia.init rfl) (fun _ _ _ => trivial) hrun
  refine ⟨n, ?_, ?_⟩
  · rw [((publish_delivers_once hn 0 0).2.2 "tick").1, hlist]
    decide
  · rw [((publish_delivers_once hn 0 1).2.2 "tick").1, hlist]
    decide

end Services

end Kufibot
