import Kufibot.Lib.Forest

/-!
# `StateMachine.Transition` — `transition` and `dispatch` of the hierarchical state machine

The state objects are a forest (`_parentState`) with three callbacks each. What the callbacks read and
write, `StateMachine`'s queue and timers included, is an environment `Ω`; `_currentState` is apart from
it, because no callback of the source touches it. A callback returns `none` for `std::nullopt` and
`some s` for a state object.

`calls` is a ghost: every call of `onEnter` and `onExit` in the order they happen.
-/

namespace Kufibot

open Lib

/-- The callbacks of the state objects, and `_running`. The result of `onExit` is not used. -/
structure Handlers (σ ε Ω : Type*) where
  onEnter : σ → ε → Ω → Option σ × Ω
  onEvent : σ → ε → Ω → Option σ × Ω
  onExit : σ → ε → Ω → Ω
  running : Ω → Bool

/-- A call that opens or closes a state. -/
inductive Call (σ : Type*) where
  | onEnter (s : σ)
  | onExit (s : σ)
deriving DecidableEq, Repr

structure StateMachine (σ Ω : Type*) where
  currentState : Option σ
  env : Ω
  calls : List (Call σ) := []

namespace Handlers

variable {σ ε Ω : Type*} (H : Handlers σ ε Ω)

/-- No `onEnter` redirects: each returns nothing or the state itself. -/
def NoRedirect : Prop := ∀ s ev env, (H.onEnter s ev env).1 = none ∨ (H.onEnter s ev env).1 = some s

/-! ## Calling one callback -/

def callOnEnter (s : σ) (ev : ε) (m : StateMachine σ Ω) : Option σ × StateMachine σ Ω :=
  let r := H.onEnter s ev m.env
  (r.1, { m with env := r.2, calls := m.calls ++ [.onEnter s] })

def callOnExit (s : σ) (ev : ε) (m : StateMachine σ Ω) : StateMachine σ Ω :=
  { m with env := H.onExit s ev m.env, calls := m.calls ++ [.onExit s] }

def callOnEvent (s : σ) (ev : ε) (m : StateMachine σ Ω) : Option σ × StateMachine σ Ω :=
  let r := H.onEvent s ev m.env
  (r.1, { m with env := r.2 })

/-! ## `transition` -/

variable [DecidableEq σ]

/-- The loop that compares two chains from their roots on. -/
def lcaLoop : List σ → List σ → Option σ → Option σ
  | x :: xs, y :: ys, lca => if x = y then lcaLoop xs ys (some x) else lca
  | _, _, lca => lca

/-- The lowest common ancestor of two chains, as `transition` computes it. -/
def lowestCommonAncestor (fromChain toChain : List σ) : Option σ :=
  lcaLoop fromChain.reverse toChain.reverse none

/-- `onExit` from the innermost state on, up to the lowest common ancestor. -/
def exitLoop (lca : Option σ) (cause : ε) : List σ → StateMachine σ Ω → StateMachine σ Ω
  | [], m => m
  | s :: rest, m => if some s = lca then m else exitLoop lca cause rest (H.callOnExit s cause m)

/-- The states to enter: the target's chain read from the root, up to the lowest common ancestor, or
    all of it when there is none. -/
def enterList (lca : Option σ) (toChain : List σ) : List σ :=
  match lca with
  | some l => toChain.reverse.takeWhile (fun s => s ≠ l)
  | none => toChain.reverse

/-- `onEnter` along the list. A state that answers with another one is not exited: the other one is
    entered too, its own answer is dropped, and it becomes the target. -/
def enterLoop (cause : ε) : List σ → σ → StateMachine σ Ω → σ × StateMachine σ Ω
  | [], toState, m => (toState, m)
  | s :: rest, toState, m =>
      match H.callOnEnter s cause m with
      | (none, m) => enterLoop cause rest toState m
      | (some r, m) =>
          if r = s then enterLoop cause rest toState m
          else enterLoop cause rest r (H.callOnEnter r cause m).2

variable (F : Forest σ)

/-- `StateMachine::transition`. At the end the new state handles the cause. -/
def transition (toState : Option σ) (cause : ε) (m : StateMachine σ Ω) : StateMachine σ Ω :=
  match toState with
  | none => m
  | some target =>
      if !H.running m.env then m
      else
        let fromChain := F.ancestors m.currentState
        let toChain := F.ancestors (some target)
        let lca := lowestCommonAncestor fromChain toChain
        let m := H.exitLoop lca cause fromChain m
        let entered := H.enterLoop cause (enterList lca toChain) target m
        (H.callOnEvent entered.1 cause { entered.2 with currentState := some entered.1 }).2

/-! ## `dispatch` -/

/-- Offer the event to the states of a chain until one answers. -/
def dispatchLoop (ev : ε) : List σ → StateMachine σ Ω → StateMachine σ Ω
  | [], m => m
  | s :: rest, m =>
      match H.callOnEvent s ev m with
      | (none, m) => dispatchLoop ev rest m
      | (some r, m) => if r = s then m else H.transition F (some r) ev m

/-- `StateMachine::dispatch`: the current state first, then its ancestors. -/
def dispatch (ev : ε) (m : StateMachine σ Ω) : StateMachine σ Ω :=
  H.dispatchLoop F ev (F.ancestors m.currentState) m

end Handlers

end Kufibot
