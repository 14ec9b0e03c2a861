import Kufibot.StateMachine.Transition

/-!
# `StateMachine.Balance` — sequences of entries and exits that balance

For a state object, `onEnter` and `onExit` should alternate, starting with `onEnter`, and the state
objects that are open should be those of one chain (`Balanced`). Leaving a whole chain and entering
another one keeps this (`balanced_switch`).
-/

namespace Kufibot

variable {σ : Type*}

/-- The state object that is called. -/
def Call.state : Call σ → σ
  | .onEnter s => s
  | .onExit s => s

/-- `onEnter`, `onExit`, `onEnter`, and so on: `n` calls. -/
def alternating (s : σ) (n : Nat) : List (Call σ) :=
  (List.range n).map fun i => if i % 2 = 0 then .onEnter s else .onExit s

theorem alternating_succ (s : σ) (n : Nat) :
    alternating s (n + 1) = alternating s n ++ [if n % 2 = 0 then .onEnter s else .onExit s] := by
  simp [alternating, List.range_succ]

variable [DecidableEq σ]

/-- The calls of one state object. -/
def callsOf (s : σ) (calls : List (Call σ)) : List (Call σ) := calls.filter (·.state = s)

/-- The calls of the state object alternate, starting with `onEnter`. -/
def Alternate (s : σ) (calls : List (Call σ)) : Prop :=
  callsOf s calls = alternating s (callsOf s calls).length

/-- The state object has been entered and not exited since. -/
def IsOpen (s : σ) (calls : List (Call σ)) : Prop := (callsOf s calls).length % 2 = 1

/-- **Balance** of one state object: its calls alternate, and it is open iff it is in the chain. -/
def Balanced (s : σ) (calls : List (Call σ)) (chain : List σ) : Prop :=
  Alternate s calls ∧ (IsOpen s calls ↔ s ∈ chain)

instance (s : σ) (calls : List (Call σ)) (chain : List σ) : Decidable (Balanced s calls chain) :=
  inferInstanceAs (Decidable (callsOf s calls = _ ∧ ((callsOf s calls).length % 2 = 1 ↔ s ∈ chain)))

theorem callsOf_append (s : σ) (xs ys : List (Call σ)) :
    callsOf s (xs ++ ys) = callsOf s xs ++ callsOf s ys :=
  List.filter_append ..

/-- In a list without repetitions a state object is called at most once. -/
theorem callsOf_map {f : σ → Call σ} (hf : ∀ x, (f x).state = x) {chain : List σ}
    (hchain : chain.Nodup) (s : σ) : callsOf s (chain.map f) = if s ∈ chain then [f s] else [] := by
  induction chain with
  | nil => rfl
  | cons x chain ih =>
      obtain ⟨hx, hchain⟩ := List.nodup_cons.mp hchain
      have ih := ih hchain
      rw [callsOf] at ih ⊢
      rw [List.map_cons, List.filter_cons, hf, ih]
      by_cases hs : x = s
      · subst hs; simp [hx]
      · simp [hs, Ne.symm hs]

theorem alternate_append_nil {s : σ} {xs ys : List (Call σ)} (h : Alternate s xs)
    (hys : callsOf s ys = []) : Alternate s (xs ++ ys) ∧ (IsOpen s (xs ++ ys) ↔ IsOpen s xs) := by
  rw [Alternate, IsOpen, callsOf_append, hys, List.append_nil]
  exact ⟨h, Iff.rfl⟩

/-- One more call of the state object, the one whose turn it is. -/
theorem alternate_append_singleton {s : σ} {xs ys : List (Call σ)} {call : Call σ}
    (h : Alternate s xs) (hys : callsOf s ys = [call])
    (hcall : call = if (callsOf s xs).length % 2 = 0 then .onEnter s else .onExit s) :
    Alternate s (xs ++ ys) ∧ (IsOpen s (xs ++ ys) ↔ ¬ IsOpen s xs) := by
  simp only [Alternate, IsOpen, callsOf_append, hys, List.length_append, List.length_singleton]
  constructor
  · rw [alternating_succ, ← hcall, ← h]
  · omega

theorem Balanced.congr {s : σ} {calls : List (Call σ)} {chain chain' : List σ}
    (h : Balanced s calls chain) (hchain : s ∈ chain ↔ s ∈ chain') : Balanced s calls chain' :=
  ⟨h.1, h.2.trans hchain⟩

/-- **A switch keeps the balance**: everything on the old chain is exited, then everything on the new one
    is entered. -/
theorem balanced_switch {s : σ} {calls : List (Call σ)} {exits enters : List σ}
    (h : Balanced s calls exits) (hexits : exits.Nodup) (henters : enters.Nodup) :
    Balanced s (calls ++ exits.map .onExit ++ enters.map .onEnter) enters := by
  obtain ⟨halt, hopen⟩ := h
  -- after the exits nothing is open: what was open was on the old chain
  have hexited : Alternate s (calls ++ exits.map .onExit) ∧
      ¬ IsOpen s (calls ++ exits.map .onExit) := by
    have hcalls := callsOf_map (f := Call.onExit) (fun _ => rfl) hexits s
    by_cases hs : s ∈ exits
    · rw [if_pos hs] at hcalls
      have hodd : (callsOf s calls).length % 2 = 1 := hopen.mpr hs
      have hnext := alternate_append_singleton halt hcalls (by rw [hodd]; rfl)
      exact ⟨hnext.1, fun ho => hnext.2.mp ho hodd⟩
    · rw [if_neg hs] at hcalls
      have hnext := alternate_append_nil halt hcalls
      exact ⟨hnext.1, fun ho => hs (hopen.mp (hnext.2.mp ho))⟩
  -- so the entries are due, and open the new chain
  obtain ⟨halt, hclosed⟩ := hexited
  have hcalls := callsOf_map (f := Call.onEnter) (fun _ => rfl) henters s
  by_cases hs : s ∈ enters
  · rw [if_pos hs] at hcalls
    have heven : (callsOf s (calls ++ exits.map .onExit)).length % 2 = 0 := by
      have hodd : ¬ (callsOf s (calls ++ exits.map .onExit)).length % 2 = 1 := hclosed
      omega
    have hnext := alternate_append_singleton halt hcalls (by rw [heven]; rfl)
    exact ⟨hnext.1, iff_of_true (hnext.2.mpr hclosed) hs⟩
  · rw [if_neg hs] at hcalls
    have hnext := alternate_append_nil halt hcalls
    exact ⟨hnext.1, iff_of_false (fun ho => hclosed (hnext.2.mp ho)) hs⟩

end Kufibot
