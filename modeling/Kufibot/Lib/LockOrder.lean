import Kufibot.Lib.System
import Mathlib.Logic.Relation

/-!
# `Lib.LockOrder` — threads that take locks in one order never wait in a circle

A thread runs a list of instructions: it takes and gives back locks, calls procedures, works, and waits for
what is no lock: a notification, a device, the network. Such a wait may be over at any time or never;
everything else goes on. A procedure has several bodies, and which one runs is left open, as is the order in
which the threads take their turns. A thread that takes a lock waits until no thread has it, itself included.
The end of a thread is a lock too, which it has from its first instruction to its last: who joins it takes the
lock and gives it back.

Let every lock have a rank and every procedure a level, and let the text of each thread and of each body take
a lock only if its rank is above those of the locks that are held there, and call a procedure only if its
level is (`Ordered`). The text of a body is checked on its own, from its level. One lock is the gate: the
thread that has it may also take locks of the same rank inside each other, in any order. Then in every state
that the threads can get into

* nobody waits for himself, over any number of others (`waits_acyclic`);
* whoever waits for a lock, waits in the end for a thread that can go on, or for one that waits for what is no
  lock (`exists_running`).
-/

namespace Lib.LockOrder

/-- An instruction, over locks `L` and procedures `P`. -/
inductive Instr (L P : Type*) where
  | acquire (l : L)
  | release (l : L)
  | call (p : P)
  /-- Anything else that takes its time. -/
  | work
  /-- A wait for what is no lock. -/
  | wait
deriving DecidableEq

/-- The locks that a thread has, the last one first, and what it still has to run. -/
structure Thread (L P : Type*) where
  held : List L
  rest : List (Instr L P)

/-- Who takes the next turn, and which body he runs if it is a call. -/
structure Scheduled (C : Type*) where
  index : Nat
  choice : C

variable {L P C : Type*}

/-! ## The order -/

section Order

variable (rank : L → Nat) (level : P → Nat) (gate : L)

/-- A lock may be taken while others are held: its rank is above theirs, or the gate is held too. -/
def Above (gated : Bool) (held : List L) (l : L) : Prop :=
  ∀ m ∈ held, rank m < rank l ∨ (rank m = rank l ∧ m ≠ l ∧ (gated = true ∨ gate ∈ held))

/-- **A text takes its locks in order**: above the rank `low`, each above those that are held, and gives them
    back in the reverse order, until none is held. It is `gated` if the gate is held around it. -/
def Ordered (gated : Bool) (low : Nat) : List L → List (Instr L P) → Prop
  | held, [] => held = []
  | held, .acquire l :: rest =>
      low < rank l ∧ Above rank gate gated held l ∧ Ordered gated low (l :: held) rest
  | held, .release l :: rest => ∃ held', held = l :: held' ∧ Ordered gated low held' rest
  | held, .call p :: rest => low ≤ level p ∧ (∀ m ∈ held, rank m ≤ level p) ∧ Ordered gated low held rest
  | held, .work :: rest | held, .wait :: rest => Ordered gated low held rest

/-- Every body is in order, above the level of its procedure. -/
def BodiesOrdered (body : P → C → List (Instr L P)) : Prop :=
  ∀ p choice, Ordered rank level gate false (level p) [] (body p choice)

variable {rank level gate} {gated gated' : Bool}

/-- A lock above those of a text is above those of the texts around it. -/
theorem Above.append {low : Nat} {held outer : List L} {l : L} (h : Above rank gate gated held l)
    (hl : low < rank l) (houter : ∀ m ∈ outer, rank m ≤ low)
    (hgate : gated = true → gated' = true ∨ gate ∈ outer) : Above rank gate gated' (held ++ outer) l := by
  intro m hm
  obtain hm | hm := List.mem_append.mp hm
  · obtain hlt | ⟨heq, hne, hgated⟩ := h m hm
    · exact .inl hlt
    · refine .inr ⟨heq, hne, ?_⟩
      obtain hgated | hmem := hgated
      · exact (hgate hgated).imp_right (List.mem_append_right _)
      · exact .inr (List.mem_append_left _ hmem)
  · exact .inl (Nat.lt_of_le_of_lt (houter m hm) hl)

/-- A text in front of another one, which has taken its locks before. -/
theorem Ordered.append {low low' : Nat} {held outer : List L} {code rest : List (Instr L P)}
    (h : Ordered rank level gate gated low held code) (houter : ∀ m ∈ outer, rank m ≤ low)
    (hgate : gated = true → gated' = true ∨ gate ∈ outer) (hlow : low' ≤ low)
    (hrest : Ordered rank level gate gated' low' outer rest) :
    Ordered rank level gate gated' low' (held ++ outer) (code ++ rest) := by
  induction code generalizing held with
  | nil =>
      obtain rfl : held = [] := h
      exact hrest
  | cons i code ih =>
      cases i with
      | acquire l =>
          obtain ⟨hl, habove, h⟩ := h
          exact ⟨Nat.lt_of_le_of_lt hlow hl, habove.append hl houter hgate, ih h⟩
      | release l =>
          obtain ⟨held', rfl, h⟩ := h
          exact ⟨held' ++ outer, rfl, ih h⟩
      | call p =>
          obtain ⟨hp, hheld, h⟩ := h
          exact ⟨Nat.le_trans hlow hp, List.forall_mem_append.mpr
            ⟨hheld, fun m hm => Nat.le_trans (houter m hm) hp⟩, ih h⟩
      | work | wait => exact ih h

/-- A text under a lock: `lock_guard`. -/
def locked (l : L) (code : List (Instr L P)) : List (Instr L P) := .acquire l :: (code ++ [.release l])

variable {low : Nat} {code rest : List (Instr L P)}

theorem ordered_nil : Ordered rank level gate gated low ([] : List L) ([] : List (Instr L P)) := rfl

theorem ordered_work : Ordered rank level gate gated low ([] : List L) [(.work : Instr L P)] := rfl

theorem ordered_wait : Ordered rank level gate gated low ([] : List L) [(.wait : Instr L P)] := rfl

/-- One text behind the other. -/
theorem Ordered.seq (h : Ordered rank level gate gated low [] code)
    (hrest : Ordered rank level gate gated low [] rest) :
    Ordered rank level gate gated low [] (code ++ rest) := by
  have hnone : ∀ m ∈ ([] : List L), rank m ≤ low := fun _ hm => absurd hm List.not_mem_nil
  exact h.append hnone .inl (Nat.le_refl _) hrest

/-- The text under a lock is gated if the lock is the gate. -/
theorem Ordered.locked {l : L} (hl : low < rank l) (hgate : gated' = true → gated = true ∨ gate = l)
    (h : Ordered rank level gate gated' (rank l) [] code) :
    Ordered rank level gate gated low [] (locked l code) := by
  have hrelease : Ordered rank level gate gated low [l] [(.release l : Instr L P)] := ⟨[], rfl, rfl⟩
  have hheld : ∀ m ∈ [l], rank m ≤ rank l := List.forall_mem_singleton.mpr (Nat.le_refl _)
  have hgated : gated' = true → gated = true ∨ gate ∈ [l] := fun hg =>
    (hgate hg).imp_right List.mem_singleton.mpr
  exact ⟨hl, (fun _ hm => absurd hm List.not_mem_nil), h.append hheld hgated (Nat.le_of_lt hl) hrelease⟩

/-- A lock under another one of the same rank, any number of times, behind the gate. -/
theorem ordered_locked_replicate {l m : L} (hl : low < rank l) (hrank : rank l = rank m) (hne : l ≠ m)
    (n : Nat) : Ordered rank level gate true low []
      (locked l (List.replicate n (locked m ([] : List (Instr L P)))).flatten) := by
  refine ⟨hl, (fun _ hm => absurd hm List.not_mem_nil), ?_⟩
  induction n with
  | zero => exact ⟨[], rfl, rfl⟩
  | succ n ih =>
      have habove : Above rank gate true [l] m := List.forall_mem_singleton.mpr (.inr ⟨hrank, hne, .inl rfl⟩)
      exact ⟨hrank ▸ hl, habove, [l], rfl, ih⟩

theorem ordered_call {p : P} (hp : low ≤ level p) : Ordered rank level gate gated low [] [.call p] :=
  ⟨hp, fun _ hm => absurd hm List.not_mem_nil, rfl⟩

theorem ordered_flatten {codes : List (List (Instr L P))}
    (h : ∀ code ∈ codes, Ordered rank level gate gated low [] code) :
    Ordered rank level gate gated low [] codes.flatten := by
  induction codes with
  | nil => rfl
  | cons code codes ih =>
      obtain ⟨hcode, hcodes⟩ := List.forall_mem_cons.mp h
      exact hcode.seq (ih hcodes)

/-- Any number of calls. -/
theorem ordered_calls {ps : List P} (h : ∀ p ∈ ps, low ≤ level p) :
    Ordered rank level gate gated low [] (ps.map .call) := by
  induction ps with
  | nil => rfl
  | cons p ps ih =>
      obtain ⟨hp, hps⟩ := List.forall_mem_cons.mp h
      exact (ordered_call hp).seq (ih hps)

end Order

/-! ## Waiting -/

/-- The lock that a thread is about to take. -/
def Thread.next (t : Thread L P) : Option L :=
  match t.rest with
  | .acquire l :: _ => some l
  | _ => none

/-- The thread `i` is about to take a lock that the thread `j` has. -/
def Waits (s : List (Thread L P)) (i j : Nat) : Prop :=
  ∃ t u l, s[i]? = some t ∧ s[j]? = some u ∧ t.next = some l ∧ l ∈ u.held

/-- The thread `i` waits for what is no lock. -/
def Pauses (s : List (Thread L P)) (i : Nat) : Prop := ∃ t rest, s[i]? = some t ∧ t.rest = .wait :: rest

/-- All threads are in order, and no two of them have the same lock. -/
structure AllOrdered (rank : L → Nat) (level : P → Nat) (gate : L) (s : List (Thread L P)) : Prop where
  ordered : ∀ t ∈ s, Ordered rank level gate false 0 t.held t.rest
  exclusive : ∀ {i j : Nat} {t u : Thread L P} {l : L}, s[i]? = some t → s[j]? = some u → l ∈ t.held →
    l ∈ u.held → i = j

variable {rank : L → Nat} {level : P → Nat} {gate : L} {s : List (Thread L P)} {t : Thread L P}

theorem rest_of_next {l : L} (h : t.next = some l) : ∃ rest, t.rest = .acquire l :: rest := by
  unfold Thread.next at h
  split at h
  · next rest hrest =>
    obtain rfl := Option.some.inj h
    exact ⟨rest, hrest⟩
  · cases h

variable [DecidableEq L]

/-- How far up a thread is that wants a lock: by the rank of this lock, and the one with the gate above the
    others. -/
def height (rank : L → Nat) (gate : L) (t : Thread L P) (l : L) : Nat :=
  2 * rank l + if gate ∈ t.held then 1 else 0

/-- Who waits for a thread is below it. -/
theorem height_lt_of_waits (hs : AllOrdered rank level gate s) {i j : Nat} (h : Waits s i j)
    {t u : Thread L P} {l m : L} (ht : s[i]? = some t) (hl : t.next = some l) (hu : s[j]? = some u)
    (hm : u.next = some m) : height rank gate t l < height rank gate u m := by
  obtain ⟨t', u', l', ht', hu', hl', hheld⟩ := h
  obtain rfl := Option.some.inj (ht.symm.trans ht')
  obtain rfl := Option.some.inj (hu.symm.trans hu')
  obtain rfl := Option.some.inj (hl.symm.trans hl')
  obtain ⟨rest, hrest⟩ := rest_of_next hm
  have hordered := hs.ordered u (List.mem_of_getElem? hu)
  rw [hrest] at hordered
  unfold height
  obtain hlt | ⟨heq, hne, hgated⟩ := hordered.2.1 l hheld
  · split <;> split <;> omega
  · -- the other thread has the gate, so this one has not
    have hgate : gate ∈ u.held := hgated.resolve_left Bool.false_ne_true
    have hnot : gate ∉ t.held := by
      intro hmem
      obtain rfl := hs.exclusive ht hu hmem hgate
      obtain rfl := Option.some.inj (ht.symm.trans hu)
      exact hne (Option.some.inj (hl.symm.trans hm))
    rw [if_pos hgate, if_neg hnot]
    omega

theorem height_lt_of_transGen (hs : AllOrdered rank level gate s) {i j : Nat}
    (h : Relation.TransGen (Waits s) i j) {t u : Thread L P} {l m : L} (ht : s[i]? = some t)
    (hl : t.next = some l) (hu : s[j]? = some u) (hm : u.next = some m) :
    height rank gate t l < height rank gate u m := by
  induction h generalizing u m with
  | single h => exact height_lt_of_waits hs h ht hl hu hm
  | tail _ h ih =>
      obtain ⟨v, _, k, hv, -, hk, -⟩ := id h
      exact Nat.lt_trans (ih hv hk) (height_lt_of_waits hs h hv hk hu hm)

/-- **Nobody waits for himself**, over any number of others. -/
theorem waits_acyclic (hs : AllOrdered rank level gate s) (i : Nat) :
    ¬ Relation.TransGen (Waits s) i i := by
  intro h
  have hwaits : ∃ j, Waits s i j := by
    obtain ⟨j, h, -⟩ := Relation.TransGen.head'_iff.mp h
    exact ⟨j, h⟩
  obtain ⟨j, t, u, l, ht, -, hl, -⟩ := hwaits
  exact Nat.lt_irrefl _ (height_lt_of_transGen hs h ht hl ht hl)

/-! ## Threads -/

/-- Nobody has the lock. -/
def free (s : List (Thread L P)) (l : L) : Bool := s.all fun t => l ∉ t.held

/-- The next instruction of a thread; `came` says whether what it waits for has come. -/
def Thread.step (body : P → C → List (Instr L P)) (came : C → Bool) (s : List (Thread L P)) (choice : C)
    (t : Thread L P) : Option (Thread L P) :=
  match t.rest with
  | [] => none
  | .acquire l :: rest => if free s l then some ⟨l :: t.held, rest⟩ else none
  | .release l :: rest => some ⟨t.held.erase l, rest⟩
  | .call p :: rest => some ⟨t.held, body p choice ++ rest⟩
  | .work :: rest => some ⟨t.held, rest⟩
  | .wait :: rest => if came choice then some ⟨t.held, rest⟩ else none

def step (body : P → C → List (Instr L P)) (came : C → Bool) (s : List (Thread L P)) (turn : Scheduled C) :
    Option (List (Thread L P)) := do
  let t ← s[turn.index]?
  let t' ← t.step body came s turn.choice
  return s.set turn.index t'

/-- Any number of threads, which begin with one of the given texts. -/
def system (body : P → C → List (Instr L P)) (came : C → Bool) (text : List (Instr L P) → Prop) :
    System (List (Thread L P)) (Scheduled C) where
  init s := ∀ t ∈ s, t.held = [] ∧ text t.rest
  step := step body came

/-! ## Every state -/

variable {body : P → C → List (Instr L P)} {came : C → Bool} {t' : Thread L P}
  {text : List (Instr L P) → Prop}

/-- A step of a thread keeps it in order, and gives it no lock that somebody has. -/
theorem ordered_threadStep (hbody : BodiesOrdered rank level gate body) {choice : C}
    (h : Ordered rank level gate false 0 t.held t.rest) (hstep : t.step body came s choice = some t') :
    Ordered rank level gate false 0 t'.held t'.rest ∧
      ∀ l ∈ t'.held, l ∈ t.held ∨ free s l = true := by
  obtain ⟨held, rest⟩ := t
  cases rest with
  | nil => cases hstep
  | cons i rest =>
      cases i with
      | acquire l =>
          obtain ⟨-, -, h⟩ := h
          simp only [Thread.step, Option.ite_none_right_eq_some] at hstep
          obtain ⟨hfree, ht'⟩ := hstep
          cases ht'
          refine ⟨h, fun m hm => ?_⟩
          obtain rfl | hm := List.mem_cons.mp hm
          · exact .inr hfree
          · exact .inl hm
      | release l =>
          obtain ⟨held', rfl, h⟩ := h
          cases hstep
          exact ⟨by simpa using h, fun m hm => .inl (List.mem_of_mem_erase hm)⟩
      | call p =>
          obtain ⟨-, hheld, h⟩ := h
          cases hstep
          exact ⟨(hbody p choice).append hheld nofun (Nat.zero_le _) h, fun m hm => .inl hm⟩
      | work =>
          cases hstep
          exact ⟨h, fun m hm => .inl hm⟩
      | wait =>
          simp only [Thread.step, Option.ite_none_right_eq_some] at hstep
          obtain ⟨-, ht'⟩ := hstep
          cases ht'
          exact ⟨h, fun m hm => .inl hm⟩

theorem not_mem_of_free {l : L} (h : free s l = true) {i : Nat} (ht : s[i]? = some t) : l ∉ t.held :=
  of_decide_eq_true (List.all_eq_true.mp h t (List.mem_of_getElem? ht))

theorem AllOrdered.step (hbody : BodiesOrdered rank level gate body) (hs : AllOrdered rank level gate s)
    {turn : Scheduled C} {s' : List (Thread L P)} (hstep : step body came s turn = some s') :
    AllOrdered rank level gate s' := by
  obtain ⟨u, hu, hstep⟩ := Option.bind_eq_some_iff.mp hstep
  obtain ⟨u', hu', hset⟩ := Option.bind_eq_some_iff.mp hstep
  cases hset
  obtain ⟨hordered, hheld⟩ := ordered_threadStep hbody (hs.ordered u (List.mem_of_getElem? hu)) hu'
  have hcases : ∀ {j : Nat} {v : Thread L P}, (s.set turn.index u')[j]? = some v →
      (turn.index = j ∧ u' = v) ∨ (turn.index ≠ j ∧ s[j]? = some v) := by
    intro j v hv
    rw [List.getElem?_set] at hv
    split at hv
    · next hj =>
      split at hv
      · exact .inl ⟨hj, Option.some.inj hv⟩
      · cases hv
    · next hj => exact .inr ⟨hj, hv⟩
  -- a lock of the thread that has stepped is no lock of another one
  have hother : ∀ {j : Nat} {v : Thread L P} {l : L}, turn.index ≠ j → s[j]? = some v → l ∈ u'.held →
      l ∉ v.held := by
    intro j v l hj hv hl hmem
    obtain hold | hfree := hheld l hl
    · exact hj (hs.exclusive hu hv hold hmem)
    · exact not_mem_of_free hfree hv hmem
  refine ⟨fun v hv => ?_, fun hi hj hl hl' => ?_⟩
  · obtain hv | rfl := List.mem_or_eq_of_mem_set hv
    · exact hs.ordered v hv
    · exact hordered
  · obtain ⟨rfl, rfl⟩ | ⟨hi', hi⟩ := hcases hi <;> obtain ⟨hj', rfl⟩ | ⟨hj', hj⟩ := hcases hj
    · exact hj'
    · exact absurd hl' (hother hj' hj hl)
    · exact absurd hl (hother hi' hi hl')
    · exact hs.exclusive hi hj hl hl'

/-- In every state all threads are in order. -/
theorem allOrdered_of_reachable (hbody : BodiesOrdered rank level gate body)
    (htext : ∀ code, text code → Ordered rank level gate false 0 [] code)
    (h : (system body came text).Reachable s) : AllOrdered rank level gate s := by
  refine h.invariant (I := AllOrdered rank level gate) ?_ fun s turn s' hs _ hstep => hs.step hbody hstep
  intro s hinit
  refine ⟨fun t ht => ?_, fun hi _ hl => ?_⟩
  · obtain ⟨hheld, hcode⟩ := hinit t ht
    rw [hheld]
    exact htext _ hcode
  · rw [(hinit _ (List.mem_of_getElem? hi)).1] at hl
    cases hl

/-! ## Going on -/

/-- The thread can take its next turn, whatever it chooses. -/
def Runs (body : P → C → List (Instr L P)) (came : C → Bool) (s : List (Thread L P)) (j : Nat) : Prop :=
  ∀ choice, ∃ s', step body came s ⟨j, choice⟩ = some s'

/-- A thread that is not about to take a lock, or takes one that nobody has, can go on, unless it waits for
    what is no lock. -/
theorem runs_of_free {j : Nat} (ht : s[j]? = some t) (hrest : t.rest ≠ [])
    (hfree : ∀ l, t.next = some l → free s l = true) : Runs body came s j ∨ Pauses s j := by
  obtain ⟨held, rest⟩ := t
  have hruns : (∀ choice, ∃ t', Thread.step body came s choice ⟨held, rest⟩ = some t') →
      Runs body came s j := by
    intro hstep choice
    obtain ⟨t', ht'⟩ := hstep choice
    exact ⟨_, Option.bind_eq_some_iff.mpr ⟨_, ht, Option.bind_eq_some_iff.mpr ⟨t', ht', rfl⟩⟩⟩
  cases rest with
  | nil => exact absurd rfl hrest
  | cons i rest =>
      cases i with
      | acquire l => exact .inl (hruns fun _ => ⟨_, if_pos (hfree l rfl)⟩)
      | release l => exact .inl (hruns fun _ => ⟨_, rfl⟩)
      | call p => exact .inl (hruns fun _ => ⟨_, rfl⟩)
      | work => exact .inl (hruns fun _ => ⟨_, rfl⟩)
      | wait => exact .inr ⟨_, rest, ht, rfl⟩

/-- Somebody has a lock that is not free. -/
theorem exists_held {l : L} (h : free s l = false) :
    ∃ (j : Nat) (u : Thread L P), s[j]? = some u ∧ l ∈ u.held := by
  obtain ⟨u, hu, hheld⟩ := List.all_eq_false.mp h
  obtain ⟨j, hj⟩ := List.getElem?_of_mem hu
  exact ⟨j, u, hj, by simpa using hheld⟩

/-- **Whoever waits for a lock, waits in the end for a thread that can go on**, or for one that waits for what
    is no lock. -/
theorem exists_running {bound : Nat} (hbound : ∀ l, rank l ≤ bound) (hs : AllOrdered rank level gate s)
    {i : Nat} (ht : s[i]? = some t) (hrest : t.rest ≠ []) :
    ∃ j, Relation.ReflTransGen (Waits s) i j ∧ (Runs body came s j ∨ Pauses s j) := by
  -- the heights grow along the way
  have hheight : ∀ (t : Thread L P) l, height rank gate t l ≤ 2 * bound + 1 := fun t l => by
    have hl := hbound l
    unfold height
    split <;> omega
  suffices main : ∀ n i t, s[i]? = some t → t.rest ≠ [] →
      (∀ l, t.next = some l → 2 * bound + 1 - height rank gate t l < n) →
      ∃ j, Relation.ReflTransGen (Waits s) i j ∧ (Runs body came s j ∨ Pauses s j) from
    main (2 * bound + 2) i t ht hrest fun l _ => Nat.lt_succ_of_le (Nat.sub_le _ _)
  intro n
  induction n with
  | zero =>
      intro i t ht hrest hn
      exact ⟨i, .refl, runs_of_free ht hrest fun l hl => absurd (hn l hl) (Nat.not_lt_zero _)⟩
  | succ n ih =>
      intro i t ht hrest hn
      by_cases hfree : ∀ l, t.next = some l → free s l = true
      · exact ⟨i, .refl, runs_of_free ht hrest hfree⟩
      · push Not at hfree
        obtain ⟨l, hl, htaken⟩ := hfree
        obtain ⟨j, u, hu, hheld⟩ := exists_held (Bool.eq_false_iff.mpr htaken)
        have hwaits : Waits s i j := ⟨t, u, l, ht, hu, hl, hheld⟩
        -- who has a lock still has to give it back
        have hurest : u.rest ≠ [] := by
          intro hnil
          have hordered := hs.ordered u (List.mem_of_getElem? hu)
          rw [hnil] at hordered
          have hempty : u.held = [] := hordered
          rw [hempty] at hheld
          cases hheld
        obtain ⟨k, hk, hruns⟩ := ih j u hu hurest fun m hm => by
          have hlt := height_lt_of_waits hs hwaits ht hl hu hm
          have hle := hn l hl
          have hm := hheight u m
          omega
        exact ⟨k, .head hwaits hk, hruns⟩

end Lib.LockOrder
