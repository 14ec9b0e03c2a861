import Kufibot.Lib.System
import Kufibot.Services.Expression

/-!
# `Services.ExpressionQueue` — what the robot says, and what it does not get to

Responses and requests to speak are queued for `service_function`, which waits for a notification, empties
the queue, and waits again. A delivery pushes and notifies under `_dataMutex`, the wait is under
`_llmResponseQueueMutex` and has no predicate: a notification that comes between the last test of the queue
and the wait is lost, and the item stays in the queue until the next one.

`expression_queue_iff` shows that the items are processed in the order of their arrival, each once, whatever
the interleaving is, and that the queue is empty whenever the loop is blocked as long as no item is delivered
in that gap, which is the exact condition.
-/

namespace Kufibot

open Lib

/-- `std::variant<LLMResponseData, std::string>`. -/
inductive SpeakingItem where
  | response (data : LLMResponseData)
  | text (speakText : String)

/-- The deliveries that have to do with the queue; `none` is a null pointer. -/
inductive ExpressionMessage where
  | llmResponse (data : Option LLMResponseData)
  | speakRequest (text : Option String)

/-- Where `service_function` is. `woken` is the wait after a notification, before it returns. -/
inductive ExpressionPc where
  | enterWait
  | blocked
  | woken
  | testEmpty
  | processFront
  | popFront
deriving DecidableEq, Repr

/-- The running service. `spoken` are the texts that a thread of `speakText` was started for; `delivered`
    and `processed` only record what happens. -/
structure ExpressionLoop where
  pc : ExpressionPc := .enterWait
  speakingQueue : List SpeakingItem := []
  service : ExpressionService
  spoken : List String := []
  delivered : List SpeakingItem := []
  processed : List SpeakingItem := []

/-- A delivery, a step of the loop, and a wait that returns without a notification. -/
inductive ExpressionAction where
  | deliver (message : ExpressionMessage)
  | loop
  | spuriousWake

namespace ExpressionMessage

/-- What is pushed, if there is data. -/
def item : ExpressionMessage → Option SpeakingItem
  | llmResponse data => data.map .response
  | speakRequest text => text.map .text

end ExpressionMessage

namespace SpeakingItem

/-- The texts that are spoken for an item. -/
def sentences : SpeakingItem → List String
  | response data => if data.sentence = "" then [] else [data.sentence]
  | text speakText => [speakText]

/-- The gestures that are made for an item. -/
def gestures (service : ExpressionService) : SpeakingItem → ExpressionService
  | response data => if data.sentence = "" then service else service.makeMimic data
  | text _ => service

end SpeakingItem

namespace ExpressionLoop

/-- `_condVar.notify_one()`: nobody may be waiting. -/
def notifyOne (s : ExpressionLoop) : ExpressionLoop :=
  if s.pc = .blocked then { s with pc := .woken } else s

/-- `subcribed_data_receive`, for the two messages. -/
def subcribedDataReceive (message : ExpressionMessage) (s : ExpressionLoop) : ExpressionLoop :=
  match message.item with
  | none => s
  | some item =>
      { s with
        speakingQueue := s.speakingQueue ++ [item]
        delivered := s.delivered ++ [item] }.notifyOne

/-- The body of the inner loop up to the pop. The wait until nothing is spoken changes nothing here. -/
def process (item : SpeakingItem) (s : ExpressionLoop) : ExpressionLoop :=
  { s with
    service := item.gestures s.service
    spoken := s.spoken ++ item.sentences
    processed := s.processed ++ [item] }

/-- One step of `service_function`. -/
def loopStep (s : ExpressionLoop) : Option ExpressionLoop :=
  match s.pc with
  | .enterWait => some { s with pc := .blocked }
  | .blocked => none
  | .woken => some { s with pc := .testEmpty }
  | .testEmpty => some { s with pc := if s.speakingQueue.isEmpty then .enterWait else .processFront }
  | .processFront => s.speakingQueue.head?.map fun item => { s.process item with pc := .popFront }
  | .popFront => some { s with speakingQueue := s.speakingQueue.tail, pc := .testEmpty }

def step (s : ExpressionLoop) : ExpressionAction → Option ExpressionLoop
  | .deliver message => some (s.subcribedDataReceive message)
  | .loop => s.loopStep
  | .spuriousWake => if s.pc = .blocked then some { s with pc := .testEmpty } else none

/-- The thread has just been started. -/
def initial (service : ExpressionService) : ExpressionLoop := { service }

def system (service : ExpressionService) : System ExpressionLoop ExpressionAction where
  init s := s = initial service
  step := step

/-- Everything a delivery can do. -/
theorem subcribedDataReceive_eq (message : ExpressionMessage) (s : ExpressionLoop) :
    s.subcribedDataReceive message = { s with
      pc := if message.item.isSome ∧ s.pc = .blocked then .woken else s.pc
      speakingQueue := s.speakingQueue ++ message.item.toList
      delivered := s.delivered ++ message.item.toList } := by
  unfold subcribedDataReceive
  cases message.item with
  | none => simp
  | some item =>
      by_cases h : s.pc = .blocked
      · simp [notifyOne, h]
      · simp [notifyOne, h]

/-- **What a step can do.** -/
inductive Stepped (s : ExpressionLoop) : ExpressionAction → ExpressionLoop → Prop where
  | deliver (message : ExpressionMessage) : Stepped s (.deliver message) { s with
      pc := if message.item.isSome ∧ s.pc = .blocked then .woken else s.pc
      speakingQueue := s.speakingQueue ++ message.item.toList
      delivered := s.delivered ++ message.item.toList }
  | enterWait (hpc : s.pc = .enterWait) : Stepped s .loop { s with pc := .blocked }
  | wake (hpc : s.pc = .woken) : Stepped s .loop { s with pc := .testEmpty }
  | empty (hpc : s.pc = .testEmpty) (hqueue : s.speakingQueue = []) :
      Stepped s .loop { s with pc := .enterWait }
  | nonempty (hpc : s.pc = .testEmpty) (hqueue : s.speakingQueue ≠ []) :
      Stepped s .loop { s with pc := .processFront }
  | process (hpc : s.pc = .processFront) {item : SpeakingItem} {rest : List SpeakingItem}
      (hqueue : s.speakingQueue = item :: rest) : Stepped s .loop { s.process item with pc := .popFront }
  | pop (hpc : s.pc = .popFront) :
      Stepped s .loop { s with speakingQueue := s.speakingQueue.tail, pc := .testEmpty }
  | spuriousWake (hpc : s.pc = .blocked) : Stepped s .spuriousWake { s with pc := .testEmpty }

theorem stepped_of_step {s t : ExpressionLoop} {a : ExpressionAction} (h : s.step a = some t) :
    Stepped s a t := by
  cases a with
  | deliver message =>
      cases h
      rw [subcribedDataReceive_eq]
      exact .deliver message
  | spuriousWake =>
      by_cases hpc : s.pc = .blocked
      · cases (if_pos hpc).symm.trans h
        exact .spuriousWake hpc
      · cases (if_neg hpc).symm.trans h
  | loop =>
      change s.loopStep = some t at h
      unfold loopStep at h
      cases hpc : s.pc with
      | enterWait => rw [hpc] at h; cases h; exact .enterWait hpc
      | blocked => rw [hpc] at h; cases h
      | woken => rw [hpc] at h; cases h; exact .wake hpc
      | popFront => rw [hpc] at h; cases h; exact .pop hpc
      | testEmpty =>
          rw [hpc] at h
          by_cases hqueue : s.speakingQueue = []
          · rw [if_pos (List.isEmpty_iff.mpr hqueue)] at h
            cases h
            exact .empty hpc hqueue
          · rw [if_neg (mt List.isEmpty_iff.mp hqueue)] at h
            cases h
            exact .nonempty hpc hqueue
      | processFront =>
          rw [hpc] at h
          obtain ⟨item, hhead, rfl⟩ := Option.map_eq_some_iff.mp h
          obtain ⟨rest, hqueue⟩ := List.head?_eq_some_iff.mp hhead
          exact .process hpc hqueue

/-! ## Every item once, in the order of arrival -/

/-- The items that are still to be processed: the one that is popped next has been. -/
def unprocessed (s : ExpressionLoop) : List SpeakingItem :=
  if s.pc = .popFront then s.speakingQueue.tail else s.speakingQueue

/-- **Every item once, in order**: what was delivered is what was processed, followed by what is still in
    the queue, and the robot said and did what the processed items ask for, in their order. -/
structure InOrder (service : ExpressionService) (s : ExpressionLoop) : Prop where
  conserved : s.delivered = s.processed ++ s.unprocessed
  spoken : s.spoken = s.processed.flatMap SpeakingItem.sentences
  gestures : s.service = s.processed.foldl SpeakingItem.gestures service

/-- Between the test and the pop there is an item at the front. -/
def HasFront (s : ExpressionLoop) : Prop :=
  s.pc = .processFront ∨ s.pc = .popFront → s.speakingQueue ≠ []

variable {service : ExpressionService}

theorem HasFront.step {s t : ExpressionLoop} {a : ExpressionAction} (h : s.HasFront)
    (hstep : Stepped s a t) : t.HasFront := by
  cases hstep with
  | deliver message =>
      intro hpc hempty
      refine h ?_ (List.append_eq_nil_iff.mp hempty).1
      by_cases hblocked : message.item.isSome ∧ s.pc = .blocked
      · simp [hblocked] at hpc
      · simpa [hblocked] using hpc
  | nonempty hpc hqueue => exact fun _ => hqueue
  | process hpc hqueue => exact fun _ => h (.inl hpc)
  | enterWait | wake | empty | pop | spuriousWake => exact fun hpc => by simp at hpc

theorem InOrder.conserved_of_ne {s : ExpressionLoop} (h : s.InOrder service) (hpc : s.pc ≠ .popFront) :
    s.delivered = s.processed ++ s.speakingQueue := by
  rw [h.conserved, unprocessed, if_neg hpc]

/-- The step lemma: only the processing of an item takes it off what is unprocessed. -/
theorem InOrder.step {s t : ExpressionLoop} {a : ExpressionAction} (h : s.InOrder service)
    (hfront : s.HasFront) (hstep : Stepped s a t) : t.InOrder service := by
  cases hstep with
  | deliver message =>
      refine ⟨?_, h.spoken, h.gestures⟩
      show s.delivered ++ message.item.toList = s.processed ++ _
      rw [h.conserved, List.append_assoc]
      refine congrArg (s.processed ++ ·) ?_
      unfold unprocessed
      by_cases hpop : s.pc = .popFront
      · simp [hpop, List.tail_append_of_ne_nil (hfront (.inr hpop))]
      · by_cases hblocked : message.item.isSome ∧ s.pc = .blocked
        · simp [hblocked]
        · simp [hpop, hblocked]
  | @process hpc item rest hqueue =>
      refine ⟨?_, ?_, ?_⟩
      · show s.delivered = (s.processed ++ [item]) ++ s.speakingQueue.tail
        rw [h.conserved_of_ne (by rw [hpc]; decide), hqueue, List.tail_cons, List.append_assoc,
          List.singleton_append]
      · show s.spoken ++ item.sentences = (s.processed ++ [item]).flatMap _
        rw [h.spoken, List.flatMap_append, List.flatMap_singleton]
      · show item.gestures s.service = (s.processed ++ [item]).foldl _ service
        rw [h.gestures, List.foldl_append]
        rfl
  | pop hpc =>
      refine ⟨?_, h.spoken, h.gestures⟩
      have hconserved := h.conserved
      rw [unprocessed, if_pos hpc] at hconserved
      exact hconserved
  | enterWait hpc | wake hpc | empty hpc | nonempty hpc | spuriousWake hpc =>
      exact ⟨h.conserved_of_ne (by rw [hpc]; decide), h.spoken, h.gestures⟩

theorem initial_inOrder (service : ExpressionService) : (initial service).InOrder service :=
  ⟨rfl, rfl, rfl⟩

/-- In every state of every run. -/
theorem inOrder_of_run {s t : ExpressionLoop} {tr : List (ExpressionLoop × ExpressionAction)}
    (hs : (system service).init s) (hrun : (system service).Run s tr t) :
    ∀ u ∈ System.visited tr t, u.InOrder service := by
  have hinit : s.InOrder service ∧ s.HasFront := by
    cases hs
    exact ⟨initial_inOrder service, fun h => by simp [initial] at h⟩
  have hstep : ∀ s a t, s.InOrder service ∧ s.HasFront → (fun _ _ => True : _ → ExpressionAction → Prop) s a →
      (system service).step s a = some t → t.InOrder service ∧ t.HasFront :=
    fun _ _ _ h _ hst => ⟨h.1.step h.2 (stepped_of_step hst), h.2.step (stepped_of_step hst)⟩
  exact fun u hu => (hrun.invariantVia hstep hinit (fun _ _ => trivial) u hu).1

/-! ## The missed notification -/

/-- **Served**: a blocked loop has nothing to do. -/
def Served (s : ExpressionLoop) : Prop := s.pc = .blocked → s.speakingQueue = []

/-- The item does not come between the last test of the queue, or the start, and the wait. -/
def Timely (s : ExpressionLoop) : ExpressionAction → Prop
  | .deliver message => message.item = none ∨ s.pc ≠ .enterWait
  | .loop | .spuriousWake => True

/-- Nothing is in the queue on the way to the wait, and in it. -/
def NothingMissed (s : ExpressionLoop) : Prop :=
  s.pc = .enterWait ∨ s.pc = .blocked → s.speakingQueue = []

theorem NothingMissed.step {s t : ExpressionLoop} {a : ExpressionAction} (h : s.NothingMissed)
    (htimely : Timely s a) (hstep : Stepped s a t) : t.NothingMissed := by
  cases hstep with
  | deliver message =>
      cases hitem : message.item with
      | none =>
          intro hpc
          simpa using h (by simpa using hpc)
      | some item =>
          have hpc := htimely.resolve_left (by rw [hitem]; exact Option.some_ne_none item)
          intro hnext
          exfalso
          by_cases hblocked : s.pc = .blocked
          · simp [hblocked] at hnext
          · simp [hblocked, hpc] at hnext
  | enterWait hpc => exact fun _ => h (.inl hpc)
  | empty hpc hqueue => exact fun _ => hqueue
  | wake | nonempty | process | pop | spuriousWake => exact fun hpc => by simp at hpc

theorem nothingMissed_of_run {s t : ExpressionLoop} {tr : List (ExpressionLoop × ExpressionAction)}
    (hs : (system service).init s) (hrun : (system service).Run s tr t) (htimely : ∀ x ∈ tr, Timely x.1 x.2) :
    ∀ u ∈ System.visited tr t, u.NothingMissed := by
  have hinit : s.NothingMissed := by
    cases hs
    exact fun _ => rfl
  exact hrun.invariantVia (fun _ _ _ h hok hst => h.step hok (stepped_of_step hst)) hinit htimely

/-- In the gap, the loop goes on to block with what is in the queue. -/
theorem step_in_gap {s t : ExpressionLoop} {a : ExpressionAction} (hpc : s.pc = .enterWait)
    (hqueue : s.speakingQueue ≠ []) (hstep : Stepped s a t) :
    ¬t.Served ∨ t.pc = .enterWait ∧ t.speakingQueue ≠ [] := by
  cases hstep with
  | deliver message =>
      refine .inr ⟨?_, fun h => hqueue (List.append_eq_nil_iff.mp h).1⟩
      show (if _ then _ else s.pc) = _
      rw [hpc, if_neg fun h => (nomatch h.2)]
  | enterWait => exact .inl fun hserved => hqueue (hserved rfl)
  | wake h | empty h | nonempty h | process h | pop h | spuriousWake h => cases hpc.symm.trans h

/-- A delivery that is not timely is one of an item in the gap. -/
theorem step_not_timely {s t : ExpressionLoop} {a : ExpressionAction} (htimely : ¬Timely s a)
    (hstep : Stepped s a t) : t.pc = .enterWait ∧ t.speakingQueue ≠ [] := by
  cases hstep with
  | deliver message =>
      obtain ⟨hitem, hpc⟩ := not_or.mp htimely
      rw [not_not] at hpc
      obtain ⟨item, hitem⟩ := Option.ne_none_iff_exists'.mp hitem
      refine ⟨?_, ?_⟩
      · show (if _ then _ else s.pc) = _
        rw [hpc, if_neg fun h => (nomatch h.2)]
      · show s.speakingQueue ++ message.item.toList ≠ []
        rw [hitem]
        exact List.append_ne_nil_of_right_ne_nil _ (List.cons_ne_nil item [])
  | enterWait | wake | empty | nonempty | process | pop | spuriousWake => exact absurd trivial htimely

/-- **The notification is lost**: after a delivery in the gap, the loop is still there with a queue that is
    not empty, or it was blocked with one. -/
theorem missed_of_run {s t : ExpressionLoop} {tr : List (ExpressionLoop × ExpressionAction)}
    (hrun : (system service).Run s tr t) (hmissed : ∃ x ∈ tr, ¬Timely x.1 x.2) :
    (∃ u ∈ System.visited tr t, ¬u.Served) ∨ t.pc = .enterWait ∧ t.speakingQueue ≠ [] := by
  induction hrun with
  | nil =>
      obtain ⟨x, hx, -⟩ := hmissed
      cases hx
  | @snoc tr t u a hrun hst ih =>
      have hstep := stepped_of_step hst
      rw [System.visited_snoc]
      by_cases hbefore : ∃ x ∈ tr, ¬Timely x.1 x.2
      · rcases ih hbefore with ⟨v, hv, hbad⟩ | ⟨hpc, hqueue⟩
        · exact .inl ⟨v, List.mem_append_left _ hv, hbad⟩
        · rcases step_in_gap hpc hqueue hstep with hbad | hgap
          · exact .inl ⟨u, List.mem_append_right _ (List.mem_singleton.mpr rfl), hbad⟩
          · exact .inr hgap
      · obtain ⟨x, hx, hx'⟩ := hmissed
        rcases List.mem_append.mp hx with hx | hx
        · exact absurd ⟨x, hx, hx'⟩ hbefore
        · cases List.mem_singleton.mp hx
          exact .inr (step_not_timely hx' hstep)

/-- **The expression queue, exactly.** In every run of deliveries and steps of the loop, in any order, every
    item is processed once, in the order of arrival. If no item is delivered between the last test of the
    queue and the wait, the queue is empty whenever the loop is blocked; and in a run that does not end in
    this gap only then. -/
theorem expression_queue_iff {s t : ExpressionLoop} {tr : List (ExpressionLoop × ExpressionAction)}
    (hs : (system service).init s) (hrun : (system service).Run s tr t) :
    (∀ u ∈ System.visited tr t, u.InOrder service) ∧
      ((∀ x ∈ tr, Timely x.1 x.2) → ∀ u ∈ System.visited tr t, u.Served) ∧
      (t.pc ≠ .enterWait →
        ((∀ u ∈ System.visited tr t, u.Served) ↔ ∀ x ∈ tr, Timely x.1 x.2)) := by
  have hserved : (∀ x ∈ tr, Timely x.1 x.2) → ∀ u ∈ System.visited tr t, u.Served :=
    fun htimely u hu hpc => nothingMissed_of_run hs hrun htimely u hu (.inr hpc)
  refine ⟨inOrder_of_run hs hrun, hserved, fun hend => ⟨fun h => ?_, hserved⟩⟩
  by_contra htimely
  obtain ⟨x, hx, hmissed⟩ := not_forall₂.mp htimely
  rcases missed_of_run hrun ⟨x, hx, hmissed⟩ with ⟨u, hu, hbad⟩ | ⟨hpc, -⟩
  · exact hbad (h u hu)
  · exact hend hpc

/-- A service that is not configured. -/
def unconfigured : ExpressionService :=
  ⟨fun _ _ => none, fun _ => none, fun _ => none, ExpressionService.idleJointPositions, []⟩

/-- A request that finds the loop waiting is spoken, and the queue is empty when it waits again. -/
theorem waiting_request_spoken : ∃ tr t, (system unconfigured).Run (initial unconfigured) tr t ∧
    t.pc = .blocked ∧ t.spoken = ["merhaba"] ∧ t.InOrder unconfigured ∧
    ∀ u ∈ System.visited tr t, u.Served := by
  have hrun := ((((((((System.Run.nil (M := system unconfigured) (s := initial unconfigured)).snoc
    (a := .loop) rfl).snoc (a := .deliver (.speakRequest (some "merhaba"))) rfl).snoc (a := .loop) rfl).snoc
    (a := .loop) rfl).snoc (a := .loop) rfl).snoc (a := .loop) rfl).snoc (a := .loop) rfl).snoc
    (a := .loop) rfl
  obtain ⟨horder, hserved, -⟩ := expression_queue_iff rfl hrun
  refine ⟨_, _, hrun, rfl, rfl, horder _ (by simp [System.visited]), hserved ?_⟩
  simp [Timely, initial]

/-- **A missed notification**: a request that arrives before the loop waits for the first time stays in the
    queue. -/
theorem early_request_missed : ∃ s, (system unconfigured).Reachable s ∧ s.pc = .blocked ∧ ¬s.Served := by
  have hexec : ((system unconfigured).exec (initial unconfigured)
      [.deliver (.speakRequest (some "merhaba")), .loop]).map
        (fun s => (s.pc, s.speakingQueue.length)) = some (.blocked, 1) := rfl
  obtain ⟨s, hs, hstate⟩ := System.exists_of_exec
    (.init rfl : (system unconfigured).Reachable _) (fun _ _ _ => trivial) hexec
  simp only [Prod.mk.injEq] at hstate
  refine ⟨s, hs, hstate.1, fun hserved => ?_⟩
  rw [hserved hstate.1] at hstate
  exact absurd hstate.2 (by decide)

end ExpressionLoop

end Kufibot
