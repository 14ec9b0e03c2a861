import Mathlib.Data.List.DropRight
import Kufibot.VoiceAgent.Debounce

/-!
# `VoiceAgent.Turn` — one turn, one message

`RobotBridgeProcessor` promises one message with the full text of a turn. It joins the frames of a flush
with spaces, and a turn that pauses for longer than the debounce is flushed more than once; so the promise
is kept exactly by the turns of one frame, as far as the text goes. The mimic is the last selection before
the flush, which is the turn's own if the turn selects nothing afterwards and nothing was left over from
before (`one_message_iff`).
-/

namespace Kufibot

open Lib

namespace DebouncedProcessor

variable {strip lower : String → String}

/-- Silence: nothing is buffered and no task is under way. -/
def Quiet (s : DebouncedProcessor) : Prop :=
  s.processor.buffer = [] ∧ ∀ task ∈ s.tasks, task.phase = .finished

/-- The texts of a turn. -/
def texts (actions : List DebounceAction) : List String :=
  actions.filterMap fun
    | .textFrame text => some text
    | _ => none

/-- The calls of the tool in a turn. -/
def calls (actions : List DebounceAction) : List MimicArguments :=
  actions.filterMap fun
    | .setMimic arguments => some arguments
    | _ => none

def isResume : DebounceAction → Bool
  | .resume _ => true
  | _ => false

/-- What comes before the last resumption of a task, which is the one that flushes. -/
def beforeFlush (actions : List DebounceAction) : List DebounceAction :=
  (actions.rdropWhile fun action => !isResume action).dropLast

/-- **The promise**: the turn sends one message, with its text and with the mimic it selected. -/
def OneMessage (strip lower : String → String) (s : DebouncedProcessor) (actions : List DebounceAction)
    (t : DebouncedProcessor) : Prop :=
  ∃ payload, t.processor.sent = s.processor.sent ++ [payload] ∧
    flushPayload (String.join (texts actions))
      (pendingOf (lastSelection strip lower (calls actions))) = some payload

theorem beforeFlush_concat (actions : List DebounceAction) (action : DebounceAction) :
    beforeFlush (actions ++ [action]) =
      if isResume action then actions else beforeFlush actions := by
  unfold beforeFlush
  rw [List.rdropWhile_concat]
  cases isResume action <;> simp

theorem texts_append (as bs : List DebounceAction) : texts (as ++ bs) = texts as ++ texts bs :=
  List.filterMap_append

theorem calls_append (as bs : List DebounceAction) : calls (as ++ bs) = calls as ++ calls bs :=
  List.filterMap_append

/-! ## The mimic of a payload -/

theorem sentence_of_flushPayload {fullText : String} {gesture : Option Gesture}
    {payload : LLMResponsePayload} (h : flushPayload fullText (pendingOf gesture) = some payload) :
    payload.sentence = fullText := by
  obtain ⟨payload', hpayload, hsentence, -⟩ := flushPayload_pendingOf fullText gesture
  cases hpayload.symm.trans h
  exact hsentence

/-- What a payload says was selected: the similarity of a selected gesture is 1. -/
def gestureOf (payload : LLMResponsePayload) : Option Gesture :=
  if payload.emotionSimilarity = 1 then
    (enumerator EmotionType.declared payload.emotionalGesture).map .emotional
  else if payload.reactionSimilarity = 1 then
    (enumerator ReactionType.declared payload.reactionalGesture).map .reactional
  else none

/-- **A payload tells what was selected.** -/
theorem gestureOf_flushPayload {fullText : String} {gesture : Option Gesture}
    {payload : LLMResponsePayload} (h : flushPayload fullText (pendingOf gesture) = some payload) :
    gestureOf payload = gesture := by
  cases gesture with
  | none =>
      cases h
      have hemotion : Float64.round (4 / 5) ≠ 1 := by decide +kernel
      have hreaction : Float64.round (7 / 10) ≠ 1 := by decide +kernel
      show (if _ then _ else _) = _
      rw [if_neg hemotion, if_neg hreaction]
  | some gesture =>
      cases gesture with
      | emotional emotion =>
          simp only [flushPayload, pendingOf, EmotionType.ofName_name, Option.map_some,
            Option.some.injEq] at h
          subst h
          simp [gestureOf, EmotionType.enumerator_value]
      | reactional reaction =>
          simp only [flushPayload, pendingOf, ReactionType.ofName_name, Option.map_some,
            Option.some.injEq] at h
          subst h
          simp [gestureOf, ReactionType.enumerator_value]

/-! ## The text of a turn -/

theorem sentTexts_flush (s : DebouncedProcessor) :
    ∃ groups, s.flush.sentTexts = s.sentTexts ++ groups := by
  unfold flush
  split
  · exact ⟨[], (List.append_nil _).symm⟩
  · exact ⟨_, rfl⟩

/-- What a step adds to the texts sent and received. -/
theorem texts_step {s t : DebouncedProcessor} {a : DebounceAction}
    (h : (system strip lower).step s a = some t) :
    (∃ groups, t.sentTexts = s.sentTexts ++ groups) ∧ t.received = s.received ++ texts [a] := by
  have hnone : s.sentTexts = s.sentTexts ++ [] := (List.append_nil _).symm
  cases a with
  | setMimic arguments =>
      cases h
      exact ⟨⟨[], hnone⟩, (List.append_nil _).symm⟩
  | textFrame text =>
      cases h
      exact ⟨⟨[], hnone⟩, rfl⟩
  | expire i =>
      obtain ⟨task, -, -, -, rfl⟩ := expire_cases h
      exact ⟨⟨[], hnone⟩, (List.append_nil _).symm⟩
  | resume i =>
      obtain ⟨task, -, -, ⟨-, rfl⟩ | ⟨-, rfl⟩ | ⟨-, rfl⟩⟩ := resume_cases h
      · exact ⟨⟨[], hnone⟩, (List.append_nil _).symm⟩
      · exact ⟨⟨[], hnone⟩, (List.append_nil _).symm⟩
      · exact ⟨s.sentTexts_flush, (List.append_nil _).symm⟩

/-- A turn adds groups of texts to those sent, and its texts to those received. -/
theorem texts_run {s t : DebouncedProcessor} {tr : List (DebouncedProcessor × DebounceAction)}
    (hrun : (system strip lower).Run s tr t) :
    (∃ groups, t.sentTexts = s.sentTexts ++ groups) ∧
      t.received = s.received ++ texts (tr.map Prod.snd) := by
  induction hrun with
  | nil => exact ⟨⟨[], (List.append_nil _).symm⟩, (List.append_nil _).symm⟩
  | @snoc tr t u a _ hstep ih =>
      obtain ⟨⟨groups, hgroups⟩, hreceived⟩ := ih
      obtain ⟨⟨groups', hgroups'⟩, hreceived'⟩ := texts_step hstep
      refine ⟨⟨groups ++ groups', by rw [hgroups', hgroups, List.append_assoc]⟩, ?_⟩
      rw [hreceived', hreceived, List.map_append, texts_append, List.append_assoc]
      rfl

/-- **Between two silences** the groups sent are the texts of the turn, and none is empty. -/
theorem groups_of_turn {s t : DebouncedProcessor} {tr : List (DebouncedProcessor × DebounceAction)}
    (hs : (system strip lower).Reachable s) (hrun : (system strip lower).Run s tr t)
    (hquiet : s.Quiet) (hquiet' : t.Quiet) :
    ∃ groups : List (List String), groups.flatten = texts (tr.map Prod.snd) ∧ [] ∉ groups ∧
      t.processor.sent.map (·.sentence) =
        s.processor.sent.map (·.sentence) ++ groups.map " ".intercalate := by
  obtain ⟨hconserved, -⟩ := conserved hs
  obtain ⟨hconserved', -⟩ := conserved (hrun.reachable hs)
  obtain ⟨⟨groups, hgroups⟩, hreceived⟩ := texts_run hrun
  refine ⟨groups, ?_, ?_, ?_⟩
  · have htexts := hconserved.texts
    have htexts' := hconserved'.texts
    rw [hquiet.1, List.append_nil] at htexts
    rw [hquiet'.1, List.append_nil, hgroups, List.flatten_append, hreceived, ← htexts] at htexts'
    exact List.append_cancel_left htexts'
  · have hnonempty := hconserved'.nonempty
    rw [hgroups] at hnonempty
    exact fun h => hnonempty (List.mem_append_right _ h)
  · rw [hconserved'.joined, hconserved.joined, hgroups, List.map_append]

/-- Joined with spaces, two texts or more are longer than the text. -/
theorem length_intercalate (texts : List String) :
    (" ".intercalate texts).length = (String.join texts).length + (texts.length - 1) := by
  induction texts with
  | nil => rfl
  | cons text rest ih =>
      cases rest with
      | nil => simp
      | cons next rest =>
          rw [String.intercalate_cons_cons, String.join_cons, String.length_append,
            String.length_append, String.length_append, ih]
          simp only [List.length_cons]
          have hspace : " ".length = 1 := rfl
          omega

/-- A turn that keeps the promise has one text. -/
theorem one_text {s t : DebouncedProcessor} {tr : List (DebouncedProcessor × DebounceAction)}
    (hs : (system strip lower).Reachable s) (hrun : (system strip lower).Run s tr t)
    (hquiet : s.Quiet) (hquiet' : t.Quiet) (h : OneMessage strip lower s (tr.map Prod.snd) t) :
    ∃ text, texts (tr.map Prod.snd) = [text] := by
  obtain ⟨payload, hsent, hpayload⟩ := h
  obtain ⟨groups, hflatten, hnonempty, hjoined⟩ := groups_of_turn hs hrun hquiet hquiet'
  rw [hsent, List.map_append] at hjoined
  have hone : groups.map " ".intercalate = [payload.sentence] :=
    (List.append_cancel_left hjoined).symm
  obtain ⟨group, rfl, hgroup⟩ := List.map_eq_singleton_iff.mp hone
  rw [List.flatten_singleton] at hflatten
  have hlength := length_intercalate group
  rw [hgroup, sentence_of_flushPayload hpayload, hflatten] at hlength
  have hne : texts (tr.map Prod.snd) ≠ [] := fun h => hnonempty (by simp [hflatten, h])
  apply List.length_eq_one_iff.mp
  have hpos := List.length_pos_iff.mpr hne
  omega

/-! ## The flush of a turn -/

/-- The phases of a turn of one text, which started in `s` and has taken `actions`: nothing has come; the
    task of the frame is under way, and no other; it has flushed. -/
inductive TurnPhase (strip lower : String → String) (s : DebouncedProcessor)
    (actions : List DebounceAction) (t : DebouncedProcessor) : Prop where
  | before (hquiet : t.Quiet) (htexts : texts actions = [])
      (hsent : t.processor.sent = s.processor.sent)
      (hcalls : t.processor.calls = s.processor.calls ++ calls actions)
  | waiting (text : String) (i : Nat) (task : FlushTask) (htask : t.tasks[i]? = some task)
      (hlive : task.Live) (hother : ∀ j other, t.tasks[j]? = some other → j ≠ i → other.phase = .finished)
      (htexts : texts actions = [text]) (hbuffer : t.processor.buffer = [text])
      (hsent : t.processor.sent = s.processor.sent)
      (hcalls : t.processor.calls = s.processor.calls ++ calls actions)
  | flushed (text : String) (payload : LLMResponsePayload) (hquiet : t.Quiet)
      (htexts : texts actions = [text]) (hsent : t.processor.sent = s.processor.sent ++ [payload])
      (hpayload : flushPayload text (pendingOf (lastSelection strip lower
        (s.processor.calls ++ calls (beforeFlush actions)))) = some payload)

/-- In silence no task can do anything. -/
theorem Quiet.no_task_step {s t : DebouncedProcessor} (hquiet : s.Quiet) {i : Nat} :
    s.expire i ≠ some t ∧ s.resume i ≠ some t := by
  constructor
  · intro h
    obtain ⟨task, htask, hphase, -⟩ := expire_cases h
    exact hphase (hquiet.2 task (List.mem_of_getElem? htask))
  · intro h
    obtain ⟨task, htask, hphase, -⟩ := resume_cases h
    exact hphase (hquiet.2 task (List.mem_of_getElem? htask))

/-- After a frame that breaks the silence, its task is the only one. -/
theorem Quiet.textFrame {s : DebouncedProcessor} (hquiet : s.Quiet) (text : String) :
    (s.textFrame text).tasks = s.tasks ++ [({} : FlushTask)] := by
  have hsame : ∀ i, s.tasks.modify i FlushTask.cancel = s.tasks := by
    intro i
    apply List.ext_getElem?
    intro j
    rw [List.getElem?_modify]
    cases htask : s.tasks[j]? with
    | none => rfl
    | some task =>
        have hfinished := hquiet.2 task (List.mem_of_getElem? htask)
        by_cases hij : i = j
        · simp [hij, FlushTask.cancel, hfinished]
        · simp [hij]
  unfold DebouncedProcessor.textFrame
  cases s.flushTask with
  | none => rfl
  | some i => exact congrArg (· ++ [({} : FlushTask)]) (hsame i)

/-- What the live task becomes, when the others are finished. -/
theorem getElem?_set_of_live {tasks : List FlushTask} {i : Nat} {task : FlushTask} (task' : FlushTask)
    (htask : tasks[i]? = some task)
    (hother : ∀ j other, tasks[j]? = some other → j ≠ i → other.phase = .finished) :
    (tasks.set i task')[i]? = some task' ∧
      ∀ j other, (tasks.set i task')[j]? = some other → j ≠ i → other.phase = .finished := by
  have hlt : i < tasks.length := (List.getElem?_eq_some_iff.mp htask).1
  refine ⟨by simp [hlt], fun j other h hji => hother j other ?_ hji⟩
  rwa [List.getElem?_set_ne (Ne.symm hji)] at h

/-- When the live task ends with an empty buffer, there is silence. -/
theorem quiet_setTask {s : DebouncedProcessor} {i : Nat} {task : FlushTask} (htask : s.tasks[i]? = some task)
    (hother : ∀ j other, s.tasks[j]? = some other → j ≠ i → other.phase = .finished)
    (hbuffer : s.processor.buffer = []) : (s.setTask i { task with phase := .finished }).Quiet := by
  refine ⟨hbuffer, fun other hmem => ?_⟩
  obtain ⟨j, hj⟩ := List.getElem?_of_mem hmem
  obtain ⟨hi, hother'⟩ := getElem?_set_of_live { task with phase := .finished } htask hother
  by_cases hji : j = i
  · subst hji
    cases hi.symm.trans hj
    rfl
  · exact hother' j other hj hji

theorem TurnPhase.setMimic {s t : DebouncedProcessor} {actions : List DebounceAction}
    (h : TurnPhase strip lower s actions t) {u : DebouncedProcessor} {arguments : MimicArguments}
    (hstep : (system strip lower).step t (.setMimic arguments) = some u) :
    TurnPhase strip lower s (actions ++ [.setMimic arguments]) u := by
  cases hstep
  have htexts' : texts (actions ++ [.setMimic arguments]) = texts actions := by
    rw [texts_append]; exact List.append_nil _
  have hcalls' : calls (actions ++ [.setMimic arguments]) = calls actions ++ [arguments] :=
    calls_append _ _
  cases h with
  | before hquiet htexts hsent hcalls =>
      refine .before hquiet (htexts'.trans htexts) hsent ?_
      rw [hcalls', ← List.append_assoc, ← hcalls]
  | waiting text i task htask hlive hother htexts hbuffer hsent hcalls =>
      refine .waiting text i task htask hlive hother (htexts'.trans htexts) hbuffer hsent ?_
      rw [hcalls', ← List.append_assoc, ← hcalls]
  | flushed text payload hquiet htexts hsent hpayload =>
      refine .flushed text payload hquiet (htexts'.trans htexts) hsent ?_
      rw [beforeFlush_concat]
      exact hpayload

theorem TurnPhase.textFrame {s t : DebouncedProcessor} {actions : List DebounceAction}
    (h : TurnPhase strip lower s actions t) {text : String}
    (hone : (texts (actions ++ [.textFrame text])).length ≤ 1) :
    TurnPhase strip lower s (actions ++ [.textFrame text]) (t.textFrame text) := by
  have htexts' : texts (actions ++ [.textFrame text]) = texts actions ++ [text] := texts_append _ _
  have hcalls' : calls (actions ++ [.textFrame text]) = calls actions := by
    rw [calls_append]; exact List.append_nil _
  rw [htexts'] at hone
  cases h with
  | before hquiet htexts hsent hcalls =>
      have htasks := hquiet.textFrame text
      refine .waiting text t.tasks.length {} ?_ ⟨(nomatch ·), rfl⟩ (fun j other hj hne => ?_) ?_ ?_ hsent
        (hcalls.trans (by rw [hcalls']))
      · rw [htasks]
        exact List.getElem?_concat_length
      · rw [htasks, List.getElem?_append] at hj
        split at hj
        · exact hquiet.2 other (List.mem_of_getElem? hj)
        · have hlt := (List.getElem?_eq_some_iff.mp hj).1
          rw [List.length_singleton] at hlt
          omega
      · rw [htexts', htexts, List.nil_append]
      · show t.processor.buffer ++ [text] = [text]
        rw [hquiet.1, List.nil_append]
  | waiting _ _ _ _ _ _ htexts =>
      rw [htexts] at hone
      exact absurd hone (by simp)
  | flushed _ _ _ htexts =>
      rw [htexts] at hone
      exact absurd hone (by simp)

theorem TurnPhase.expire {s t u : DebouncedProcessor} {actions : List DebounceAction}
    (h : TurnPhase strip lower s actions t) {j : Nat} (hstep : t.expire j = some u) :
    TurnPhase strip lower s (actions ++ [.expire j]) u := by
  have htexts' : texts (actions ++ [.expire j]) = texts actions := by
    rw [texts_append]; exact List.append_nil _
  have hcalls' : calls (actions ++ [.expire j]) = calls actions := by
    rw [calls_append]; exact List.append_nil _
  cases h with
  | before hquiet => exact absurd hstep hquiet.no_task_step.1
  | flushed _ _ hquiet => exact absurd hstep hquiet.no_task_step.1
  | waiting text i task htask hlive hother htexts hbuffer hsent hcalls =>
      obtain ⟨task', htask', hphase, hcancel, rfl⟩ := expire_cases hstep
      -- the live task is the only one that has a timer
      by_cases hji : j = i
      · subst hji
        obtain ⟨hset, hother'⟩ := getElem?_set_of_live { task' with phase := .woken } htask hother
        exact .waiting text j _ hset ⟨(nomatch ·), hcancel⟩ hother' (htexts'.trans htexts) hbuffer hsent
          (hcalls.trans (by rw [hcalls']))
      · exact absurd (hother j task' htask' hji) hphase

theorem TurnPhase.resume {s t u : DebouncedProcessor} {actions : List DebounceAction}
    (ht : (system strip lower).Reachable t) (h : TurnPhase strip lower s actions t) {j : Nat}
    (hstep : t.resume j = some u) : TurnPhase strip lower s (actions ++ [.resume j]) u := by
  have htexts' : texts (actions ++ [.resume j]) = texts actions := by
    rw [texts_append]; exact List.append_nil _
  have hcalls' : calls (actions ++ [.resume j]) = calls actions := by
    rw [calls_append]; exact List.append_nil _
  cases h with
  | before hquiet => exact absurd hstep hquiet.no_task_step.2
  | flushed _ _ hquiet => exact absurd hstep hquiet.no_task_step.2
  | waiting text i task htask hlive hother htexts hbuffer hsent hcalls =>
      obtain ⟨task', htask', hphase, hcases⟩ := resume_cases hstep
      by_cases hji : j = i
      · subst hji
        cases htask.symm.trans htask'
        rcases hcases with ⟨hcancel, -⟩ | ⟨hcancel, rfl⟩ | ⟨-, rfl⟩
        · rw [hlive.2] at hcancel
          cases hcancel
        · obtain ⟨hset, hother'⟩ :=
            getElem?_set_of_live { task with phase := .sleeping } htask hother
          exact .waiting text j _ hset ⟨(nomatch ·), hcancel⟩ hother' (htexts'.trans htexts) hbuffer hsent
            (hcalls.trans (by rw [hcalls']))
        · obtain ⟨payload, hpayload, -, hflush⟩ := exists_payload (processor_reachable ht)
          have hprocessor : t.processor.flushBuffer =
              { buffer := [], mimicState := {}, calls := [], sent := t.processor.sent ++ [payload] } := by
            simp [RobotBridgeProcessor.flushBuffer, hbuffer, hpayload]
          have hempty : t.flush.processor.buffer = [] := congrArg (·.buffer) hprocessor
          refine .flushed text payload (quiet_setTask htask hother hempty) (htexts'.trans htexts) ?_ ?_
          · show t.processor.flushBuffer.sent = _
            rw [hprocessor, hsent]
          · rw [beforeFlush_concat]
            show flushPayload text (pendingOf (lastSelection strip lower
              (s.processor.calls ++ calls actions))) = some payload
            rw [← hcalls, ← hflush, hbuffer, String.intercalate_singleton]
      · exact absurd (hother j task' htask' hji) hphase

/-- **A turn of at most one text** goes through the phases. -/
theorem turnPhase_run {s t : DebouncedProcessor} {tr : List (DebouncedProcessor × DebounceAction)}
    (hs : (system strip lower).Reachable s) (hquiet : s.Quiet) (hrun : (system strip lower).Run s tr t)
    (hone : (texts (tr.map Prod.snd)).length ≤ 1) :
    TurnPhase strip lower s (tr.map Prod.snd) t := by
  induction hrun with
  | nil => exact .before hquiet rfl rfl (List.append_nil _).symm
  | @snoc tr t u a hrun hstep ih =>
      have ht := hrun.reachable hs
      rw [List.map_append] at hone ⊢
      have hphase := ih (by rw [texts_append, List.length_append] at hone; omega)
      cases a with
      | setMimic arguments => exact hphase.setMimic hstep
      | textFrame text =>
          cases hstep
          exact hphase.textFrame hone
      | expire i => exact hphase.expire hstep
      | resume i => exact hphase.resume ht hstep

/-- A turn of one text, from silence to silence, sends it with the selection in force at the flush. -/
theorem sent_of_one_text {s t : DebouncedProcessor} {tr : List (DebouncedProcessor × DebounceAction)}
    (hs : (system strip lower).Reachable s) (hrun : (system strip lower).Run s tr t)
    (hquiet : s.Quiet) (hquiet' : t.Quiet) {text : String} (htext : texts (tr.map Prod.snd) = [text]) :
    ∃ payload, t.processor.sent = s.processor.sent ++ [payload] ∧
      flushPayload text (pendingOf (lastSelection strip lower
        (s.processor.calls ++ calls (beforeFlush (tr.map Prod.snd))))) = some payload := by
  have hphase := turnPhase_run hs hquiet hrun (by rw [htext]; rfl)
  cases hphase with
  | before _ htexts => rw [htexts] at htext; cases htext
  | waiting _ _ task htask hlive => exact absurd (hquiet'.2 task (List.mem_of_getElem? htask)) hlive.1
  | flushed text' payload _ htexts hsent hpayload =>
      cases (htexts.symm.trans htext)
      exact ⟨payload, hsent, hpayload⟩

/-- **One turn, one message, when exactly.** From silence to silence, the promise is kept iff the turn is one
    text frame, and the selection in force when it is flushed (of the calls left over from before, and of the
    turn's own up to then) is the last of the turn. -/
theorem one_message_iff (strip lower : String → String) {s t : DebouncedProcessor}
    {tr : List (DebouncedProcessor × DebounceAction)} (hs : (system strip lower).Reachable s)
    (hquiet : s.Quiet) (hrun : (system strip lower).Run s tr t) (hquiet' : t.Quiet) :
    OneMessage strip lower s (tr.map Prod.snd) t ↔
      (∃ text, texts (tr.map Prod.snd) = [text]) ∧
        lastSelection strip lower (s.processor.calls ++ calls (beforeFlush (tr.map Prod.snd))) =
          lastSelection strip lower (calls (tr.map Prod.snd)) := by
  constructor
  · intro h
    obtain ⟨text, htext⟩ := one_text hs hrun hquiet hquiet' h
    obtain ⟨payload, hsent, hpayload⟩ := h
    obtain ⟨payload', hsent', hpayload'⟩ := sent_of_one_text hs hrun hquiet hquiet' htext
    cases List.append_cancel_left (hsent.symm.trans hsent')
    refine ⟨⟨text, htext⟩, ?_⟩
    rw [← gestureOf_flushPayload hpayload, ← gestureOf_flushPayload hpayload']
  · rintro ⟨⟨text, htext⟩, hselection⟩
    obtain ⟨payload, hsent, hpayload⟩ := sent_of_one_text hs hrun hquiet hquiet' htext
    refine ⟨payload, hsent, ?_⟩
    rw [htext, ← hselection, String.join_cons, String.join_nil, String.append_empty]
    exact hpayload

theorem quiet_initial : initial.Quiet := ⟨rfl, fun _ => (nomatch ·)⟩

theorem quiet_of_phases {s : DebouncedProcessor} (hbuffer : s.processor.buffer = [])
    (hphases : (s.tasks.map (·.phase)).all (· = .finished)) : s.Quiet := by
  refine ⟨hbuffer, fun task htask => ?_⟩
  have hphase := List.all_eq_true.mp hphases task.phase (List.mem_map_of_mem htask)
  exact of_decide_eq_true hphase

/-- A turn of two frames without a pause. -/
def twoFrames : List DebounceAction :=
  [.textFrame "Mer", .textFrame "haba!", .resume 0, .resume 1, .expire 1, .resume 1]

/-- **The promise is broken**: the one message of the turn has a space where the text has none. -/
theorem two_frames_not_one_message :
    ∃ (tr : List (DebouncedProcessor × DebounceAction)) (t : DebouncedProcessor),
      (system id id).Run initial tr t ∧ t.Quiet ∧ String.join (texts (tr.map Prod.snd)) = "Merhaba!" ∧
        t.processor.sent.map (·.sentence) = ["Mer haba!"] ∧
        ¬ OneMessage id id initial (tr.map Prod.snd) t := by
  have hexec : ((system id id).exec initial twoFrames).map
      (fun s => (s.processor.sent.map (·.sentence), s.processor.buffer, s.tasks.map (·.phase))) =
        some (["Mer haba!"], [], [.finished, .finished]) := rfl
  obtain ⟨t, ht, hstate⟩ := Option.map_eq_some_iff.mp hexec
  simp only [Prod.mk.injEq] at hstate
  obtain ⟨hsent, hbuffer, hphases⟩ := hstate
  have hquiet : t.Quiet := quiet_of_phases hbuffer (by rw [hphases]; rfl)
  obtain ⟨tr, hrun, hactions⟩ := System.Run.of_exec ht
  refine ⟨tr, t, hrun, hquiet, by rw [hactions]; rfl, hsent, fun h => ?_⟩
  obtain ⟨text, htext⟩ := one_text (.init rfl) hrun quiet_initial hquiet h
  rw [hactions] at htext
  cases htext

/-- A turn that selects, and sends one frame. -/
def oneFrame : List DebounceAction :=
  [.setMimic fun name => if name = "emotion" then some (.string "funny") else none,
    .textFrame "Merhaba!", .resume 0, .expire 0, .resume 0]

theorem one_frame_one_message :
    ∃ (tr : List (DebouncedProcessor × DebounceAction)) (t : DebouncedProcessor),
      tr.map Prod.snd = oneFrame ∧ OneMessage id id initial (tr.map Prod.snd) t := by
  have hexec : ((system id id).exec initial oneFrame).map
      (fun s => (s.processor.buffer, s.tasks.map (·.phase))) = some ([], [.finished]) := rfl
  obtain ⟨t, ht, hstate⟩ := Option.map_eq_some_iff.mp hexec
  obtain ⟨hbuffer, hphases⟩ := Prod.mk.inj hstate
  have hquiet : t.Quiet := quiet_of_phases hbuffer (by rw [hphases]; rfl)
  obtain ⟨tr, hrun, hactions⟩ := System.Run.of_exec ht
  refine ⟨tr, t, hactions, (one_message_iff id id (.init rfl) quiet_initial hrun hquiet).mpr ?_⟩
  rw [hactions]
  exact ⟨⟨"Merhaba!", rfl⟩, rfl⟩

end DebouncedProcessor

end Kufibot
