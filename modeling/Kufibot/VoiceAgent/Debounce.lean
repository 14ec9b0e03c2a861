import Kufibot.VoiceAgent.Mimic

/-!
# `VoiceAgent.Debounce` — the flush tasks of `RobotBridgeProcessor`

Every text frame cancels the flush task of the one before and creates its own; the task that outlives its
sleep flushes the buffer. A task gives up control only where it sleeps, and `send_message` does not suspend,
so between the expiry of the timer and the flush lies exactly one resumption: a cancellation that comes
before it still stops the task, one that comes later finds it finished.

The processor itself is the one of `VoiceAgent.Mimic` (`processor_reachable`); here are the tasks, and what
was received and sent.
-/

namespace Kufibot

open Lib

inductive FlushPhase where
  /-- Scheduled by `create_task`, not started. -/
  | created
  | sleeping
  /-- The timer has expired, and the task waits to be resumed. -/
  | woken
  | finished
deriving DecidableEq, Repr

/-- A task that runs `_flush_buffer`. -/
structure FlushTask where
  phase : FlushPhase := .created
  cancelRequested : Bool := false
deriving DecidableEq, Repr

namespace FlushTask

/-- `Task.cancel`: without effect on a finished task. -/
def cancel (task : FlushTask) : FlushTask :=
  if task.phase = .finished then task else { task with cancelRequested := true }

/-- Neither finished nor about to be cancelled. -/
def Live (task : FlushTask) : Prop := task.phase ≠ .finished ∧ task.cancelRequested = false

end FlushTask

/-- The processor with its tasks, the oldest first. -/
structure DebouncedProcessor where
  processor : RobotBridgeProcessor
  tasks : List FlushTask
  /-- `_flush_task`, as its place in the list. -/
  flushTask : Option Nat
  /-- Ghost: the texts of all frames. -/
  received : List String
  /-- Ghost: the texts that each message was joined from. -/
  sentTexts : List (List String)

inductive DebounceAction where
  | setMimic (arguments : MimicArguments)
  | textFrame (text : String)
  /-- The timer of the task expires. -/
  | expire (task : Nat)
  /-- The event loop runs the task up to its next suspension. -/
  | resume (task : Nat)

namespace DebouncedProcessor

variable (strip lower : String → String)

def setTask (s : DebouncedProcessor) (i : Nat) (task : FlushTask) : DebouncedProcessor :=
  { s with tasks := s.tasks.set i task }

/-- `process_frame` on a `TextFrame`. -/
def textFrame (s : DebouncedProcessor) (text : String) : DebouncedProcessor :=
  let tasks := match s.flushTask with
    | some i => s.tasks.modify i FlushTask.cancel
    | none => s.tasks
  { s with
    processor := { s.processor with buffer := s.processor.buffer ++ [text] }
    tasks := tasks ++ [{}]
    flushTask := some tasks.length
    received := s.received ++ [text] }

/-- `_flush_buffer` behind its sleep. -/
def flush (s : DebouncedProcessor) : DebouncedProcessor :=
  { s with
    processor := s.processor.flushBuffer
    sentTexts := if s.processor.buffer.isEmpty then s.sentTexts
      else s.sentTexts ++ [s.processor.buffer] }

def resume (s : DebouncedProcessor) (i : Nat) : Option DebouncedProcessor :=
  match s.tasks[i]? with
  | none => none
  | some task =>
      match task.phase, task.cancelRequested with
      | .finished, _ => none
      | _, true => some (s.setTask i { task with phase := .finished })
      | .created, false => some (s.setTask i { task with phase := .sleeping })
      | .sleeping, false => none
      | .woken, false => some (s.flush.setTask i { task with phase := .finished })

def expire (s : DebouncedProcessor) (i : Nat) : Option DebouncedProcessor :=
  match s.tasks[i]? with
  | none => none
  | some task =>
      if task.phase = .sleeping ∧ task.cancelRequested = false then
        some (s.setTask i { task with phase := .woken })
      else none

def step (s : DebouncedProcessor) : DebounceAction → Option DebouncedProcessor
  | .setMimic arguments =>
      some { s with processor :=
        { s.processor with
          mimicState := setMimicHandler strip lower arguments s.processor.mimicState
          calls := s.processor.calls ++ [arguments] } }
  | .textFrame text => some (s.textFrame text)
  | .expire i => s.expire i
  | .resume i => s.resume i

def initial : DebouncedProcessor where
  processor := RobotBridgeProcessor.initial
  tasks := []
  flushTask := none
  received := []
  sentTexts := []

def system : System DebouncedProcessor DebounceAction where
  init s := s = initial
  step := step strip lower

/-! ## What a task's step does -/

/-- **A resumption** ends a cancelled task, lets a created one sleep, and flushes for a woken one. -/
theorem resume_cases {s t : DebouncedProcessor} {i : Nat} (h : s.resume i = some t) :
    ∃ task, s.tasks[i]? = some task ∧ task.phase ≠ .finished ∧
      ((task.cancelRequested = true ∧ t = s.setTask i { task with phase := .finished }) ∨
        (task.cancelRequested = false ∧ t = s.setTask i { task with phase := .sleeping }) ∨
        (task.cancelRequested = false ∧ t = s.flush.setTask i { task with phase := .finished })) := by
  unfold resume at h
  cases htask : s.tasks[i]? with
  | none => rw [htask] at h; cases h
  | some task =>
      obtain ⟨phase, cancelRequested⟩ := task
      rw [htask] at h
      refine ⟨⟨phase, cancelRequested⟩, rfl, ?_⟩
      cases phase with
      | finished => cases h
      | created =>
          cases cancelRequested with
          | true => exact ⟨(nomatch ·), .inl ⟨rfl, (Option.some.inj h).symm⟩⟩
          | false => exact ⟨(nomatch ·), .inr (.inl ⟨rfl, (Option.some.inj h).symm⟩)⟩
      | sleeping =>
          cases cancelRequested with
          | true => exact ⟨(nomatch ·), .inl ⟨rfl, (Option.some.inj h).symm⟩⟩
          | false => cases h
      | woken =>
          cases cancelRequested with
          | true => exact ⟨(nomatch ·), .inl ⟨rfl, (Option.some.inj h).symm⟩⟩
          | false => exact ⟨(nomatch ·), .inr (.inr ⟨rfl, (Option.some.inj h).symm⟩)⟩

theorem expire_cases {s t : DebouncedProcessor} {i : Nat} (h : s.expire i = some t) :
    ∃ task, s.tasks[i]? = some task ∧ task.phase ≠ .finished ∧ task.cancelRequested = false ∧
      t = s.setTask i { task with phase := .woken } := by
  unfold expire at h
  cases htask : s.tasks[i]? with
  | none => rw [htask] at h; cases h
  | some task =>
      rw [htask] at h
      simp only [Option.ite_none_right_eq_some] at h
      obtain ⟨⟨hphase, hcancel⟩, h⟩ := h
      exact ⟨task, rfl, by rw [hphase]; exact (nomatch ·), hcancel, (Option.some.inj h).symm⟩

/-! ## The processor under the tasks -/

variable {strip lower}

/-- A step of the tasks is a step of the processor, or leaves it alone. -/
theorem processor_step {s t : DebouncedProcessor} {a : DebounceAction}
    (h : (system strip lower).step s a = some t) :
    t.processor = s.processor ∨
      ∃ b, (RobotBridgeProcessor.system strip lower).step s.processor b = some t.processor := by
  cases a with
  | setMimic arguments =>
      cases h
      exact .inr ⟨.setMimic arguments, rfl⟩
  | textFrame text =>
      cases h
      exact .inr ⟨.textFrame text, rfl⟩
  | expire i =>
      obtain ⟨task, -, -, -, rfl⟩ := expire_cases h
      exact .inl rfl
  | resume i =>
      obtain ⟨task, -, -, ⟨-, rfl⟩ | ⟨-, rfl⟩ | ⟨-, rfl⟩⟩ := resume_cases h
      · exact .inl rfl
      · exact .inl rfl
      · exact .inr ⟨.flushBuffer, rfl⟩

/-- **The processor of a reachable state is reachable** without the tasks. -/
theorem processor_reachable {s : DebouncedProcessor} (h : (system strip lower).Reachable s) :
    (RobotBridgeProcessor.system strip lower).Reachable s.processor := by
  refine h.invariant (I := fun s => (RobotBridgeProcessor.system strip lower).Reachable s.processor) ?_
    fun s a t hs _ hst => ?_
  · rintro _ rfl
    exact .init rfl
  · rcases processor_step hst with heq | ⟨b, hb⟩
    · rw [heq]; exact hs
    · exact .step hs trivial hb

/-- The payload of a flush, whatever was called since the last one. -/
theorem exists_payload {p : RobotBridgeProcessor}
    (h : (RobotBridgeProcessor.system strip lower).Reachable p) :
    ∃ payload, p.payload = some payload ∧ payload.sentence = " ".intercalate p.buffer ∧
      flushPayload (" ".intercalate p.buffer) (pendingOf (lastSelection strip lower p.calls)) =
        some payload := by
  obtain ⟨payload, hpayload, hsentence, -⟩ :=
    flushPayload_pendingOf (" ".intercalate p.buffer) (lastSelection strip lower p.calls)
  refine ⟨payload, ?_, hsentence, hpayload⟩
  rw [RobotBridgeProcessor.payload, mimicState_eq strip lower h]
  exact hpayload

/-! ## Nothing is lost or repeated -/

/-- The invariant: every text was sent once, in order, or is in the buffer; a message is joined from its
    texts; and `_flush_task` is not cancelled, and unfinished while there is something to send. -/
structure Conserved (s : DebouncedProcessor) : Prop where
  texts : s.sentTexts.flatten ++ s.processor.buffer = s.received
  joined : s.processor.sent.map (·.sentence) = s.sentTexts.map " ".intercalate
  nonempty : [] ∉ s.sentTexts
  current : ∀ i, s.flushTask = some i → ∃ task, s.tasks[i]? = some task ∧
    task.cancelRequested = false ∧ (s.processor.buffer ≠ [] → task.phase ≠ .finished)
  idle : s.flushTask = none → s.processor.buffer = []

theorem conserved_initial : initial.Conserved :=
  ⟨rfl, rfl, (nomatch ·), fun _ => (nomatch ·), fun _ => rfl⟩

/-- A task may finish when it is cancelled, or when nothing is left to send. -/
theorem Conserved.setTask {s : DebouncedProcessor} (h : s.Conserved) {i : Nat} {task : FlushTask}
    (htask : s.tasks[i]? = some task) {phase : FlushPhase}
    (hphase : phase = .finished → task.cancelRequested = true ∨ s.processor.buffer = []) :
    (s.setTask i { task with phase }).Conserved := by
  refine ⟨h.texts, h.joined, h.nonempty, fun j hj => ?_, h.idle⟩
  obtain ⟨current, hcurrent, hcancel, hlive⟩ := h.current j hj
  show ∃ task', (s.tasks.set i { task with phase })[j]? = some task' ∧ _
  rw [List.getElem?_set]
  by_cases hij : i = j
  · subst hij
    cases htask.symm.trans hcurrent
    have hlt : i < s.tasks.length := (List.getElem?_eq_some_iff.mp htask).1
    refine ⟨{ task with phase }, by simp [hlt], hcancel, fun hbuffer hfinished => ?_⟩
    rcases hphase hfinished with hcancel' | hempty
    · rw [hcancel] at hcancel'
      cases hcancel'
    · exact hbuffer hempty
  · exact ⟨current, by simpa [hij] using hcurrent, hcancel, hlive⟩

/-- **A flush moves the buffer into one message.** -/
theorem Conserved.flush {s : DebouncedProcessor} (h : s.Conserved)
    (hs : (RobotBridgeProcessor.system strip lower).Reachable s.processor) :
    s.flush.Conserved ∧ s.flush.processor.buffer = [] := by
  by_cases hbuffer : s.processor.buffer = []
  · have hsame : s.flush = s := by
      simp [DebouncedProcessor.flush, RobotBridgeProcessor.flushBuffer, hbuffer]
    rw [hsame]
    exact ⟨h, hbuffer⟩
  · obtain ⟨payload, hpayload, hsentence, -⟩ := exists_payload hs
    have hprocessor : s.processor.flushBuffer =
        { buffer := [], mimicState := {}, calls := [], sent := s.processor.sent ++ [payload] } := by
      simp [RobotBridgeProcessor.flushBuffer, hbuffer, hpayload]
    have hsent : s.flush.sentTexts = s.sentTexts ++ [s.processor.buffer] := by
      simp [DebouncedProcessor.flush, hbuffer]
    have hempty : s.flush.processor.buffer = [] := by
      show s.processor.flushBuffer.buffer = []
      rw [hprocessor]
    refine ⟨⟨?_, ?_, ?_, fun j hj => ?_, fun _ => hempty⟩, hempty⟩
    · rw [hempty, hsent, List.flatten_append, List.flatten_singleton, List.append_nil]
      exact h.texts
    · show s.processor.flushBuffer.sent.map (·.sentence) = _
      rw [hprocessor, hsent, List.map_append, List.map_append, h.joined]
      simp [hsentence]
    · rw [hsent]
      simp [h.nonempty, Ne.symm hbuffer]
    · obtain ⟨task, htask, hcancel, -⟩ := h.current j hj
      exact ⟨task, htask, hcancel, fun hne => absurd hempty hne⟩

theorem Conserved.textFrame {s : DebouncedProcessor} (h : s.Conserved) (text : String) :
    (s.textFrame text).Conserved := by
  refine ⟨?_, h.joined, h.nonempty, fun j hj => ?_, (nomatch ·)⟩
  · show s.sentTexts.flatten ++ (s.processor.buffer ++ [text]) = s.received ++ [text]
    rw [← List.append_assoc, h.texts]
  · -- the current task is the one just created
    cases Option.some.inj hj
    refine ⟨{}, ?_, rfl, fun _ => (nomatch ·)⟩
    exact List.getElem?_concat_length

theorem Conserved.step {s t : DebouncedProcessor} {a : DebounceAction} (h : s.Conserved)
    (hs : (RobotBridgeProcessor.system strip lower).Reachable s.processor)
    (hstep : (system strip lower).step s a = some t) : t.Conserved := by
  cases a with
  | setMimic arguments =>
      cases hstep
      exact ⟨h.texts, h.joined, h.nonempty, h.current, h.idle⟩
  | textFrame text =>
      cases hstep
      exact h.textFrame text
  | expire i =>
      obtain ⟨task, htask, -, -, rfl⟩ := expire_cases hstep
      exact h.setTask htask (nomatch ·)
  | resume i =>
      obtain ⟨task, htask, -, ⟨hcancel, rfl⟩ | ⟨-, rfl⟩ | ⟨-, rfl⟩⟩ := resume_cases hstep
      · exact h.setTask htask fun _ => .inl hcancel
      · exact h.setTask htask (nomatch ·)
      · obtain ⟨hflush, hempty⟩ := h.flush hs
        exact hflush.setTask htask fun _ => .inr hempty

theorem conserved {s : DebouncedProcessor} (h : (system strip lower).Reachable s) :
    s.Conserved ∧ (RobotBridgeProcessor.system strip lower).Reachable s.processor := by
  refine ⟨?_, processor_reachable h⟩
  induction h with
  | init h => cases h; exact conserved_initial
  | step hs _ hstep ih => exact ih.step (processor_reachable hs) hstep

/-- **The debounced flush loses and repeats nothing.** Whatever the order of frames, tool calls, timers and
    resumptions: the texts that the messages were joined from, in order, and then the buffer are the texts
    received, and while the buffer holds something a task is on its way to flush it. -/
theorem debounced_flush_conserves (strip lower : String → String) {s : DebouncedProcessor}
    (h : (system strip lower).Reachable s) :
    s.sentTexts.flatten ++ s.processor.buffer = s.received ∧
      s.processor.sent.map (·.sentence) = s.sentTexts.map " ".intercalate ∧
      (s.processor.buffer ≠ [] → ∃ task ∈ s.tasks, task.Live) := by
  obtain ⟨hconserved, -⟩ := conserved h
  refine ⟨hconserved.texts, hconserved.joined, fun hbuffer => ?_⟩
  cases hflush : s.flushTask with
  | none => exact absurd (hconserved.idle hflush) hbuffer
  | some i =>
      obtain ⟨task, htask, hcancel, hlive⟩ := hconserved.current i hflush
      exact ⟨task, List.mem_of_getElem? htask, hlive hbuffer, hcancel⟩

/-- A frame that comes when the timer of the first has expired, and before the task resumes. -/
def lateFrame : List DebounceAction :=
  [.textFrame "Mer", .resume 0, .expire 0, .textFrame "haba!", .resume 0, .resume 1]

theorem late_frame_conserved : ∃ s : DebouncedProcessor,
    s.received = ["Mer", "haba!"] ∧ s.sentTexts.flatten ++ s.processor.buffer = ["Mer", "haba!"] ∧
      ∃ task ∈ s.tasks, task.Live := by
  have hrun : ((system id id).exec initial lateFrame).map (fun s => (s.received, s.processor.buffer)) =
      some (["Mer", "haba!"], ["Mer", "haba!"]) := rfl
  obtain ⟨s, hs, hstate⟩ := System.exists_of_exec (.init rfl : (system id id).Reachable _)
    (fun _ _ _ => trivial) hrun
  obtain ⟨hreceived, hbuffer⟩ := Prod.mk.inj hstate
  obtain ⟨htexts, -, hlive⟩ := debounced_flush_conserves id id hs
  exact ⟨s, hreceived, htexts.trans hreceived, hlive (by rw [hbuffer]; simp)⟩

end DebouncedProcessor

end Kufibot
