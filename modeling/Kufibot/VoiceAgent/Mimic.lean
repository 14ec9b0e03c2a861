import Kufibot.Lib.System
import Kufibot.Services.Expression
import Kufibot.VoiceAgent.Bridge

/-!
# `VoiceAgent.Mimic` — from `set_mimic` to the motion

The tool `set_mimic` writes the model's choice into a `PendingMimicState`, `RobotBridgeProcessor` turns it
into two enumeration numbers and two similarities, and `ExpressionService::makeMimic` takes the gesture with
the higher one.

What a choice is, is said by `Gesture`: a call selects at most one (`selection`), and the last selection
since the flush counts. The pending state is always `pendingOf` of it, so it holds one name at most, and the
name of a member (`mimicState_eq`); the motion that is executed is the one of the gesture
(`chosen_mimic_performed`).
-/

namespace Kufibot

open Lib

/-- The arguments of a call of the tool: `arguments.get(name)`. -/
abbrev MimicArguments := String → Option Json

structure PendingMimicState where
  emotion : Option String := none
  reaction : Option String := none
deriving DecidableEq, Repr

/-- The state of `RobotBridgeProcessor`. -/
structure RobotBridgeProcessor where
  buffer : List String
  mimicState : PendingMimicState
  /-- Ghost: the calls of `set_mimic` since the last flush. -/
  calls : List MimicArguments
  /-- The payloads handed to `send_message`. -/
  sent : List LLMResponsePayload

inductive ProcessorAction where
  | setMimic (arguments : MimicArguments)
  | textFrame (text : String)
  | flushBuffer

section Tool

-- Python's `str.strip` and `str.lower`; nothing below depends on what they do.
variable (strip lower : String → String)

/-- `_normalize`. -/
def normalize : Option Json → Option String
  | some (.string name) =>
      let normalized := lower (strip name)
      if normalized = "" then none else some normalized
  | _ => none

def setMimicHandler (arguments : MimicArguments) (state : PendingMimicState) : PendingMimicState :=
  let emotion := normalize strip lower (arguments "emotion")
  let reaction := normalize strip lower (arguments "reaction")
  let validEmotion := emotion.filter fun name => (EmotionType.ofName name).isSome
  let validReaction := reaction.filter fun name => (ReactionType.ofName name).isSome
  if validEmotion.isSome then { emotion := validEmotion, reaction := none }
  else if validReaction.isSome then { emotion := none, reaction := validReaction }
  else state

/-- The payload that `_flush_buffer` builds; `none` is a failed lookup. -/
def flushPayload (fullText : String) (state : PendingMimicState) : Option LLMResponsePayload :=
  match state.emotion, state.reaction with
  | some emotion, _ =>
      (EmotionType.ofName emotion).map fun emotion =>
        { sentence := fullText
          emotionalGesture := emotion.value
          emotionSimilarity := 1
          reactionalGesture := ReactionType.talking.value
          reactionSimilarity := 0 }
  | none, some reaction =>
      (ReactionType.ofName reaction).map fun reaction =>
        { sentence := fullText
          reactionalGesture := reaction.value
          reactionSimilarity := 1
          emotionalGesture := EmotionType.happy.value
          emotionSimilarity := 0 }
  | none, none => some { sentence := fullText }

namespace RobotBridgeProcessor

/-- The payload of the next flush. -/
def payload (p : RobotBridgeProcessor) : Option LLMResponsePayload :=
  flushPayload (" ".intercalate p.buffer) p.mimicState

def flushBuffer (p : RobotBridgeProcessor) : RobotBridgeProcessor :=
  if p.buffer.isEmpty then p
  else { buffer := [], mimicState := {}, calls := [], sent := p.sent ++ p.payload.toList }

def step (p : RobotBridgeProcessor) : ProcessorAction → Option RobotBridgeProcessor
  | .setMimic arguments =>
      some { p with mimicState := setMimicHandler strip lower arguments p.mimicState,
                    calls := p.calls ++ [arguments] }
  | .textFrame text => some { p with buffer := p.buffer ++ [text] }
  | .flushBuffer => some p.flushBuffer

def initial : RobotBridgeProcessor where
  buffer := []
  mimicState := {}
  calls := []
  sent := []

/-- The processor and the tool that writes its pending state. -/
def system : System RobotBridgeProcessor ProcessorAction where
  init p := p = initial
  step := step strip lower

end RobotBridgeProcessor

/-! ## What is chosen -/

inductive Gesture where
  | emotional (emotion : EmotionType)
  | reactional (reaction : ReactionType)
deriving DecidableEq, Repr

/-- **What a call selects**: a valid emotion, or else a valid reaction. -/
def selection (arguments : MimicArguments) : Option Gesture :=
  match (normalize strip lower (arguments "emotion")).bind EmotionType.ofName with
  | some emotion => some (.emotional emotion)
  | none =>
      ((normalize strip lower (arguments "reaction")).bind ReactionType.ofName).map .reactional

def lastSelection (calls : List MimicArguments) : Option Gesture :=
  (calls.filterMap (selection strip lower)).getLast?

/-- The pending state of a selection. -/
def pendingOf : Option Gesture → PendingMimicState
  | some (.emotional emotion) => { emotion := some emotion.name }
  | some (.reactional reaction) => { reaction := some reaction.name }
  | none => {}

/-- One name at most, and the name of a member. -/
structure PendingMimicState.WellFormed (state : PendingMimicState) : Prop where
  one : state.emotion = none ∨ state.reaction = none
  emotion : ∀ name, state.emotion = some name → ∃ emotion : EmotionType, emotion.name = name
  reaction : ∀ name, state.reaction = some name → ∃ reaction : ReactionType, reaction.name = name

theorem wellFormed_pendingOf (gesture : Option Gesture) : (pendingOf gesture).WellFormed := by
  cases gesture with
  | none => exact ⟨.inl rfl, fun _ => (nomatch ·), fun _ => (nomatch ·)⟩
  | some gesture =>
      cases gesture with
      | emotional emotion =>
          refine ⟨.inr rfl, fun name h => ?_, fun _ => (nomatch ·)⟩
          exact ⟨emotion, Option.some.inj h⟩
      | reactional reaction =>
          refine ⟨.inl rfl, fun _ => (nomatch ·), fun name h => ?_⟩
          exact ⟨reaction, Option.some.inj h⟩

/-- A name that is in the members is kept, any other is dropped. -/
theorem filter_ofName {α : Type} (ofName : String → Option α) (name : Option String) :
    (name.bind ofName = none ∧ name.filter (fun n => (ofName n).isSome) = none) ∨
      ∃ n a, name = some n ∧ ofName n = some a ∧ name.bind ofName = some a ∧
        name.filter (fun n => (ofName n).isSome) = some n := by
  cases name with
  | none => exact .inl ⟨rfl, rfl⟩
  | some n =>
      cases h : ofName n with
      | none => exact .inl ⟨h, by simp [h]⟩
      | some a => exact .inr ⟨n, a, rfl, h, h, by simp [h]⟩

/-- **A call overwrites the pending state with what it selects**, and keeps it if that is nothing. -/
theorem setMimicHandler_pendingOf (arguments : MimicArguments) (gesture : Option Gesture) :
    setMimicHandler strip lower arguments (pendingOf gesture) =
      pendingOf ((selection strip lower arguments).or gesture) := by
  unfold setMimicHandler selection
  rcases filter_ofName EmotionType.ofName (normalize strip lower (arguments "emotion")) with
    ⟨hemotion, hvalid⟩ | ⟨name, emotion, -, hname, hemotion, hvalid⟩
  · rcases filter_ofName ReactionType.ofName (normalize strip lower (arguments "reaction")) with
      ⟨hreaction, hvalid'⟩ | ⟨name, reaction, -, hname, hreaction, hvalid'⟩
    · simp [hemotion, hvalid, hreaction, hvalid']
    · have hname := ReactionType.name_of_ofName hname
      simp [hemotion, hvalid, hreaction, hvalid', pendingOf, hname]
  · have hname := EmotionType.name_of_ofName hname
    simp [hemotion, hvalid, pendingOf, hname]

theorem lastSelection_append (calls : List MimicArguments) (arguments : MimicArguments) :
    lastSelection strip lower (calls ++ [arguments]) =
      (selection strip lower arguments).or (lastSelection strip lower calls) := by
  unfold lastSelection
  rw [List.filterMap_append, List.getLast?_append]
  cases h : selection strip lower arguments with
  | none => simp [h]
  | some gesture => simp [h]

/-- **The pending state is that of the last selection** since the flush. -/
theorem mimicState_eq {p : RobotBridgeProcessor}
    (h : (RobotBridgeProcessor.system strip lower).Reachable p) :
    p.mimicState = pendingOf (lastSelection strip lower p.calls) := by
  refine h.invariant (I := fun p => p.mimicState = pendingOf (lastSelection strip lower p.calls)) ?_
    fun p a q hp _ hst => ?_
  · rintro _ rfl
    rfl
  · cases a with
    | setMimic arguments =>
        cases hst
        show setMimicHandler strip lower arguments p.mimicState = _
        rw [hp, setMimicHandler_pendingOf, lastSelection_append]
    | textFrame text =>
        cases hst
        exact hp
    | flushBuffer =>
        cases hst
        unfold RobotBridgeProcessor.flushBuffer
        split
        · exact hp
        · rfl

end Tool

/-! ## What is performed -/

namespace ExpressionService

def motionOf (s : ExpressionService) : Gesture → Option MotionDefinition
  | .emotional emotion => s.emotionalMotions emotion
  | .reactional reaction => s.reactionalMotions reaction

/-- The motion of a gesture, with perception stopped. -/
def performed (gesture : Gesture) (s : ExpressionService) : ExpressionService :=
  ((s.publish .stopPerceptionRequest).executeMotion (s.motionOf gesture)).publish .startPerceptionRequest

/-- The emotional motion, if the reaction is not the more similar one. -/
theorem makeMimic_emotional {response : LLMResponseData} {emotion : EmotionType}
    (hsimilarity : ¬ response.reactionSimilarity > response.emotionSimilarity)
    (hemotion : response.emotion = emotion.value) (s : ExpressionService) :
    s.makeMimic response = s.performed (.emotional emotion) := by
  simp only [makeMimic, if_neg hsimilarity, executeEmotionalMotion, hemotion,
    EmotionType.enumerator_value, Option.bind_some]
  rfl

theorem makeMimic_reactional {response : LLMResponseData} {reaction : ReactionType}
    (hsimilarity : response.reactionSimilarity > response.emotionSimilarity)
    (hreaction : response.reaction = reaction.value) (s : ExpressionService) :
    s.makeMimic response = s.performed (.reactional reaction) := by
  simp only [makeMimic, if_pos hsimilarity, executeReactionalMotion, hreaction,
    ReactionType.enumerator_value, Option.bind_some]
  rfl

end ExpressionService

/-- **The lookup succeeds, and the payload asks for the gesture.** -/
theorem flushPayload_pendingOf (fullText : String) (gesture : Option Gesture) :
    ∃ payload, flushPayload fullText (pendingOf gesture) = some payload ∧
      payload.sentence = fullText ∧ ∀ s : ExpressionService,
        s.makeMimic payload.received = s.performed (gesture.getD (.emotional .happy)) := by
  cases gesture with
  | none =>
      have hdefault : ¬ Binary32.round (Float64.round (7 / 10)) > Binary32.round (Float64.round (4 / 5)) := by
        decide +kernel
      exact ⟨_, rfl, rfl, fun s => s.makeMimic_emotional hdefault rfl⟩
  | some gesture =>
      have hone : Binary32.round 1 > Binary32.round 0 := by decide +kernel
      cases gesture with
      | emotional emotion =>
          refine ⟨_, by simp only [flushPayload, pendingOf, EmotionType.ofName_name, Option.map_some]; rfl,
            rfl, fun s => ?_⟩
          exact s.makeMimic_emotional (not_lt_of_gt hone) (by cases emotion <;> rfl)
      | reactional reaction =>
          refine ⟨_, by simp only [flushPayload, pendingOf, ReactionType.ofName_name, Option.map_some]; rfl,
            rfl, fun s => ?_⟩
          exact s.makeMimic_reactional hone (by cases reaction <;> rfl)

/-- **The chosen mimic is performed.** Whatever was called since the last flush, the pending state holds one
    name of a member at most, so the flush builds a payload; the robot reads it back, with the text of the
    buffer, and executes the motion of the last selection, or happy if there was none. -/
theorem chosen_mimic_performed (strip lower : String → String) (repr : ℚ → String)
    (parse : List UInt8 → Option Json) (memory : LLMResponseData) {p : RobotBridgeProcessor}
    (h : (RobotBridgeProcessor.system strip lower).Reachable p) (hbuffer : p.buffer ≠ [])
    (hjson : ∀ payload, p.payload = some payload →
      parse (utf8 (Json.dumps repr payload.toJson)) = some payload.toJson) :
    p.mimicState.WellFormed ∧ ∃ payload response,
      p.flushBuffer.sent = p.sent ++ [payload] ∧
      LLMResponseData.ofText parse memory (utf8 ((MessagePayload.dict payload.members).text repr)) =
        some response ∧
      response.sentence = " ".intercalate p.buffer ∧ ∀ s : ExpressionService,
        s.makeMimic response =
          s.performed ((lastSelection strip lower p.calls).getD (.emotional .happy)) := by
  have hstate := mimicState_eq strip lower h
  obtain ⟨payload, hpayload, hsentence, hmimic⟩ :=
    flushPayload_pendingOf (" ".intercalate p.buffer) (lastSelection strip lower p.calls)
  rw [← hstate] at hpayload
  refine ⟨by rw [hstate]; exact wellFormed_pendingOf _, payload, payload.received, ?_, ?_, hsentence, hmimic⟩
  · simp [RobotBridgeProcessor.flushBuffer, hbuffer, RobotBridgeProcessor.payload, hpayload]
  · show (parse (utf8 (Json.dumps repr payload.toJson))).bind (LLMResponseData.ofJson memory) = _
    rw [hjson payload hpayload, Option.bind_some, ofJson_payload]

/-- A valid emotion, and then a call with an unknown name and a reaction that is no string. -/
def angryTurn : List ProcessorAction :=
  [.setMimic fun name => if name = "emotion" then some (.string "angry") else none,
    .setMimic fun name => if name = "emotion" then some (.string "dance") else some (.int 3),
    .textFrame "Dur!"]

theorem angry_performed : ∃ (p : RobotBridgeProcessor) (response : LLMResponseData),
    p.buffer = ["Dur!"] ∧ response.sentence = "Dur!" ∧ ∀ s : ExpressionService,
      s.makeMimic response = s.performed (.emotional .angry) := by
  let payload : LLMResponsePayload :=
    { sentence := "Dur!", emotionalGesture := 1, emotionSimilarity := 1, reactionSimilarity := 0 }
  let repr : ℚ → String := fun q => if q = 1 then "1.0" else "0.0"
  let parse : List UInt8 → Option Json := fun text =>
    if text = utf8 (Json.dumps repr payload.toJson) then some payload.toJson else none
  have hrun : ((RobotBridgeProcessor.system id id).exec RobotBridgeProcessor.initial angryTurn).map
      (fun p => (p.buffer, p.payload, lastSelection id id p.calls)) =
        some (["Dur!"], some payload, some (.emotional .angry)) := rfl
  obtain ⟨p, hp, hstate⟩ := System.exists_of_exec
    (.init rfl : (RobotBridgeProcessor.system id id).Reachable _) (fun _ _ _ => trivial) hrun
  simp only [Prod.mk.injEq] at hstate
  obtain ⟨hbuffer, hpayload, hlast⟩ := hstate
  have hjson : ∀ payload', p.payload = some payload' →
      parse (utf8 (Json.dumps repr payload'.toJson)) = some payload'.toJson := by
    intro payload' h
    cases hpayload.symm.trans h
    exact if_pos rfl
  obtain ⟨-, -, response, -, -, hsentence, hmimic⟩ :=
    chosen_mimic_performed id id repr parse payload.received hp (by rw [hbuffer]; simp) hjson
  rw [hbuffer] at hsentence
  rw [hlast] at hmimic
  exact ⟨p, response, hbuffer, hsentence, hmimic⟩

end Kufibot
