import Mathlib.Data.Nat.Sqrt
import Kufibot.Controllers.ServoMotor
import Kufibot.Lib.System
import Kufibot.Messages.Gestures

/-!
# `Services.LandmarkTracker` — following a face or a hand with the head

Twenty times a second the service looks for a face or a hand in the last `RecognizedGesture` and moves the
head towards it. What it saw last is remembered for five ticks (`LastKnownTarget`), so that the head goes on
when a detection is missed.

But a tick copies the message and does not consume it. As long as no other message comes, every tick finds
the same detection and starts the countdown again: the head follows what may be long gone. When each detection
is looked at by one tick only, the countdown is right (`follows_fresh`).
-/

namespace Kufibot

open Lib

/-! ## The data -/

structure Landmark where
  id : Int
  cx : Int
  cy : Int
deriving DecidableEq, Repr

structure RecognizedGestureData where
  faceEmotion : String := ""
  faceLandmarks : List Landmark := []
  handBbox : BoundingBox := {}
deriving DecidableEq

structure Point2D where
  x : Int
  y : Int
deriving DecidableEq, Repr

structure PolarVector where
  angle : Int
  magnitude : Int
deriving DecidableEq, Repr

inductive TrackState where
  | idle
  | tracking
  | engagingReaction
deriving DecidableEq, Repr

structure TrackingData where
  recognizedGestureData : RecognizedGestureData
  /-- Empty if no sensor data has come. -/
  currentJointAngles : JointMap

namespace RecognizedGestureData

/-- The centre of the eyes. -/
def getFaceCenter (data : RecognizedGestureData) : Point2D :=
  let eyes := data.faceLandmarks.filter fun l => l.id = 33 || l.id = 133 || l.id = 362 || l.id = 263
  let eyePointCount : Int := eyes.length
  if eyePointCount > 0 then
    { x := (eyes.map Landmark.cx).sum.tdiv eyePointCount
      y := (eyes.map Landmark.cy).sum.tdiv eyePointCount }
  else { x := 0, y := 0 }

def getHandCenter (data : RecognizedGestureData) : Point2D where
  x := (data.handBbox.xmin + data.handBbox.xmax).tdiv 2
  y := (data.handBbox.ymin + data.handBbox.ymax).tdiv 2

def hasFace (data : RecognizedGestureData) : Bool :=
  !data.faceLandmarks.isEmpty && data.faceLandmarks.length > 3

/-- There is a face or a hand. -/
def hasDetection (data : RecognizedGestureData) : Bool := data.hasFace || data.handBbox.valid

end RecognizedGestureData

structure LastKnownTarget where
  target : Option Point2D := none
  /-- Not set before there is a target. -/
  followTimeOut : Int
deriving DecidableEq, Repr

namespace LastKnownTarget

def setValue (target : Point2D) (_ : LastKnownTarget) : LastKnownTarget where
  target := some target
  followTimeOut := 5

def getValue (l : LastKnownTarget) : Point2D × LastKnownTarget :=
  match l.target with
  | some target =>
      let followTimeOut := l.followTimeOut - 1
      if followTimeOut ≤ 0 then ({ x := 0, y := 0 }, { target := none, followTimeOut })
      else (target, { target := some target, followTimeOut })
  | none => ({ x := 0, y := 0 }, l)

end LastKnownTarget

/-- What a tick publishes. -/
inductive TrackerMessage where
  | controlData (data : ControlData)
  | engageReaction (reaction : String)

/-- What the service uses of the rest of the program. -/
structure TrackerEnv where
  /-- `atan2(y, x)` in degrees from 0 to 360, as an `int`. -/
  polarAngle : Int → Int → Int
  faceReactions : List FaceReaction

structure LandmarkTrackerService where
  recognizedGestureData : RecognizedGestureData := {}
  /-- `_sensorData.currentJointAngles`. -/
  currentJointAngles : Option JointMap := none
  lastKnownTarget : LastKnownTarget
  reactionEngageTimeout : Int := 430
  /-- `ExpressionService::idleJointPositions`. -/
  idleJointPositions : JointMap
  /-- Ghost: the ticks since the last message with a detection. -/
  ticksSinceDetection : Option Nat := none

namespace LandmarkTrackerService

def maxError : Int := 300
def minMagnitude : Int := 1
def maxMagnitude : Int := 4
def errorTreshold : Int := 50
def reactionTresholdCount : Int := 500

/-! ## One tick -/

def collectTrackingData (s : LandmarkTrackerService) : TrackingData × LandmarkTrackerService :=
  ({ recognizedGestureData := s.recognizedGestureData
     currentJointAngles := s.currentJointAngles.getD fun _ => none },
    { s with currentJointAngles := none })

/-- A face comes before a hand. -/
def selectTheTarget (trackData : TrackingData) (s : LandmarkTrackerService) :
    Point2D × LandmarkTrackerService :=
  let data := trackData.recognizedGestureData
  let lastKnownTarget :=
    if data.hasFace then s.lastKnownTarget.setValue data.getFaceCenter
    else if data.handBbox.valid then s.lastKnownTarget.setValue data.getHandCenter
    else s.lastKnownTarget
  let (target, lastKnownTarget) := lastKnownTarget.getValue
  (target, { s with lastKnownTarget })

/-- The root is computed in doubles, and its fraction dropped. -/
def calculateErrorVector (env : TrackerEnv) (target : Point2D) : PolarVector :=
  if target.x = 0 ∧ target.y = 0 then { angle := 0, magnitude := 0 }
  else
    let errorX := target.x - 320
    let errorY := target.y - 240
    { angle := env.polarAngle (-errorY) errorX
      magnitude := Nat.sqrt (errorX * errorX + errorY * errorY).toNat }

def getTrackingState (errorVector : PolarVector) (s : LandmarkTrackerService) :
    TrackState × LandmarkTrackerService :=
  if errorVector.magnitude > errorTreshold then (.tracking, s)
  else if errorVector.angle = 0 ∧ errorVector.magnitude = 0 then (.idle, s)
  else if s.reactionEngageTimeout ≥ reactionTresholdCount then
    (.engagingReaction, { s with reactionEngageTimeout := 1 })
  else (.idle, { s with reactionEngageTimeout := s.reactionEngageTimeout + 1 })

def calculateControlMagnitude (errorVector : PolarVector) : Int :=
  let magnitude := minMagnitude +
    ((errorVector.magnitude - errorTreshold) * (maxMagnitude - minMagnitude)).tdiv (maxError - errorTreshold)
  let magnitude := if magnitude < minMagnitude then minMagnitude else magnitude
  if magnitude > maxMagnitude then maxMagnitude else magnitude

/-- `controlHead`: the message that it publishes. -/
def headCommand (angle magnitude : Int) : ControlData where
  source := some .landmarkTrackerService
  headJoystick := some { angle, strength := magnitude }

/-- `engageReaction`, with what `rand` returns. -/
def reactionMessage (env : TrackerEnv) (draw : Nat) (data : RecognizedGestureData) : Option String :=
  if data.faceEmotion = "No Face" then none
  else
    let matching := env.faceReactions.filter fun r => r.emotion = data.faceEmotion
    some ((matching[draw % matching.length]?).elim "" FaceReaction.reaction)

/-- Counts the tick in the ghost. -/
def countTick (s : LandmarkTrackerService) : LandmarkTrackerService :=
  { s with ticksSinceDetection := s.ticksSinceDetection.map (· + 1) }

/-- The `switch` of the loop. -/
def act (env : TrackerEnv) (draw : Nat) (trackingData : TrackingData) (errorVector : PolarVector)
    (trackState : TrackState) (s : LandmarkTrackerService) :
    Option TrackerMessage × LandmarkTrackerService :=
  match trackState with
  | .tracking =>
      let magnitude := calculateControlMagnitude errorVector
      let noAngles := ServoMotorController.mapOrder.all fun j => (trackingData.currentJointAngles j).isNone
      let idleJointPositions := if noAngles then s.idleJointPositions else trackingData.currentJointAngles
      (some (.controlData (headCommand errorVector.angle magnitude)), { s with idleJointPositions })
  | .engagingReaction =>
      ((reactionMessage env draw trackingData.recognizedGestureData).map .engageReaction, s)
  | .idle => (none, s)

/-- The body of the loop. -/
def tick (env : TrackerEnv) (draw : Nat) (s : LandmarkTrackerService) :
    Option TrackerMessage × LandmarkTrackerService :=
  let (trackingData, s) := s.collectTrackingData
  let (target, s) := s.selectTheTarget trackingData
  let errorVector := calculateErrorVector env target
  let (trackState, s) := s.getTrackingState errorVector
  s.countTick.act env draw trackingData errorVector trackState

/-! ## Deliveries -/

def recognizedGesture (data : RecognizedGestureData) (s : LandmarkTrackerService) :
    LandmarkTrackerService :=
  { s with
    recognizedGestureData := data
    ticksSinceDetection := if data.hasDetection then some 0 else s.ticksSinceDetection }

def sensorData (currentJointAngles : Option JointMap) (s : LandmarkTrackerService) :
    LandmarkTrackerService :=
  { s with currentJointAngles }

/-- `subcribed_data_receive` drops a message without data. -/
inductive Action where
  | recognizedGesture (data : Option RecognizedGestureData)
  | sensorData (data : Option (Option JointMap))
  | tick (draw : Nat)

def step (env : TrackerEnv) (s : LandmarkTrackerService) : Action → Option LandmarkTrackerService
  | .recognizedGesture data => some (data.elim s s.recognizedGesture)
  | .sensorData data => some (data.elim s s.sensorData)
  | .tick draw => some (s.tick env draw).2

/-- The service as it is constructed; the countdown is not set. -/
def constructed (followTimeOut : Int) (idleJointPositions : JointMap) : LandmarkTrackerService where
  lastKnownTarget := { followTimeOut }
  idleJointPositions

def system (env : TrackerEnv) : System LandmarkTrackerService Action where
  init s := ∃ followTimeOut idleJointPositions, s = constructed followTimeOut idleJointPositions
  step := step env

/-! ## What a tick does -/

/-- The target of the tick, and what is remembered of it. -/
def selected (s : LandmarkTrackerService) : Point2D × LastKnownTarget :=
  let data := s.recognizedGestureData
  LastKnownTarget.getValue <|
    if data.hasFace then s.lastKnownTarget.setValue data.getFaceCenter
    else if data.handBbox.valid then s.lastKnownTarget.setValue data.getHandCenter
    else s.lastKnownTarget

/-- Only the reaction countdown and the idle positions are written after the target has been selected. -/
structure SameTarget (s t : LandmarkTrackerService) : Prop where
  recognizedGestureData : t.recognizedGestureData = s.recognizedGestureData
  lastKnownTarget : t.lastKnownTarget = s.lastKnownTarget
  ticksSinceDetection : t.ticksSinceDetection = s.ticksSinceDetection

theorem sameTarget_getTrackingState (errorVector : PolarVector) (s : LandmarkTrackerService) :
    SameTarget s (s.getTrackingState errorVector).2 := by
  unfold getTrackingState
  split_ifs <;> exact ⟨rfl, rfl, rfl⟩

theorem sameTarget_act (env : TrackerEnv) (draw : Nat) (trackingData : TrackingData)
    (errorVector : PolarVector) (trackState : TrackState) (s : LandmarkTrackerService) :
    SameTarget s (s.act env draw trackingData errorVector trackState).2 := by
  cases trackState <;> exact ⟨rfl, rfl, rfl⟩

/-- A head command means that the target is far from the centre. -/
theorem far_of_headCommand {env : TrackerEnv} {draw : Nat} {trackingData : TrackingData}
    {errorVector : PolarVector} {s t : LandmarkTrackerService} {data : ControlData}
    (h : (t.act env draw trackingData errorVector (s.getTrackingState errorVector).1).1 =
      some (.controlData data)) : errorTreshold < errorVector.magnitude := by
  unfold getTrackingState at h
  split_ifs at h with hfar
  · exact hfar
  · cases h
  · simp [act] at h
  · cases h

/-- **One tick**: what it leaves, and when it publishes a head command. -/
theorem tick_spec (env : TrackerEnv) (draw : Nat) (s : LandmarkTrackerService) :
    (s.tick env draw).2.recognizedGestureData = s.recognizedGestureData ∧
      (s.tick env draw).2.lastKnownTarget = s.selected.2 ∧
      (s.tick env draw).2.ticksSinceDetection = s.ticksSinceDetection.map (· + 1) ∧
      ∀ data, (s.tick env draw).1 = some (.controlData data) →
        errorTreshold < (calculateErrorVector env s.selected.1).magnitude := by
  let u := (s.collectTrackingData.2.selectTheTarget s.collectTrackingData.1).2
  let errorVector := calculateErrorVector env s.selected.1
  have hstate : SameTarget u (u.getTrackingState errorVector).2 := sameTarget_getTrackingState ..
  have hact : SameTarget (u.getTrackingState errorVector).2.countTick (s.tick env draw).2 :=
    sameTarget_act ..
  refine ⟨?_, ?_, ?_, fun data hdata => far_of_headCommand hdata⟩
  · exact hact.recognizedGestureData.trans hstate.recognizedGestureData
  · exact hact.lastKnownTarget.trans hstate.lastKnownTarget
  · exact hact.ticksSinceDetection.trans (congrArg (Option.map (· + 1)) hstate.ticksSinceDetection)

/-- A detection starts the countdown. -/
theorem selected_of_hasDetection {s : LandmarkTrackerService}
    (h : s.recognizedGestureData.hasDetection = true) : s.selected.2.followTimeOut = 4 := by
  unfold RecognizedGestureData.hasDetection at h
  unfold selected
  simp only
  split_ifs with hface hhand
  · rfl
  · rfl
  · simp [hface, hhand] at h

/-- Without one it runs down. -/
theorem selected_of_not_hasDetection {s : LandmarkTrackerService}
    (h : s.recognizedGestureData.hasDetection = false) : s.selected = s.lastKnownTarget.getValue := by
  unfold RecognizedGestureData.hasDetection at h
  rw [Bool.or_eq_false_iff] at h
  unfold selected
  simp only [h.1, h.2, Bool.false_eq_true, if_false]

/-- **The countdown**: a target is forgotten, or it was remembered with more time left. -/
theorem getValue_spec (l : LastKnownTarget) :
    (l.getValue.1 = { x := 0, y := 0 } ∧ l.getValue.2.target = none) ∨
      (l.target.isSome ∧ 2 ≤ l.followTimeOut ∧ l.getValue.2.followTimeOut = l.followTimeOut - 1) := by
  unfold LastKnownTarget.getValue
  cases htarget : l.target with
  | none => exact .inl ⟨rfl, htarget⟩
  | some target =>
      simp only
      split_ifs with hout
      · exact .inl ⟨rfl, rfl⟩
      · exact .inr ⟨rfl, by omega, rfl⟩

/-- The origin stands for no target. -/
theorem not_far_origin (env : TrackerEnv) :
    ¬ errorTreshold < (calculateErrorVector env { x := 0, y := 0 }).magnitude := by
  show ¬ (50 : Int) < 0
  decide

/-! ## How old a followed detection is -/

/-- A detection that a tick finds is at most `n` ticks old. -/
def SeesWithin (n : Nat) (s : LandmarkTrackerService) : Action → Prop
  | .tick _ => s.recognizedGestureData.hasDetection = true → ∃ k, k ≤ n ∧ s.ticksSinceDetection = some k
  | _ => True

/-- What is remembered is as old as the countdown says, up to `n` ticks. -/
def Countdown (n : Nat) (s : LandmarkTrackerService) : Prop :=
  s.lastKnownTarget.target.isSome →
    ∃ k : Nat, s.ticksSinceDetection = some k ∧ k + s.lastKnownTarget.followTimeOut ≤ n + 5

theorem countdown_step {env : TrackerEnv} {n : Nat} {s t : LandmarkTrackerService} {action : Action}
    (h : Countdown n s) (hsees : s.SeesWithin n action) (hstep : s.step env action = some t) :
    Countdown n t := by
  cases action with
  | recognizedGesture data =>
      cases hstep
      cases data with
      | none => exact h
      | some data =>
          intro htarget
          obtain ⟨k, hk, hle⟩ := h htarget
          show ∃ k' : Nat, (if data.hasDetection then some 0 else s.ticksSinceDetection) = some k' ∧
            k' + s.lastKnownTarget.followTimeOut ≤ n + 5
          split_ifs
          · exact ⟨0, rfl, by omega⟩
          · exact ⟨k, hk, hle⟩
  | sensorData data => cases hstep; cases data <;> exact h
  | tick draw =>
      cases hstep
      obtain ⟨_, hremembered, hticks, _⟩ := tick_spec env draw s
      intro htarget
      rw [hremembered] at htarget ⊢
      rw [hticks]
      cases hdetection : s.recognizedGestureData.hasDetection with
      | true =>
          -- the countdown starts at 5 and has run for this tick
          obtain ⟨k, hk, hsince⟩ := hsees hdetection
          refine ⟨k + 1, by rw [hsince]; rfl, ?_⟩
          rw [selected_of_hasDetection hdetection]
          push_cast
          omega
      | false =>
          rw [selected_of_not_hasDetection hdetection] at htarget ⊢
          rcases getValue_spec s.lastKnownTarget with ⟨_, hnone⟩ | ⟨hsome, _, hcount⟩
          · rw [hnone] at htarget
            cases htarget
          · -- one tick more, and one less to go
            obtain ⟨k, hsince, hle⟩ := h hsome
            refine ⟨k + 1, by rw [hsince]; rfl, ?_⟩
            rw [hcount]
            push_cast
            omega

/-- **A tick that moves the head** follows a detection of at most `n + 3` ticks before. -/
theorem headCommand_within {env : TrackerEnv} {n draw : Nat} {s : LandmarkTrackerService}
    (h : Countdown n s) (hsees : s.SeesWithin n (.tick draw)) {data : ControlData}
    (hdata : (s.tick env draw).1 = some (.controlData data)) :
    ∃ k, k ≤ n + 3 ∧ s.ticksSinceDetection = some k := by
  have hfar := (tick_spec env draw s).2.2.2 data hdata
  cases hdetection : s.recognizedGestureData.hasDetection with
  | true =>
      obtain ⟨k, hk, hsince⟩ := hsees hdetection
      exact ⟨k, by omega, hsince⟩
  | false =>
      rw [selected_of_not_hasDetection hdetection] at hfar
      rcases getValue_spec s.lastKnownTarget with ⟨horigin, _⟩ | ⟨hsome, hcount, _⟩
      · rw [horigin] at hfar
        exact absurd hfar (not_far_origin env)
      · obtain ⟨k, hsince, hle⟩ := h hsome
        exact ⟨k, by omega, hsince⟩

/-- **Only fresh detections are followed**, in every run in which each detection is looked at by one tick
    only: a tick that finds a detection finds one that has come since the tick before. Then each tick that
    publishes a head command has had a detection within the last four ticks, itself included. -/
theorem follows_fresh {env : TrackerEnv} {s t : LandmarkTrackerService}
    {tr : List (LandmarkTrackerService × Action)} (hs : (system env).init s)
    (h : (system env).Run s tr t) (hsees : ∀ x ∈ tr, x.1.SeesWithin 0 x.2) :
    ∀ x ∈ tr, ∀ draw data, x.2 = .tick draw → (x.1.tick env draw).1 = some (.controlData data) →
      ∃ k, k < 4 ∧ x.1.ticksSinceDetection = some k := by
  have hstart : Countdown 0 s := by
    obtain ⟨followTimeOut, idleJointPositions, rfl⟩ := hs
    intro htarget
    cases htarget
  have hall := h.invariantVia (I := Countdown 0)
    (fun _ _ _ hs hok hstep => countdown_step hs hok hstep) hstart hsees
  intro x hx draw data htick hdata
  have hmem : x.1 ∈ System.visited tr t := List.mem_append_left _ (List.mem_map_of_mem hx)
  obtain ⟨k, hk, hsince⟩ := headCommand_within (hall x.1 hmem) (htick ▸ hsees x hx) hdata
  exact ⟨k, by omega, hsince⟩

/-! ### Two runs -/

/-- A program without reactions, in which everything is to the right. -/
def rightEnv : TrackerEnv where
  polarAngle _ _ := 0
  faceReactions := []

/-- A face at the right edge of the picture. -/
def faceAtEdge : RecognizedGestureData where
  faceLandmarks := [⟨33, 600, 240⟩, ⟨133, 600, 240⟩, ⟨362, 600, 240⟩, ⟨263, 600, 240⟩]

def newService : LandmarkTrackerService := constructed 0 fun _ => none

theorem newService_init : (system rightEnv).init newService := ⟨0, _, rfl⟩

/-- The strength of a published head command. -/
def headStrength : Option TrackerMessage → Option Int
  | some (.controlData data) => data.headJoystick.map JoyStickData.strength
  | _ => none

theorem exists_of_headStrength {message : Option TrackerMessage} {strength : Int}
    (h : headStrength message = some strength) : ∃ data, message = some (.controlData data) := by
  match message with
  | some (.controlData data) => exact ⟨data, rfl⟩
  | some (.engageReaction _) => cases h
  | none => cases h

/-- **The promise is broken** when one face has been seen and nothing comes any more: the fifth tick still
    moves the head. -/
theorem follows_stale : ∃ s, (system rightEnv).Reachable s ∧ s.ticksSinceDetection = some 4 ∧
    ∃ data, (s.tick rightEnv 0).1 = some (.controlData data) := by
  have hrun : ((system rightEnv).exec newService
      [.recognizedGesture (some faceAtEdge), .tick 0, .tick 0, .tick 0, .tick 0]).map
      (fun s => (s.ticksSinceDetection, headStrength (s.tick rightEnv 0).1)) = some (some 4, some 3) := by
    decide +kernel
  obtain ⟨s, hs, hstate⟩ :=
    System.exists_of_exec (System.ReachableVia.init newService_init) (fun _ _ _ => trivial) hrun
  obtain ⟨hticks, hstrength⟩ := Prod.mk.inj hstate
  exact ⟨s, hs, hticks, exists_of_headStrength hstrength⟩

/-- The service after the face, after a tick, and after a message without a face. -/
def sawFace : LandmarkTrackerService := newService.recognizedGesture faceAtEdge

def followed : LandmarkTrackerService := (sawFace.tick rightEnv 0).2

def lostFace : LandmarkTrackerService := followed.recognizedGesture {}

/-- The head goes on for one tick after the face is lost. -/
theorem follows_fresh_lost : headStrength (lostFace.tick rightEnv 0).1 = some 3 ∧
    ∃ k, k < 4 ∧ lostFace.ticksSinceDetection = some k := by
  have hstrength : headStrength (lostFace.tick rightEnv 0).1 = some 3 := by decide +kernel
  refine ⟨hstrength, ?_⟩
  have hrun : (system rightEnv).Run newService
      [(newService, .recognizedGesture (some faceAtEdge)), (sawFace, .tick 0),
        (followed, .recognizedGesture (some {})), (lostFace, .tick 0)] (lostFace.tick rightEnv 0).2 :=
    .snoc (.snoc (.snoc (.snoc .nil rfl) rfl) rfl) rfl
  obtain ⟨data, hdata⟩ := exists_of_headStrength hstrength
  refine follows_fresh newService_init hrun ?_ (lostFace, .tick 0) (by simp) 0 data rfl hdata
  simp only [List.forall_mem_cons]
  refine ⟨trivial, fun _ => ⟨0, le_rfl, rfl⟩, trivial, fun hdetection => ?_, ?_⟩
  · cases hdetection
  · intro x hx
    exact absurd hx List.not_mem_nil

end LandmarkTrackerService

end Kufibot
