import Kufibot.Operators.FaceGesture
import Kufibot.Operators.HandGesture
import Kufibot.Services.LastKnownTarget

/-!
# `Services.Recognition` — from a frame to the head

`processFrame` gives a frame to the two recognisers and publishes what they found; the tracker turns the head
towards it. What the pipelines behind the recognisers find in a frame is given (`FrameAnswers`).

The members of the recognisers survive a frame, but what they publish of it does not depend on them
(`processFrame_spec`). `HeadFollower` is the recognisers and the tracker as one system.
-/

namespace Kufibot

open Lib HandGestureRecognizingOperator

/-! ## The service -/

/-- What there is in a frame: the pixels of the face with the measures of `detectEmotion`, and the hands. -/
structure FrameAnswers where
  face : List Pixel
  measures : CalibrationData
  hands : Option (List (List Pixel))

/-- `RecognizedGestureData`, with the fields that the tracker does not read. -/
structure Recognition extends RecognizedGestureData where
  handLandmarks : List Landmark := []
  handGesture : String := ""

/-- The operators of `PerceptionService`. -/
structure Recognizers where
  face : FaceGestureRecognizingOperator
  hand : HandGestureRecognizingOperator

/-- The body of the loop over the hands. -/
def recognizeHand (found : Recognition × HandGestureRecognizingOperator) (handNo : Nat) :
    Option (Recognition × HandGestureRecognizingOperator) := do
  let hand := found.2.findPosition handNo
  let handGesture ← hand.detectGesture
  return ({ found.1 with handLandmarks := hand.lmsList, handBbox := hand.bbox, handGesture }, hand)

/-- The loop: each hand overwrites the one before it. -/
def recognizeHands (data : Recognition) (hand : HandGestureRecognizingOperator) :
    Option (Recognition × HandGestureRecognizingOperator) :=
  (List.range hand.getHandCount).foldlM recognizeHand (data, hand)

/-- `faceEmotion` stays empty if there is no face. -/
def recognizeEmotion (answers : FrameAnswers) (face : FaceGestureRecognizingOperator) :
    Option (String × FaceGestureRecognizingOperator) :=
  if (landmarks answers.face).isEmpty then some ("", face) else face.detectEmotion (some answers.measures)

/-- `processFrame`: what it publishes. -/
def processFrame (answers : FrameAnswers) (s : Recognizers) : Option (Recognition × Recognizers) := do
  let emotion ← recognizeEmotion answers s.face
  let found ← recognizeHands { faceLandmarks := landmarks answers.face, faceEmotion := emotion.1 }
    (s.hand.findFingers answers.hands)
  return (found.1, { face := emotion.2, hand := found.2 })

/-! ## What a frame shows -/

namespace FrameAnswers

/-- The hand that the loop ends with. -/
def lastHand (answers : FrameAnswers) : Option (List Pixel) := answers.hands.bind List.getLast?

/-- **The point is on the face**; or on the last hand, if there is no face of more than three landmarks. -/
def Shows (answers : FrameAnswers) (point : Point2D) : Prop :=
  if 3 < answers.face.length then Within answers.face point
  else ∃ hand, answers.lastHand = some hand ∧ Within hand point

/-- What a frame leaves in the message of all that a target depends on. -/
def message (answers : FrameAnswers) : RecognizedGestureData where
  faceLandmarks := landmarks answers.face
  handBbox := answers.lastHand.elim {} boundingBox

end FrameAnswers

/-- The first `count` hands have been looked at. -/
structure LookedAt (hands : List (List Pixel)) (data : Recognition) (count : Nat)
    (found : Recognition × HandGestureRecognizingOperator) : Prop where
  results : found.2.results = some hands
  initialized : found.2.initialized = true
  faceLandmarks : found.1.faceLandmarks = data.faceLandmarks
  handBbox : found.1.handBbox = ((hands.take count).getLast?).elim data.handBbox boundingBox

theorem lookedAt_recognizeHand {hands : List (List Pixel)} {data : Recognition} {count : Nat}
    {found found' : Recognition × HandGestureRecognizingOperator} (h : LookedAt hands data count found)
    (hcount : count < hands.length) (hstep : recognizeHand found count = some found') :
    LookedAt hands data (count + 1) found' := by
  unfold recognizeHand at hstep
  rw [findPosition_eq h.results hcount] at hstep
  obtain ⟨handGesture, _, hfound⟩ := Option.bind_eq_some_iff.mp hstep
  cases hfound
  refine ⟨h.results, h.initialized, h.faceLandmarks, ?_⟩
  rw [List.take_succ_eq_append_getElem hcount, List.getLast?_concat]
  rfl

theorem lookedAt_loop {hands : List (List Pixel)} {data : Recognition} (count : Nat)
    (hcount : count ≤ hands.length) {start found : Recognition × HandGestureRecognizingOperator}
    (hstart : LookedAt hands data 0 start) (h : (List.range count).foldlM recognizeHand start = some found) :
    LookedAt hands data count found := by
  induction count generalizing found with
  | zero => cases h; exact hstart
  | succ count ih =>
      rw [List.range_succ, List.foldlM_append] at h
      obtain ⟨before, hbefore, hlast⟩ := Option.bind_eq_some_iff.mp h
      rw [List.foldlM_cons] at hlast
      obtain ⟨_, hstep, hnil⟩ := Option.bind_eq_some_iff.mp hlast
      cases hnil
      exact lookedAt_recognizeHand (ih (by omega) hbefore) (by omega) hstep

/-- The operator reads the landmarks up to the tip of the little finger, if there are any. -/
def Readable (hand : List Pixel) : Prop := hand = [] ∨ 21 ≤ hand.length

theorem recognizeHand_isSome_iff {hands : List (List Pixel)} {data : Recognition} {count : Nat}
    {found : Recognition × HandGestureRecognizingOperator} (h : LookedAt hands data count found)
    (hcount : count < hands.length) : (recognizeHand found count).isSome ↔ Readable hands[count] := by
  have hempty : landmarks hands[count] = [] ↔ hands[count] = [] := by
    rw [← List.length_eq_zero_iff, length_landmarks, List.length_eq_zero_iff]
  have hgesture : (recognizeHand found count).isSome ↔ (found.2.findPosition count).detectGesture.isSome := by
    cases hlabel : (found.2.findPosition count).detectGesture <;> simp [recognizeHand, hlabel]
  rw [hgesture, findPosition_eq h.results hcount, detectGesture_isSome_iff, length_landmarks, hempty]
  rfl

theorem loop_isSome_iff {hands : List (List Pixel)} {data : Recognition} (count : Nat)
    (hcount : count ≤ hands.length) {start : Recognition × HandGestureRecognizingOperator}
    (hstart : LookedAt hands data 0 start) :
    ((List.range count).foldlM recognizeHand start).isSome ↔ ∀ hand ∈ hands.take count, Readable hand := by
  induction count with
  | zero => exact iff_of_true rfl fun _ h => absurd h List.not_mem_nil
  | succ count ih =>
      have hlast : (List.range (count + 1)).foldlM recognizeHand start =
          ((List.range count).foldlM recognizeHand start).bind fun found => recognizeHand found count := by
        rw [List.range_succ, List.foldlM_append]
        simp only [List.foldlM_cons, List.foldlM_nil, bind_pure]
        rfl
      rw [hlast, List.take_succ_eq_append_getElem hcount, List.forall_mem_append, List.forall_mem_singleton,
        ← ih (by omega)]
      cases hbefore : (List.range count).foldlM recognizeHand start with
      | none => simp
      | some found =>
          have hlooked := lookedAt_loop count (by omega) hstart hbefore
          rw [Option.bind_some, recognizeHand_isSome_iff hlooked hcount]
          exact ⟨fun hreadable => ⟨rfl, hreadable⟩, And.right⟩

/-- **The hands of a frame are not read beyond their end** iff each of them has all landmarks or none. -/
theorem recognizeHands_isSome_iff {s : HandGestureRecognizingOperator} (hs : s.initialized = true)
    (hands : List (List Pixel)) (data : Recognition) :
    (recognizeHands data (s.findFingers (some hands))).isSome ↔ ∀ hand ∈ hands, Readable hand := by
  have hstart : LookedAt hands data 0 (data, { initialized := true, results := some hands }) :=
    ⟨rfl, rfl, rfl, rfl⟩
  have h := loop_isSome_iff hands.length le_rfl hstart
  rw [List.take_length] at h
  rw [← h, findFingers_eq hs]
  rfl

/-- **What is published of a frame** is in the frame: nothing is left of an earlier one. -/
theorem processFrame_spec {answers : FrameAnswers} {s t : Recognizers} {data : Recognition}
    (hs : s.hand.initialized = true) (h : processFrame answers s = some (data, t)) :
    data.faceLandmarks = landmarks answers.face ∧
      data.handBbox = answers.lastHand.elim {} boundingBox ∧ t.hand.initialized = true := by
  obtain ⟨emotion, _, h⟩ := Option.bind_eq_some_iff.mp h
  obtain ⟨found, hfound, h⟩ := Option.bind_eq_some_iff.mp h
  cases h
  rw [findFingers_eq hs] at hfound
  unfold recognizeHands at hfound
  unfold FrameAnswers.lastHand
  cases hhands : answers.hands with
  | none =>
      rw [hhands] at hfound
      cases hfound
      exact ⟨rfl, rfl, rfl⟩
  | some hands =>
      rw [hhands] at hfound
      have hlooked := lookedAt_loop hands.length le_rfl ⟨rfl, rfl, rfl, rfl⟩ hfound
      refine ⟨hlooked.faceLandmarks, ?_, hlooked.initialized⟩
      rw [hlooked.handBbox, List.take_length]
      rfl

/-- What the tracker finds in the message is in the frame, or is the origin. -/
theorem shows_of_detectedCenter {answers : FrameAnswers} {center : Point2D}
    (h : answers.message.detectedCenter = some center) :
    center = { x := 0, y := 0 } ∨ answers.Shows center := by
  have hhas : answers.message.hasFace = true ↔ 3 < answers.face.length := by
    unfold RecognizedGestureData.hasFace FrameAnswers.message
    rw [← length_landmarks answers.face]
    cases landmarks answers.face <;> simp
  unfold RecognizedGestureData.detectedCenter at h
  unfold FrameAnswers.Shows
  split_ifs at h with hfaced hvalid
  · cases h
    rw [if_pos (hhas.mp hfaced)]
    exact RecognizedGestureData.getFaceCenter_spec rfl
  · cases h
    rw [if_neg (mt hhas.mpr hfaced)]
    have hbox : answers.message.handBbox = answers.lastHand.elim {} boundingBox := rfl
    cases hlast : answers.lastHand with
    | none =>
        rw [hbox, hlast] at hvalid
        cases hvalid
    | some hand =>
        rw [hlast] at hbox
        exact .inr ⟨hand, rfl, RecognizedGestureData.within_getHandCenter hbox hvalid⟩

/-! ## The recognisers and the tracker -/

/-- The services at either end of a `RecognizedGesture`. -/
structure HeadFollower where
  recognizers : Recognizers
  tracker : LandmarkTrackerService

namespace HeadFollower

inductive Action where
  | frame (answers : FrameAnswers)
  | sensorData (data : Option (Option JointMap))
  | tick (draw : Nat)

def step (env : TrackerEnv) (s : HeadFollower) : Action → Option HeadFollower
  | .frame answers => do
      let published ← processFrame answers s.recognizers
      return { recognizers := published.2
               tracker := s.tracker.recognizedGesture published.1.toRecognizedGestureData }
  | .sensorData data => return { s with tracker := data.elim s.tracker s.tracker.sensorData }
  | .tick draw => return { s with tracker := (s.tracker.tick env draw).2 }

/-- Both recognisers are set up before the loop of the camera starts. -/
def started (tracker : LandmarkTrackerService) : HeadFollower where
  recognizers := { face := .fresh, hand := { initialized := true } }
  tracker

def system (env : TrackerEnv) : System HeadFollower Action where
  init s := ∃ tracker, (LandmarkTrackerService.system env).init tracker ∧ s = started tracker
  step := step env

/-- The command that turns the head towards a point. -/
def headTowards (env : TrackerEnv) (point : Point2D) : ControlData :=
  let errorVector := LandmarkTrackerService.calculateErrorVector env point
  LandmarkTrackerService.headCommand errorVector.angle
    (LandmarkTrackerService.calculateControlMagnitude errorVector)

end HeadFollower

namespace LandmarkTrackerService

/-- What a tick selects, in terms of what it detects. -/
theorem selected_eq (s : LandmarkTrackerService) :
    s.selected = (s.lastKnownTarget.seen (tracked s.recognizedGestureData)).getValue := by
  have hselected : s.selected = ((s.selectTheTarget (tracked s.recognizedGestureData)).1,
      (s.selectTheTarget (tracked s.recognizedGestureData)).2.lastKnownTarget) := rfl
  rw [hselected, selectTheTarget_eq]

theorem act_controlData_iff {env : TrackerEnv} {draw : Nat} {trackingData : TrackingData}
    {errorVector : PolarVector} {s t : LandmarkTrackerService} {data : ControlData} :
    (t.act env draw trackingData errorVector (s.getTrackingState errorVector).1).1 =
        some (.controlData data) ↔
      errorTreshold < errorVector.magnitude ∧
        data = headCommand errorVector.angle (calculateControlMagnitude errorVector) := by
  constructor
  · intro h
    have hfar := far_of_headCommand h
    unfold getTrackingState at h
    rw [if_pos hfar] at h
    cases h
    exact ⟨hfar, rfl⟩
  · rintro ⟨hfar, rfl⟩
    unfold getTrackingState
    rw [if_pos hfar]
    rfl

/-- A head command goes towards the target that has been selected, if that is far from the centre. -/
theorem tick_controlData_iff {env : TrackerEnv} {draw : Nat} {s : LandmarkTrackerService}
    {data : ControlData} : (s.tick env draw).1 = some (.controlData data) ↔
      errorTreshold < (calculateErrorVector env s.selected.1).magnitude ∧
        data = HeadFollower.headTowards env s.selected.1 :=
  act_controlData_iff

end LandmarkTrackerService

end Kufibot
