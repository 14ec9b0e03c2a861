import Kufibot.Messages.Gestures
import Kufibot.Messages.Json

/-!
# `Services.Expression` — gestures

A motion is a pose and a sequence of further ones; each pose is published as a command with the angles of
all joints. `makeMimic` decides between the emotional and the reactional motion of a response by their
similarities. The waits between the poses are left out: a motion that ends publishes the same with them
(`Services.MotionSequence`).
-/

namespace Kufibot

open Lib

/-- What the service publishes. -/
inductive ExpressionPublication where
  | startPerceptionRequest
  | stopPerceptionRequest
  | controlData (data : ControlData)

structure ExpressionService where
  jointPositionList : ServoMotorJoint → GestureJointState → Option Int
  emotionalMotions : EmotionType → Option MotionDefinition
  reactionalMotions : ReactionType → Option MotionDefinition
  currentPositions : JointMap
  published : List ExpressionPublication

namespace ExpressionService

/-- `Default_Joint_Angles`. -/
def idleJointPositions : JointMap
  | .rightArm => some 15
  | .leftArm => some 170
  | .neck => some 78
  | .headUpDown => some 15
  | .headLeftRight => some 90
  | .eyeRight => some 160
  | .eyeLeft => some 20

def publish (p : ExpressionPublication) (s : ExpressionService) : ExpressionService :=
  { s with published := s.published ++ [p] }

def getAngleForJointState (s : ExpressionService) (joint : ServoMotorJoint) (state : GestureJointState) :
    Int :=
  (s.jointPositionList joint state).getD 90

/-- The command with these angles, and the positions that the service remembers. -/
def moveTo (jointAngles : JointMap) (s : ExpressionService) : ExpressionService :=
  let data : ControlData := { source := some .expressionService, jointAngles := some jointAngles }
  { s.publish (.controlData data) with currentPositions := jointAngles }

def setIdlePosition (s : ExpressionService) : ExpressionService := s.moveTo idleJointPositions

/-- The joints of the pose move, the others keep their positions. -/
def executeJointPositions (positions : JointPositions) (s : ExpressionService) : ExpressionService :=
  s.moveTo fun joint =>
    match positions joint with
    | some state => some (toUInt8 (s.getAngleForJointState joint state))
    | none => s.currentPositions joint

def executeMotionSequence (baseJoints : JointPositions) (sequence : List MotionSequenceItem)
    (s : ExpressionService) : ExpressionService :=
  let s := s.executeJointPositions baseJoints
  if sequence.isEmpty then s
  else (sequence.foldl (fun s currentItem => s.executeJointPositions currentItem.joints) s).setIdlePosition

/-- A motion that is not configured is only logged. -/
def executeMotion (motion : Option MotionDefinition) (s : ExpressionService) : ExpressionService :=
  match motion with
  | some motion => s.executeMotionSequence motion.joints motion.sequence
  | none => s

/-- `_emotionalMotions.find(emotionType)`: the keys of the map are enumerators. -/
def executeEmotionalMotion (emotionType : Int) (s : ExpressionService) : ExpressionService :=
  s.executeMotion ((enumerator EmotionType.declared emotionType).bind s.emotionalMotions)

def executeReactionalMotion (reactionType : Int) (s : ExpressionService) : ExpressionService :=
  s.executeMotion ((enumerator ReactionType.declared reactionType).bind s.reactionalMotions)

def makeMimic (llmResponse : LLMResponseData) (s : ExpressionService) : ExpressionService :=
  let s := s.publish .stopPerceptionRequest
  let s :=
    if llmResponse.reactionSimilarity > llmResponse.emotionSimilarity then
      s.executeReactionalMotion llmResponse.reaction
    else s.executeEmotionalMotion llmResponse.emotion
  s.publish .startPerceptionRequest

end ExpressionService

end Kufibot
