import Kufibot.Lib.Json
import Kufibot.Messages

/-!
# `Messages.Json` — the message records that are read from JSON or written to it

The constructors of `public_data_messages.h` that take a JSON value, and the `to_json` of the sensor data.
`none` is an exception.
-/

namespace Kufibot

open Lib

/-- `ControlData(Json)`: the smallest key of the object decides, and all other members are ignored. -/
def ControlData.ofJson (data : Json) : Option ControlData :=
  match data.firstKey with
  | none => some {}
  | some objectName => do
      let control ← data.index objectName
      let number : String → Option Int := fun field => (control.index field).bind Json.asInt
      if objectName = "body_joystick" then
        let angle ← number "Angle"
        let strength ← number "Strength"
        return { bodyJoystick := some ⟨angle, strength⟩ }
      else if objectName = "head_joystick" then
        let angle ← number "Angle"
        let strength ← number "Strength"
        return { headJoystick := some ⟨angle, strength⟩ }
      else if objectName = "right_arm" then
        let angle ← number "Angle"
        return { rightArmAngle := some angle }
      else if objectName = "left_arm" then
        let angle ← number "Angle"
        return { leftArmAngle := some angle }
      else if objectName = "left_eye" then
        let angle ← control.index "Angle"
        return { leftEye := some (angle.eqInt 180) }
      else if objectName = "right_eye" then
        let angle ← control.index "Angle"
        return { rightEye := some (angle.eqInt 180) }
      else return {}

/-- What a reply of the language model asks the robot to say and to do. Of the three gestures, only the
    parts that are read from JSON. -/
structure LLMResponseData where
  sentence : String
  /-- `emotionalGesture.emotion`: the number that was converted to `EmotionType`. -/
  emotion : Int
  /-- `reactionalGesture.reaction`: the number that was converted to `ReactionType`. -/
  reaction : Int
  /-- `directive.symbol`. -/
  directive : String
  endMarker : Bool
  emotionSimilarity : Binary32.Value
  reactionSimilarity : Binary32.Value
  directiveSimilarity : Binary32.Value
deriving DecidableEq

/-- `LLMResponseData(jsonStr)` behind `Json::parse`. What is no object leaves the numbers as they were in
    `memory`. -/
def LLMResponseData.ofJson (memory : LLMResponseData) (j : Json) : Option LLMResponseData :=
  match j with
  | .object _ => do
      let sentence ← j.valueOr Json.asString "sentence" ""
      let emotion ← j.valueOr Json.asInt "emotional_gesture" 255
      let reaction ← j.valueOr Json.asInt "reactional_gesture" 255
      let directive ← j.valueOr Json.asString "directive" ""
      let endMarker ← j.valueOr Json.asBool "end_marker" false
      let emotionSimilarity ← j.valueOr Json.asFloat "emotion_similarity" (Binary32.ofRat 0)
      let reactionSimilarity ← j.valueOr Json.asFloat "reaction_similarity" (Binary32.ofRat 0)
      let directiveSimilarity ← j.valueOr Json.asFloat "directive_similarity" (Binary32.ofRat 0)
      return { sentence, emotion, reaction, directive, endMarker, emotionSimilarity, reactionSimilarity,
               directiveSimilarity }
  | _ => some { memory with sentence := "", directive := "" }

/-- `LLMResponseData(jsonStr)`. -/
def LLMResponseData.ofText (parse : List UInt8 → Option Json) (memory : LLMResponseData)
    (jsonStr : List UInt8) : Option LLMResponseData :=
  (parse jsonStr).bind (ofJson memory)

structure FaceInfo where
  leftEar : ℚ := 0
  rightEar : ℚ := 0
  avgEar : ℚ := 0
  mar : ℚ := 0
  eyebrowHeight : ℚ := 0
deriving DecidableEq

structure CameraSnapShotResponseData where
  imagePath : String := ""
  faceEmotion : String := ""
  faceInfo : FaceInfo := {}
  handGesture : String := ""
  handBbox : BoundingBox := {}
deriving DecidableEq

/-- `CameraSnapShotResponseData(jsonStr)` behind `Json::parse`. -/
def CameraSnapShotResponseData.ofJson (j : Json) : Option CameraSnapShotResponseData :=
  match j with
  | .object _ => do
      let imagePath ← j.valueOr Json.asString "image_path" ""
      let faceEmotion ← j.valueOr Json.asString "face_emotion" ""
      -- the numbers of the face go into a local variable that hides the field
      let _leftEar ← j.valueOr Json.asDouble "face_left_ear" 0
      let _rightEar ← j.valueOr Json.asDouble "face_right_ear" 0
      let _avgEar ← j.valueOr Json.asDouble "face_avg_ear" 0
      let _mar ← j.valueOr Json.asDouble "face_mar" 0
      let _eyebrowHeight ← j.valueOr Json.asDouble "face_eyebrow_height" 0
      let handGesture ← j.valueOr Json.asString "hand_gesture" ""
      let xmin ← j.valueOr Json.asInt "hand_bbox_xmin" 0
      let ymin ← j.valueOr Json.asInt "hand_bbox_ymin" 0
      let xmax ← j.valueOr Json.asInt "hand_bbox_xmax" 0
      let ymax ← j.valueOr Json.asInt "hand_bbox_ymax" 0
      let valid ← j.valueOr Json.asBool "hand_bbox_valid" false
      return { imagePath, faceEmotion, handGesture, handBbox := { xmin, ymin, xmax, ymax, valid } }
  | _ => some {}

structure CompassData where
  angle : UInt16
  magnetX : Int16
  magnetY : Int16
deriving DecidableEq, Repr

structure DistanceData where
  distance : Int
  strength : Int
  temperature : Int
deriving DecidableEq, Repr

/-- The values are `float`. -/
structure PowerData where
  busVoltage : ℚ
  shuntVoltage : ℚ
  current : ℚ
  power : ℚ
deriving DecidableEq

structure SensorData where
  compassData : Option CompassData
  distanceData : Option DistanceData
  powerData : Option PowerData
  currentJointAngles : Option JointMap

namespace SensorData

/-- `currentJointAngles->at(joint)`, as a member. A missing joint throws; that the angles are missing
    altogether is undefined in C++, and taken as an exception too. -/
def jointAngle (data : SensorData) (key : String) (joint : ServoMotorJoint) : Option (String × Json) :=
  (data.currentJointAngles.bind fun angles => angles joint).map fun angle => (key, .int angle.toNat)

/-- The value that `to_json` dumps, `some none` for the empty string it returns if a reading is missing. -/
def toJson (data : SensorData) : Option (Option Json) :=
  match data.compassData, data.distanceData, data.powerData with
  | some compassData, some distanceData, some powerData => do
      let rightArm ← data.jointAngle "right_arm" .rightArm
      let leftArm ← data.jointAngle "left_arm" .leftArm
      let neckDown ← data.jointAngle "neck_down" .neck
      let neckUp ← data.jointAngle "neck_up" .headUpDown
      let neckRight ← data.jointAngle "neck_right" .headLeftRight
      let eyeRight ← data.jointAngle "eye_right" .eyeRight
      let eyeLeft ← data.jointAngle "eye_left" .eyeLeft
      let jointAngles : Json :=
        .object [rightArm, leftArm, neckDown, neckUp, neckRight, eyeRight, eyeLeft]
      let compass : Json :=
        .object [("angle", .int compassData.angle.toNat),
          ("magnet", .object [("magnet_x", .int compassData.magnetX.toInt),
            ("magnet_y", .int compassData.magnetY.toInt)])]
      let distance : Json :=
        .object [("Distance", .int distanceData.distance), ("Strength", .int distanceData.strength),
          ("Temperature", .int distanceData.temperature)]
      let power : Json :=
        .object [("BusVoltage", .float powerData.busVoltage), ("BusCurrent", .float powerData.current),
          ("Power", .float powerData.power), ("ShuntVoltage", .float powerData.shuntVoltage)]
      return some (.object [("joint_angles", jointAngles), ("compass", compass), ("distance", distance),
        ("power", power)])
  | _, _, _ => some none

end SensorData

end Kufibot
