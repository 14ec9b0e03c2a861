import Kufibot.Messages.Json

/-!
# `Messages.CameraRecord` — a camera reply, written and read back

`to_json` writes thirteen members, and the constructor reads the same thirteen. But the five measures of
the face go into a variable of the constructor that has the name of the field, so a record that is read back
has no face measures. All its other fields are the ones that were written (`ofJson_toJson`).
-/

namespace Kufibot

open Lib

/-- The members are of type `int`. -/
structure BoundingBox.Fits (box : BoundingBox) : Prop where
  xmin : FitsInt box.xmin
  ymin : FitsInt box.ymin
  xmax : FitsInt box.xmax
  ymax : FitsInt box.ymax

namespace CameraSnapShotResponseData

/-- The value that `to_json` dumps. -/
def toJson (d : CameraSnapShotResponseData) : Json :=
  .object [("image_path", .string d.imagePath), ("face_emotion", .string d.faceEmotion),
    ("face_left_ear", .float d.faceInfo.leftEar), ("face_right_ear", .float d.faceInfo.rightEar),
    ("face_avg_ear", .float d.faceInfo.avgEar), ("face_mar", .float d.faceInfo.mar),
    ("face_eyebrow_height", .float d.faceInfo.eyebrowHeight), ("hand_gesture", .string d.handGesture),
    ("hand_bbox_xmin", .int d.handBbox.xmin), ("hand_bbox_ymin", .int d.handBbox.ymin),
    ("hand_bbox_xmax", .int d.handBbox.xmax), ("hand_bbox_ymax", .int d.handBbox.ymax),
    ("hand_bbox_valid", .bool d.handBbox.valid)]

/-! ## The members, read back -/

section Members

variable (d : CameraSnapShotResponseData)

theorem valueOr_toJson {α : Type} {convert : Json → Option α} {key : String} {v : Json} {a b : α}
    (hmember : d.toJson.member key = some v) (hv : convert v = some a) :
    d.toJson.valueOr convert key b = some a := by
  rw [Json.valueOr, hmember]
  exact hv

/-- An `int` is read back as it was. -/
theorem valueOr_toJson_int {key : String} {n otherwise : Int}
    (hmember : d.toJson.member key = some (.int n)) (hn : FitsInt n) :
    d.toJson.valueOr Json.asInt key otherwise = some n := by
  apply d.valueOr_toJson hmember
  show some (n.bmod (2 ^ 32)) = some n
  rw [(bmod_eq_self_iff n).mpr hn]

end Members

/-- **What is read back** is the record without the measures of the face. -/
theorem ofJson_toJson (d : CameraSnapShotResponseData) (hbox : d.handBbox.Fits) :
    ofJson d.toJson = some { d with faceInfo := {} } := by
  have himage : d.toJson.valueOr Json.asString "image_path" "" = some d.imagePath :=
    d.valueOr_toJson rfl rfl
  have hemotion : d.toJson.valueOr Json.asString "face_emotion" "" = some d.faceEmotion :=
    d.valueOr_toJson rfl rfl
  have hleft : d.toJson.valueOr Json.asDouble "face_left_ear" 0 = some d.faceInfo.leftEar :=
    d.valueOr_toJson rfl rfl
  have hright : d.toJson.valueOr Json.asDouble "face_right_ear" 0 = some d.faceInfo.rightEar :=
    d.valueOr_toJson rfl rfl
  have havg : d.toJson.valueOr Json.asDouble "face_avg_ear" 0 = some d.faceInfo.avgEar :=
    d.valueOr_toJson rfl rfl
  have hmar : d.toJson.valueOr Json.asDouble "face_mar" 0 = some d.faceInfo.mar :=
    d.valueOr_toJson rfl rfl
  have hbrow : d.toJson.valueOr Json.asDouble "face_eyebrow_height" 0 = some d.faceInfo.eyebrowHeight :=
    d.valueOr_toJson rfl rfl
  have hgesture : d.toJson.valueOr Json.asString "hand_gesture" "" = some d.handGesture :=
    d.valueOr_toJson rfl rfl
  have hxmin : d.toJson.valueOr Json.asInt "hand_bbox_xmin" 0 = some d.handBbox.xmin :=
    d.valueOr_toJson_int rfl hbox.xmin
  have hymin : d.toJson.valueOr Json.asInt "hand_bbox_ymin" 0 = some d.handBbox.ymin :=
    d.valueOr_toJson_int rfl hbox.ymin
  have hxmax : d.toJson.valueOr Json.asInt "hand_bbox_xmax" 0 = some d.handBbox.xmax :=
    d.valueOr_toJson_int rfl hbox.xmax
  have hymax : d.toJson.valueOr Json.asInt "hand_bbox_ymax" 0 = some d.handBbox.ymax :=
    d.valueOr_toJson_int rfl hbox.ymax
  have hvalid : d.toJson.valueOr Json.asBool "hand_bbox_valid" false = some d.handBbox.valid :=
    d.valueOr_toJson rfl rfl
  unfold ofJson
  split
  · rw [himage, hemotion, hleft, hright, havg, hmar, hbrow, hgesture, hxmin, hymin, hxmax, hymax, hvalid]
    rfl
  · rename_i hobject
    exact absurd rfl (hobject _)

/-- **The record that is read back is the one that was written** iff there were no measures of the face. -/
theorem camera_record_comes_back_iff (d : CameraSnapShotResponseData) (hbox : d.handBbox.Fits) :
    ofJson d.toJson = some d ↔ d.faceInfo = {} := by
  rw [d.ofJson_toJson hbox]
  constructor
  · intro h
    exact (congrArg faceInfo (Option.some.inj h)).symm
  · intro h
    rw [← h]

/-- A calm face with an open mouth, and a hand. -/
def openMouth : CameraSnapShotResponseData where
  imagePath := "image.jpg"
  faceEmotion := "calm"
  faceInfo := { mar := 1 }
  handGesture := "open"
  handBbox := { xmin := 10, ymin := 20, xmax := 30, ymax := 40, valid := true }

theorem openMouth_fits : openMouth.handBbox.Fits where
  xmin := by decide
  ymin := by decide
  xmax := by decide
  ymax := by decide

theorem camera_record_comes_back_open_mouth :
    openMouth.handBbox.Fits ∧ (ofJson openMouth.toJson = some openMouth ↔ openMouth.faceInfo = {}) :=
  ⟨openMouth_fits, camera_record_comes_back_iff openMouth openMouth_fits⟩

/-- The mouth comes back as closed. -/
theorem camera_record_loses_mouth : openMouth.handBbox.Fits ∧
    ∃ d, ofJson openMouth.toJson = some d ∧ d.faceInfo.mar = 0 ∧ openMouth.faceInfo.mar ≠ 0 ∧
      d ≠ openMouth := by
  refine ⟨openMouth_fits, _, openMouth.ofJson_toJson openMouth_fits, rfl, one_ne_zero, ?_⟩
  intro h
  have hmar : (0 : ℚ) = 1 := congrArg (fun d => d.faceInfo.mar) h
  exact zero_ne_one hmar

end CameraSnapShotResponseData

end Kufibot
