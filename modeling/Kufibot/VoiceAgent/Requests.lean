import Kufibot.Services.VoiceAgent
import Kufibot.VoiceAgent.Bridge
import Kufibot.VoiceAgent.RequestReply

/-!
# `VoiceAgent.Requests` — what the request helpers return

`request_sensor_data` and `request_camera_snapshot` return `json.loads` of the datagram that comes back. The
robot puts the record into the string `payload` of an envelope, so what is returned is the envelope, never
the record; and the path of a snapshot is under a key that `CameraSnapShotResponseData` does not read.

Nothing is lost or delayed here; the interleavings of the calls are the subject of `RequestReply`.
-/

namespace Kufibot

open Lib

/-- The same object, in whatever order its members are written. -/
def SameMembers (j k : Json) : Prop := ∀ key, j.member key = k.member key

namespace VoiceAgentService

variable (repr : ℚ → String) (parse : List UInt8 → Option Json) (dump : Json → String)
  (loads : List UInt8 → Option Json) (memory : LLMResponseData)

/-- The robot's work on the request of a helper. -/
def serve (kind : RequestKind) (s later : VoiceAgentService) : List VoiceAgentOutput :=
  s.receive parse dump memory (sendMessage repr kind.request (.str "")) later

def sentPacket : VoiceAgentOutput → Option Json
  | .sendData packet => some packet
  | _ => none

/-- **The result of a helper**: the reply, read by `json.loads`. No reply is a timeout. -/
def requestReply (kind : RequestKind) (s later : VoiceAgentService) : Option Json :=
  ((s.serve repr parse dump memory kind later).filterMap sentPacket).head?.bind fun packet =>
    loads (utf8 (dump packet))

/-! ## What the docstrings promise -/

/-- The object that `to_json` encodes. -/
def SensorRecord (data : SensorData) (result : Option Json) : Prop :=
  ∃ j r, data.toJson = some (some j) ∧ result = some r ∧ SameMembers r j

/-- An object that decodes to a snapshot with this path. -/
def SnapshotRecord (path : String) (result : Option Json) : Prop :=
  ∃ r data, result = some r ∧ CameraSnapShotResponseData.ofJson r = some data ∧ data.imagePath = path

/-! ## Only envelopes are sent -/

variable {repr parse dump loads memory} {s later : VoiceAgentService}

theorem processMessage_sendData {type : Option MessageType} {payload : String}
    {output : List VoiceAgentOutput} {packet : Json}
    (h : processMessage parse dump memory type payload s later = some output)
    (hpacket : .sendData packet ∈ output) : ∃ type payload, packet = replyPacket type payload := by
  unfold processMessage at h
  split at h
  · split at h
    · obtain ⟨text, -, rfl⟩ := Option.map_eq_some_iff.mp h
      cases List.mem_singleton.mp hpacket
      exact ⟨_, _, rfl⟩
    · cases h
      exact absurd hpacket List.not_mem_nil
  · obtain ⟨data, -, rfl⟩ := Option.map_eq_some_iff.mp h
    cases List.mem_singleton.mp hpacket
  · cases h
    rcases List.mem_cons.mp hpacket with hpacket | hpacket
    · cases hpacket
    · cases List.mem_singleton.mp hpacket
      exact ⟨_, _, rfl⟩
  · cases h
    exact absurd hpacket List.not_mem_nil

theorem receive_sendData {datagram : List UInt8} {packet : Json}
    (hpacket : .sendData packet ∈ s.receive parse dump memory datagram later) :
    ∃ type payload, packet = replyPacket type payload := by
  unfold receive at hpacket
  simp only at hpacket
  split at hpacket
  · exact absurd hpacket List.not_mem_nil
  · unfold processReceivedData at hpacket
    cases houtput : (parse (UdpServerSocket.receiveData datagram)).bind fun packet =>
        processPacket parse dump memory packet s later with
    | none =>
        rw [houtput] at hpacket
        exact absurd hpacket List.not_mem_nil
    | some output =>
        rw [houtput, Option.getD_some] at hpacket
        obtain ⟨received, -, houtput⟩ := Option.bind_eq_some_iff.mp houtput
        unfold processPacket at houtput
        split at houtput
        · cases houtput
          exact absurd hpacket List.not_mem_nil
        · obtain ⟨type, -, houtput⟩ := Option.bind_eq_some_iff.mp houtput
          obtain ⟨payload, -, houtput⟩ := Option.bind_eq_some_iff.mp houtput
          exact processMessage_sendData houtput hpacket

/-- **A result has the members of an envelope.** -/
theorem requestReply_envelope {kind : RequestKind} {r : Json}
    (hloads : ∀ packet, .sendData packet ∈ s.serve repr parse dump memory kind later →
      ∃ r, loads (utf8 (dump packet)) = some r ∧ SameMembers r packet)
    (h : s.requestReply repr parse dump loads memory kind later = some r) :
    ∃ type payload, SameMembers r (replyPacket type payload) := by
  unfold requestReply at h
  obtain ⟨packet, hhead, hr⟩ := Option.bind_eq_some_iff.mp h
  have hmem := List.mem_of_mem_head? hhead
  obtain ⟨output, houtput, hsent⟩ := List.mem_filterMap.mp hmem
  have hpacket : .sendData packet ∈ s.serve repr parse dump memory kind later := by
    cases output with
    | sendData packet' =>
        cases Option.some.inj hsent
        exact houtput
    | _ => cases hsent
  obtain ⟨r', hr', hsame⟩ := hloads packet hpacket
  rw [hr'] at hr
  cases hr
  obtain ⟨type, payload, rfl⟩ := receive_sendData hpacket
  exact ⟨type, payload, hsame⟩

/-! ## No record is an envelope -/

/-- The members of a sensor record are not those of an envelope. -/
theorem compass_of_toJson {data : SensorData} {j : Json} (h : data.toJson = some (some j)) :
    (j.member "compass").isSome := by
  unfold SensorData.toJson at h
  split at h
  · simp only [Option.bind_eq_bind, Option.bind_eq_some_iff] at h
    obtain ⟨_, -, _, -, _, -, _, -, _, -, _, -, _, -, h⟩ := h
    cases h
    rfl
  · cases h

/-- Without the key, the path is empty. -/
theorem imagePath_of_ofJson {j : Json} {data : CameraSnapShotResponseData}
    (h : CameraSnapShotResponseData.ofJson j = some data) (hmember : j.member "image_path" = none) :
    data.imagePath = "" := by
  unfold CameraSnapShotResponseData.ofJson at h
  split at h
  · simp only [Option.bind_eq_bind, Option.bind_eq_some_iff, Json.valueOr, hmember] at h
    obtain ⟨path, hpath, _, -, _, -, _, -, _, -, _, -, _, -, _, -, _, -, _, -, _, -, _, -, _, -, h⟩ := h
    cases h
    exact (Option.some.inj hpath).symm
  · cases h
    rfl

/-- **The helpers never return the documented record.** Whatever the robot has measured and whatever path
    it has kept, the sensor request does not return the object of the data, and the snapshot request returns
    nothing that decodes to the path of a saved image. -/
theorem never_documented_record (s later : VoiceAgentService)
    (hloads : ∀ kind packet, .sendData packet ∈ s.serve repr parse dump memory kind later →
      ∃ r, loads (utf8 (dump packet)) = some r ∧ SameMembers r packet) :
    (∀ data, ¬ SensorRecord data (s.requestReply repr parse dump loads memory .sensorData later)) ∧
      ∀ path, path ≠ "" →
        ¬ SnapshotRecord path (s.requestReply repr parse dump loads memory .cameraSnapshot later) := by
  constructor
  · rintro data ⟨j, r, hj, hr, hsame⟩
    obtain ⟨type, payload, henvelope⟩ := requestReply_envelope (hloads _) hr
    have hcompass := compass_of_toJson hj
    rw [← hsame "compass", henvelope "compass"] at hcompass
    cases hcompass
  · rintro path hpath ⟨r, data, hr, hdata, himage⟩
    obtain ⟨type, payload, henvelope⟩ := requestReply_envelope (hloads _) hr
    have hmember : r.member "image_path" = none := henvelope "image_path"
    exact hpath (himage.symm.trans (imagePath_of_ofJson hdata hmember))

/-! ## One robot -/

def reading : SensorData where
  compassData := some ⟨90, 0, 0⟩
  distanceData := some ⟨120, 50, 25⟩
  powerData := some ⟨12, 0, 1, 12⟩
  currentJointAngles := some fun _ => some 90

/-- The text of the reading. -/
def readingText : String :=
  "\x7b\"compass\":\x7b\"angle\":90,\"magnet\":\x7b\"magnet_x\":0,\"magnet_y\":0\x7d\x7d," ++
  "\"distance\":\x7b\"Distance\":120,\"Strength\":50,\"Temperature\":25\x7d," ++
  "\"joint_angles\":\x7b\"eye_left\":90,\"eye_right\":90,\"left_arm\":90,\"neck_down\":90," ++
  "\"neck_right\":90,\"neck_up\":90,\"right_arm\":90\x7d," ++
  "\"power\":\x7b\"BusCurrent\":1.0,\"BusVoltage\":12.0,\"Power\":12.0,\"ShuntVoltage\":0.0\x7d\x7d"

def measured : VoiceAgentService where
  sensorData := some reading
  cameraSnapShot := "/root/.config/kufi/frame_1.jpg"

/-- The end of the text of a reply. -/
def typeChars (type : Int) : List Char :=
  ",\"type\":".toList ++ (toString type).toList ++ "\x7d".toList

/-- The texts of what this robot dumps: a reply, the path or the reading. -/
def dumpMeasured : Json → String
  | .object [("type", .int type), ("payload", .string payload)] =>
      String.ofList ("\x7b\"payload\":".toList ++ Json.quote payload.toList ++ typeChars type)
  | .object [("snapShotPath", .string path)] =>
      String.ofList ("\x7b\"snapShotPath\":".toList ++ Json.quote path.toList ++ "\x7d".toList)
  | _ => readingText

/-- The reply of this robot. -/
def measuredReply : RequestKind → Json
  | .sensorData => replyPacket .sensorData readingText
  | .cameraSnapshot =>
      replyPacket .cameraSnapShotResponse
        (dumpMeasured (.object [("snapShotPath", .string measured.cameraSnapShot)]))

/-- The datagram of a request; no float is in it. -/
def requestDatagram (kind : RequestKind) : List UInt8 :=
  sendMessage (fun _ => "0.0") kind.request (.str "")

def parseRequest (text : List UInt8) : Option Json :=
  if text = requestDatagram .sensorData then some (packet .sensorReadRequest "")
  else if text = requestDatagram .cameraSnapshot then some (packet .cameraSnapShotRequest "")
  else none

def loadsReply (text : List UInt8) : Option Json :=
  if text = utf8 (dumpMeasured (measuredReply .sensorData)) then some (measuredReply .sensorData)
  else if text = utf8 (dumpMeasured (measuredReply .cameraSnapshot)) then
    some (measuredReply .cameraSnapshot)
  else none

/-- `memory` of a response that is never read. -/
def unread : LLMResponseData := ⟨"", 0, 0, "", false, Binary32.ofRat 0, Binary32.ofRat 0, Binary32.ofRat 0⟩

theorem reverse_encode_append (cs ds : List Char) (h : 2 < (encode ds).length) :
    (encode (cs ++ ds)).reverse[2]? = (encode ds).reverse[2]? := by
  rw [encode_append, List.reverse_append, List.getElem?_append_left (by simpa using h)]

/-- The bytes of the end of a reply. -/
theorem dumpMeasured_replyPacket (type : MessageType) (payload : String) :
    utf8 (dumpMeasured (replyPacket type payload)) =
      encode ("\x7b\"payload\":".toList ++ Json.quote payload.toList ++ typeChars type.value) :=
  utf8_ofList _

/-- The texts of the replies differ in the last byte of the type but one. -/
theorem measuredReply_ne : utf8 (dumpMeasured (measuredReply .cameraSnapshot)) ≠
    utf8 (dumpMeasured (measuredReply .sensorData)) := by
  rw [measuredReply, measuredReply, dumpMeasured_replyPacket, dumpMeasured_replyPacket]
  intro h
  have hreverse := congrArg (fun bytes => bytes.reverse[2]?) h
  rw [reverse_encode_append _ _ (by decide), reverse_encode_append _ _ (by decide)] at hreverse
  exact absurd hreverse (by decide)

theorem loadsReply_measured (kind : RequestKind) :
    loadsReply (utf8 (dumpMeasured (measuredReply kind))) = some (measuredReply kind) := by
  cases kind with
  | sensorData => exact if_pos rfl
  | cameraSnapshot =>
      unfold loadsReply
      rw [if_neg measuredReply_ne, if_pos rfl]

theorem parseRequest_datagram (kind : RequestKind) :
    parseRequest (UdpServerSocket.receiveData (requestDatagram kind)) = some (packet kind.request "") := by
  have hreceived : UdpServerSocket.receiveData (requestDatagram kind) = requestDatagram kind := by
    cases kind <;> decide +kernel
  rw [hreceived]
  cases kind with
  | sensorData => exact if_pos rfl
  | cameraSnapshot =>
      have hne : requestDatagram .cameraSnapshot ≠ requestDatagram .sensorData := by decide +kernel
      unfold parseRequest
      rw [if_neg hne, if_pos rfl]
      rfl

/-- What this robot does with a request. -/
theorem serve_measured (kind : RequestKind) :
    (measured.serve (fun _ => "0.0") parseRequest dumpMeasured unread kind measured).filterMap sentPacket =
      [measuredReply kind] := by
  have hnonempty : (UdpServerSocket.receiveData (requestDatagram kind)).isEmpty = false := by
    cases kind <;> decide +kernel
  unfold serve receive
  show List.filterMap sentPacket (if (UdpServerSocket.receiveData (requestDatagram kind)).isEmpty then []
    else measured.processReceivedData parseRequest dumpMeasured unread
      (UdpServerSocket.receiveData (requestDatagram kind)) measured) = _
  rw [hnonempty]
  unfold processReceivedData
  rw [parseRequest_datagram]
  cases kind <;> rfl

theorem requestReply_measured (kind : RequestKind) :
    measured.requestReply (fun _ => "0.0") parseRequest dumpMeasured loadsReply unread kind measured =
      some (measuredReply kind) := by
  unfold requestReply
  rw [serve_measured]
  exact loadsReply_measured kind

/-- **Neither helper returns the record**, although the reading is complete and the path is there. -/
theorem record_not_returned :
    ¬ (SensorRecord reading (measured.requestReply (fun _ => "0.0") parseRequest dumpMeasured loadsReply
        unread .sensorData measured) ∧
      SnapshotRecord measured.cameraSnapShot (measured.requestReply (fun _ => "0.0") parseRequest
        dumpMeasured loadsReply unread .cameraSnapshot measured)) := by
  rintro ⟨⟨j, r, hj, hr, hsame⟩, -⟩
  rw [requestReply_measured] at hr
  cases hr
  have hcompass := compass_of_toJson hj
  rw [← hsame "compass"] at hcompass
  cases hcompass

/-- What this robot sends is read back, so its results are no records. -/
theorem never_documented_record_measured :
    reading.toJson.isSome ∧
      ¬ SensorRecord reading (measured.requestReply (fun _ => "0.0") parseRequest dumpMeasured loadsReply
        unread .sensorData measured) ∧
      ¬ SnapshotRecord measured.cameraSnapShot (measured.requestReply (fun _ => "0.0") parseRequest
        dumpMeasured loadsReply unread .cameraSnapshot measured) := by
  have hloads : ∀ kind packet,
      .sendData packet ∈ measured.serve (fun _ => "0.0") parseRequest dumpMeasured unread kind measured →
        ∃ r, loadsReply (utf8 (dumpMeasured packet)) = some r ∧ SameMembers r packet := by
    intro kind packet hpacket
    have hmem : packet ∈ (measured.serve (fun _ => "0.0") parseRequest dumpMeasured unread kind
        measured).filterMap sentPacket := List.mem_filterMap.mpr ⟨_, hpacket, rfl⟩
    rw [serve_measured, List.mem_singleton] at hmem
    subst hmem
    exact ⟨measuredReply kind, loadsReply_measured kind, fun _ => rfl⟩
  obtain ⟨hsensor, hsnapshot⟩ := never_documented_record measured measured hloads
  exact ⟨rfl, hsensor reading, hsnapshot _ (by decide)⟩

end VoiceAgentService

end Kufibot
