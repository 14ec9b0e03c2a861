import Kufibot.Lib.JsonText
import Kufibot.Messages.Json
import Kufibot.VoiceAgent.MessageTypes

/-!
# `Services.VoiceAgent` — the robot's end of the UDP bridge

`UdpServerSocket::receiveData` reads a datagram into a buffer of 2048 bytes and returns it as a C string;
`VoiceAgentService` parses it and publishes or replies. `nlohmann::json` is two parameters, `parse` and
`dump`; an exception ends the processing of the datagram and is logged.
-/

namespace Kufibot

open Lib

/-- `receiveData`: what `recvfrom` puts into the buffer, up to the first zero byte. -/
def UdpServerSocket.receiveData (datagram : List UInt8) : List UInt8 :=
  (datagram.take 2047).takeWhile (· ≠ 0)

structure VoiceAgentService where
  sensorData : Option SensorData
  cameraSnapShot : String

/-- What the service does with a datagram. -/
inductive VoiceAgentOutput where
  | publishLLMResponse (data : LLMResponseData)
  /-- `publish(MessageType::CameraSnapShotRequest)`: without data. -/
  | publishCameraSnapShotRequest
  | sendData (packet : Json)

namespace VoiceAgentService

variable (parse : List UInt8 → Option Json) (dump : Json → String) (memory : LLMResponseData)

/-- `packet` of a reply. -/
def replyPacket (type : MessageType) (payload : String) : Json :=
  .object [("type", .int type.value), ("payload", .string payload)]

/-- `to_json` of the sensor data. -/
def sensorText (data : SensorData) : Option String :=
  data.toJson.map fun j => (j.map dump).getD ""

/-- The cases of `process_received_data`; `later` is the service behind the sleep of 10 ms. -/
def processMessage (type : Option MessageType) (payload : String) (s later : VoiceAgentService) :
    Option (List VoiceAgentOutput) :=
  match type with
  | some .sensorReadRequest =>
      match s.sensorData with
      | some data =>
          (sensorText dump data).map fun text => [.sendData (replyPacket .sensorData text)]
      | none => some []
  | some .llmResponse =>
      (LLMResponseData.ofText parse memory (utf8 payload)).map fun data => [.publishLLMResponse data]
  | some .cameraSnapShotRequest =>
      let imageData : Json := .object [("snapShotPath", .string later.cameraSnapShot)]
      some [.publishCameraSnapShotRequest,
        .sendData (replyPacket .cameraSnapShotResponse (dump imageData))]
  | _ => some []

/-- `process_received_data` behind `Json::parse`. -/
def processPacket (packet : Json) (s later : VoiceAgentService) : Option (List VoiceAgentOutput) :=
  if !packet.contains "type" || !packet.contains "payload" then some []
  else
    ((packet.index "type").bind Json.asInt).bind fun type =>
      ((packet.index "payload").bind Json.asString).bind fun payload =>
        processMessage parse dump memory (enumerator MessageType.declared type) payload s later

def processReceivedData (data : List UInt8) (s later : VoiceAgentService) : List VoiceAgentOutput :=
  ((parse data).bind fun packet => processPacket parse dump memory packet s later).getD []

/-- One pass of `service_function` that receives a datagram. -/
def receive (datagram : List UInt8) (s later : VoiceAgentService) : List VoiceAgentOutput :=
  let receivedData := UdpServerSocket.receiveData datagram
  if receivedData.isEmpty then [] else s.processReceivedData parse dump memory receivedData later

/-- What `subcribed_data_receive` keeps of a message with data. -/
def sensorDataReceived (data : SensorData) (s : VoiceAgentService) : VoiceAgentService :=
  { s with sensorData := some data }

def cameraSnapShotReceived (data : CameraSnapShotResponseData) (s : VoiceAgentService) :
    VoiceAgentService :=
  { s with cameraSnapShot := data.imagePath }

end VoiceAgentService

end Kufibot
