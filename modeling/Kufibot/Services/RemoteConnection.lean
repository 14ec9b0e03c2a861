import Kufibot.Lib.System
import Kufibot.Messages.Json
import Mathlib.Data.List.Infix

/-!
# `Services.RemoteConnection` — the one-place mailbox of the remote clients

The websocket handlers put an open, a close or a message, and the handle of its client, into one slot under
the mutex. The service thread waits until the slot is full (or a camera frame has come), processes it
without the mutex and with sleeps of seconds in between, and then resets the slot.

`Timely` is the condition on a notification: it does not fall between the read of the slot and its reset.
Then a waiting service with an empty slot has processed the last notification, with the subscriptions and
the AI mode that it asks for; any other notification is followed by a waiting service that has lost it
(`last_notification_timely`).
-/

namespace Kufibot

open Lib

/-- What a websocket handler is called with; `H` is `ConnectionHandle`. -/
inductive Notification (H : Type) where
  | opened (hdl : H)
  | closed (hdl : H)
  | message (hdl : H) (text : String)

namespace Notification

variable {H : Type}

def hdl : Notification H → H
  | .opened h | .closed h | .message h _ => h

/-- What the handler writes into `_socketMessage`. -/
def text : Notification H → String
  | .opened _ => "on_open"
  | .closed _ => "on_close"
  | .message _ t => t

end Notification

/-- What the service publishes while it processes the slot. -/
inductive RemotePublication where
  | aiModeOnCall
  | aiModeOffCall
  | speakRequest (text : String)
  | llmQuery (query : String)
  | databaseInsertData (input output : String)
  | controlData (data : ControlData)

/-- A statement of the branches of `service_function`. -/
inductive RemoteStep where
  | publish (p : RemotePublication)
  | sleep (ms : Nat)
  | subscribeToPerception
  | subscribeToRobotController
  | unsubscribeFromPerception
  | unsubscribeFromRobotController
  | system (command : String)
  | resetFrame
  | resetHdl

/-- What the processing of the slot changes, the frame aside. -/
structure RemoteLink (H : Type) where
  /-- `_hdl`. -/
  hdl : Option H
  perception : Bool
  robotController : Bool
  published : List RemotePublication

/-- The content of `_socketMessage`. -/
structure ReceivedMessage where
  /-- Ghost: how many notifications came before. -/
  index : Nat
  text : String

/-- Where the service thread is. -/
inductive RemotePc where
  /-- At `while (_running)`. -/
  | loopTest
  /-- In `_condVar.wait`, with its predicate. -/
  | waiting
  /-- Woken, at `if (!_running)`. -/
  | runningTest
  | slotTest
  /-- The slot was found full. -/
  | readSlot
  /-- The statements that are left for the notification with this number. -/
  | process (index : Nat) (steps : List RemoteStep)
  | resetSlot
  | frameTest
  | sendFrame
  /-- Behind the loop. -/
  | exited
  /-- An exception has left the thread. -/
  | crashed

/-- `V` is the type of a frame, `D` that of the sensor data. -/
structure RemoteConnectionService (H V D : Type) where
  running : Bool
  /-- `_socketMessage`. -/
  socketMessage : Option ReceivedMessage
  link : RemoteLink H
  frame : Option V
  sensorData : Option D
  pc : RemotePc
  /-- Ghost: all notifications, and the numbers of those that were processed. -/
  notified : List (Notification H)
  processed : List Nat
  /-- The frames and the sensor data sent, and to whom. -/
  sent : List (H × V × Option D)

/-- What can happen next. -/
inductive RemoteAction (H V D : Type) where
  /-- A websocket handler is called, for any client. -/
  | notify (n : Notification H)
  /-- `subcribed_data_receive` with a frame, or with sensor data. -/
  | frame (v : V)
  | sensorData (d : D)
  | stop
  /-- The service thread goes on. -/
  | service

/-! ## Processing the slot -/

/-- `text.find(part) != npos`. -/
def hasSubstring (text part : String) : Bool :=
  text.toList.tails.any fun rest => part.toList.isPrefixOf rest

theorem hasSubstring_iff (text part : String) :
    hasSubstring text part = true ↔ part.toList <:+: text.toList := by
  unfold hasSubstring
  rw [List.any_eq_true, List.infix_iff_prefix_suffix]
  constructor
  · rintro ⟨rest, hrest, hprefix⟩
    exact ⟨rest, List.isPrefixOf_iff_prefix.mp hprefix, (List.mem_tails _ _).mp hrest⟩
  · rintro ⟨rest, hprefix, hsuffix⟩
    exact ⟨rest, (List.mem_tails _ _).mpr hsuffix, List.isPrefixOf_iff_prefix.mpr hprefix⟩

def onOpenSteps : List RemoteStep :=
  [.publish (.speakRequest "Uzaktan kumanda modu aktif!"), .sleep 3000, .publish .aiModeOffCall,
    .subscribeToPerception, .subscribeToRobotController]

def onCloseSteps : List RemoteStep :=
  [.publish .aiModeOnCall, .unsubscribeFromPerception, .unsubscribeFromRobotController, .sleep 1000,
    .publish (.speakRequest "EY AY Modu Aktif!"), .resetFrame, .resetHdl]

def talkieSteps (talkieValue : String) : List RemoteStep :=
  if hasSubstring talkieValue "switch ai mode on" then
    [.publish .aiModeOnCall, .sleep 1000, .publish (.speakRequest "EY AY Modu aktif!")]
  else if hasSubstring talkieValue "switch ai mode off" then
    [.publish (.speakRequest "Uzaktan kumanda modu aktif!"), .sleep 3000, .publish .aiModeOffCall]
  else [.publish (.llmQuery talkieValue)]

def wifiSteps (ssid password : String) : List RemoteStep :=
  [.system "sudo nmcli connection down Hotspot",
    .system ("sudo nmcli device wifi connect " ++ ssid ++ " password " ++ password ++ " ifname wlan0")]

/-- A message from a client; `none` is an exception. -/
def messageSteps (message : Json) : Option (List RemoteStep) :=
  if message.contains "talkie" then do
    let talkieValue ← (← message.index "talkie").asString
    return talkieSteps talkieValue
  else if message.contains "wifi_config" then do
    let config ← message.index "wifi_config"
    let ssid ← (← config.index "SSID").asString
    let password ← (← config.index "Password").asString
    return wifiSteps ssid password
  else if message.contains "database_insert" then do
    let insert ← message.index "database_insert"
    let input ← (← insert.index "input").asString
    let output ← (← insert.index "output").asString
    return [.publish (.databaseInsertData input output)]
  else do
    let data ← ControlData.ofJson message
    return [.publish (.controlData { data with source := some .remoteConnectionService })]

/-- The statements for the content of the slot; `parse` is `Json::parse`. -/
def socketSteps (parse : String → Option Json) (text : String) : Option (List RemoteStep) :=
  if text = "on_open" then some onOpenSteps
  else if text = "on_close" then some onCloseSteps
  else (parse text).bind messageSteps

namespace RemoteStep

variable {H : Type}

def apply (l : RemoteLink H) : RemoteStep → RemoteLink H
  | .publish p => { l with published := l.published ++ [p] }
  | .sleep _ => l
  | .subscribeToPerception => { l with perception := true }
  | .subscribeToRobotController => { l with robotController := true }
  | .unsubscribeFromPerception => { l with perception := false }
  | .unsubscribeFromRobotController => { l with robotController := false }
  | .system _ => l
  | .resetFrame => l
  | .resetHdl => { l with hdl := none }

/-- What a statement does to `_frame`. -/
def applyFrame {V : Type} (frame : Option V) : RemoteStep → Option V
  | .resetFrame => none
  | _ => frame

end RemoteStep

namespace RemoteConnectionService

variable {H V D : Type}

/-! ## The handlers and the loop -/

/-- `handle_websocket_open`, `handle_websocket_close` and `handle_websocket_message`. -/
def handleWebsocket (n : Notification H) (s : RemoteConnectionService H V D) :
    RemoteConnectionService H V D :=
  { s with
    socketMessage := some ⟨s.notified.length, n.text⟩
    link := { s.link with hdl := some n.hdl }
    notified := s.notified ++ [n] }

/-- The next step of `service_function`. Two steps are simpler than in the code: at `readSlot` the slot is read
    once (`Services.RemoteReads` has its three reads), and `sendFrame` completes (`Services.RemoteStream` shows
    that it blocks for good). -/
def serviceFunction (parse : String → Option Json) (s : RemoteConnectionService H V D) :
    Option (RemoteConnectionService H V D) :=
  match s.pc with
  | .loopTest => some { s with pc := if s.running then .waiting else .exited }
  | .waiting =>
      if !s.running || s.socketMessage.isSome || s.frame.isSome || s.sensorData.isSome then
        some { s with pc := .runningTest }
      else none
  | .runningTest => some { s with pc := if s.running then .slotTest else .exited }
  | .slotTest =>
      some { s with pc := if s.socketMessage.isSome && s.link.hdl.isSome then .readSlot else .frameTest }
  | .readSlot =>
      s.socketMessage.map fun received =>
        match socketSteps parse received.text with
        | some steps => { s with pc := .process received.index steps }
        | none => { s with pc := .crashed }
  | .process index [] => some { s with processed := s.processed ++ [index], pc := .resetSlot }
  | .process index (x :: steps) =>
      some { s with link := x.apply s.link, frame := x.applyFrame s.frame, pc := .process index steps }
  | .resetSlot => some { s with socketMessage := none, pc := .frameTest }
  | .frameTest =>
      some { s with pc := if s.frame.isSome && s.link.hdl.isSome then .sendFrame else .loopTest }
  | .sendFrame =>
      match s.link.hdl, s.frame with
      | some hdl, some frame =>
          some { s with
            sent := s.sent ++ [(hdl, frame, s.sensorData)]
            frame := none
            sensorData := none
            pc := .loopTest }
      | _, _ => none
  | .exited => none
  | .crashed => none

def step (parse : String → Option Json) (s : RemoteConnectionService H V D) :
    RemoteAction H V D → Option (RemoteConnectionService H V D)
  | .notify n => some (s.handleWebsocket n)
  | .frame v => some { s with frame := some v }
  | .sensorData d => some { s with sensorData := some d }
  | .stop => some { s with running := false }
  | .service => s.serviceFunction parse

/-- The service has just been started, and its socket is open. -/
def initial : RemoteConnectionService H V D where
  running := true
  socketMessage := none
  link := ⟨none, false, false, []⟩
  frame := none
  sensorData := none
  pc := .loopTest
  notified := []
  processed := []
  sent := []

/-- The service among its clients, its publishers and whoever stops it. -/
def system (parse : String → Option Json) : System (RemoteConnectionService H V D) (RemoteAction H V D) where
  init s := s = initial
  step := step parse

/-! ## The steps of the loop -/

/-- **Everything a step of the service thread can be.** -/
inductive ServiceSteps (parse : String → Option Json) (s : RemoteConnectionService H V D) :
    RemoteConnectionService H V D → Prop where
  | wait (hpc : s.pc = .loopTest) (hrun : s.running = true) :
      ServiceSteps parse s { s with pc := .waiting }
  | wake (hpc : s.pc = .waiting) : ServiceSteps parse s { s with pc := .runningTest }
  | testSlot (hpc : s.pc = .runningTest) (hrun : s.running = true) :
      ServiceSteps parse s { s with pc := .slotTest }
  | exit (hpc : s.pc = .loopTest ∨ s.pc = .runningTest) (hrun : s.running = false) :
      ServiceSteps parse s { s with pc := .exited }
  | toSlot (hpc : s.pc = .slotTest) : ServiceSteps parse s { s with pc := .readSlot }
  | noMessage (hpc : s.pc = .slotTest) : ServiceSteps parse s { s with pc := .frameTest }
  | read {received : ReceivedMessage} {steps : List RemoteStep} (hpc : s.pc = .readSlot)
      (hslot : s.socketMessage = some received) (hsteps : socketSteps parse received.text = some steps) :
      ServiceSteps parse s { s with pc := .process received.index steps }
  | crash {received : ReceivedMessage} (hpc : s.pc = .readSlot)
      (hslot : s.socketMessage = some received) (hsteps : socketSteps parse received.text = none) :
      ServiceSteps parse s { s with pc := .crashed }
  | statement {index : Nat} {x : RemoteStep} {steps : List RemoteStep}
      (hpc : s.pc = .process index (x :: steps)) :
      ServiceSteps parse s
        { s with link := x.apply s.link, frame := x.applyFrame s.frame, pc := .process index steps }
  | processed {index : Nat} (hpc : s.pc = .process index []) :
      ServiceSteps parse s { s with processed := s.processed ++ [index], pc := .resetSlot }
  | reset (hpc : s.pc = .resetSlot) :
      ServiceSteps parse s { s with socketMessage := none, pc := .frameTest }
  | toFrame (hpc : s.pc = .frameTest) : ServiceSteps parse s { s with pc := .sendFrame }
  | noFrame (hpc : s.pc = .frameTest) : ServiceSteps parse s { s with pc := .loopTest }
  | send {hdl : H} {frame : V} (hpc : s.pc = .sendFrame) (hhdl : s.link.hdl = some hdl)
      (hframe : s.frame = some frame) :
      ServiceSteps parse s
        { s with
          sent := s.sent ++ [(hdl, frame, s.sensorData)]
          frame := none
          sensorData := none
          pc := .loopTest }

theorem serviceSteps_of_serviceFunction {parse : String → Option Json}
    {s t : RemoteConnectionService H V D} (hst : s.serviceFunction parse = some t) :
    ServiceSteps parse s t := by
  unfold serviceFunction at hst
  cases hpc : s.pc with
  | loopTest =>
      simp only [hpc] at hst
      cases hst
      split
      · rename_i hrun; exact .wait hpc hrun
      · rename_i hrun; exact .exit (.inl hpc) (Bool.eq_false_iff.mpr hrun)
  | waiting =>
      simp only [hpc] at hst
      obtain ⟨-, hst⟩ := Option.ite_none_right_eq_some.mp hst
      cases hst
      exact .wake hpc
  | runningTest =>
      simp only [hpc] at hst
      cases hst
      split
      · rename_i hrun; exact .testSlot hpc hrun
      · rename_i hrun; exact .exit (.inr hpc) (Bool.eq_false_iff.mpr hrun)
  | slotTest =>
      simp only [hpc] at hst
      cases hst
      split
      · exact .toSlot hpc
      · exact .noMessage hpc
  | readSlot =>
      simp only [hpc] at hst
      obtain ⟨received, hslot, rfl⟩ := Option.map_eq_some_iff.mp hst
      split
      · rename_i hsteps; exact .read hpc hslot hsteps
      · rename_i hsteps; exact .crash hpc hslot hsteps
  | process index steps =>
      cases steps with
      | nil => simp only [hpc] at hst; cases hst; exact .processed hpc
      | cons x steps => simp only [hpc] at hst; cases hst; exact .statement hpc
  | resetSlot => simp only [hpc] at hst; cases hst; exact .reset hpc
  | frameTest =>
      simp only [hpc] at hst
      cases hst
      split
      · exact .toFrame hpc
      · exact .noFrame hpc
  | sendFrame =>
      simp only [hpc] at hst
      split at hst
      · rename_i hhdl hframe; cases hst; exact .send hpc hhdl hframe
      · cases hst
  | exited => simp only [hpc] at hst; cases hst
  | crashed => simp only [hpc] at hst; cases hst

end RemoteConnectionService

end Kufibot
