import Kufibot.Lib.LockOrder
import Kufibot.VoiceAgent.MessageTypes

/-!
# `Services.MessageFabric` — the locks of the services

A publisher holds its mutex while its subscribers receive a message, and a subscriber may publish in turn,
or stop a service and wait for its thread. So a message runs through several services on one thread, which
holds a mutex for each of them, while the other services do the same in another order.

The threads of the robot are listed here with the mutexes that they take, in the order of the source
(`receive`, `Block`); what is computed in between is left out, and so is which branch is taken: a thread runs
any of its pieces in any order, and a message goes to any of the services that subscribe to its publisher. A
wait for a notification gives its mutex back, and is a `.wait` between two pieces; so is every call that can
block, also where it does so under a mutex: on a device, or in the `run()` of the server. Whether a `.wait` is
ever over is left open: `stop` of the state machine can miss its worker (`StateMachine.Stop`), and the server
stops for nobody (`Services.RemoteStream`). What is written to the terminal is taken to come through.

The services have been initialised: a subscription that a handler's `start` would make has been made. The
operators for speech and for UDP, which have mutexes and threads of their own, are used by no service.

All mutexes but two keep to one order (`Mutex.rank`). The worker of the state machine takes `_mtx` and
`_timerMtx` inside each other in both orders; but nobody else takes one of them under the other, and there is
one worker at a time. So nobody waits in a circle: whoever waits for a mutex or for the end of a thread waits in
the end for a thread that can go on, or that is at a `.wait` (`no_circle_of_waits`).
-/

namespace Kufibot

open Lib LockOrder

namespace MessageFabric

inductive ServiceId where
  | tui | remote | expression | tracker | chat | rag | perception | robot | voiceAgent | mapping
deriving DecidableEq, Repr

/-- What a thread can wait for. -/
inductive Mutex where
  /-- `Publisher::_mutex`. -/
  | publisher (s : ServiceId)
  /-- `Service::_dataMutex`. -/
  | data (s : ServiceId)
  /-- The end of the `n`-th thread of a service, for `Service::stop`. -/
  | ended (s : ServiceId) (n : Nat)
  /-- The end of the worker of the state machine. There is one at a time: `_worker` is joined before it is
      assigned again. -/
  | workerEnded
  /-- The ends of the two threads of the websocket operator. -/
  | serverEnded (n : Nat)
  | broadcastEnded (n : Nat)
  /-- `ExpressionService::_llmResponseQueueMutex`. -/
  | llmResponseQueue
  /-- `StateMachine::_mtx` and `_timerMtx`. -/
  | events
  | timers
  /-- `Robot::_controllerMutex`. -/
  | controller
  /-- `I2CDevice::_mutex`. -/
  | i2c
  /-- `VideoOperator::_capMutex`. -/
  | camera
  /-- `WebSocketOperator::_serverMutex` and `_handlerMutex`. -/
  | server
  | handler
  /-- `Logger::logMutex`, `MainWindow::_pendingUiMtx` and `_loggerViewMtx`. -/
  | log
  | pendingUi
  | loggerView
deriving DecidableEq, Repr

/-- The functions that take mutexes of their own. -/
inductive Routine where
  | publish (s : ServiceId) (type : MessageType)
  | receive (s : ServiceId) (type : MessageType)
  /-- A log function. -/
  | log
deriving DecidableEq, Repr

/-- What is left open in a routine. -/
structure Choice where
  /-- The subscribers of the publisher, in their order. -/
  subscribers : List ServiceId
  /-- How many messages are published. -/
  messages : Nat
  /-- Which thread of the service is stopped. -/
  thread : Nat
  /-- Whether the branch that takes a mutex is taken. -/
  taken : Bool
  /-- Whether what the thread waits for has come. -/
  came : Bool

abbrev Code : Type := List (Instr Mutex Routine)

/-! ## Who subscribes to whom -/

/-- The services that subscribe to a publisher at some time. -/
def subscribersOf : ServiceId → List ServiceId
  | .tui => [.chat, .rag, .expression, .robot]
  | .remote => [.chat, .rag, .perception, .tracker, .expression, .robot]
  | .expression => [.chat, .rag, .perception, .tracker, .robot]
  | .tracker => [.chat, .rag, .expression, .robot]
  | .chat => [.tui, .tracker, .expression, .robot]
  | .rag => [.expression]
  | .perception => [.tui, .tracker, .remote]
  | .robot => [.tui, .tracker, .voiceAgent, .remote, .mapping]
  | .voiceAgent => [.expression, .robot]
  | .mapping => [.robot]

/-- The types of the messages that a service publishes. -/
def messagesOf : ServiceId → List MessageType
  | .tui => [.sensorReadRequest, .updateRAGDatabaseRequest, .clearRAGDatabaseRequest, .showRAGDatabaseRequest,
      .speakRequest, .llmResponse, .controlData, .llmQuery]
  | .remote => [.speakRequest, .aiModeOffCall, .aiModeOnCall, .llmQuery, .databaseInsertData, .controlData]
  | .expression => [.controlData, .stopPerceptionRequest, .startPerceptionRequest]
  | .tracker => [.speakRequest, .controlData, .engageReaction]
  | .chat => [.llmResponse, .speakRequest, .interactiveChatStarted]
  | .rag => [.llmResponse, .speakRequest]
  | .perception => [.cameraSnapShotResponse, .videoFrame, .recognizedGesture, .recognizedSpeech]
  | .robot => [.sensorData]
  | .voiceAgent => [.sensorReadRequest, .llmResponse, .cameraSnapShotRequest]
  | .mapping => []

/-! ## The routines -/

/-- What `control_motion` and `getSensorValues` do under `_controllerMutex`: they read and write the devices. -/
def controllers : Code :=
  locked .controller ([.call .log, .wait] ++ locked .i2c [.call .log, .wait])

/-- `Service::stop` of another thread: the log lines, and the join. -/
def stop (ending : Mutex) : Code := [.call .log] ++ (locked ending [] ++ [.call .log])

/-- `subcribed_data_receive` of each service. A `start` logs, and creates a thread that waits for nobody. -/
def receive (c : Choice) : ServiceId → MessageType → Code
  | .tui, .llmResponse | .tui, .sensorData | .tui, .recognizedGesture | .tui, .recognizedSpeech =>
      locked (.data .tui) [.call .log, .acquire .pendingUi, .release .pendingUi]
  | .chat, .llmQuery | .chat, .recognizedSpeech =>
      -- `llm_query`
      locked (.data .chat)
        ([.call .log] ++ if c.taken then [.call (.publish .chat .interactiveChatStarted)] else [])
  | .chat, .aiModeOffCall => stop (.ended .chat c.thread)
  | .rag, .llmQuery | .rag, .recognizedSpeech | .rag, .engageReaction =>
      -- `divideAndPublish`
      locked (.data .rag) ([.call .log] ++ (List.replicate c.messages (.publish .rag .llmResponse)).map .call)
  | .rag, .updateRAGDatabaseRequest | .rag, .clearRAGDatabaseRequest | .rag, .showRAGDatabaseRequest =>
      locked (.data .rag) [.call .log, .work]
  | .perception, .stopPerceptionRequest => stop (.ended .perception c.thread)
  | .perception, .cameraSnapShotRequest =>
      locked (.data .perception) [.call .log, .call (.publish .perception .cameraSnapShotResponse)]
  | .tracker, .recognizedGesture | .tracker, .sensorData => locked (.data .tracker) []
  | .tracker, .stopPerceptionRequest | .tracker, .interactiveChatStarted | .tracker, .aiModeOffCall =>
      stop (.ended .tracker c.thread) ++ [.call .log]
  | .voiceAgent, .sensorData | .voiceAgent, .cameraSnapShotResponse => locked (.data .voiceAgent) []
  | .remote, .videoFrame | .remote, .sensorData => locked (.data .remote) []
  | .expression, .llmResponse | .expression, .speakRequest => locked (.data .expression) []
  | .expression, .aiModeOffCall => stop (.ended .expression c.thread)
  | .robot, .controlData => locked (.data .robot) []
  | .robot, .sensorReadRequest =>
      -- the mutex is only tried, and the values are published under it
      if c.taken then
        locked (.data .robot) (controllers ++ [.call (.publish .robot .sensorData)])
      else []
  | _, _ => [.call .log]

/-- `Publisher::publish`. -/
def publish (c : Choice) (s : ServiceId) (type : MessageType) : Code :=
  if type ∈ messagesOf s then
    locked (.publisher s)
      (((c.subscribers.filter (· ∈ subscribersOf s)).map (.receive · type)).map .call)
  else []

def body : Routine → Choice → Code
  | .publish s type, c => publish c s type
  | .receive s type, c => receive c s type
  | .log, _ => locked .log (locked .pendingUi [])

/-! ## The threads -/

inductive ThreadKind where
  /-- The service thread; that of the text interface is the console, and the interface itself. -/
  | service (s : ServiceId)
  /-- The worker of the robot's state machine. -/
  | worker
  /-- `runServer` and `runBroadcastResponder`. -/
  | server
  | broadcast
  /-- The detached thread of a query, with `query_response_callback`. -/
  | query
  | main

/-- The lock that the `n`-th thread of a kind has as long as it runs, if anybody can join it. -/
def ThreadKind.ending (n : Nat) : ThreadKind → Option Mutex
  | .service s => some (.ended s n)
  | .worker => some .workerEnded
  | .server => some (.serverEnded n)
  | .broadcast => some (.broadcastEnded n)
  | .query => none
  | .main => none

/-- The pieces that a thread consists of. -/
inductive Block : ThreadKind → Code → Prop where
  | work {k : ThreadKind} : Block k [.work]
  | wait {k : ThreadKind} : Block k [.wait]
  | log {k : ThreadKind} : Block k [.call .log]
  /-- `publish`, wherever the service thread does it. -/
  | publish {s : ServiceId} {type : MessageType} : Block (.service s) [.call (.publish s type)]
  /-- Reading what the handlers have stored, before and behind the wait for it. -/
  | data {s : ServiceId} : Block (.service s) (locked (.data s) [])
  | llmResponseQueue : Block (.service .expression) (locked .llmResponseQueue [])
  | camera : Block (.service .perception) (locked .camera [.call .log, .wait])
  /-- `publishSensorValues`. -/
  | sensorValues : Block (.service .robot) (controllers ++ [.call (.publish .robot .sensorData)])
  /-- `_robot.postEvent` and `_robot.stop`. -/
  | postEvent : Block (.service .robot) (locked .events [])
  | stopWorker : Block (.service .robot) (locked .workerEnded [])
  /-- What the `initialize` functions take, and the first transition of the state machine. -/
  | startUp {k : ThreadKind} {m : Mutex} (hk : k = .main ∨ k = .service .tui)
      (hm : m ∈ [.camera, .i2c, .handler, .timers]) : Block k (locked m [.call .log, .wait])
  | firstMotion {k : ThreadKind} (hk : k = .main ∨ k = .service .tui) : Block k controllers
  /-- The subscriptions of `initialize`, which `main` and the console call, and those made later on. -/
  | subscribeAll {k : ThreadKind} {publisher : ServiceId} (hk : k = .main ∨ k = .service .tui) :
      Block k (locked (.publisher publisher) [])
  | subscribe {s publisher : ServiceId} (hs : s = .remote ∧ publisher = .perception ∨
      s = .remote ∧ publisher = .robot ∨ s = .mapping ∧ publisher = .robot) :
      Block (.service s) (locked (.publisher publisher) [])
  /-- The commands of the console. -/
  | stop {s : ServiceId} {n : Nat} (hs : s ≠ .tui) : Block (.service .tui) (stop (.ended s n))
  /-- The window: `onTimer`, and a log line. -/
  | pendingUi : Block (.service .tui) (locked .pendingUi [])
  | loggerView : Block (.service .tui) (locked .loggerView [])
  /-- `start`, the two sends and `stop` of the websocket operator, and the handlers that are set. -/
  | serverCall : Block (.service .remote) (locked .server [.call .log])
  | setHandler : Block (.service .remote) (locked .handler [])
  | stopServer {n : Nat} : Block (.service .remote) (locked (.serverEnded n) [])
  | stopBroadcast {n : Nat} : Block (.service .remote) (locked (.broadcastEnded n) [])
  /-- The pass of `loop` over the timers, which posts those that are due. -/
  | timerPass {due : Nat} : Block .worker (locked .timers (List.replicate due (locked .events [])).flatten)
  /-- Its test of the queue, before the wait and behind it. -/
  | nextWake : Block .worker (locked .events (locked .timers []))
  | queue : Block .worker (locked .events [])
  /-- What the states do: `control_motion`, and `postDelayedEvent`. -/
  | controlMotion : Block .worker controllers
  | postDelayedEvent : Block .worker (locked .timers [])
  /-- `run()` of the server, which calls any number of handlers under its mutex. -/
  | run {handlers : Nat} : Block .server (locked .server ((List.replicate handlers
      ([.wait, .call .log] ++ (locked .handler [] ++ locked (.data .remote) []))).flatten ++ [.wait]))
  | response : Block .query [.call (.publish .chat .llmResponse)]

/-- What a thread runs: pieces of its kind, in any number and order. -/
inductive ThreadText : Code → Prop where
  | joined {k : ThreadKind} {n : Nat} {m : Mutex} {blocks : List Code} (hm : k.ending n = some m)
      (hblocks : ∀ code ∈ blocks, Block k code) : ThreadText (locked m blocks.flatten)
  | detached {k : ThreadKind} {n : Nat} {blocks : List Code} (hm : k.ending n = none)
      (hblocks : ∀ code ∈ blocks, Block k code) : ThreadText blocks.flatten

/-- The threads of the robot, any number of each kind. -/
abbrev system : System (List (Thread Mutex Routine)) (Scheduled Choice) :=
  LockOrder.system body Choice.came ThreadText

/-! ## The order of the mutexes -/

/-- **The order.** From the threads that only the console joins, over the services whose messages stop others,
    to the mutexes under which nothing else is taken. -/
def Mutex.rank : Mutex → Nat
  | .ended .tui _ => 1
  | .ended .chat _ | .ended .expression _ => 5
  | .ended .tracker _ | .ended .perception _ => 9
  | .ended _ _ => 2
  | .workerEnded | .serverEnded _ | .broadcastEnded _ => 3
  | .publisher .expression => 6
  | .publisher .chat => 8
  | .publisher .tracker => 10
  | .publisher .perception => 11
  | .publisher .rag => 12
  | .publisher .robot => 13
  | .publisher _ => 4
  | .data .chat => 7
  | .data .perception => 10
  | .data .rag | .data .robot => 11
  | .data _ => 15
  | .controller => 12
  | .server => 14
  | .llmResponseQueue | .events | .timers => 15
  | .i2c | .camera | .handler => 16
  | .log => 17
  | .pendingUi | .loggerView => 18

/-- Below the mutexes that a routine takes. -/
def Routine.level : Routine → Nat
  | .publish s _ => (Mutex.publisher s).rank - 1
  | .receive .tui .llmResponse | .receive .tui .sensorData | .receive .tui .recognizedGesture
  | .receive .tui .recognizedSpeech => 14
  | .receive .chat .llmQuery | .receive .chat .recognizedSpeech => 6
  | .receive .chat .aiModeOffCall | .receive .expression .aiModeOffCall => 4
  | .receive .rag .llmQuery | .receive .rag .recognizedSpeech | .receive .rag .engageReaction
  | .receive .rag .updateRAGDatabaseRequest | .receive .rag .clearRAGDatabaseRequest
  | .receive .rag .showRAGDatabaseRequest => 10
  | .receive .perception .stopPerceptionRequest => 8
  | .receive .perception .cameraSnapShotRequest => 9
  | .receive .tracker .stopPerceptionRequest | .receive .tracker .interactiveChatStarted
  | .receive .tracker .aiModeOffCall => 8
  | .receive .tracker .recognizedGesture | .receive .tracker .sensorData
  | .receive .voiceAgent .sensorData | .receive .voiceAgent .cameraSnapShotResponse
  | .receive .remote .videoFrame | .receive .remote .sensorData
  | .receive .expression .llmResponse | .receive .expression .speakRequest => 14
  | .receive .robot .controlData | .receive .robot .sensorReadRequest => 10
  | .receive _ _ => 16
  | .log => 16

/-- A message goes upwards. -/
theorem publisher_le_receive {s subscriber : ServiceId} {type : MessageType} (htype : type ∈ messagesOf s)
    (hs : subscriber ∈ subscribersOf s) :
    (Mutex.publisher s).rank ≤ (Routine.receive subscriber type).level := by
  have htable : ∀ type ∈ messagesOf s, ∀ subscriber ∈ subscribersOf s,
      (Mutex.publisher s).rank ≤ (Routine.receive subscriber type).level := by
    cases s <;> decide
  exact htable type htype subscriber hs

/-- A text keeps to the order; it is gated on the worker of the state machine. -/
abbrev Keeps (gated : Bool) (low : Nat) (code : Code) : Prop :=
  Ordered Mutex.rank Routine.level .workerEnded gated low [] code

theorem keeps_publish (c : Choice) (s : ServiceId) (type : MessageType) :
    Keeps false (Routine.publish s type).level (publish c s type) := by
  unfold publish
  split
  · next htype =>
    have hpos : 0 < (Mutex.publisher s).rank := by
      cases s <;> decide
    refine .locked (Nat.sub_lt hpos Nat.one_pos) .inl (ordered_calls ?_)
    intro p hp
    obtain ⟨subscriber, hs, rfl⟩ := List.mem_map.mp hp
    exact publisher_le_receive htype (of_decide_eq_true (List.mem_filter.mp hs).2)
  · exact ordered_nil

theorem level_receive_le (s : ServiceId) (type : MessageType) : (Routine.receive s type).level ≤ 16 := by
  cases s <;> cases type <;> decide

variable {gated : Bool} {low : Nat}

/-- A mutex under which a device is used, and a line is logged. -/
theorem keeps_device {m : Mutex} (h : low < m.rank) (hm : m.rank ≤ 16) :
    Keeps gated low (locked m [.call .log, .wait]) := by
  have hlog : Keeps gated m.rank [.call .log] := ordered_call hm
  have hwait : Keeps gated m.rank [.wait] := ordered_wait
  exact .locked h .inl (hlog.seq hwait)

theorem keeps_controllers (h : low < Mutex.controller.rank) : Keeps gated low controllers := by
  have hlog : Keeps gated Mutex.controller.rank [.call .log] := ordered_call (by decide)
  have hwait : Keeps gated Mutex.controller.rank [.wait] := ordered_wait
  exact .locked h .inl ((hlog.seq hwait).seq (keeps_device (by decide) (by decide)))

theorem keeps_log : Keeps false Routine.log.level (locked .log (locked .pendingUi [])) :=
  .locked (by decide) .inl (.locked (by decide) .inl ordered_nil)

theorem keeps_stop {ending : Mutex} (hlow : low ≤ 16) (h : low < ending.rank) : Keeps gated low (stop ending) :=
  (ordered_call hlow).seq ((Ordered.locked h .inl ordered_nil).seq (ordered_call hlow))

theorem keeps_sensorValues (h : low < Mutex.controller.rank) :
    Keeps gated low (controllers ++ [.call (.publish .robot .sensorData)]) :=
  (keeps_controllers h).seq (ordered_call (Nat.le_of_lt h))

theorem keeps_receive (c : Choice) (s : ServiceId) (type : MessageType) :
    Keeps false (Routine.receive s type).level (receive c s type) := by
  unfold receive
  split
  case h_1 | h_2 | h_3 | h_4 =>
      have hpending : Keeps false (Mutex.data .tui).rank (locked .pendingUi []) :=
        .locked (by decide) .inl ordered_nil
      exact .locked (by decide) .inl ((ordered_call (by decide)).seq hpending)
  case h_5 | h_6 =>
      have hpublish : Keeps false (Mutex.data .chat).rank
          (if c.taken then [.call (.publish .chat .interactiveChatStarted)] else []) := by
        cases c.taken
        · exact ordered_nil
        · exact ordered_call (by decide)
      exact .locked (by decide) .inl ((ordered_call (by decide)).seq hpublish)
  case h_7 => exact keeps_stop (by decide) (Nat.lt_succ_self 4)
  case h_8 | h_9 | h_10 =>
      refine .locked (by decide) .inl ((ordered_call (by decide)).seq (ordered_calls fun p hp => ?_))
      rw [List.eq_of_mem_replicate hp]
      decide
  case h_11 | h_12 | h_13 => exact .locked (by decide) .inl ((ordered_call (by decide)).seq ordered_work)
  case h_14 => exact keeps_stop (by decide) (Nat.lt_succ_self 8)
  case h_15 => exact .locked (by decide) .inl ((ordered_call (by decide)).seq (ordered_call (by decide)))
  case h_16 | h_17 => exact .locked (by decide) .inl ordered_nil
  case h_18 | h_19 | h_20 =>
      exact (keeps_stop (by decide) (Nat.lt_succ_self 8)).seq (ordered_call (by decide))
  case h_27 => exact keeps_stop (by decide) (Nat.lt_succ_self 4)
  case h_29 =>
      cases c.taken
      · exact ordered_nil
      · exact .locked (by decide) .inl (keeps_sensorValues (by decide))
  case h_30 => exact ordered_call (level_receive_le s type)
  all_goals exact .locked (by decide) .inl ordered_nil

theorem bodies_ordered : BodiesOrdered Mutex.rank Routine.level .workerEnded body := by
  intro p c
  cases p with
  | publish s type => exact keeps_publish c s type
  | receive s type => exact keeps_receive c s type
  | log => exact keeps_log

/-! ## The threads keep to it -/

/-- The rank of the lock that a thread has as long as it runs. -/
def ThreadKind.rank (k : ThreadKind) : Nat := ((k.ending 0).map Mutex.rank).getD 0

/-- The worker has the gate as long as it runs. -/
def ThreadKind.isWorker : ThreadKind → Bool
  | .worker => true
  | _ => false

theorem rank_of_ending {k : ThreadKind} {n : Nat} {m : Mutex} (h : k.ending n = some m) :
    m.rank = k.rank ∧ (k.isWorker = true → Mutex.workerEnded = m) := by
  cases k with
  | service s => cases h; cases s <;> exact ⟨rfl, nofun⟩
  | worker => cases h; exact ⟨rfl, fun _ => rfl⟩
  | server | broadcast => cases h; exact ⟨rfl, nofun⟩
  | query | main => cases h

theorem rank_le (k : ThreadKind) : k.rank ≤ 9 := by
  cases k with
  | service s => cases s <;> decide
  | _ => decide

theorem keeps_block {k : ThreadKind} {code : Code} (h : Block k code) : Keeps k.isWorker k.rank code := by
  have hlog : k.rank ≤ Routine.log.level := Nat.le_trans (rank_le k) (by decide)
  cases h with
  | work => exact ordered_work
  | wait => exact ordered_wait
  | log => exact ordered_call hlog
  | @publish s type =>
      have hlevel : (ThreadKind.service s).rank ≤ (Mutex.publisher s).rank - 1 := by
        cases s <;> decide
      exact ordered_call hlevel
  | @data s =>
      have hrank : (ThreadKind.service s).rank < (Mutex.data s).rank := by
        cases s <;> decide
      exact .locked hrank .inl ordered_nil
  | camera => exact keeps_device (by decide) (by decide)
  | sensorValues => exact keeps_sensorValues (by decide)
  | @startUp k m hk hm =>
      have hmutex : 1 < m.rank ∧ m.rank ≤ 16 := by
        revert m
        decide
      refine keeps_device (Nat.lt_of_le_of_lt ?_ hmutex.1) hmutex.2
      obtain rfl | rfl := hk <;> decide
  | firstMotion hk => obtain rfl | rfl := hk <;> exact keeps_controllers (by decide)
  | @subscribeAll k publisher hk =>
      have hrank : k.rank < (Mutex.publisher publisher).rank := by
        obtain rfl | rfl := hk <;> cases publisher <;> decide
      exact .locked hrank .inl ordered_nil
  | subscribe hs =>
      obtain ⟨rfl, rfl⟩ | ⟨rfl, rfl⟩ | ⟨rfl, rfl⟩ := hs <;> exact .locked (by decide) .inl ordered_nil
  | @stop s n hs =>
      have hrank : (ThreadKind.service .tui).rank < (Mutex.ended s n).rank := by
        cases s
        case tui => exact absurd rfl hs
        all_goals exact Nat.lt_of_lt_of_le (Nat.lt_succ_self 1) (by simp [Mutex.rank])
      exact keeps_stop (Nat.le_trans (rank_le _) (by decide)) hrank
  | serverCall => exact .locked (by decide) .inl (ordered_call (by decide))
  | stopServer | stopBroadcast => exact .locked (Nat.lt_succ_self 2) .inl ordered_nil
  | @timerPass due => refine ordered_locked_replicate ?_ ?_ ?_ due <;> decide
  | nextWake =>
      have hone : Keeps ThreadKind.worker.isWorker ThreadKind.worker.rank
          (locked .events (List.replicate 1 (locked .timers [])).flatten) := by
        refine ordered_locked_replicate ?_ ?_ ?_ 1 <;> decide
      simpa using hone
  | controlMotion => exact keeps_controllers (by decide)
  | run =>
      refine .locked (by decide) .inl (Ordered.seq (ordered_flatten fun code hcode => ?_) ordered_wait)
      rw [List.eq_of_mem_replicate hcode]
      have hhandler : Keeps false Mutex.server.rank (locked .handler []) := .locked (by decide) .inl ordered_nil
      have hdata : Keeps false Mutex.server.rank (locked (.data .remote) []) :=
        .locked (by decide) .inl ordered_nil
      exact ((Ordered.seq ordered_wait (ordered_call (by decide)))).seq (hhandler.seq hdata)
  | response => exact ordered_call (by decide)
  | _ => exact .locked (by decide) .inl ordered_nil

theorem keeps_threadText {code : Code} (h : ThreadText code) : Keeps false 0 code := by
  cases h with
  | @joined k n m blocks hm hblocks =>
      obtain ⟨hrank, hgate⟩ := rank_of_ending hm
      have hpos : 0 < m.rank := by
        rw [hrank]
        cases k with
        | service s => cases s <;> decide
        | query | main => cases hm
        | _ => decide
      refine .locked hpos (fun hgated => .inr (hgate hgated)) (ordered_flatten fun code hcode => ?_)
      rw [hrank]
      exact keeps_block (hblocks code hcode)
  | @detached k n blocks hm hblocks =>
      refine ordered_flatten fun code hcode => ?_
      have hzero : k.rank = 0 ∧ k.isWorker = false := by
        cases k with
        | query | main => exact ⟨rfl, rfl⟩
        | _ => cases hm
      have hblock := keeps_block (hblocks code hcode)
      rwa [hzero.1, hzero.2] at hblock

theorem rank_le_loggerView (m : Mutex) : m.rank ≤ 18 := by
  cases m with
  | publisher s | data s | ended s n => cases s <;> simp [Mutex.rank]
  | _ => simp [Mutex.rank]

/-! ## Nobody waits in a circle -/

/-- **Nobody waits in a circle.** For any number of threads of each kind, any subscriptions at the time of a
    message and any order of the turns: no thread waits for itself over any number of others, and a thread
    that has not ended waits, if at all, in the end for one that can take its turn, or that waits for what is
    neither a mutex nor the end of a thread. -/
theorem no_circle_of_waits {s : List (Thread Mutex Routine)} (h : system.Reachable s) {i : Nat}
    {t : Thread Mutex Routine} (ht : s[i]? = some t) (hrest : t.rest ≠ []) :
    ¬ Relation.TransGen (Waits s) i i ∧
      ∃ j, Relation.ReflTransGen (Waits s) i j ∧ (Runs body Choice.came s j ∨ Pauses s j) := by
  have hordered := allOrdered_of_reachable bodies_ordered (fun _ => keeps_threadText) h
  exact ⟨waits_acyclic hordered i, exists_running rank_le_loggerView hordered ht hrest⟩

/-- The remote service switches the modes, and the tracker moves the head. -/
def twoThreads : List (Thread Mutex Routine) :=
  [⟨[], locked (.ended .remote 0) [[.call (.publish .remote .aiModeOffCall)]].flatten⟩,
    ⟨[], locked (.ended .tracker 0) [[.call (.publish .tracker .controlData)]].flatten⟩]

/-- The tracker begins, and the remote service goes on until it has to wait. -/
def untilJoin : List (Scheduled Choice) :=
  ⟨1, ⟨[], 0, 0, false, false⟩⟩ :: List.replicate 9 ⟨0, ⟨[.tracker], 0, 0, false, false⟩⟩

theorem twoThreads_text : ∀ t ∈ twoThreads, t.held = [] ∧ ThreadText t.rest := by
  intro t ht
  obtain rfl | ht := List.mem_cons.mp ht
  · exact ⟨rfl, .joined (k := .service .remote) rfl (List.forall_mem_singleton.mpr .publish)⟩
  · rw [List.mem_singleton.mp ht]
    exact ⟨rfl, .joined (k := .service .tracker) rfl (List.forall_mem_singleton.mpr .publish)⟩

/-- The remote service waits for the end of the tracker, under its own mutex, and the tracker can go on. -/
theorem no_circle_of_waits_join : ∃ s t, system.exec twoThreads untilJoin = some s ∧ s[0]? = some t ∧
    t.held = [.publisher .remote, .ended .remote 0] ∧ Waits s 0 1 ∧
    ¬ Relation.TransGen (Waits s) 0 0 ∧
      ∃ j, Relation.ReflTransGen (Waits s) 0 j ∧ (Runs body Choice.came s j ∨ Pauses s j) := by
  have hexec : system.exec twoThreads untilJoin = some _ := rfl
  have hreach := System.reachableVia_of_exec (.init twoThreads_text) (fun _ _ _ => trivial) hexec
  refine ⟨_, _, hexec, rfl, rfl, ?_, no_circle_of_waits hreach rfl (List.cons_ne_nil _ _)⟩
  exact ⟨_, _, Mutex.ended .tracker 0, rfl, rfl, rfl, List.mem_singleton.mpr rfl⟩

end MessageFabric

end Kufibot
