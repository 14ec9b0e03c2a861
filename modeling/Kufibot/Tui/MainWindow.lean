import Kufibot.Lib.Handoff
import Kufibot.Lib.System
import Kufibot.Logger
import Kufibot.Messages.Json
import Mathlib.Data.List.Chain

/-!
# `Tui.MainWindow` — what other threads hand to the text interface

Log lines, replies of the language model and sensor values come from any thread and are stored under
`_pendingUiMtx`. The timer of the interface swaps all of them out at once (`onTimer`), releases the mutex and
works them off one by one: the lines, the replies, then the three values. Lines and replies are kept in
queues, a value in a slot that the next one overwrites.

For every interleaving of the threads with the pieces of `onTimer`:

* each line that is logged before `openTui` sets the window comes out once on the terminal, unless it is below
  the level of spdlog, and each line logged from then on once in the log view, both in the order of the log
  calls, and so does each reply in the chat (`lines_in_order`);
* the windows show some of the values in order, and have shown the last one when nothing is left
  (`windows_show_latest`).

A callback that throws ends the thread of the interface, whose batch is lost; the lines and the replies of
the batch have been worked off by then.
-/

namespace Kufibot

open Lib

/-! ## The windows -/

/-- What the fields of the measurements window show. -/
structure Measurements where
  compassAngle : UInt16
  distance : Int
  current : ℚ
  voltage : ℚ

/-- `MeasurementsWindow::update_sensor_data_callback`. Reading a value that is missing is undefined in C++,
    and taken as an exception. -/
def updateSensorDataCallback (data : SensorData) : Option Measurements := do
  let compassData ← data.compassData
  let distanceData ← data.distanceData
  let powerData ← data.powerData
  return ⟨compassData.angle, distanceData.distance, powerData.current, powerData.busVoltage⟩

/-- The joints of the body controller window, in the order of its fields. -/
def fieldOrder : List ServoMotorJoint :=
  [.rightArm, .leftArm, .neck, .headUpDown, .headLeftRight, .eyeLeft, .eyeRight]

/-- `BodyControllerWindow::update_servo_joints_callback`: the field texts, or an exception of `at`. -/
def updateServoJointsCallback (jointAngles : JointMap) : Option (List String) :=
  fieldOrder.mapM fun joint => (jointAngles joint).map fun angle => toString angle.toNat

/-- The stores under `_pendingUiMtx`, and the local variables that `onTimer` swaps them with. -/
structure Batch where
  logs : List WindowLine
  llmResponses : List String
  sensorData : Option SensorData
  compassDirection : Option Int
  servoJointAngles : Option JointMap

def Batch.empty : Batch := ⟨[], [], none, none, none⟩

/-- Milliseconds between two calls of `_sensorRefreshCallback`. -/
def refreshPeriod : Int := 250

structure MainWindow where
  pending : Batch
  /-- What `onTimer` has not worked off yet, while it runs. -/
  inHand : Option Batch
  textView : List WindowLine
  answerView : List String
  /-- The values that the windows have taken up; the last is on the screen. -/
  measurements : List SensorData
  directions : List Int
  jointAngles : List JointMap
  lastSensorRefreshTime : Int
  /-- When `_sensorRefreshCallback` was called. -/
  refreshes : List Int
  /-- A callback has thrown. -/
  thrown : Bool

namespace MainWindow

def constructed (now : Int) : MainWindow where
  pending := .empty
  inHand := none
  textView := []
  answerView := []
  measurements := []
  directions := []
  jointAngles := []
  lastSensorRefreshTime := now
  refreshes := []
  thrown := false

/-! ## Any thread -/

def log (line : WindowLine) (w : MainWindow) : MainWindow :=
  { w with pending.logs := w.pending.logs ++ [line] }

def queueSensorData (sensorData : SensorData) (w : MainWindow) : MainWindow :=
  { w with pending.sensorData := some sensorData }

def queueLlmResponse (response : String) (w : MainWindow) : MainWindow :=
  { w with pending.llmResponses := w.pending.llmResponses ++ [response] }

def queueCompassDirection (angle : Int) (w : MainWindow) : MainWindow :=
  { w with pending.compassDirection := some angle }

def queueServoJoints (jointAngles : JointMap) (w : MainWindow) : MainWindow :=
  { w with pending.servoJointAngles := some jointAngles }

/-! ## The thread of the interface -/

/-- The swap at the beginning of `onTimer`. -/
def onTimer (w : MainWindow) : Option MainWindow :=
  if w.thrown || w.inHand.isSome then none
  else some { w with pending := .empty, inHand := some w.pending }

/-- An exception leaves `onTimer`: the local variables are gone. -/
def throwOut (w : MainWindow) : MainWindow := { w with inHand := none, thrown := true }

/-- The end of `onTimer`, at the time `now`. -/
def refresh (now : Int) (w : MainWindow) : MainWindow :=
  if now - w.lastSensorRefreshTime ≥ refreshPeriod then
    { w with inHand := none, refreshes := w.refreshes ++ [now], lastSensorRefreshTime := now }
  else { w with inHand := none }

/-- The next piece of `onTimer`. -/
def work (now : Int) (w : MainWindow) : Option MainWindow :=
  match w.inHand with
  | none => none
  | some ⟨line :: logs, responses, sensor, compass, servo⟩ =>
      some { w with
        textView := w.textView ++ [line], inHand := some ⟨logs, responses, sensor, compass, servo⟩ }
  | some ⟨[], response :: responses, sensor, compass, servo⟩ =>
      some { w with
        answerView := w.answerView ++ [response], inHand := some ⟨[], responses, sensor, compass, servo⟩ }
  | some ⟨[], [], some data, compass, servo⟩ =>
      match updateSensorDataCallback data with
      | some _ =>
          some { w with
            measurements := w.measurements ++ [data], inHand := some ⟨[], [], none, compass, servo⟩ }
      | none => some w.throwOut
  | some ⟨[], [], none, some angle, servo⟩ =>
      some { w with directions := w.directions ++ [angle], inHand := some ⟨[], [], none, none, servo⟩ }
  | some ⟨[], [], none, none, some joints⟩ =>
      match updateServoJointsCallback joints with
      | some _ =>
          some { w with jointAngles := w.jointAngles ++ [joints], inHand := some ⟨[], [], none, none, none⟩ }
      | none => some w.throwOut
  | some ⟨[], [], none, none, none⟩ => some (w.refresh now)

end MainWindow

/-! ## The interface with the logger -/

/-- The logger and the window, with what has come out on the terminal. The last fields are the history: the
    lines logged and the values queued, in order. -/
structure TextInterface where
  logger : Logger
  window : MainWindow
  terminal : List SpdlogLine
  logged : List CachedLog
  /-- How many lines had been logged when `openTui` set the window. -/
  openedAt : Option Nat
  llmResponses : List String
  sensorData : List SensorData
  directions : List Int
  jointAngles : List JointMap

/-- What can happen next: on any thread, or on the thread of the interface. -/
inductive TuiAction where
  | log (f : LogFunction) (function formattedStr : String)
  | queueLlmResponse (response : String)
  | queueSensorData (data : SensorData)
  | queueCompassDirection (angle : Int)
  | queueServoJoints (jointAngles : JointMap)
  /-- `openTui` passes the window to the logger. -/
  | openTui
  | onTimer
  | work (now : Int)

namespace TextInterface

/-- In `openTui`, with the window just constructed. -/
def initial (useTui : Bool) (logLevel : Level) (now : Int) : TextInterface where
  logger := .init useTui logLevel
  window := .constructed now
  terminal := []
  logged := []
  openedAt := none
  llmResponses := []
  sensorData := []
  directions := []
  jointAngles := []

/-- Where the output of a log call goes. -/
def output (s : TextInterface) : LogOutput → TextInterface
  | .terminal line => { s with terminal := s.terminal ++ [line] }
  | .window line => { s with window := s.window.log line }

def step (s : TextInterface) : TuiAction → Option TextInterface
  | .log f function formattedStr =>
      let written := f.run function formattedStr s.logger
      let s := { s with logger := written.1, logged := s.logged ++ [filed f function formattedStr] }
      some (written.2.foldl output s)
  | .queueLlmResponse response =>
      some { s with
        window := s.window.queueLlmResponse response, llmResponses := s.llmResponses ++ [response] }
  | .queueSensorData data =>
      some { s with window := s.window.queueSensorData data, sensorData := s.sensorData ++ [data] }
  | .queueCompassDirection angle =>
      some { s with window := s.window.queueCompassDirection angle, directions := s.directions ++ [angle] }
  | .queueServoJoints joints =>
      some { s with window := s.window.queueServoJoints joints, jointAngles := s.jointAngles ++ [joints] }
  | .openTui =>
      some { s with
        logger := (s.logger.step .openTui).1, openedAt := s.openedAt.or (some s.logged.length) }
  | .onTimer => s.window.onTimer.map fun window => { s with window }
  | .work now => (s.window.work now).map fun window => { s with window }

def system (useTui : Bool) (logLevel : Level) (constructedAt : Int) : System TextInterface TuiAction where
  init s := s = initial useTui logLevel constructedAt
  step := step

/-- The lines logged before the window was set. -/
def early (s : TextInterface) : List CachedLog := s.logged.take (s.openedAt.getD s.logged.length)

/-- The lines logged since. -/
def late (s : TextInterface) : List CachedLog := s.logged.drop (s.openedAt.getD s.logged.length)

end TextInterface

/-! ## One piece of `onTimer` -/

namespace MainWindow

/-- What `onTimer` still has to work off. -/
def handed (w : MainWindow) : Batch := w.inHand.getD .empty

/-- What one piece of `onTimer` does. -/
inductive Works (now : Int) (w : MainWindow) : MainWindow → Prop where
  | line {line : WindowLine} {b : Batch} (hlogs : w.inHand = some { b with logs := line :: b.logs }) :
      Works now w { w with textView := w.textView ++ [line], inHand := some b }
  | response {response : String} {b : Batch} (hlogs : b.logs = [])
      (hresponses : w.inHand = some { b with llmResponses := response :: b.llmResponses }) :
      Works now w { w with answerView := w.answerView ++ [response], inHand := some b }
  | sensorData {data : SensorData} {compass : Option Int} {servo : Option JointMap}
      (hhand : w.inHand = some ⟨[], [], some data, compass, servo⟩)
      (hdata : (updateSensorDataCallback data).isSome) :
      Works now w { w with
        measurements := w.measurements ++ [data], inHand := some ⟨[], [], none, compass, servo⟩ }
  | direction {angle : Int} {servo : Option JointMap}
      (hhand : w.inHand = some ⟨[], [], none, some angle, servo⟩) :
      Works now w { w with directions := w.directions ++ [angle], inHand := some ⟨[], [], none, none, servo⟩ }
  | joints {joints : JointMap} (hhand : w.inHand = some ⟨[], [], none, none, some joints⟩)
      (hjoints : (updateServoJointsCallback joints).isSome) :
      Works now w { w with
        jointAngles := w.jointAngles ++ [joints], inHand := some ⟨[], [], none, none, none⟩ }
  | throws {sensor : Option SensorData} {compass : Option Int} {servo : Option JointMap}
      (hhand : w.inHand = some ⟨[], [], sensor, compass, servo⟩)
      (hthrows : (∃ data, sensor = some data ∧ updateSensorDataCallback data = none) ∨
        (sensor = none ∧ compass = none ∧
          ∃ joints, servo = some joints ∧ updateServoJointsCallback joints = none)) :
      Works now w w.throwOut
  | refresh (hhand : w.inHand = some ⟨[], [], none, none, none⟩) : Works now w (w.refresh now)

theorem works_of_work {now : Int} {w w' : MainWindow} (h : w.work now = some w') : Works now w w' := by
  unfold work at h
  split at h
  · cases h
  · next line logs responses sensor compass servo hhand =>
    cases h
    exact .line hhand
  · next response responses sensor compass servo hhand =>
    cases h
    exact .response rfl hhand
  · next data compass servo hhand =>
    split at h <;> cases h
    · next hdata => exact .sensorData hhand (hdata ▸ rfl)
    · next hdata => exact .throws hhand (.inl ⟨data, rfl, hdata⟩)
  · next angle servo hhand =>
    cases h
    exact .direction hhand
  · next joints hhand =>
    split at h <;> cases h
    · next hjoints => exact .joints hhand (hjoints ▸ rfl)
    · next hjoints => exact .throws hhand (.inr ⟨rfl, rfl, joints, rfl, hjoints⟩)
  · next hhand =>
    cases h
    exact .refresh hhand

theorem handed_some {w : MainWindow} {b : Batch} (h : w.inHand = some b) : w.handed = b := by
  rw [handed, h]
  rfl

theorem handed_none {w : MainWindow} (h : w.inHand = none) : w.handed = .empty := by
  rw [handed, h]
  rfl

theorem onTimer_eq {w w' : MainWindow} (h : w.onTimer = some w') :
    w.inHand = none ∧ w.thrown = false ∧ w' = { w with pending := .empty, inHand := some w.pending } := by
  unfold onTimer at h
  split at h
  · cases h
  · next hidle =>
    cases h
    simp only [Bool.or_eq_true, not_or, Bool.not_eq_true, Option.isSome_eq_false_iff,
      Option.isNone_iff_eq_none] at hidle
    exact ⟨hidle.2, hidle.1, rfl⟩

theorem refresh_eq (now : Int) (w : MainWindow) : w.refresh now = { w with inHand := none } ∨
    w.refresh now =
      { w with inHand := none, refreshes := w.refreshes ++ [now], lastSensorRefreshTime := now } := by
  unfold refresh
  split
  · exact .inr rfl
  · exact .inl rfl

/-- What the log view, the chat and the stores hold of what was sent. -/
structure KeepsOrder (lines : List WindowLine) (responses : List String) (w : MainWindow) : Prop where
  lines : Delivers lines w.textView w.handed.logs w.pending.logs
  responses : Delivers responses w.answerView w.handed.llmResponses w.pending.llmResponses

variable {lines : List WindowLine} {responses : List String} {now : Int} {w w' : MainWindow}

/-- A piece behind the queues leaves them alone. -/
theorem KeepsOrder.of_worked (h : KeepsOrder lines responses w) {sensor : Option SensorData}
    {compass : Option Int} {servo : Option JointMap} (hhand : w.inHand = some ⟨[], [], sensor, compass, servo⟩)
    (htext : w'.textView = w.textView) (hanswers : w'.answerView = w.answerView)
    (hpending : w'.pending = w.pending) (hlogs : w'.handed.logs = [])
    (hresponses : w'.handed.llmResponses = []) : KeepsOrder lines responses w' where
  lines := by
    have hlines := h.lines
    rw [handed_some hhand] at hlines
    rwa [htext, hlogs, hpending]
  responses := by
    have hresponses' := h.responses
    rw [handed_some hhand] at hresponses'
    rwa [hanswers, hresponses, hpending]

theorem KeepsOrder.onTimer (h : KeepsOrder lines responses w) (hstep : w.onTimer = some w') :
    KeepsOrder lines responses w' := by
  obtain ⟨hidle, -, rfl⟩ := onTimer_eq hstep
  have hlines := h.lines
  have hresponses := h.responses
  rw [handed_none hidle] at hlines hresponses
  exact ⟨hlines.take, hresponses.take⟩

theorem KeepsOrder.work (h : KeepsOrder lines responses w) (hstep : Works now w w') :
    KeepsOrder lines responses w' := by
  cases hstep with
  | @line line b hhand =>
      have hlines := h.lines
      have hresponses := h.responses
      rw [handed_some hhand] at hlines hresponses
      exact ⟨hlines.work, hresponses⟩
  | @response response b hlogs hhand =>
      have hlines := h.lines
      have hresponses := h.responses
      rw [handed_some hhand] at hlines hresponses
      exact ⟨hlines, hresponses.work⟩
  | sensorData hhand _ => exact h.of_worked hhand rfl rfl rfl rfl rfl
  | direction hhand => exact h.of_worked hhand rfl rfl rfl rfl rfl
  | joints hhand _ => exact h.of_worked hhand rfl rfl rfl rfl rfl
  | throws hhand _ => exact h.of_worked hhand rfl rfl rfl rfl rfl
  | refresh hhand =>
      obtain h1 | h1 := refresh_eq now w <;> rw [h1] <;> exact h.of_worked hhand rfl rfl rfl rfl rfl

/-- An exception is not taken back. -/
theorem Works.thrown_before (h : Works now w w') (hthrown : w'.thrown = false) : w.thrown = false := by
  cases h with
  | throws => cases hthrown
  | refresh =>
      obtain heq | heq := refresh_eq now w <;> rw [heq] at hthrown <;> exact hthrown
  | _ => exact hthrown

/-! ## The refreshes -/

/-- Two calls of the refresh callback are a quarter of a second apart, the first from the construction. -/
structure RefreshesApart (constructedAt : Int) (w : MainWindow) : Prop where
  chain : List.IsChain (fun t t' => t + refreshPeriod ≤ t') (constructedAt :: w.refreshes)
  last : (constructedAt :: w.refreshes).getLast? = some w.lastSensorRefreshTime

theorem RefreshesApart.work {constructedAt : Int} (h : RefreshesApart constructedAt w)
    (hstep : Works now w w') : RefreshesApart constructedAt w' := by
  obtain ⟨hchain, hlast⟩ := h
  cases hstep with
  | refresh =>
      unfold refresh
      split
      · next hperiod =>
        have hnext : List.IsChain (fun t t' => t + refreshPeriod ≤ t')
            ((constructedAt :: w.refreshes) ++ [now]) := by
          refine List.isChain_append.mpr ⟨hchain, List.isChain_singleton _, fun t ht t' ht' => ?_⟩
          obtain rfl : w.lastSensorRefreshTime = t := Option.some.inj (hlast.symm.trans ht)
          obtain rfl : now = t' := Option.some.inj ht'
          omega
        have hnow : ((constructedAt :: w.refreshes) ++ [now]).getLast? = some now := List.getLast?_concat
        exact ⟨hnext, hnow⟩
      · exact ⟨hchain, hlast⟩
  | _ => exact ⟨hchain, hlast⟩

/-! ## The slots -/

/-- What the windows and the stores hold of the values that were queued. -/
structure KeepsLatest (data : List SensorData) (angles : List Int) (joints : List JointMap) (w : MainWindow) :
    Prop where
  sensorData : Latest data w.measurements w.handed.sensorData w.pending.sensorData
  directions : Latest angles w.directions w.handed.compassDirection w.pending.compassDirection
  jointAngles : Latest joints w.jointAngles w.handed.servoJointAngles w.pending.servoJointAngles

variable {data : List SensorData} {angles : List Int} {joints : List JointMap}

theorem KeepsLatest.onTimer (h : KeepsLatest data angles joints w) (hstep : w.onTimer = some w') :
    KeepsLatest data angles joints w' := by
  obtain ⟨hidle, -, rfl⟩ := onTimer_eq hstep
  have h1 := h.sensorData
  have h2 := h.directions
  have h3 := h.jointAngles
  rw [handed_none hidle] at h1 h2 h3
  exact ⟨h1.take, h2.take, h3.take⟩

/-- A piece that throws loses the values in hand. -/
theorem KeepsLatest.work (h : KeepsLatest data angles joints w) (hstep : Works now w w')
    (hthrown : w'.thrown = false) : KeepsLatest data angles joints w' := by
  obtain ⟨h1, h2, h3⟩ := h
  cases hstep with
  | line hhand =>
      rw [handed_some hhand] at h1 h2 h3
      exact ⟨h1, h2, h3⟩
  | response _ hhand =>
      rw [handed_some hhand] at h1 h2 h3
      exact ⟨h1, h2, h3⟩
  | sensorData hhand _ =>
      rw [handed_some hhand] at h1 h2 h3
      exact ⟨h1.work, h2, h3⟩
  | direction hhand =>
      rw [handed_some hhand] at h1 h2 h3
      exact ⟨h1, h2.work, h3⟩
  | joints hhand _ =>
      rw [handed_some hhand] at h1 h2 h3
      exact ⟨h1, h2, h3.work⟩
  | throws => cases hthrown
  | refresh hhand =>
      rw [handed_some hhand] at h1 h2 h3
      obtain heq | heq := refresh_eq now w <;> rw [heq] <;> exact ⟨h1, h2, h3⟩

end MainWindow

/-! ## The lines -/

def Level.toLogLevel : Level → LogLevel
  | .trace => .trace
  | .debug => .debug
  | .info => .info
  | .warn => .warn
  | .err => .error
  | .critical => .critical

/-- A line as the terminal gets it. -/
def CachedLog.spdlogLine (line : CachedLog) : SpdlogLine := ⟨line.level, fullMessage line.className line.log⟩

/-- A line as the window gets it. -/
def CachedLog.windowLine (line : CachedLog) : WindowLine := ⟨line.log, line.level.toLogLevel, line.className⟩

/-- The six functions agree on the levels. -/
theorem LogFunction.toLogLevel_level (f : LogFunction) : f.level.toLogLevel = f.logLevel := by
  cases f <;> rfl

/-- The lines that spdlog prints at a level. -/
def atLevel (logLevel : Level) (lines : List CachedLog) : List CachedLog :=
  lines.filter fun line => logLevel.toNat ≤ line.level.toNat

theorem atLevel_append (logLevel : Level) (lines lines' : List CachedLog) :
    atLevel logLevel (lines ++ lines') = atLevel logLevel lines ++ atLevel logLevel lines' :=
  List.filter_append ..

/-- Whether the logger writes to the window. -/
def Logger.opened (l : Logger) : Bool := l.useTui && l.mainWindow

/-- What a log function returns, apart from the cache. -/
theorem LogFunction.run_spec (f : LogFunction) (function formattedStr : String) (l : Logger) :
    (f.run function formattedStr l).1.opened = l.opened ∧
      (f.run function formattedStr l).1.logLevel = l.logLevel ∧
      (f.run function formattedStr l).2 =
        if l.opened then [.window (filed f function formattedStr).windowLine]
        else l.spdlog (filed f function formattedStr).spdlogLine := by
  obtain ⟨cachedLogs, useTui, mainWindow, logLevel⟩ := l
  rw [f.run_eq, CachedLog.windowLine, filed, f.toLogLevel_level]
  cases useTui <;> cases mainWindow <;> exact ⟨rfl, rfl, rfl⟩

namespace TextInterface

/-- What a log call changes. -/
theorem step_log {s t : TextInterface} {f : LogFunction} {function formattedStr : String}
    (h : s.step (.log f function formattedStr) = some t) :
    let line := filed f function formattedStr
    t = { s with
      logger := (f.run function formattedStr s.logger).1
      logged := s.logged ++ [line]
      terminal := s.terminal ++
        if s.logger.opened then [] else (atLevel s.logger.logLevel [line]).map CachedLog.spdlogLine
      window := if s.logger.opened then s.window.log line.windowLine else s.window } := by
  intro line
  obtain rfl := Option.some.inj h
  rw [(f.run_spec function formattedStr s.logger).2.2]
  by_cases hopen : s.logger.opened = true
  · simp only [if_pos hopen, List.append_nil]
    rfl
  · simp only [if_neg hopen]
    -- the line is printed or dropped
    by_cases hprinted : s.logger.logLevel.toNat ≤ line.level.toNat
    · have hline : s.logger.spdlog line.spdlogLine = [.terminal line.spdlogLine] :=
        if_pos (decide_eq_true hprinted)
      have hlevels : atLevel s.logger.logLevel [line] = [line] :=
        List.filter_cons_of_pos (decide_eq_true hprinted)
      rw [hline, hlevels]
      rfl
    · have hline : s.logger.spdlog line.spdlogLine = [] :=
        if_neg fun h => hprinted (of_decide_eq_true h)
      have hlevels : atLevel s.logger.logLevel [line] = [] :=
        List.filter_cons_of_neg fun h => hprinted (of_decide_eq_true h)
      rw [hline, hlevels, List.map_nil, List.append_nil]
      rfl

/-- **Where the lines are**: the early ones that spdlog prints are on the terminal, and the late ones in the log
    view, in the batch of the timer and in the store, all in the order in which they were logged. So are the
    replies in the chat. -/
structure InOrder (logLevel : Level) (s : TextInterface) : Prop where
  level : s.logger.logLevel = logLevel
  opened : s.logger.opened = s.openedAt.isSome
  within : ∀ n ∈ s.openedAt, n ≤ s.logged.length
  terminal : s.terminal = (atLevel logLevel s.early).map CachedLog.spdlogLine
  window : s.window.KeepsOrder (s.late.map CachedLog.windowLine) s.llmResponses

/-- While the window is not set, every line is early. -/
theorem early_of_closed {s : TextInterface} (h : s.openedAt = none) : s.early = s.logged ∧ s.late = [] := by
  rw [early, late, h]
  exact ⟨List.take_length, List.drop_length⟩

/-- Once the window is set, a new line is late. -/
theorem early_of_opened {s t : TextInterface} {n : Nat} {line : CachedLog} (hopened : s.openedAt = some n)
    (hle : n ≤ s.logged.length) (hlogged : t.logged = s.logged ++ [line]) (hkept : t.openedAt = s.openedAt) :
    t.early = s.early ∧ t.late = s.late ++ [line] := by
  rw [early, late, early, late, hlogged, hkept, hopened]
  exact ⟨List.take_append_of_le_length hle, List.drop_append_of_le_length hle⟩

variable {logLevel : Level}

theorem InOrder.log {s t : TextInterface} (h : InOrder logLevel s) {f : LogFunction}
    {function formattedStr : String} (hstep : s.step (.log f function formattedStr) = some t) :
    InOrder logLevel t := by
  obtain ⟨hopened, hlevel, -⟩ := f.run_spec function formattedStr s.logger
  have ht := step_log hstep
  rw [h.level, h.opened] at ht
  have hlogged : t.logged = s.logged ++ [filed f function formattedStr] := by rw [ht]
  have hopenedAt : t.openedAt = s.openedAt := by rw [ht]
  cases hat : s.openedAt with
  | none =>
      obtain ⟨hearly, hlate⟩ := early_of_closed hat
      obtain ⟨hearly', hlate'⟩ := early_of_closed (hopenedAt.trans hat)
      refine ⟨?_, ?_, ?_, ?_, ?_⟩
      · rw [ht]
        exact hlevel.trans h.level
      · rw [ht]
        exact hopened.trans h.opened
      · rw [hopenedAt, hat]
        exact nofun
      · rw [hearly', hlogged, ht, hat, h.terminal, hearly, atLevel_append, List.map_append]
        rfl
      · rw [hlate', ht, hat, ← hlate]
        exact h.window
  | some n =>
      obtain ⟨hearly, hlate⟩ := early_of_opened hat (h.within n hat) hlogged hopenedAt
      refine ⟨?_, ?_, ?_, ?_, ?_⟩
      · rw [ht]
        exact hlevel.trans h.level
      · rw [ht]
        exact hopened.trans h.opened
      · rw [hopenedAt, hlogged, List.length_append]
        exact fun n hn => Nat.le_add_right_of_le (h.within n hn)
      · rw [hearly, ht, hat]
        exact (List.append_nil _).trans h.terminal
      · rw [hlate, List.map_append, ht, hat]
        exact ⟨h.window.lines.send _, h.window.responses⟩

/-- Setting the window makes no line late that has been logged. -/
theorem InOrder.openTui {s t : TextInterface} (h : InOrder logLevel s) (hstep : s.step .openTui = some t) :
    InOrder logLevel t := by
  cases hstep
  have hparts : (s.openedAt.or (some s.logged.length)).getD s.logged.length =
      s.openedAt.getD s.logged.length := by
    cases s.openedAt <;> rfl
  refine ⟨h.level, ?_, ?_, ?_, ?_⟩
  · cases s.openedAt <;> rfl
  · cases hat : s.openedAt with
    | none =>
        rintro n ⟨⟩
        exact Nat.le_refl _
    | some n => exact fun n' hn' => h.within n' (hat.trans hn')
  · rw [early, hparts]
    exact h.terminal
  · rw [late, hparts]
    exact h.window

theorem inOrder_step {s t : TextInterface} {a : TuiAction} (h : InOrder logLevel s) (hstep : s.step a = some t) :
    InOrder logLevel t := by
  obtain ⟨hlevel, hopened, hwithin, hterminal, hwindow⟩ := id h
  cases a with
  | log f function formattedStr => exact h.log hstep
  | openTui => exact h.openTui hstep
  | queueLlmResponse response =>
      cases hstep
      exact ⟨hlevel, hopened, hwithin, hterminal, hwindow.lines, hwindow.responses.send _⟩
  | onTimer =>
      obtain ⟨w, hw, rfl⟩ := Option.map_eq_some_iff.mp hstep
      exact ⟨hlevel, hopened, hwithin, hterminal, hwindow.onTimer hw⟩
  | work now =>
      obtain ⟨w, hw, rfl⟩ := Option.map_eq_some_iff.mp hstep
      exact ⟨hlevel, hopened, hwithin, hterminal, hwindow.work (MainWindow.works_of_work hw)⟩
  | queueSensorData | queueCompassDirection | queueServoJoints =>
      cases hstep
      exact ⟨hlevel, hopened, hwithin, hterminal, hwindow.lines, hwindow.responses⟩

theorem inOrder_of_reachable {useTui : Bool} {constructedAt : Int} {s : TextInterface}
    (h : (system useTui logLevel constructedAt).Reachable s) : InOrder logLevel s := by
  refine h.invariant (I := InOrder logLevel) ?_ fun s a t hs _ hstep => inOrder_step hs hstep
  rintro s rfl
  refine ⟨rfl, ?_, nofun, rfl, .nil, .nil⟩
  cases useTui <;> rfl

/-- **Each line comes out once, in the order of the log calls**, for any interleaving of the threads: what was
    logged before the window was set on the terminal, unless it is below the level of spdlog, and what has been
    logged since in the window. So does each reply. -/
theorem lines_in_order {useTui : Bool} {constructedAt : Int} {s : TextInterface}
    (h : (system useTui logLevel constructedAt).Reachable s) :
    s.logged = s.early ++ s.late ∧
    s.terminal = (atLevel logLevel s.early).map CachedLog.spdlogLine ∧
    s.window.textView ++ (s.window.handed.logs ++ s.window.pending.logs) = s.late.map CachedLog.windowLine ∧
    s.window.answerView ++ (s.window.handed.llmResponses ++ s.window.pending.llmResponses) =
      s.llmResponses := by
  have hinv := inOrder_of_reachable h
  exact ⟨(List.take_append_drop ..).symm, hinv.terminal, hinv.window.lines, hinv.window.responses⟩

/-- Two lines before and one behind the opening, with a call of the timer between them. -/
def threeLines : List TuiAction :=
  [.log .trace "void ExpressionService::executeTimedMotion()" "just hold the base position for the duration",
    .log .info "bool RagService::initialize()" "ready", .openTui, .queueLlmResponse "Merhaba", .onTimer,
    .work 0, .log .error "void RagService::loadDatabase()" "no database"]

/-- The trace line is dropped, the second line is on the terminal and the third is pending. -/
theorem lines_in_order_three : ∃ s, (system true .debug 0).exec (initial true .debug 0) threeLines = some s ∧
    s.early.length = 2 ∧ s.terminal = [⟨.info, "<RagService> ready"⟩] ∧
    s.window.pending.logs = [⟨"no database", .error, "RagService"⟩] ∧
    s.logged = s.early ++ s.late ∧
    s.terminal = (atLevel .debug s.early).map CachedLog.spdlogLine ∧
    s.window.textView ++ (s.window.handed.logs ++ s.window.pending.logs) = s.late.map CachedLog.windowLine ∧
    s.window.answerView ++ (s.window.handed.llmResponses ++ s.window.pending.llmResponses) =
      s.llmResponses :=
  ⟨_, rfl, rfl, rfl, rfl, lines_in_order (System.reachableVia_of_exec (.init rfl) (fun _ _ _ => trivial)
    (rfl : (system true .debug 0).exec (initial true .debug 0) threeLines = some _))⟩

/-! ## The values -/

theorem keepsLatest_step {s t : TextInterface} {a : TuiAction} (hstep : s.step a = some t)
    (h : s.window.thrown = false → s.window.KeepsLatest s.sensorData s.directions s.jointAngles)
    (hthrown : t.window.thrown = false) :
    t.window.KeepsLatest t.sensorData t.directions t.jointAngles := by
  cases a with
  | log f function formattedStr =>
      rw [step_log hstep] at hthrown ⊢
      by_cases hopen : s.logger.opened = true
      · rw [if_pos hopen] at hthrown ⊢
        obtain ⟨h1, h2, h3⟩ := h hthrown
        exact ⟨h1, h2, h3⟩
      · rw [if_neg hopen] at hthrown ⊢
        exact h hthrown
  | queueLlmResponse response =>
      cases hstep
      obtain ⟨h1, h2, h3⟩ := h hthrown
      exact ⟨h1, h2, h3⟩
  | queueSensorData data =>
      cases hstep
      obtain ⟨h1, h2, h3⟩ := h hthrown
      exact ⟨h1.put data, h2, h3⟩
  | queueCompassDirection angle =>
      cases hstep
      obtain ⟨h1, h2, h3⟩ := h hthrown
      exact ⟨h1, h2.put angle, h3⟩
  | queueServoJoints joints =>
      cases hstep
      obtain ⟨h1, h2, h3⟩ := h hthrown
      exact ⟨h1, h2, h3.put joints⟩
  | openTui =>
      cases hstep
      exact h hthrown
  | onTimer =>
      obtain ⟨w, hw, rfl⟩ := Option.map_eq_some_iff.mp hstep
      exact (h (MainWindow.onTimer_eq hw).2.1).onTimer hw
  | work now =>
      obtain ⟨w, hw, rfl⟩ := Option.map_eq_some_iff.mp hstep
      have hworks := MainWindow.works_of_work hw
      exact (h (hworks.thrown_before hthrown)).work hworks hthrown

theorem keepsLatest_of_reachable {useTui : Bool} {constructedAt : Int} {s : TextInterface}
    (h : (system useTui logLevel constructedAt).Reachable s) (hthrown : s.window.thrown = false) :
    s.window.KeepsLatest s.sensorData s.directions s.jointAngles := by
  refine h.invariant
    (I := fun s => s.window.thrown = false → s.window.KeepsLatest s.sensorData s.directions s.jointAngles)
    ?_ (fun s a t hs _ hstep => keepsLatest_step hstep hs) hthrown
  rintro s rfl _
  exact ⟨.nil, .nil, .nil⟩

theorem refreshes_apart {useTui : Bool} {constructedAt : Int} {s : TextInterface}
    (h : (system useTui logLevel constructedAt).Reachable s) : s.window.RefreshesApart constructedAt := by
  refine h.invariant (I := fun s => s.window.RefreshesApart constructedAt) ?_ ?_
  · rintro s rfl
    exact ⟨List.isChain_singleton _, rfl⟩
  · intro s a t hs _ hstep
    obtain ⟨hchain, hlast⟩ := hs
    cases a with
    | log f function formattedStr =>
        rw [step_log hstep]
        cases s.logger.opened <;> exact ⟨hchain, hlast⟩
    | onTimer =>
        obtain ⟨w, hw, rfl⟩ := Option.map_eq_some_iff.mp hstep
        obtain ⟨-, -, rfl⟩ := MainWindow.onTimer_eq hw
        exact ⟨hchain, hlast⟩
    | work now =>
        obtain ⟨w, hw, rfl⟩ := Option.map_eq_some_iff.mp hstep
        exact MainWindow.RefreshesApart.work ⟨hchain, hlast⟩ (MainWindow.works_of_work hw)
    | _ =>
        cases hstep
        exact ⟨hchain, hlast⟩

end TextInterface

/-! ## One call of the timer -/

/-- How many pieces are left to work off, with the refresh. -/
def Batch.remaining (b : Batch) : Nat :=
  b.logs.length + b.llmResponses.length + b.sensorData.toList.length + b.compassDirection.toList.length +
    b.servoJointAngles.toList.length + 1

namespace MainWindow

theorem exists_work (now : Int) {w : MainWindow} {b : Batch} (h : w.inHand = some b) :
    ∃ w', w.work now = some w' := by
  obtain ⟨logs, responses, sensor, compass, servo⟩ := b
  unfold work
  rw [h]
  cases logs <;> cases responses <;> cases sensor <;> cases compass <;> cases servo <;> dsimp only <;>
    first | exact ⟨_, rfl⟩ | (split <;> exact ⟨_, rfl⟩)

/-- A piece leaves the stores alone, and ends the call or makes the batch smaller. -/
theorem Works.lowers {now : Int} {w w' : MainWindow} {b : Batch} (h : Works now w w')
    (hhand : w.inHand = some b) : w'.pending = w.pending ∧
      (w'.inHand = none ∨ ∃ b', w'.inHand = some b' ∧ b'.remaining < b.remaining) := by
  cases h with
  | line h =>
      obtain rfl := Option.some.inj (hhand.symm.trans h)
      exact ⟨rfl, .inr ⟨_, rfl, by simp only [Batch.remaining, List.length_cons]; omega⟩⟩
  | response _ h =>
      obtain rfl := Option.some.inj (hhand.symm.trans h)
      exact ⟨rfl, .inr ⟨_, rfl, by simp only [Batch.remaining, List.length_cons]; omega⟩⟩
  | sensorData h _ =>
      obtain rfl := Option.some.inj (hhand.symm.trans h)
      exact ⟨rfl, .inr ⟨_, rfl, by simp [Batch.remaining]⟩⟩
  | direction h =>
      obtain rfl := Option.some.inj (hhand.symm.trans h)
      exact ⟨rfl, .inr ⟨_, rfl, by simp [Batch.remaining]⟩⟩
  | joints h _ =>
      obtain rfl := Option.some.inj (hhand.symm.trans h)
      exact ⟨rfl, .inr ⟨_, rfl, by simp [Batch.remaining]⟩⟩
  | throws => exact ⟨rfl, .inl rfl⟩
  | refresh =>
      obtain heq | heq := refresh_eq now w <;> rw [heq] <;> exact ⟨rfl, .inl rfl⟩

end MainWindow

namespace TextInterface

variable {useTui : Bool} {constructedAt : Int}

/-- The timer works its batch off. -/
theorem exists_works_off (now : Int) {s : TextInterface} {b : Batch} (h : s.window.inHand = some b) :
    ∃ n w, (system useTui logLevel constructedAt).exec s (List.replicate n (.work now)) =
        some { s with window := w } ∧
      w.inHand = none ∧ w.pending = s.window.pending := by
  induction hn : b.remaining using Nat.strongRecOn generalizing s b with
  | ind size ih =>
      obtain ⟨w, hw⟩ := MainWindow.exists_work now h
      have hstep : (system useTui logLevel constructedAt).step s (.work now) = some { s with window := w } :=
        Option.map_eq_some_iff.mpr ⟨w, hw, rfl⟩
      obtain ⟨hpending, hdone | ⟨b', hb', hlt⟩⟩ := (MainWindow.works_of_work hw).lowers h
      · exact ⟨1, w, Option.bind_eq_some_iff.mpr ⟨_, hstep, rfl⟩, hdone, hpending⟩
      · obtain ⟨n, w', hw', hidle, hpending'⟩ :=
          ih b'.remaining (hn ▸ hlt) (s := { s with window := w }) hb' rfl
        exact ⟨n + 1, w', Option.bind_eq_some_iff.mpr ⟨_, hstep, hw'⟩, hidle, hpending'.trans hpending⟩

/-- All that was sent to the window is on display: the lines since the window was set, the replies, and unless
    a callback has thrown the last of the values. -/
structure ShowsEverything (s : TextInterface) : Prop where
  lines : s.logged = s.early ++ s.late ∧
    s.terminal = (atLevel s.logger.logLevel s.early).map CachedLog.spdlogLine ∧
    s.window.textView = s.late.map CachedLog.windowLine
  responses : s.window.answerView = s.llmResponses
  measurements : s.window.thrown = false → s.window.measurements.getLast? = s.sensorData.getLast?
  directions : s.window.thrown = false → s.window.directions.getLast? = s.directions.getLast?
  jointAngles : s.window.thrown = false → s.window.jointAngles.getLast? = s.jointAngles.getLast?

theorem showsEverything_of_idle {s : TextInterface} (h : (system useTui logLevel constructedAt).Reachable s)
    (hidle : s.window.inHand = none) (hpending : s.window.pending = .empty) : ShowsEverything s := by
  have hinv := inOrder_of_reachable h
  obtain ⟨hlines, hresponses⟩ := hinv.window
  have hlatest := keepsLatest_of_reachable h
  rw [MainWindow.handed_none hidle, hpending] at hlines hresponses
  refine ⟨⟨(List.take_append_drop ..).symm, hinv.level.symm ▸ hinv.terminal, ?_⟩, ?_, fun hthrown => ?_,
    fun hthrown => ?_, fun hthrown => ?_⟩
  · simpa [Delivers, Batch.empty] using hlines
  · simpa [Delivers, Batch.empty] using hresponses
  all_goals
    obtain ⟨h1, h2, h3⟩ := hlatest hthrown
    rw [MainWindow.handed_none hidle, hpending] at h1 h2 h3
  · exact h1.last_done
  · exact h2.last_done
  · exact h3.last_done

/-- **The next call of the timer shows everything**, whatever the threads have done so far. -/
theorem timer_shows_everything {s : TextInterface} (h : (system useTui logLevel constructedAt).Reachable s)
    (hidle : s.window.inHand = none) (hthrown : s.window.thrown = false) (now : Int) :
    ∃ n w, (system useTui logLevel constructedAt).exec s (.onTimer :: List.replicate n (.work now)) =
        some { s with window := w } ∧ w.inHand = none ∧ ShowsEverything { s with window := w } := by
  have htimer : s.window.onTimer =
      some { s.window with pending := .empty, inHand := some s.window.pending } :=
    if_neg (by simp [hthrown, hidle])
  obtain ⟨n, w, hw, hidle', hpending⟩ := exists_works_off now
    (s := { s with window := { s.window with pending := .empty, inHand := some s.window.pending } }) rfl
  have hexec : (system useTui logLevel constructedAt).exec s (.onTimer :: List.replicate n (.work now)) =
      some { s with window := w } :=
    Option.bind_eq_some_iff.mpr ⟨_, Option.map_eq_some_iff.mpr ⟨_, htimer, rfl⟩, hw⟩
  have hreach := System.reachableVia_of_exec h (fun _ _ _ => trivial) hexec
  exact ⟨n, w, hexec, hidle', showsEverything_of_idle hreach hidle' hpending⟩

/-- The line that was pending is shown by the next call. -/
theorem timer_shows_second : ∃ s,
    (system true .debug 0).exec (initial true .debug 0) (threeLines ++ [.work 0]) = some s ∧
      ∃ n w, (system true .debug 0).exec s (.onTimer :: List.replicate n (.work 100)) =
          some { s with window := w } ∧
        w.inHand = none ∧ ShowsEverything { s with window := w } :=
  ⟨_, rfl, timer_shows_everything (System.reachableVia_of_exec (.init rfl) (fun _ _ _ => trivial)
    (rfl : (system true .debug 0).exec (initial true .debug 0) (threeLines ++ [.work 0]) = some _)) rfl rfl 100⟩

end TextInterface

end Kufibot
