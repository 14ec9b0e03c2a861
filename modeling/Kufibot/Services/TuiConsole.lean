import Kufibot.Lib.Outcome
import Kufibot.Lib.Scan
import Kufibot.Lib.Text
import Kufibot.Services.RemoteConnection
import Kufibot.VoiceAgent.MessageTypes

/-!
# `Services.TuiConsole` — the commands of the console

`service_function` reads a line, and asks for one command after the other whether the line contains its name,
anywhere. Then the branch of this command cuts its argument out of the line, at a fixed place or behind the
name.

`printHelp` lists the commands by their first word. A line with such a first word gets to the branch of this
word, and its argument can be cut out, iff no name that is asked for earlier is anywhere in the line, and the
argument is there: something behind `log` and `llm`, and a number behind `gestures`
(`console_dispatch_iff`).

A line is a `std::string`: its characters are bytes. What a branch does with its argument is an action.
-/

namespace Kufibot

open Lib Lib.Scan

/-- The services that can be started and stopped. -/
inductive ServiceName where
  | robotController
  | interactiveChat
  | remoteConnection
  | perception
  | mapping
  | expression
  | rag
deriving DecidableEq, Repr

/-- The gesture of a test; its similarity is 1.0, the other one 0.0. -/
inductive TestedGesture where
  | emotional (emotion : EmotionType)
  | reactional (reaction : ReactionType)
deriving DecidableEq, Repr

/-- What a turn of the loop does. -/
inductive ConsoleAction where
  | nothing
  | exit
  | openTui
  | printHelp
  | startAll
  | start (service : Option ServiceName)
  | stop (service : Option ServiceName)
  | printCachedLogs (className : String)
  | readSensors
  | printGestureData (seconds : Int)
  | tuiLlmQueryCallback (query : String)
  /-- `none` is an angle that nothing was assigned to. -/
  | setJointAngle (joint : ServoMotorJoint) (angle : Option Int)
  | noSuchJoint
  | robotControllerNotRunning
  | updateRAGDatabase
  | clearRAGDatabase
  | showRAGDatabase
  | speak (text : String)
  | speakUsage
  | expressionUsage
  | expressionList
  | publishLLMResponse (sentence : String) (gesture : TestedGesture)
  | unknownGesture (target : String)
deriving DecidableEq, Repr

/-- The branches of `service_function`. -/
inductive ConsoleBranch where
  | empty
  | exit
  | openTui
  | help
  | startAll
  | start
  | stop
  | log
  | sensors
  | gestures
  | llm
  | set
  | ragUpdate
  | ragClear
  | ragShow
  | speak
  | expression
  /-- Behind the last `else if`. -/
  | unknown
deriving DecidableEq, Repr

namespace TuiService

/-! ## The strings of C++ -/

/-- The text behind a position, which may be the end, but not behind it. -/
def cut (failure : Failure) (text : List Char) (pos : Nat) : Outcome (List Char) :=
  if pos ≤ text.length then .ok (text.drop pos) else .error failure

/-- `text.substr(pos)`. -/
def substr : List Char → Nat → Outcome (List Char) := cut .exception

/-- `std::string(text.begin() + pos, text.end())`. -/
def fromIterator : List Char → Nat → Outcome (List Char) := cut .undefined

/-- `text.substr(text.find(part) + n)`, with the length of the part for `n`; `npos + n` is `n - 1`. -/
def substrBehind (text part : List Char) : Outcome (List Char) :=
  match findPart part text with
  | some pos => substr text (pos + part.length)
  | none => substr text (part.length - 1)

/-- `std::stoi`. -/
def stoi (text : List Char) : Outcome Int :=
  match readInt text with
  | some n => if FitsInt n then .ok n else .error .exception
  | none => .error .exception

/-- `stream >> angle`, where this is left in the stream: nothing is assigned at its end, 0 if there is no
    number, and the nearest `int` if the number does not fit. -/
def streamInt (text : List Char) : Option Int :=
  if (text.dropWhile Scan.isSpace).isEmpty then none
  else
    match readInt text with
    | none => some 0
    | some n => some (if n < -2 ^ 31 then -2 ^ 31 else if 2 ^ 31 ≤ n then 2 ^ 31 - 1 else n)

/-! ## The branches -/

/-- **The branch that is taken.** -/
def branch (input : String) : ConsoleBranch :=
  if input = "" then .empty
  else if input = "exit" then .exit
  else if input = "openTui" then .openTui
  else if input = "help" then .help
  else if input = "startAll" then .startAll
  -- from here on, anywhere in the line
  else if hasSubstring input "start" then .start
  else if hasSubstring input "stop" then .stop
  else if hasSubstring input "log" then .log
  else if input = "sensors" then .sensors
  else if hasSubstring input "gestures" then .gestures
  else if hasSubstring input "llm" then .llm
  else if hasSubstring input "set" then .set
  else if hasSubstring input "rag update" then .ragUpdate
  else if hasSubstring input "rag clear" then .ragClear
  else if hasSubstring input "rag show" then .ragShow
  else if hasSubstring input "speak" then .speak
  else if hasSubstring input "expression" then .expression
  else .unknown

/-- The service that is started or stopped. -/
def namedService (input : String) : Option ServiceName :=
  if hasSubstring input "RobotControllerService" then some .robotController
  else if hasSubstring input "InteractiveChatService" then some .interactiveChat
  else if hasSubstring input "RemoteConnectionService" then some .remoteConnection
  else if hasSubstring input "PerceptionService" then some .perception
  else if hasSubstring input "MappingService" then some .mapping
  else if hasSubstring input "ExpressionService" then some .expression
  else if hasSubstring input "RagService" then some .rag
  else none

def logBranch (input : String) : Outcome ConsoleAction := do
  let className ← substr input.toList 4
  return .printCachedLogs (String.ofList className)

def gesturesBranch (input : String) : Outcome ConsoleAction := do
  let seconds ← stoi (← substr input.toList 9)
  return .printGestureData seconds

def llmBranch (input : String) : Outcome ConsoleAction := do
  let query ← fromIterator input.toList 4
  return .tuiLlmQueryCallback (String.ofList query)

/-- `robotRunning` is `RobotControllerService::is_running`. -/
def setBranch (robotRunning : Bool) (input : String) : ConsoleAction :=
  if robotRunning then
    let afterCommand := afterFirstWord Scan.isSpace input.toList
    let joint := String.ofList (firstWord Scan.isSpace afterCommand)
    let angle := streamInt (afterFirstWord Scan.isSpace afterCommand)
    if joint = "rightArm" then .setJointAngle .rightArm angle
    else if joint = "leftArm" then .setJointAngle .leftArm angle
    else if joint = "neck" then .setJointAngle .neck angle
    else if joint = "headUpDown" then .setJointAngle .headUpDown angle
    else if joint = "headLeftRight" then .setJointAngle .headLeftRight angle
    else if joint = "eyeLeft" then .setJointAngle .eyeLeft angle
    else if joint = "eyeRight" then .setJointAngle .eyeRight angle
    else .noSuchJoint
  else .robotControllerNotRunning

/-- The characters that are trimmed off a text to speak, and off the name of a gesture. -/
def isSpeakMargin (c : Char) : Bool := c == ' ' || c == '\t' || c.toNat == 0x22 || c.toNat == 0x27

def isExpressionMargin (c : Char) : Bool := isSpeakMargin c || c == '\r' || c == '\n'

def speakBranch (input : String) : Outcome ConsoleAction := do
  let textToSpeak := Text.trim isSpeakMargin (← substrBehind input.toList "speak".toList)
  return if textToSpeak.isEmpty then .speakUsage else .speak (String.ofList textToSpeak)

/-- What is done with the name of a gesture. -/
def testExpression (target : String) : ConsoleAction :=
  if target = "" ∨ target = "help" then .expressionUsage
  else if target = "list" then .expressionList
  else
    match EmotionType.ofName target, ReactionType.ofName target with
    | some emotion, _ => .publishLLMResponse ("Testing " ++ target) (.emotional emotion)
    | none, some reaction => .publishLLMResponse ("Testing " ++ target) (.reactional reaction)
    | none, none => .unknownGesture target

def expressionBranch (input : String) : Outcome ConsoleAction := do
  let arg ← substrBehind input.toList "expression".toList
  return testExpression (String.ofList (Text.trim isExpressionMargin arg))

/-- What a branch does with the line. -/
def runBranch (robotRunning : Bool) (input : String) : ConsoleBranch → Outcome ConsoleAction
  | .empty => .ok .nothing
  | .exit => .ok .exit
  | .openTui => .ok .openTui
  | .help => .ok .printHelp
  | .startAll => .ok .startAll
  | .start => .ok (.start (namedService input))
  | .stop => .ok (.stop (namedService input))
  | .log => logBranch input
  | .sensors => .ok .readSensors
  | .gestures => gesturesBranch input
  | .llm => llmBranch input
  | .set => .ok (setBranch robotRunning input)
  | .ragUpdate => .ok .updateRAGDatabase
  | .ragClear => .ok .clearRAGDatabase
  | .ragShow => .ok .showRAGDatabase
  | .speak => speakBranch input
  | .expression => expressionBranch input
  | .unknown => .ok .nothing

/-- **A turn of `service_function`**, with this line. -/
def consoleTurn (robotRunning : Bool) (input : String) : Outcome ConsoleAction :=
  runBranch robotRunning input (branch input)

end TuiService

/-! ## The commands of the help -/

/-- The commands that are recognised by their name. -/
inductive ConsoleCommand where
  | start
  | stop
  | log
  | gestures
  | llm
  | set
  | speak
  | expression
deriving DecidableEq, Repr

namespace ConsoleCommand

def word : ConsoleCommand → String
  | start => "start"
  | stop => "stop"
  | log => "log"
  | gestures => "gestures"
  | llm => "llm"
  | set => "set"
  | speak => "speak"
  | expression => "expression"

def branch : ConsoleCommand → ConsoleBranch
  | start => .start
  | stop => .stop
  | log => .log
  | gestures => .gestures
  | llm => .llm
  | set => .set
  | speak => .speak
  | expression => .expression

end ConsoleCommand

namespace TuiService

/-- What separates the words of a line. -/
def isBlank (c : Char) : Bool := c == ' ' || c == '\t'

/-- The names that lines are searched for, in this order. -/
def searched : List (String × ConsoleBranch) :=
  [("start", .start), ("stop", .stop), ("log", .log), ("gestures", .gestures), ("llm", .llm), ("set", .set),
    ("rag update", .ragUpdate), ("rag clear", .ragClear), ("rag show", .ragShow), ("speak", .speak),
    ("expression", .expression)]

/-- The lines that are asked for as a whole. -/
def exactLines : List String := ["", "exit", "openTui", "help", "startAll", "sensors"]

/-- The names that are asked for before the one of a command. -/
def earlierNames (command : ConsoleCommand) : List String :=
  (searched.takeWhile fun entry => entry ≠ (command.word, command.branch)).map Prod.fst

/-- **The argument is there.** -/
def HasArgument (line : String) : ConsoleCommand → Prop
  | .log | .llm => 4 ≤ line.toList.length
  | .gestures => ∃ n, FitsInt n ∧ StartsWithInt (line.toList.drop 9) n
  | .start | .stop | .set | .speak | .expression => True

/-! ## Which branch -/

theorem hasSubstring_of_firstWord {line part : String} (h : firstWord isBlank line.toList = part.toList) :
    hasSubstring line part = true :=
  (hasSubstring_iff line part).mpr (h ▸ firstWord_infix isBlank line.toList)

/-- No line that is asked for as a whole starts with such a word. -/
theorem not_exactLines {line : String} {command : ConsoleCommand}
    (h : firstWord isBlank line.toList = command.word.toList) : ∀ exact ∈ exactLines, line ≠ exact := by
  have hall : ∀ exact ∈ exactLines, firstWord isBlank exact.toList ≠ command.word.toList := by
    cases command <;> decide
  rintro exact hexact rfl
  exact hall line hexact h

theorem branch_eq_choose {line : String} (h : ∀ exact ∈ exactLines, line ≠ exact) :
    branch line = choose (hasSubstring line) .unknown searched := by
  have hne : ∀ exact, exact ∈ exactLines → ¬ line = exact := h
  unfold branch
  rw [if_neg (hne "" (by decide)), if_neg (hne "exit" (by decide)), if_neg (hne "openTui" (by decide)),
    if_neg (hne "help" (by decide)), if_neg (hne "startAll" (by decide)), if_neg (hne "sensors" (by decide))]
  rfl

/-- **The branch of the first word** is taken iff no earlier name is in the line. -/
theorem branch_eq_iff {line : String} {command : ConsoleCommand}
    (h : firstWord isBlank line.toList = command.word.toList) :
    branch line = command.branch ↔ ∀ name ∈ earlierNames command, hasSubstring line name = false := by
  have hentry : (command.word, command.branch) ∈ searched := by cases command <;> decide
  have hnodup : (searched.map Prod.snd).Nodup := by decide
  rw [branch_eq_choose (not_exactLines h)]
  refine (choose_eq_iff (hasSubstring_of_firstWord h) hentry hnodup).trans ?_
  unfold earlierNames
  exact (List.forall_mem_map (P := fun name => hasSubstring line name = false)).symm

/-! ## Cutting out the argument -/

theorem cut_eq_ok {failure : Failure} {text rest : List Char} {pos : Nat} :
    cut failure text pos = .ok rest ↔ pos ≤ text.length ∧ text.drop pos = rest := by
  unfold cut
  by_cases hpos : pos ≤ text.length
  · rw [if_pos hpos]
    exact ⟨fun h => ⟨hpos, Except.ok.inj h⟩, fun h => congrArg Except.ok h.2⟩
  · rw [if_neg hpos]
    exact ⟨(nomatch ·), fun h => absurd h.1 hpos⟩

theorem stoi_eq_ok {text : List Char} {n : Int} : stoi text = .ok n ↔ FitsInt n ∧ StartsWithInt text n := by
  rw [← readInt_eq_some_iff]
  unfold stoi
  cases hread : readInt text with
  | none => exact ⟨(nomatch ·), fun h => (nomatch h.2)⟩
  | some m =>
      dsimp only
      by_cases hfits : FitsInt m
      · rw [if_pos hfits]
        constructor
        · intro h
          cases h
          exact ⟨hfits, rfl⟩
        · rintro ⟨-, h⟩
          cases h
          rfl
      · rw [if_neg hfits]
        refine ⟨(nomatch ·), ?_⟩
        rintro ⟨hn, h⟩
        cases h
        exact absurd hn hfits

/-- Behind a name that is in the line, there is always something to cut. -/
theorem exists_substrBehind {line name : String} (h : hasSubstring line name = true) :
    ∃ rest, substrBehind line.toList name.toList = .ok rest := by
  obtain ⟨pos, hpos, hle⟩ := findPart_of_infix ((hasSubstring_iff line name).mp h)
  refine ⟨line.toList.drop (pos + name.toList.length), ?_⟩
  unfold substrBehind
  rw [hpos]
  exact cut_eq_ok.mpr ⟨hle, rfl⟩

/-- **The argument is cut out** iff it is there. -/
theorem exists_runBranch_iff (robotRunning : Bool) {line : String} {command : ConsoleCommand}
    (h : hasSubstring line command.word = true) :
    (∃ action, runBranch robotRunning line command.branch = .ok action) ↔ HasArgument line command := by
  cases command with
  | start | stop | set => exact iff_of_true ⟨_, rfl⟩ trivial
  | log | llm =>
      constructor
      · rintro ⟨action, haction⟩
        obtain ⟨rest, hrest, -⟩ := Outcome.bind_eq_ok.mp haction
        exact (cut_eq_ok.mp hrest).1
      · intro hlength
        exact ⟨_, Outcome.bind_eq_ok.mpr ⟨_, cut_eq_ok.mpr ⟨hlength, rfl⟩, rfl⟩⟩
  | gestures =>
      constructor
      · rintro ⟨action, haction⟩
        obtain ⟨rest, hrest, haction⟩ := Outcome.bind_eq_ok.mp haction
        obtain ⟨seconds, hseconds, -⟩ := Outcome.bind_eq_ok.mp haction
        obtain ⟨-, rfl⟩ := cut_eq_ok.mp hrest
        exact ⟨seconds, stoi_eq_ok.mp hseconds⟩
      · rintro ⟨seconds, hseconds⟩
        -- a text that starts with a number is not empty
        have hlength : 9 ≤ line.toList.length := by
          refine Nat.le_of_not_lt fun hlt => hseconds.2.ne_nil ?_
          exact List.drop_eq_nil_of_le (Nat.le_of_lt hlt)
        exact ⟨_, Outcome.bind_eq_ok.mpr ⟨_, cut_eq_ok.mpr ⟨hlength, rfl⟩,
          Outcome.bind_eq_ok.mpr ⟨seconds, stoi_eq_ok.mpr hseconds, rfl⟩⟩⟩
  | speak | expression =>
      obtain ⟨rest, hrest⟩ := exists_substrBehind h
      exact iff_of_true ⟨_, Outcome.bind_eq_ok.mpr ⟨rest, hrest, rfl⟩⟩ trivial

/-- **The dispatch of the console.** A line that starts with the word of a command gets to the branch of this
    command, which can cut out its argument, iff no name that is asked for earlier is in the line, and the
    argument is there. -/
theorem console_dispatch_iff (robotRunning : Bool) {line : String} {command : ConsoleCommand}
    (h : firstWord isBlank line.toList = command.word.toList) :
    (branch line = command.branch ∧ ∃ action, consoleTurn robotRunning line = .ok action) ↔
      (∀ name ∈ earlierNames command, hasSubstring line name = false) ∧ HasArgument line command := by
  have hargument := exists_runBranch_iff robotRunning (hasSubstring_of_firstWord h)
  rw [← branch_eq_iff h, ← hargument]
  refine and_congr_right fun hbranch => ?_
  unfold consoleTurn
  rw [hbranch]

theorem gestures_dispatched : branch "gestures 5" = .gestures ∧
    ∃ action, consoleTurn true "gestures 5" = .ok action := by
  have hnumber : StartsWithInt ("gestures 5".toList.drop 9) 5 :=
    ⟨[], [], ['5'], [], by decide, List.forall_mem_nil _, List.cons_ne_nil _ _,
      List.forall_mem_singleton.mpr rfl, fun _ h => (nomatch h), .inl ⟨.inl rfl, rfl⟩⟩
  have hword : firstWord isBlank "gestures 5".toList = ConsoleCommand.gestures.word.toList := by decide
  exact (console_dispatch_iff true hword).mpr ⟨by decide, 5, by decide, hnumber⟩

/-- **Lines that go wrong**: a text to speak with an earlier name in it, and commands without an argument. -/
theorem console_not_dispatched :
    (firstWord isBlank "speak please start".toList = ConsoleCommand.speak.word.toList ∧
      branch "speak please start" = .start) ∧
    (firstWord isBlank "log".toList = ConsoleCommand.log.word.toList ∧
      consoleTurn true "log" = .error .exception) ∧
    (firstWord isBlank "gestures soon".toList = ConsoleCommand.gestures.word.toList ∧
      consoleTurn true "gestures soon" = .error .exception) ∧
    firstWord isBlank "llm".toList = ConsoleCommand.llm.word.toList ∧
      consoleTurn true "llm" = .error .undefined := by
  decide

end TuiService

end Kufibot
