import Mathlib.Data.List.Induction
import Mathlib.Data.List.TakeWhile

/-!
# `Logger` — where a log line goes, and the cache that the console prints from

Each of the six log functions files its line in a cache, under the class named in the text of the calling
function, and hands it to spdlog or, once the text interface is open, to the main window. What spdlog gets
comes out on the terminal unless it is below the level that `Logger::init` has set. The console command `log`
hands the cached lines of one class to spdlog, and takes them out. The functions hold `logMutex`, so a history
of calls is a list; `print_cached_logs` does not, and the histories are those in which no log call overlaps a
print.

The cache is judged against `unprinted`, the lines of a history whose class no later call has printed. It is
always an end of them (`cachedLogs_isSuffix`), and of the last 1001 lines it holds all that are unprinted
(`isSuffix_cachedLogs`): only lines that are older are ever dropped. A print takes out every line of its class,
those too that do not come out: the critical ones, which its `switch` leaves out, and those below the level of
spdlog (`print_cached_logs_writes_iff`).
-/

namespace Kufibot

/-! ## Levels and lines -/

/-- The levels of spdlog. -/
inductive Level where
  | trace | debug | info | warn | err | critical
deriving DecidableEq

/-- The number of a level in `level_enum`. -/
def Level.toNat : Level → Nat
  | .trace => 0
  | .debug => 1
  | .info => 2
  | .warn => 3
  | .err => 4
  | .critical => 5

/-- The levels of the main window. -/
inductive LogLevel where
  | trace | info | debug | warn | error | critical
deriving DecidableEq

structure CachedLog where
  log : String
  level : Level
  className : String
deriving DecidableEq

/-- A line as it is handed to spdlog. -/
structure SpdlogLine where
  level : Level
  message : String
deriving DecidableEq

/-- A line as it is handed to `MainWindow::log`. -/
structure WindowLine where
  logLine : String
  logLevel : LogLevel
  className : String
deriving DecidableEq

/-- Where a line comes out. -/
inductive LogOutput where
  | terminal (line : SpdlogLine)
  | window (line : WindowLine)
deriving DecidableEq

/-- `fmt::format("<{}> {}", class_name, log)`. -/
def fullMessage (className log : String) : String := "<" ++ className ++ "> " ++ log

/-! ## The class of a function -/

/-- `\w`. -/
def isWordChar (c : Char) : Bool := c.isAlphanum || c == '_'

/-- Whether `.*\)` matches at the start of the text: `.` stops at the end of the line. -/
def closesOnLine (text : List Char) : Bool :=
  (text.takeWhile fun c => c != '\n' && c != '\r').contains ')'

/-- The match of `(\w+)::\w+\(.*\)` at the start of the text, if there is one, as its first group. A shorter
    run of word characters is followed by one, so only the whole runs can match. -/
def matchClass (text : List Char) : Option (List Char) :=
  let group := text.takeWhile isWordChar
  match text.dropWhile isWordChar with
  | ':' :: ':' :: rest =>
      let method := rest.takeWhile isWordChar
      match rest.dropWhile isWordChar with
      | '(' :: rest => if group ≠ [] ∧ method ≠ [] ∧ closesOnLine rest = true then some group else none
      | _ => none
  | _ => none

/-- The group of the leftmost match. -/
def searchClass : List Char → Option (List Char)
  | [] => none
  | c :: text => (matchClass (c :: text)).or (searchClass text)

def extractClassName (prettyFunction : String) : String :=
  match searchClass prettyFunction.toList with
  | some group => String.ofList group
  | none => "UnknownClass"

/-! ## The log functions -/

/-- `LOG_CACHE`. -/
def logCache : Nat := 1000

structure Logger where
  cachedLogs : List CachedLog
  useTui : Bool
  /-- Whether `_mainWindow` is set. -/
  mainWindow : Bool
  /-- The level of the default logger of spdlog. -/
  logLevel : Level

/-- After `Logger::init`, to which `main` passes no window. It passes the level `debug` whatever its arguments
    are: it compares the text behind `--log-level` with its literals as pointers. -/
def Logger.init (useTui : Bool) (logLevel : Level) : Logger := ⟨[], useTui, false, logLevel⟩

namespace Logger

/-- `spdlog::logger::should_log`. -/
def shouldLog (l : Logger) (msgLevel : Level) : Bool := l.logLevel.toNat ≤ msgLevel.toNat

/-- What comes out of a line that is handed to spdlog. -/
def spdlog (l : Logger) (line : SpdlogLine) : List LogOutput :=
  if l.shouldLog line.level then [.terminal line] else []

/-- The cache with one more line: the first is erased if there are more than `LOG_CACHE`. -/
def pushCached (entry : CachedLog) (cachedLogs : List CachedLog) : List CachedLog :=
  if cachedLogs.length ≤ logCache then cachedLogs ++ [entry] else cachedLogs.tail ++ [entry]

/-- The body that the six functions share, on the formatted text. -/
def write (level : Level) (logLevel : LogLevel) (function formattedStr : String) (l : Logger) :
    Logger × List LogOutput :=
  let className := extractClassName function
  let l := { l with cachedLogs := pushCached ⟨formattedStr, level, className⟩ l.cachedLogs }
  if !l.useTui || !l.mainWindow then (l, l.spdlog ⟨level, fullMessage className formattedStr⟩)
  else (l, [.window ⟨formattedStr, logLevel, className⟩])

def trace : String → String → Logger → Logger × List LogOutput := write .trace .trace
def info : String → String → Logger → Logger × List LogOutput := write .info .info
def debug : String → String → Logger → Logger × List LogOutput := write .debug .debug
def warning : String → String → Logger → Logger × List LogOutput := write .warn .warn
def error : String → String → Logger → Logger × List LogOutput := write .err .error
def critical : String → String → Logger → Logger × List LogOutput := write .critical .critical

/-- What is handed to spdlog for a cached line. The `switch` has no case for `critical`. -/
def printCached (entry : CachedLog) : Option SpdlogLine :=
  match entry.level with
  | .critical => none
  | level => some ⟨level, fullMessage entry.className entry.log⟩

/-- The loop of `print_cached_logs`: what it hands to spdlog, and what stays cached. -/
def printCachedLogs (className : String) : List CachedLog → List SpdlogLine × List CachedLog
  | [] => ([], [])
  | entry :: entries =>
      let (printed, kept) := printCachedLogs className entries
      if entry.className = className then ((printCached entry).toList ++ printed, kept)
      else (printed, entry :: kept)

end Logger

/-! ## Histories of calls -/

/-- The log functions. -/
inductive LogFunction where
  | trace | info | debug | warning | error | critical

namespace LogFunction

def run : LogFunction → String → String → Logger → Logger × List LogOutput
  | .trace => Logger.trace
  | .info => Logger.info
  | .debug => Logger.debug
  | .warning => Logger.warning
  | .error => Logger.error
  | .critical => Logger.critical

def level : LogFunction → Level
  | .trace => .trace
  | .info => .info
  | .debug => .debug
  | .warning => .warn
  | .error => .err
  | .critical => .critical

def logLevel : LogFunction → LogLevel
  | .trace => .trace
  | .info => .info
  | .debug => .debug
  | .warning => .warn
  | .error => .error
  | .critical => .critical

theorem run_eq (f : LogFunction) : f.run = Logger.write f.level f.logLevel := by
  cases f <;> rfl

end LogFunction

inductive LoggerCall where
  | log (f : LogFunction) (function formattedStr : String)
  | printCachedLogs (className : String)
  /-- `TuiService::openTui` sets the window. -/
  | openTui

namespace Logger

/-- One call, with what it writes. -/
def step (l : Logger) : LoggerCall → Logger × List LogOutput
  | .log f function formattedStr => f.run function formattedStr l
  | .printCachedLogs className =>
      let (printed, kept) := printCachedLogs className l.cachedLogs
      ({ l with cachedLogs := kept }, printed.flatMap l.spdlog)
  | .openTui => ({ l with useTui := true, mainWindow := true }, [])

/-- The logger after a history of calls. -/
def run (calls : List LoggerCall) (l : Logger) : Logger := calls.foldl (fun l call => (l.step call).1) l

end Logger

/-! ## What should be cached -/

/-- The line that a log call files. -/
def filed (f : LogFunction) (function formattedStr : String) : CachedLog :=
  ⟨formattedStr, f.level, extractClassName function⟩

/-- The unprinted lines after one more call. -/
def unprintedStep (lines : List CachedLog) : LoggerCall → List CachedLog
  | .log f function formattedStr => lines ++ [filed f function formattedStr]
  | .printCachedLogs className => lines.filter fun line => line.className ≠ className
  | .openTui => lines

/-- The lines logged in a history whose class no later call of it has printed, oldest first. A print takes them
    all out, those too that do not come out on the terminal. -/
def unprinted (calls : List LoggerCall) : List CachedLog := calls.foldl unprintedStep []

def LoggerCall.isLog : LoggerCall → Bool
  | .log .. => true
  | _ => false

/-- How many lines a history logs. -/
def logCount (calls : List LoggerCall) : Nat := calls.countP LoggerCall.isLog

namespace Logger

/-! ## One call -/

theorem printCachedLogs_eq (className : String) (entries : List CachedLog) :
    printCachedLogs className entries =
      ((entries.filter fun entry => entry.className = className).filterMap printCached,
        entries.filter fun entry => entry.className ≠ className) := by
  induction entries with
  | nil => rfl
  | cons entry entries ih =>
      rw [printCachedLogs, ih]
      by_cases h : entry.className = className
      · cases hprint : printCached entry <;> simp [h, hprint]
      · simp [h]

theorem write_cachedLogs (level : Level) (logLevel : LogLevel) (function formattedStr : String) (l : Logger) :
    (l.write level logLevel function formattedStr).1.cachedLogs =
      pushCached ⟨formattedStr, level, extractClassName function⟩ l.cachedLogs := by
  simp only [write]
  split <;> rfl

/-- The cache after a call, from the cache before it. -/
def cachedStep (cachedLogs : List CachedLog) : LoggerCall → List CachedLog
  | .log f function formattedStr => pushCached (filed f function formattedStr) cachedLogs
  | .printCachedLogs className => cachedLogs.filter fun entry => entry.className ≠ className
  | .openTui => cachedLogs

theorem step_cachedLogs (l : Logger) (call : LoggerCall) :
    (l.step call).1.cachedLogs = cachedStep l.cachedLogs call := by
  cases call with
  | log f function formattedStr =>
      show (f.run function formattedStr l).1.cachedLogs = _
      rw [LogFunction.run_eq, write_cachedLogs]
      rfl
  | printCachedLogs className =>
      show (printCachedLogs className l.cachedLogs).2 = _
      rw [printCachedLogs_eq]
      rfl
  | openTui => rfl

theorem length_pushCached {entry : CachedLog} {cachedLogs : List CachedLog}
    (h : cachedLogs.length ≤ logCache + 1) : (pushCached entry cachedLogs).length ≤ logCache + 1 := by
  unfold pushCached
  split
  · rw [List.length_append, List.length_singleton]
    omega
  · rw [List.length_append, List.length_tail, List.length_singleton]
    omega

/-- A new line may push out the first of the cache, and no other. -/
theorem pushCached_isSuffix {entry : CachedLog} {cachedLogs lines : List CachedLog}
    (h : cachedLogs <:+ lines) : pushCached entry cachedLogs <:+ lines ++ [entry] := by
  unfold pushCached
  split
  · exact List.suffix_append_self_iff.mpr h
  · exact List.suffix_append_self_iff.mpr ((List.tail_suffix _).trans h)

/-- Lines that leave room in a full cache are not pushed out. -/
theorem isSuffix_pushCached {entry : CachedLog} {cachedLogs lines : List CachedLog} (h : lines <:+ cachedLogs)
    (hlength : lines.length ≤ logCache) : lines ++ [entry] <:+ pushCached entry cachedLogs := by
  unfold pushCached
  split
  · exact List.suffix_append_self_iff.mpr h
  · next hfull =>
    have htail : lines.length ≤ cachedLogs.tail.length := by
      rw [List.length_tail]
      omega
    exact List.suffix_append_self_iff.mpr (List.suffix_of_suffix_length_le h (List.tail_suffix _) htail)

/-! ## Histories -/

theorem run_append (before after : List LoggerCall) (l : Logger) :
    run (before ++ after) l = run after (run before l) :=
  List.foldl_append

theorem run_concat_cachedLogs (calls : List LoggerCall) (call : LoggerCall) (l : Logger) :
    (run (calls ++ [call]) l).cachedLogs = cachedStep (run calls l).cachedLogs call := by
  rw [run_append]
  exact step_cachedLogs _ _

theorem unprinted_concat (calls : List LoggerCall) (call : LoggerCall) :
    unprinted (calls ++ [call]) = unprintedStep (unprinted calls) call :=
  List.foldl_append

theorem logCount_concat (calls : List LoggerCall) (call : LoggerCall) :
    logCount (calls ++ [call]) = logCount calls + if call.isLog then 1 else 0 := by
  rw [logCount, List.countP_append, List.countP_singleton]
  rfl

theorem length_unprinted_le (calls : List LoggerCall) : (unprinted calls).length ≤ logCount calls := by
  induction calls using List.reverseRecOn with
  | nil => exact Nat.le_refl 0
  | append_singleton calls call ih =>
      rw [unprinted_concat, logCount_concat]
      cases call with
      | log f function formattedStr =>
          rw [unprintedStep, List.length_append, List.length_singleton]
          exact Nat.succ_le_succ ih
      | printCachedLogs className => exact Nat.le_trans (List.length_filter_le ..) ih
      | openTui => exact ih

/-- The cache is bounded, and holds an end of the unprinted lines. -/
theorem cachedLogs_isSuffix (useTui : Bool) (logLevel : Level) (calls : List LoggerCall) :
    (run calls (init useTui logLevel)).cachedLogs.length ≤ logCache + 1 ∧
      (run calls (init useTui logLevel)).cachedLogs <:+ unprinted calls := by
  induction calls using List.reverseRecOn with
  | nil => exact ⟨Nat.zero_le _, List.suffix_refl _⟩
  | append_singleton calls call ih =>
      obtain ⟨hlength, hsuffix⟩ := ih
      rw [run_concat_cachedLogs, unprinted_concat]
      cases call with
      | log f function formattedStr => exact ⟨length_pushCached hlength, pushCached_isSuffix hsuffix⟩
      | printCachedLogs className => exact ⟨Nat.le_trans (List.length_filter_le ..) hlength, hsuffix.filter _⟩
      | openTui => exact ⟨hlength, hsuffix⟩

/-- What the last 1001 log calls have filed and nobody has printed is cached, whatever came before. -/
theorem isSuffix_cachedLogs (l : Logger) {calls : List LoggerCall} (h : logCount calls ≤ logCache + 1) :
    unprinted calls <:+ (run calls l).cachedLogs := by
  induction calls using List.reverseRecOn with
  | nil => exact List.nil_suffix
  | append_singleton calls call ih =>
      rw [logCount_concat] at h
      have hsuffix := ih (Nat.le_trans (Nat.le_add_right _ _) h)
      rw [run_concat_cachedLogs, unprinted_concat]
      cases call with
      | log f function formattedStr =>
          have hroom : logCount calls ≤ logCache := Nat.le_of_succ_le_succ h
          exact isSuffix_pushCached hsuffix (Nat.le_trans (length_unprinted_le calls) hroom)
      | printCachedLogs className => exact hsuffix.filter _
      | openTui => exact hsuffix

/-- **The cache holds the last lines that are unprinted.** After any history of log calls and prints it has at
    most 1001 lines, and they are the last unprinted ones, in the order in which they were logged; the lines
    of the last 1001 log calls are among them unless their class has been printed. -/
theorem cache_holds_last_unprinted (useTui : Bool) (logLevel : Level) (before after : List LoggerCall) :
    let cachedLogs := (run (before ++ after) (init useTui logLevel)).cachedLogs
    cachedLogs.length ≤ 1001 ∧ cachedLogs <:+ unprinted (before ++ after) ∧
      (logCount after ≤ 1001 → unprinted after <:+ cachedLogs) := by
  obtain ⟨hlength, hsuffix⟩ := cachedLogs_isSuffix useTui logLevel (before ++ after)
  refine ⟨hlength, hsuffix, fun h => ?_⟩
  rw [run_append]
  exact isSuffix_cachedLogs _ h

/-! ## The console command -/

theorem level_of_printCached {entry : CachedLog} {line : SpdlogLine} (h : printCached entry = some line) :
    line.level = entry.level ∧ entry.level ≠ .critical := by
  revert h
  rw [printCached]
  cases entry.level <;> rintro ⟨⟩ <;> exact ⟨rfl, nofun⟩

theorem mem_unprinted_of_filed {entry : CachedLog} {lines : List CachedLog} {calls : List LoggerCall}
    (h : entry ∈ lines) (hcalls : .printCachedLogs entry.className ∉ calls) :
    entry ∈ calls.foldl unprintedStep lines := by
  induction calls generalizing lines with
  | nil => exact h
  | cons call calls ih =>
      obtain ⟨hcall, hcalls⟩ := not_or.mp (mt List.mem_cons.mpr hcalls)
      refine ih ?_ hcalls
      cases call with
      | log f function formattedStr => exact List.mem_append_left _ h
      | printCachedLogs className =>
          have hne : entry.className ≠ className := fun heq => hcall (heq ▸ rfl)
          exact List.mem_filter.mpr ⟨h, decide_eq_true hne⟩
      | openTui => exact h

/-- A line of the last 1001 log calls that nobody has printed is cached. -/
theorem filed_mem_cachedLogs (useTui : Bool) (logLevel : Level) (before : List LoggerCall)
    {after : List LoggerCall} {f : LogFunction} {function formattedStr : String}
    (hcount : logCount after ≤ logCache)
    (hprint : .printCachedLogs (extractClassName function) ∉ after) :
    filed f function formattedStr ∈
      (run (before ++ .log f function formattedStr :: after) (init useTui logLevel)).cachedLogs := by
  have hfiled : filed f function formattedStr ∈ unprinted (.log f function formattedStr :: after) := by
    rw [unprinted, List.foldl_cons]
    exact mem_unprinted_of_filed (List.mem_append_right _ List.mem_cons_self) hprint
  have hlog : logCount (.log f function formattedStr :: after) ≤ logCache + 1 := by
    rw [logCount, List.countP_cons]
    exact Nat.add_le_add hcount (Nat.le_refl 1)
  rw [run_append]
  exact (isSuffix_cachedLogs _ hlog).subset hfiled

end Logger

/-! ## The class of a method -/

/-- A run of word characters. -/
def IsName (word : List Char) : Prop := word ≠ [] ∧ ∀ c ∈ word, isWordChar c = true

/-- The text up to the parameter list of the method `method` of the class `className`, after a return type and
    namespaces. -/
def methodText (before className method : List Char) : List Char :=
  before ++ (className ++ (':' :: ':' :: method))

theorem takeWhile_word {word rest : List Char} {c : Char} (hword : IsName word) (hc : isWordChar c = false) :
    (word ++ c :: rest).takeWhile isWordChar = word := by
  rw [List.takeWhile_append_of_pos hword.2, List.takeWhile_cons_of_neg (by simp [hc]), List.append_nil]

theorem dropWhile_word {word rest : List Char} {c : Char} (hword : IsName word) (hc : isWordChar c = false) :
    (word ++ c :: rest).dropWhile isWordChar = c :: rest := by
  rw [List.dropWhile_append_of_pos hword.2, List.dropWhile_cons_of_neg (by simp [hc])]

/-- The match at the class name itself. -/
theorem matchClass_method {className method rest : List Char} (hclass : IsName className)
    (hmethod : IsName method) (hrest : closesOnLine rest = true) :
    matchClass (methodText [] className method ++ '(' :: rest) = some className := by
  have htext : methodText [] className method ++ '(' :: rest =
      className ++ ':' :: ':' :: (method ++ '(' :: rest) := by
    simp [methodText]
  rw [htext, matchClass, takeWhile_word hclass (by decide), dropWhile_word hclass (by decide)]
  simp only [takeWhile_word hmethod (show isWordChar '(' = false by decide),
    dropWhile_word hmethod (show isWordChar '(' = false by decide)]
  exact if_pos ⟨hclass.1, hmethod.1, hrest⟩

theorem isWord_takeWhile {text : List Char} (h : text.takeWhile isWordChar ≠ []) :
    IsName (text.takeWhile isWordChar) :=
  ⟨h, fun _ hc => List.mem_takeWhile_imp hc⟩

/-- What a match says of the text: two runs around `::`, and a parenthesis. -/
theorem exists_of_matchClass {text group : List Char} (h : matchClass text = some group) :
    ∃ method rest, IsName group ∧ IsName method ∧ text = methodText [] group method ++ '(' :: rest := by
  unfold matchClass at h
  dsimp only at h
  split at h
  · next rest hgroup =>
    split at h
    · next parameters hmethod =>
      split at h
      · next hwords =>
        obtain rfl := Option.some.inj h
        refine ⟨_, parameters, isWord_takeWhile hwords.1, isWord_takeWhile hwords.2.1, ?_⟩
        have hrest := List.takeWhile_append_dropWhile (p := isWordChar) (l := rest)
        have htext := List.takeWhile_append_dropWhile (p := isWordChar) (l := text)
        rw [hmethod] at hrest
        rw [hgroup, ← hrest] at htext
        simpa [methodText] using htext.symm
      · cases h
    · cases h
  · cases h

/-- A word has no colon and no parenthesis. -/
theorem not_mem_word {word : List Char} (hword : IsName word) {c : Char} (hc : isWordChar c = false) :
    c ∉ word := fun hmem => by
  rw [hword.2 c hmem] at hc
  cases hc

/-- The texts before the first occurrence of the same character agree. -/
theorem eq_of_append_cons {c : Char} {text text' rest rest' : List Char} (h : c ∉ text) (h' : c ∉ text')
    (heq : text ++ c :: rest = text' ++ c :: rest') : text = text' := by
  have htake : ∀ {text rest : List Char}, c ∉ text → (text ++ c :: rest).takeWhile (· ≠ c) = text := by
    intro text rest h
    rw [List.takeWhile_append_of_pos fun d hd => decide_eq_true (ne_of_mem_of_not_mem hd h)]
    simp
  exact (htake h).symm.trans ((congrArg _ heq).trans (htake h'))

variable {before className method rest : List Char}

theorem paren_not_mem_methodText (hbefore : '(' ∉ before) (hclass : IsName className)
    (hmethod : IsName method) : '(' ∉ methodText before className method := by
  have hclass : '(' ∉ className := not_mem_word hclass (by decide)
  have hmethod : '(' ∉ method := not_mem_word hmethod (by decide)
  simp [methodText, hbefore, hclass, hmethod]

theorem count_colon_methodText (hclass : IsName className) (hmethod : IsName method) :
    (methodText before className method).count ':' = before.count ':' + 2 := by
  have hclass : className.count ':' = 0 := List.count_eq_zero.mpr (not_mem_word hclass (by decide))
  have hmethod : method.count ':' = 0 := List.count_eq_zero.mpr (not_mem_word hmethod (by decide))
  simp [methodText, hclass, hmethod]

/-- **No match before the class name.** The text before it has no parenthesis, and its last character is no
    part of a word. -/
theorem matchClass_eq_none {last : Char} (hbefore : '(' ∉ before ++ [last]) (hlast : isWordChar last = false)
    (hclass : IsName className) (hmethod : IsName method) :
    matchClass (methodText (before ++ [last]) className method ++ '(' :: rest) = none := by
  cases hmatch : matchClass (methodText (before ++ [last]) className method ++ '(' :: rest) with
  | none => rfl
  | some group =>
      obtain ⟨method', rest', hgroup, hmethod', htext⟩ := exists_of_matchClass hmatch
      -- the first parenthesis ends both texts, so they are equal
      have heq : methodText (before ++ [last]) className method = methodText [] group method' :=
        eq_of_append_cons (paren_not_mem_methodText hbefore hclass hmethod)
          (paren_not_mem_methodText List.not_mem_nil hgroup hmethod') htext
      -- the match has two colons, so there is none in the text before the class
      have hcount := congrArg (List.count ':') heq
      rw [count_colon_methodText hclass hmethod, count_colon_methodText hgroup hmethod'] at hcount
      have hcolon : ':' ∉ before ++ [last] ++ className := by
        have hzero : ':' ∉ before ++ [last] := List.count_eq_zero.mp (Nat.add_right_cancel hcount)
        exact fun hmem => (List.mem_append.mp hmem).elim hzero (not_mem_word hclass (by decide))
      -- and the group reaches from the start to the class name
      have heq' : before ++ [last] ++ className ++ ':' :: ':' :: method = group ++ ':' :: ':' :: method' := by
        simpa [methodText] using heq
      have hgroup_eq : before ++ [last] ++ className = group :=
        eq_of_append_cons hcolon (not_mem_word hgroup (by decide)) heq'
      have hmem : last ∈ group := hgroup_eq ▸ List.mem_append_left _ (List.mem_append_right _ (by simp))
      rw [hgroup.2 last hmem] at hlast
      cases hlast

/-- **The class of a method.** The text of a function whose first parenthesis opens the parameter list of the
    method of a class, after any return type, qualifiers and namespaces, yields this class. -/
theorem extractClassName_method (hbefore : '(' ∉ before)
    (hlast : ∀ last ∈ before.getLast?, isWordChar last = false) (hclass : IsName className)
    (hmethod : IsName method) (hrest : closesOnLine rest = true) :
    extractClassName (String.ofList (methodText before className method ++ '(' :: rest)) =
      String.ofList className := by
  have hsearch : searchClass (methodText before className method ++ '(' :: rest) = some className := by
    induction before with
    | nil =>
        have hmatch := matchClass_method hclass hmethod hrest
        obtain ⟨c, cs, rfl⟩ := List.exists_cons_of_ne_nil hclass.1
        exact congrArg (Option.or · _) hmatch
    | cons c before ih =>
        obtain h | ⟨init, last, heq⟩ := List.eq_nil_or_concat (c :: before)
        · cases h
        · have hnone : matchClass (methodText (c :: before) className method ++ '(' :: rest) = none := by
            rw [heq, List.concat_eq_append] at hbefore hlast ⊢
            exact matchClass_eq_none hbefore (hlast last (by simp)) hclass hmethod
          have htail : searchClass (methodText before className method ++ '(' :: rest) = some className := by
            refine ih (fun h => hbefore (List.mem_cons_of_mem _ h)) fun last hlast' => hlast last ?_
            rw [List.getLast?_cons, hlast']
            rfl
          exact (congrArg (Option.or · _) hnone).trans htail
  rw [extractClassName, String.toList_ofList, hsearch]

/-! ## Printing the lines of a class -/

namespace Logger

/-- What spdlog prints of the lines that it gets. -/
theorem mem_spdlog {l : Logger} {line line' : SpdlogLine} :
    .terminal line ∈ l.spdlog line' ↔ line = line' ∧ l.shouldLog line.level = true := by
  unfold spdlog
  constructor
  · intro h
    split at h
    · next hlevel =>
      obtain rfl := LogOutput.terminal.inj (List.mem_singleton.mp h)
      exact ⟨rfl, hlevel⟩
    · cases h
  · rintro ⟨rfl, hlevel⟩
    rw [if_pos hlevel]
    exact List.mem_singleton_self _

/-- What a print writes comes from the cache, and has a level that the `switch` knows and spdlog prints. -/
theorem mem_step_printCachedLogs {l : Logger} {className : String} {line : SpdlogLine} :
    .terminal line ∈ (l.step (.printCachedLogs className)).2 ↔
      (∃ entry ∈ l.cachedLogs, entry.className = className ∧ printCached entry = some line) ∧
        l.shouldLog line.level = true := by
  have hout : (l.step (.printCachedLogs className)).2 =
      (printCachedLogs className l.cachedLogs).1.flatMap l.spdlog := rfl
  rw [hout, printCachedLogs_eq]
  simp [List.mem_flatMap, mem_spdlog, and_assoc, and_left_comm]

/-- No call changes the level of spdlog. -/
theorem step_logLevel (l : Logger) (call : LoggerCall) : (l.step call).1.logLevel = l.logLevel := by
  cases call with
  | log f function formattedStr =>
      show (f.run function formattedStr l).1.logLevel = _
      rw [LogFunction.run_eq, write]
      split <;> rfl
  | printCachedLogs className => rfl
  | openTui => rfl

theorem run_logLevel (calls : List LoggerCall) (l : Logger) : (run calls l).logLevel = l.logLevel := by
  induction calls generalizing l with
  | nil => rfl
  | cons call calls ih => exact (ih _).trans (step_logLevel l call)

/-- **The console prints the last lines of a class.** A line logged by a method of the class is printed by
    `log` and the name of this class, as long as at most 1000 lines have been logged since and the class has
    not been printed in between; unless its level is critical or below that of spdlog, for then it is erased
    without being printed. -/
theorem print_cached_logs_writes_iff (useTui : Bool) (logLevel : Level) (earlier later : List LoggerCall)
    (f : LogFunction) (formattedStr : String) (hbefore : '(' ∉ before)
    (hlast : ∀ last ∈ before.getLast?, isWordChar last = false) (hclass : IsName className)
    (hmethod : IsName method) (hrest : closesOnLine rest = true) (hcount : logCount later ≤ 1000)
    (hprint : .printCachedLogs (String.ofList className) ∉ later) :
    let function := String.ofList (methodText before className method ++ '(' :: rest)
    let l := run (earlier ++ .log f function formattedStr :: later) (init useTui logLevel)
    .terminal ⟨f.level, fullMessage (String.ofList className) formattedStr⟩ ∈
      (l.step (.printCachedLogs (String.ofList className))).2 ↔
        f.level ≠ .critical ∧ logLevel.toNat ≤ f.level.toNat := by
  intro function l
  have hextract : extractClassName function = String.ofList className :=
    extractClassName_method hbefore hlast hclass hmethod hrest
  have hlevel : l.shouldLog f.level = true ↔ logLevel.toNat ≤ f.level.toNat := by
    rw [shouldLog, run_logLevel, decide_eq_true_iff]
    rfl
  rw [mem_step_printCachedLogs, hlevel]
  refine and_congr_left fun _ => ?_
  constructor
  · rintro ⟨entry, -, -, hentry⟩
    obtain ⟨hlevel, hcritical⟩ := level_of_printCached hentry
    exact fun h => hcritical (hlevel.symm.trans h)
  · intro hcritical
    have hcached : filed f function formattedStr ∈ l.cachedLogs :=
      filed_mem_cachedLogs useTui logLevel earlier hcount (hextract ▸ hprint)
    refine ⟨_, hcached, hextract, ?_⟩
    rw [filed, hextract]
    cases f with
    | critical => exact absurd rfl hcritical
    | _ => rfl

/-- At the level `debug` of `main`, a warning of the text interface is printed and a trace line is not. -/
theorem print_cached_logs_writes_warning :
    let function := String.ofList
      (methodText "void ".toList "TuiService".toList "service_function".toList ++ '(' :: ")".toList)
    let printed (f : LogFunction) :=
      ((run ([] ++ .log f function "Start robot controller service first!" :: []) (init false .debug)).step
        (.printCachedLogs (String.ofList "TuiService".toList))).2
    let message := fullMessage (String.ofList "TuiService".toList) "Start robot controller service first!"
    .terminal ⟨.warn, message⟩ ∈ printed .warning ∧ .terminal ⟨.trace, message⟩ ∉ printed .trace := by
  intro function printed message
  have hiff (f : LogFunction) : .terminal ⟨f.level, message⟩ ∈ printed f ↔
      f.level ≠ .critical ∧ Level.debug.toNat ≤ f.level.toNat :=
    print_cached_logs_writes_iff false .debug [] [] f _ (by decide) (by rintro _ ⟨⟩; rfl)
      ⟨by decide, List.all_eq_true.mp (by decide)⟩ ⟨by decide, List.all_eq_true.mp (by decide)⟩ (by decide)
      (by decide) (by simp)
  exact ⟨(hiff .warning).mpr (by decide), fun h => absurd ((hiff .trace).mp h) (by decide)⟩

end Logger

end Kufibot
