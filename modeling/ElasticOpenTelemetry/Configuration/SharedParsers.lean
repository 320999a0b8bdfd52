import ElasticOpenTelemetry.Foundations.Text

/-!
# Log levels, log targets and the shared parsers

The value types of the logging settings and the parsers that the environment and the
`IConfiguration` paths share (`SharedParsers.cs`, `LogLevelHelpers.cs`, `LogTargets.cs`). A
parser answers `none` on a value that it does not accept.

`LogTargetsParser` compares with `InvariantCultureIgnoreCase`, whose result depends on the
collation data of the host; that comparison is a field of `Platform`, together with the rest of
what the configuration code asks of the host.
-/

namespace ElasticOpenTelemetry

open DotNet

/-- `RuntimeInformation.IsOSPlatform`, as far as the code distinguishes platforms. -/
inductive OSPlatform
  | windows
  | osx
  | other
  deriving DecidableEq, Repr

/-- What the configuration code takes from the host it runs on. -/
structure Platform where
  /-- the operating system -/
  os : OSPlatform
  /-- `GetFolderPath(SpecialFolder.ApplicationData)` -/
  applicationData : Str
  /-- `GetFolderPath(SpecialFolder.LocalApplicationData)` -/
  localApplicationData : Str
  /-- `Path.Combine` -/
  combine : List Str → Str
  /-- `string.Equals(_, StringComparison.InvariantCultureIgnoreCase)` -/
  equalsInvariantIgnoreCase : Str → Str → Bool

/-- A Linux host, whose culture folds case as the invariant one does on ASCII text. -/
def Platform.linux : Platform where
  os := .other
  applicationData := "/root/.config".toList
  localApplicationData := "/root/.local/share".toList
  combine := join '/'
  equalsInvariantIgnoreCase := equalsIgnoreCase

/-- `Microsoft.Extensions.Logging.LogLevel`, from the most to the least verbose. -/
inductive LogLevel
  | trace
  | debug
  | information
  | warning
  | error
  | critical
  | none
  deriving DecidableEq, Repr

namespace LogLevel

/-- The enum's ordinal values. -/
def ordinal : LogLevel → ℕ
  | trace => 0
  | debug => 1
  | information => 2
  | warning => 3
  | error => 4
  | critical => 5
  | none => 6

instance : LE LogLevel := ⟨fun a b => a.ordinal ≤ b.ordinal⟩

instance : DecidableLE LogLevel := fun a b => inferInstanceAs (Decidable (a.ordinal ≤ b.ordinal))

/-- `LogLevelHelpers.AsString`. -/
def asString : LogLevel → Str
  | critical => "Critical".toList
  | error => "Error".toList
  | warning => "Warning".toList
  | information => "Information".toList
  | debug => "Debug".toList
  | trace => "Trace".toList
  | none => "None".toList

end LogLevel

/-- The texts that `LogLevelHelpers.ToLogLevel` tries, in order. -/
def logLevelTexts : List (Str × LogLevel) :=
  [("Trace".toList, .trace), ("Debug".toList, .debug), ("Info".toList, .information),
   ("Information".toList, .information), ("Warn".toList, .warning),
   ("Warning".toList, .warning), ("Error".toList, .error), ("Critical".toList, .critical),
   ("None".toList, .none)]

/-- `LogLevelHelpers.ToLogLevel`. -/
def toLogLevel (s : Str) : Option LogLevel :=
  (logLevelTexts.find? fun t => equalsIgnoreCase s t.1).map Prod.snd

/-- `LogTargets`, a flags enum over `int`. -/
abbrev LogTargets := BitVec 32

namespace LogTargets

def none : LogTargets := 0
def file : LogTargets := 1
def stdOut : LogTargets := 2

/-- `Enum.HasFlag`. -/
def hasFlag (targets flag : LogTargets) : Bool := targets &&& flag == flag

end LogTargets

/-! ### The parsers -/

/-- `SharedParsers.LogLevelParser`. -/
def logLevelParser (s : Option Str) : Option LogLevel :=
  if isNullOrEmpty s then none else toLogLevel (s.getD [])

/-- One target of `LogTargetsParser`'s loop: the targets so far, and whether one was found. -/
def logTargetsStep (p : Platform) (acc : LogTargets × Bool) (target : Str) : LogTargets × Bool :=
  if p.equalsInvariantIgnoreCase (trim target) "stdout".toList then
    (acc.1 ||| LogTargets.stdOut, true)
  else if p.equalsInvariantIgnoreCase (trim target) "file".toList then
    (acc.1 ||| LogTargets.file, true)
  else if p.equalsInvariantIgnoreCase (trim target) "none".toList then
    (acc.1 ||| LogTargets.none, true)
  else acc

/-- `SharedParsers.LogTargetsParser`. -/
def logTargetsParser (p : Platform) (s : Option Str) : Option LogTargets :=
  if isNullOrWhiteSpace s then none
  else
    let targets := ((s.getD []).splitOnP fun c => c == ';' || c == ',').filter (· ≠ [])
    let (logTargets, found) := targets.foldl (logTargetsStep p) (LogTargets.none, false)
    if found then some logTargets else none

/-- `SharedParsers.StringParser`. -/
def stringParser (s : Option Str) : Option Str := if isNullOrEmpty s then none else s

/-- `bool.TryParse`: white space and null characters around the word are ignored. -/
def boolTryParse (s : Option Str) : Option Bool :=
  let ignored := fun c => isWhiteSpace c || c == '\x00'
  let word := ((s.getD []).dropWhile ignored).rdropWhile ignored
  if equalsIgnoreCase word "True".toList then some true
  else if equalsIgnoreCase word "False".toList then some false
  else none

/-- `SharedParsers.BoolParser`. -/
def boolParser (s : Option Str) : Option Bool :=
  if s = some "1".toList then some true
  else if s = some "0".toList then some false
  else boolTryParse s

example : boolParser (some " TRUE ".toList) = some true := by decide

end ElasticOpenTelemetry
