import ElasticOpenTelemetry.Bootstrap
import ElasticOpenTelemetry.Configuration.OpAmpIdentity

/-!
# Equal options and what is built from them

Components are shared between callers whose options are `Equals`. The sub-loggers of a
`CompositeLogger` are built from the options (`FileLogger.cs`, `StandardOutLogger.cs`), and they
read more of them than `Equals` compares: `GlobalLogEnabled` is computed from the cells of the log
level, the directory and the targets, and the default targets from it and from the container flag.

The two definitions cancel out: logging is enabled exactly when the effective targets and the
effective level are not `None` (`globalLogEnabled_eq`), so that everything the sub-loggers read is
a function of the settings. `equals_interchangeable` adds the OpAMP identity, which is resolved
from settings as well.
-/

namespace ElasticOpenTelemetry

open DotNet CompositeElasticOpenTelemetryOptions

/-! ### The sub-loggers -/

/-- What the constructor of `FileLogger` asks of the host. -/
structure LogFileHost where
  /-- `Path.Combine(logDirectory, logFileName)`; absent when it throws -/
  combine : Str → Option Str
  /-- the directory is there or can be created, the file can be opened and written, and the
  additional logger or else the console can be told about it -/
  opens : Str → Option LoggerRef → Bool

/-- What the constructor of `FileLogger` takes from the options. -/
structure FileLoggerSetup where
  options : CompositeElasticOpenTelemetryOptions
  fileLoggingEnabled : Bool
  logFilePath : Option Str := none

namespace FileLoggerSetup

/-- The constructor of `FileLogger`. File logging is switched off when the file cannot be set
up. -/
def new (host : LogFileHost) (options : CompositeElasticOpenTelemetryOptions) : FileLoggerSetup :=
  let fileLoggingEnabled := options.globalLogEnabled && options.logTargets.hasFlag LogTargets.file
  if !fileLoggingEnabled then { options := options, fileLoggingEnabled := false }
  else
    match host.combine options.logDirectory with
    | none => { options := options, fileLoggingEnabled := false }
    | some path =>
      { options := options
        fileLoggingEnabled := host.opens options.logDirectory options.additionalLogger
        logFilePath := some path }

/-- `FileLogger.IsEnabled`. -/
def isEnabled (logger : FileLoggerSetup) (logLevel : LogLevel) : Bool :=
  logger.fileLoggingEnabled && logger.options.logLevel ≤ logLevel

end FileLoggerSetup

/-- `StandardOutLogger`. -/
structure StandardOutLogger where
  options : CompositeElasticOpenTelemetryOptions

/-- `StandardOutLogger.IsEnabled`. -/
def StandardOutLogger.isEnabled (logger : StandardOutLogger) (logLevel : LogLevel) : Bool :=
  logger.options.globalLogEnabled && logger.options.logTargets.hasFlag LogTargets.stdOut &&
    logger.options.logLevel ≤ logLevel

/-! ### What the settings determine -/

namespace CompositeElasticOpenTelemetryOptions

variable {o a b : CompositeElasticOpenTelemetryOptions}

/-- The default targets are `None` exactly when logging is not enabled. -/
theorem logTargetsDefault_eq_none :
    o.logTargetsDefault = LogTargets.none ↔ o.globalLogEnabled = false := by
  rw [logTargetsDefault]
  cases o.globalLogEnabled with
  | false => exact iff_of_true rfl rfl
  | true =>
    refine iff_of_false ?_ (by simp)
    rw [if_pos rfl]
    split_ifs <;> decide

/-- Targets that are named make logging active, whatever they are. -/
theorem globalLogEnabled_of_targets {targets : LogTargets}
    (htargets : o.logTargetsCell.value = some targets) :
    o.globalLogEnabled = (targets != LogTargets.none && o.logLevelCell.value != some .none) := by
  rw [globalLogEnabled, htargets]
  by_cases hlevel : o.logLevelCell.value = some .none
  · simp [hlevel]
  · by_cases hnone : targets = LogTargets.none
    · simp [hlevel, hnone]
    · simp [hlevel, hnone]

/-- A level of `None` switches logging off. -/
theorem globalLogEnabled_of_level (hlevel : o.logLevelCell.value = some .none) :
    o.globalLogEnabled = false := by
  rw [globalLogEnabled, hlevel]
  simp

theorem logLevel_eq_none : o.logLevel = .none ↔ o.logLevelCell.value = some .none := by
  rw [logLevel]
  cases o.logLevelCell.value <;> simp

/-- **Logging is enabled** exactly when the targets and the level that the getters give are not
`None`. -/
theorem globalLogEnabled_eq :
    o.globalLogEnabled = (o.logTargets != LogTargets.none && o.logLevel != .none) := by
  have hlevel : (o.logLevel != .none) = (o.logLevelCell.value != some .none) := by
    rw [Bool.eq_iff_iff, bne_iff_ne, bne_iff_ne, ne_eq, ne_eq, logLevel_eq_none]
  rw [hlevel, logTargets]
  cases htargets : o.logTargetsCell.value with
  | some targets => exact globalLogEnabled_of_targets htargets
  | none =>
    -- the targets are the default ones, which follow the flag
    rw [Option.getD_none]
    cases henabled : o.globalLogEnabled with
    | false => simp [logTargetsDefault_eq_none.mpr henabled]
    | true =>
      have hdefault : o.logTargetsDefault ≠ LogTargets.none := fun h => by
        rw [logTargetsDefault_eq_none.mp h] at henabled
        cases henabled
      have hset : o.logLevelCell.value ≠ some .none := fun h => by
        rw [globalLogEnabled_of_level h] at henabled
        cases henabled
      simp [hdefault, hset]

theorem globalLogEnabled_congr (h : a.settings = b.settings) :
    a.globalLogEnabled = b.globalLogEnabled := by
  have htargets : a.logTargets = b.logTargets := congrArg Settings.logTargets h
  have hlevel : a.logLevel = b.logLevel := congrArg Settings.logLevel h
  rw [globalLogEnabled_eq, globalLogEnabled_eq, htargets, hlevel]

/-- The file logger is enabled for the same levels and writes to the same file. -/
theorem fileLogger_congr (h : a.settings = b.settings) (host : LogFileHost) :
    (FileLoggerSetup.new host a).logFilePath = (FileLoggerSetup.new host b).logFilePath ∧
      ∀ logLevel, (FileLoggerSetup.new host a).isEnabled logLevel =
        (FileLoggerSetup.new host b).isEnabled logLevel := by
  have htargets : a.logTargets = b.logTargets := congrArg Settings.logTargets h
  have hlevel : a.logLevel = b.logLevel := congrArg Settings.logLevel h
  have hdirectory : a.logDirectory = b.logDirectory := congrArg Settings.logDirectory h
  have hlogger : a.additionalLogger = b.additionalLogger := congrArg Settings.additionalLogger h
  simp only [FileLoggerSetup.new, FileLoggerSetup.isEnabled, globalLogEnabled_congr h, htargets,
    hdirectory, hlogger]
  split_ifs
  · exact ⟨rfl, fun _ => rfl⟩
  · cases host.combine b.logDirectory with
    | none => exact ⟨rfl, fun _ => rfl⟩
    | some path => exact ⟨rfl, fun logLevel => by rw [hlevel]⟩

theorem standardOutLogger_congr (h : a.settings = b.settings) (logLevel : LogLevel) :
    (StandardOutLogger.mk a).isEnabled logLevel = (StandardOutLogger.mk b).isEnabled logLevel := by
  have htargets : a.logTargets = b.logTargets := congrArg Settings.logTargets h
  have hlevel : a.logLevel = b.logLevel := congrArg Settings.logLevel h
  simp only [StandardOutLogger.isEnabled, globalLogEnabled_congr h, htargets, hlevel]

/-! ### The resolved identity -/

/-- An options object as the program can have it: created from any sources, after any calls. -/
def Reachable (o : CompositeElasticOpenTelemetryOptions) : Prop :=
  ∃ p env configuration options i calls, o = (create p env configuration options i).run calls

/-- What resolving leaves, as a function of the settings. -/
theorem Reachable.resolve (ho : Reachable o) :
    o.resolveOpAmpServiceIdentity.settings =
        { o.settings with serviceName := o.resolvedServiceName } ∧
      o.resolveOpAmpServiceIdentity.serviceVersion =
        lookupResourceAttribute (o.resourceAttributes.getD []) attributeServiceVersion ∧
      o.resolveOpAmpServiceIdentity.isOpAmpEnabled.1 =
        (!isNullOrEmpty o.opAmpEndpoint && !isNullOrEmpty o.resolvedServiceName) := by
  obtain ⟨p, env, configuration, options, i, calls, rfl⟩ := ho
  have hcreated := unresolved_create p env configuration options i
  have hrun := resolution_run hcreated calls
  have hresolved := hrun.resolve hcreated
  have hsettings := settings_resolveOpAmpServiceIdentity hrun.source
  have hendpoint := congrArg Settings.opAmpEndpoint hsettings
  have hname := congrArg Settings.serviceName hsettings
  refine ⟨hsettings, ?_, ?_⟩
  · have hversion := (hresolved.resolved
      (resolves_resolveOpAmpServiceIdentity hrun.source).identityResolved).2
    rw [hversion, hcreated.version, hrun.resourceAttributes]
    rfl
  · rw [isOpAmpEnabled_eq hresolved.cache, opAmpConfigured]
    dsimp only [settings] at hendpoint hname
    rw [hendpoint, hname]

theorem resolvedServiceName_congr (h : a.settings = b.settings) :
    a.resolvedServiceName = b.resolvedServiceName := by
  have hattributes : a.resourceAttributes = b.resourceAttributes :=
    congrArg Settings.resourceAttributes h
  have hname : a.serviceName = b.serviceName := congrArg Settings.serviceName h
  rw [resolvedServiceName, resolvedServiceName, hattributes, hname]

/-! ### The main result -/

/-- **Equal options are interchangeable.** Options that are `Equals` enable logging alike, their
sub-loggers are enabled for the same levels and use the same directory and file, and resolving the
OpAMP identity of both leaves them equal, with the same service and the same answer of
`IsOpAmpEnabled`. -/
theorem equals_interchangeable (ha : Reachable a) (hb : Reachable b) (h : a.equals b = true) :
    a.globalLogEnabled = b.globalLogEnabled ∧
    a.logDirectory = b.logDirectory ∧
    (∀ host,
      (FileLoggerSetup.new host a).logFilePath = (FileLoggerSetup.new host b).logFilePath ∧
      ∀ logLevel, (FileLoggerSetup.new host a).isEnabled logLevel =
        (FileLoggerSetup.new host b).isEnabled logLevel) ∧
    (∀ logLevel, (StandardOutLogger.mk a).isEnabled logLevel =
      (StandardOutLogger.mk b).isEnabled logLevel) ∧
    a.resolveOpAmpServiceIdentity.equals b.resolveOpAmpServiceIdentity = true ∧
    a.resolveOpAmpServiceIdentity.serviceName = b.resolveOpAmpServiceIdentity.serviceName ∧
    a.resolveOpAmpServiceIdentity.serviceVersion = b.resolveOpAmpServiceIdentity.serviceVersion ∧
    a.resolveOpAmpServiceIdentity.isOpAmpEnabled.1 =
      b.resolveOpAmpServiceIdentity.isOpAmpEnabled.1 := by
  have hsettings := equals_iff.mp h
  obtain ⟨haResolved, haVersion, haEnabled⟩ := ha.resolve
  obtain ⟨hbResolved, hbVersion, hbEnabled⟩ := hb.resolve
  have hname := resolvedServiceName_congr hsettings
  have hattributes : a.resourceAttributes = b.resourceAttributes :=
    congrArg Settings.resourceAttributes hsettings
  have hendpoint : a.opAmpEndpoint = b.opAmpEndpoint := congrArg Settings.opAmpEndpoint hsettings
  have hresolved :
      a.resolveOpAmpServiceIdentity.settings = b.resolveOpAmpServiceIdentity.settings := by
    rw [haResolved, hbResolved, hsettings, hname]
  refine ⟨globalLogEnabled_congr hsettings, congrArg Settings.logDirectory hsettings,
    fileLogger_congr hsettings, standardOutLogger_congr hsettings, equals_iff.mpr hresolved,
    congrArg Settings.serviceName hresolved, ?_, ?_⟩
  · rw [haVersion, hbVersion, hattributes]
  · rw [haEnabled, hbEnabled, hendpoint, hname]

/-- Debug logging to the default targets, and to targets that are named. -/
def debugLogging (targets : Option Str) : CompositeElasticOpenTelemetryOptions :=
  create .linux (fun key =>
    if key = EnvironmentVariables.otelLogLevel then some (some "debug".toList)
    else if key = EnvironmentVariables.elasticOtelLogTargets then targets.map some
    else none) (fun _ => none) {} {}

/-- Default targets and the same ones named explicitly. -/
theorem equals_interchangeable_namedTargets :
    (debugLogging none).equals (debugLogging (some "file".toList)) = true ∧
      (debugLogging none).globalLogEnabled =
        (debugLogging (some "file".toList)).globalLogEnabled := by
  have hequals : (debugLogging none).equals (debugLogging (some "file".toList)) = true := by
    decide +kernel
  have hreachable (targets : Option Str) : Reachable (debugLogging targets) :=
    ⟨_, _, _, _, _, [], rfl⟩
  exact ⟨hequals, (equals_interchangeable (hreachable _) (hreachable _) hequals).1⟩

end CompositeElasticOpenTelemetryOptions

end ElasticOpenTelemetry
