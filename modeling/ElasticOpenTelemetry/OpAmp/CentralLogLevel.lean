import ElasticOpenTelemetry.Diagnostics.EventLines
import ElasticOpenTelemetry.OpAmp.CentralConfigDocuments
import ElasticOpenTelemetry.OpAmp.FirstConfig

/-!
# From remote documents to log lines

`CreateComponents` activates the logger with options whose level may come from a remote document
(`FirstConfig`), and the sub-loggers are built from these options. Their level also decides whether
there are log lines at all: `GlobalLogEnabled` asks for a directory, for targets or for a level of
`Debug` or below, and the default targets follow it (`CompositeElasticOpenTelemetryOptions.cs`). A
remote level can so switch file logging on that nothing local asks for, and switch it off.

`log_of_run` states which sub-loggers an entry reaches, from the documents that were received and
the local settings.
-/

namespace ElasticOpenTelemetry.FirstConfig

open DotNet Execution Faults Recycling CompositeElasticOpenTelemetryOptions
open Json (Document)
open CentralConfigJsonParser (keys answer search_document)
open LoggingEventListener (ActiveLogger AdditionalLogger Logged Output)

/-! ### Where log lines go -/

/-- The settings that decide with the level where log lines go. -/
structure LogSettings where
  logDirectory : Option Str
  logDirectoryDefault : Str
  logTargets : Option LogTargets
  runningInContainer : Option Bool
  additionalLogger : Option LoggerRef

/-- The settings of an options object. -/
def logSettings (o : CompositeElasticOpenTelemetryOptions) : LogSettings where
  logDirectory := o.logDirectoryCell.value
  logDirectoryDefault := o.logDirectoryDefault
  logTargets := o.logTargetsCell.value
  runningInContainer := o.runningInContainerCell.value
  additionalLogger := o.additionalLogger

namespace LogSettings

variable (settings : LogSettings)

/-- The targets at a level. -/
def targetsAt (level : LogLevel) : LogTargets :=
  if level = .none then LogTargets.none
  else
    match settings.logTargets with
    | some targets => targets
    | none =>
      if level ≤ .debug || !isNullOrWhiteSpace settings.logDirectory then
        if settings.runningInContainer = some true then LogTargets.stdOut else LogTargets.file
      else LogTargets.none

/-- The file can be set up in the directory. -/
def opensFile (host : LogFileHost) : Bool :=
  let logDirectory := settings.logDirectory.getD settings.logDirectoryDefault
  (host.combine logDirectory).isSome && host.opens logDirectory settings.additionalLogger

end LogSettings

/-- The targets of an options object are those at its level. -/
theorem logTargets_eq {o : CompositeElasticOpenTelemetryOptions} (hlevel : o.logLevel ≠ .none) :
    o.logTargets = (logSettings o).targetsAt o.logLevel := by
  have hcell : o.logLevelCell.value ≠ some .none := fun h => hlevel (logLevel_eq_none.mpr h)
  rw [logTargets, LogSettings.targetsAt, if_neg hlevel]
  dsimp only [logSettings]
  cases htargets : o.logTargetsCell.value with
  | some targets => rfl
  | none =>
    have hdebug : o.logLevelCell.value.any (· ≤ .debug) = decide (o.logLevel ≤ .debug) := by
      rw [logLevel]
      cases o.logLevelCell.value with
      | none => rfl
      | some level => rfl
    have henabled : o.globalLogEnabled =
        (decide (o.logLevel ≤ .debug) || !isNullOrWhiteSpace o.logDirectoryCell.value) := by
      rw [globalLogEnabled, htargets, hdebug]
      simp [hcell]
    rw [Option.getD_none, logTargetsDefault, henabled]
    rfl

/-- What the flag of one target and `GlobalLogEnabled` come to. -/
theorem hasFlag_targetsAt (o : CompositeElasticOpenTelemetryOptions) {flag : LogTargets}
    (hflag : LogTargets.none.hasFlag flag = false) :
    (o.globalLogEnabled && o.logTargets.hasFlag flag) =
      ((logSettings o).targetsAt o.logLevel).hasFlag flag := by
  rw [globalLogEnabled_eq]
  by_cases hlevel : o.logLevel = .none
  · simp [hlevel, LogSettings.targetsAt, hflag]
  · rw [← logTargets_eq hlevel]
    by_cases htargets : o.logTargets = LogTargets.none
    · simp [htargets, hflag]
    · simp [htargets, hlevel]

theorem fileLogger_isEnabled (host : LogFileHost) (o : CompositeElasticOpenTelemetryOptions)
    (logLevel : LogLevel) :
    (FileLoggerSetup.new host o).isEnabled logLevel =
      (((logSettings o).targetsAt o.logLevel).hasFlag LogTargets.file &&
        (logSettings o).opensFile host && o.logLevel ≤ logLevel) := by
  rw [← hasFlag_targetsAt o (by decide), FileLoggerSetup.isEnabled, FileLoggerSetup.new,
    LogSettings.opensFile]
  dsimp only [logSettings]
  rw [← logDirectory]
  cases o.globalLogEnabled && o.logTargets.hasFlag LogTargets.file with
  | false => rfl
  | true => cases host.combine o.logDirectory <;> rfl

theorem standardOutLogger_isEnabled (o : CompositeElasticOpenTelemetryOptions)
    (logLevel : LogLevel) :
    (StandardOutLogger.mk o).isEnabled logLevel =
      (((logSettings o).targetsAt o.logLevel).hasFlag LogTargets.stdOut &&
        o.logLevel ≤ logLevel) := by
  rw [← hasFlag_targetsAt o (by decide), StandardOutLogger.isEnabled]

/-! ### The sub-loggers -/

section SubLoggers

variable {ε : Type}

/-- The sub-loggers that `Activate` creates. -/
def activeLogger (host : LogFileHost) (additional : LoggerRef → AdditionalLogger ε)
    (options : CompositeElasticOpenTelemetryOptions) : ActiveLogger ε where
  fileLogger := .new host options
  consoleLogger := ⟨options⟩
  additionalLogger := options.additionalLogger.map additional

/-- What comes of an entry, from the settings and the level: the lines for the file and the console,
and then what the additional logger makes of the entry, if there is one. -/
def LogSettings.logged (settings : LogSettings) (level : LogLevel) (host : LogFileHost)
    (additional : LoggerRef → AdditionalLogger ε) (platform : LogFile.Platform)
    (record : LogFormatter.Record) (exception : Option Str) (logLine message : Str) : Logged ε :=
  let lines :=
    (if (settings.targetsAt level).hasFlag LogTargets.file && settings.opensFile host &&
      level ≤ record.logLevel then [.file (logLine ++ LogFile.exceptionText platform exception)]
      else []) ++
    (if (settings.targetsAt level).hasFlag LogTargets.stdOut && level ≤ record.logLevel then
      [ActiveLogger.console record.logLevel logLine] else [])
  match settings.additionalLogger with
  | none => { outputs := lines, thrown := none }
  | some logger =>
    match (additional logger).isEnabled record.logLevel with
    | .error e => { outputs := lines, thrown := some e }
    | .ok false => { outputs := lines, thrown := none }
    | .ok true =>
      { outputs := lines ++ [.additional record.logLevel record.state exception message]
        thrown := (additional logger).logThrows record.logLevel record.state exception message }

theorem logged_activeLogger (host : LogFileHost) (additional : LoggerRef → AdditionalLogger ε)
    (o : CompositeElasticOpenTelemetryOptions) (platform : LogFile.Platform)
    (record : LogFormatter.Record) (exception : Option Str) (logLine message : Str) :
    (activeLogger host additional o).logged platform record exception logLine message =
      (logSettings o).logged o.logLevel host additional platform record exception logLine
        message := by
  rw [ActiveLogger.logged, LogSettings.logged, ← fileLogger_isEnabled,
    ← standardOutLogger_isEnabled]
  dsimp only [ActiveLogger.additionalEnabled, ActiveLogger.logThrows, activeLogger, logSettings]
  cases o.additionalLogger <;> rfl

end SubLoggers

/-! ### Runs -/

/-- The options at every place of `CreateComponents`. -/
def CreateComponents.options : CreateComponents → CompositeElasticOpenTelemetryOptions
  | .start options | .waiting options | .reading options | .activating options
  | .activated options => options

theorem logSettings_isOpAmpEnabled (o : CompositeElasticOpenTelemetryOptions) :
    logSettings o.resolveOpAmpServiceIdentity.isOpAmpEnabled.2 = logSettings o := by
  have hresolve : logSettings o.resolveOpAmpServiceIdentity = logSettings o := by
    rw [resolveOpAmpServiceIdentity]
    split_ifs <;> rfl
  rw [← hresolve, isOpAmpEnabled]
  split_ifs <;> rfl

theorem logSettings_setLogLevelFromCentralConfig (o : CompositeElasticOpenTelemetryOptions)
    (level : Str) : logSettings (o.setLogLevelFromCentralConfig level) = logSettings o := by
  rw [setLogLevelFromCentralConfig]
  cases logLevelParser (some level) <;> rfl

/-- No step changes anything but the level. -/
theorem logSettings_next {a : Action} {s t : State} (h : next a s = some t) :
    logSettings t.create.options = logSettings s.create.options := by
  cases a with
  | receive message =>
    rw [next] at h
    cases hhandler : s.handler with
    | idle =>
      rw [hhandler] at h
      obtain rfl := Option.some.inj h
      rfl
    | notified config => rw [hhandler] at h; exact absurd h (by simp)
    | completing => rw [hhandler] at h; exact absurd h (by simp)
  | handle =>
    change handleStep s = some t at h
    revert h
    fun_cases handleStep s with
    | case1 =>
      intro h
      cases h
    | _ =>
      intro h
      obtain rfl := Option.some.inj h
      rfl
  | create =>
    rw [next, createStep] at h
    cases hpc : s.create with
    | start options =>
      rw [hpc] at h
      obtain rfl := Option.some.inj h
      have hsettings := logSettings_isOpAmpEnabled options
      dsimp only
      split_ifs <;> exact hsettings
    | waiting options =>
      rw [hpc] at h
      obtain rfl := Option.some.inj h
      dsimp only
      split_ifs <;> rfl
    | reading options =>
      rw [hpc] at h
      dsimp only at h
      split at h
      · split at h
        · obtain rfl := Option.some.inj h
          exact logSettings_setLogLevelFromCentralConfig options _
        · obtain rfl := Option.some.inj h
          rfl
      · obtain rfl := Option.some.inj h
        rfl
    | activating options =>
      rw [hpc] at h
      obtain rfl := Option.some.inj h
      rfl
    | activated options =>
      rw [hpc] at h
      exact absurd h (by simp)

variable {retained : Bool} {o o' : CompositeElasticOpenTelemetryOptions} {as : List Action}
  {s : State}

/-- The logger is activated with the local settings. -/
theorem logSettings_activated (hs : exec next as (initial retained o) = some s)
    (hactivated : s.create = .activated o') : logSettings o' = logSettings o := by
  have hsettings : logSettings s.create.options = logSettings o :=
    exec_invariant (I := fun t => logSettings t.create.options = logSettings o)
      (fun _ _ _ ht hn => (logSettings_next hn).trans ht) rfl hs
  rwa [hactivated] at hsettings

/-- The logger is activated at the level of the first configuration, if there was one in time. -/
theorem logLevel_activated (hs : exec next as (initial retained o) = some s)
    (hactivated : s.create = .activated o') :
    o'.logLevel =
      if s.waited = some true then levelOf (firstConfig s.messages) o.logLevel
      else o.logLevel := by
  have hinv : Inv o.logLevel s := inv_exec (inv_initial retained o) hs
  have hcreate := hinv.create
  rw [CreateInv, hactivated] at hcreate
  rcases hcreate with ⟨hwaited, hlevel⟩ | ⟨hwaited, hsome, hlevel⟩
  · rw [if_neg hwaited, hlevel]
  · obtain ⟨config, hconfig⟩ := Option.isSome_iff_exists.mp hsome
    rw [if_pos hwaited, hlevel, hconfig, firstConfig_of_initialConfig hinv.handler hconfig]

/-! ### Documents -/

/-- The message has this document for the agent. -/
def Carries (message : RemoteConfigMessage) (document : Document) : Prop :=
  message.agentConfigMap "elastic".toList =
    some ⟨some "application/json".toList, getBytes document.render⟩

theorem extract_of_carries {message : RemoteConfigMessage} {document : Document}
    (h : Carries message document) :
    extract message = (answer (keys document) none).map fun level => ⟨some level⟩ := by
  have hanswer : CentralConfigJsonParser.tryParseLogLevel (getBytes document.render) =
      answer (keys document) none := search_document document
  rw [extract, h]
  simp only [ne_eq, not_true_eq_false, if_false, hanswer]
  cases answer (keys document) none <;> rfl

/-- The level that documents give: the first one with a string under its first key decides, also
when that string is no level. -/
def levelOfDocuments (documents : List Document) (locally : LogLevel) : LogLevel :=
  ((documents.findSome? fun document => answer (keys document) none).bind toLogLevel).getD locally

theorem firstConfig_of_carries {messages : List RemoteConfigMessage} {documents : List Document}
    (h : List.Forall₂ Carries messages documents) :
    firstConfig messages =
      (documents.findSome? fun document => answer (keys document) none).map
        fun level => ⟨some level⟩ := by
  induction h with
  | nil => rfl
  | cons hcarries _ ih =>
    rw [firstConfig] at ih ⊢
    rw [List.findSome?_cons, List.findSome?_cons, extract_of_carries hcarries, ih]
    cases answer (keys _) none <;> rfl

theorem levelOf_of_carries {messages : List RemoteConfigMessage} {documents : List Document}
    (h : List.Forall₂ Carries messages documents) (locally : LogLevel) :
    levelOf (firstConfig messages) locally = levelOfDocuments documents locally := by
  rw [firstConfig_of_carries h, levelOf, levelOfDocuments]
  cases documents.findSome? fun document => answer (keys document) none <;> rfl

section Entry

variable {ε : Type} {documents : List Document} {record : LogFormatter.Record}
  {message logLine : Str}

/-- What the sub-loggers make of an entry, from the documents and the local settings. -/
theorem logged_of_run (hs : exec next as (initial retained o) = some s)
    (hactivated : s.create = .activated o') (hdocuments : List.Forall₂ Carries s.messages documents)
    (host : LogFileHost) (additional : LoggerRef → AdditionalLogger ε)
    (platform : LogFile.Platform) (record : LogFormatter.Record) (exception : Option Str)
    (logLine message : Str) :
    (activeLogger host additional o').logged platform record exception logLine message =
      (logSettings o).logged
        (if s.waited = some true then levelOfDocuments documents o.logLevel else o.logLevel)
        host additional platform record exception logLine message := by
  have hsettings := logSettings_activated hs hactivated
  have hlevel := logLevel_activated hs hactivated
  rw [levelOf_of_carries hdocuments] at hlevel
  rw [logged_activeLogger, hsettings, hlevel]

/-- **From remote documents to log lines.** In every run, the logger that `CreateComponents`
activates treats an entry as the local settings say at the level that the documents give, if the
wait for the first of them returned true, and at the local level otherwise. -/
theorem log_of_run {builders : BuilderRuntime}
    {formatter : Program (FormatException ε) (Store StringBuilder) Str}
    (hs : exec next as (initial retained o) = some s) (hactivated : s.create = .activated o')
    (hdocuments : List.Forall₂ Carries s.messages documents)
    (hformatter : Gives (StringBuilderCache.builders builders) formatter (.ok message))
    (hline : (record.line (.ok message) : Except (FormatException ε) Str) = .ok logLine)
    (host : LogFileHost) (additional : LoggerRef → AdditionalLogger ε)
    (platform : LogFile.Platform) (exception : Option Str) :
    Gives (StringBuilderCache.builders builders)
      ((activeLogger host additional o').log platform builders record exception formatter)
      (.ok ((logSettings o).logged
        (if s.waited = some true then levelOfDocuments documents o.logLevel else o.logLevel)
        host additional platform record exception logLine message)) := by
  rw [← logged_of_run hs hactivated hdocuments]
  exact ActiveLogger.gives_log hformatter hline

end Entry

/-- The documents `{"note": "debug"}` and `{"log_level":"debug"}`. -/
def switchingDocuments : List Document :=
  [{ before := []
     inner := []
     members :=
       .cons [] ⟨Json.Literal.ofStr "note".toList, by decide⟩ [] [.space]
         (.string (Json.Literal.ofStr "debug".toList)) [] .nil
     after := [] },
   { before := []
     inner := []
     members :=
       .cons [] CentralConfigJsonParser.logLevelName [] []
         (.string (Json.Literal.ofStr "debug".toList)) [] .nil
     after := [] }]

/-- They arrive while `CreateComponents` waits. -/
def switchingOn : List Action :=
  .create :: switchingDocuments.map (fun document => .receive (levelMessage document.render)) ++
    [.handle, .handle, .create, .create, .create]

/-- A host on which every file can be opened. -/
def openHost : LogFileHost where
  combine := some
  opens := fun _ _ => true

/-- An additional logger that is disabled. -/
def silentLogger (_ : LoggerRef) : AdditionalLogger Unit where
  isEnabled _ := .ok false
  logThrows _ _ _ _ := none

/-- An entry of level `Debug`. -/
def debugRecord : LogFormatter.Record :=
  let epoch : DateTime :=
    { year := 1970, month := 1, day := 1, hour := 0, minute := 0, second := 0, fraction := 0
      year_lt := by decide, month_lt := by decide, day_lt := by decide, hour_lt := by decide
      minute_lt := by decide, second_lt := by decide, fraction_lt := by decide }
  { ambient := { activity := none, managedThreadId := 1, dateTime := epoch, spanId := none }
    logLevel := .debug, eventId := { id := 0, name := none }, state := none, exception := false }

/-- Nothing local asks for log lines, and there is a file after the second document. -/
theorem log_of_run_switchingOn : ∃ s o' logLine,
    exec next switchingOn (initial true enabledOptions) = some s ∧ s.create = .activated o' ∧
      (logSettings enabledOptions).targetsAt enabledOptions.logLevel = LogTargets.none ∧
      Gives (StringBuilderCache.builders ⟨max, id⟩)
        ((activeLogger openHost silentLogger o').log .unix ⟨max, id⟩ debugRecord none
          (pure "message".toList) : Program (FormatException Unit) (Store StringBuilder) _)
        (.ok { outputs := [.file logLine], thrown := none }) := by
  have hrun : (exec next switchingOn (initial true enabledOptions)).isSome = true := rfl
  have hs := (Option.some_get hrun).symm
  obtain ⟨o', hactivated⟩ :
      ∃ o', ((exec next switchingOn (initial true enabledOptions)).get hrun).create =
        .activated o' := ⟨_, rfl⟩
  have hdocuments : List.Forall₂ Carries
      ((exec next switchingOn (initial true enabledOptions)).get hrun).messages
      switchingDocuments := .cons rfl (.cons rfl .nil)
  have hwaited : ((exec next switchingOn (initial true enabledOptions)).get hrun).waited =
      some true := rfl
  have hlevel : levelOfDocuments switchingDocuments enabledOptions.logLevel = .debug := by decide
  have hline : (debugRecord.line (.ok "message".toList) : Except (FormatException Unit) Str) =
      .ok (debugRecord.prefixText LogFormatter.emptySpanId ++ "message".toList ++ [] ++ []) := rfl
  have hformatter : Gives (StringBuilderCache.builders ⟨max, id⟩)
      (pure "message".toList : Program (FormatException Unit) (Store StringBuilder) Str)
      (.ok "message".toList) := gives_pure _
  have hlog := log_of_run hs hactivated hdocuments hformatter hline openHost silentLogger .unix none
  rw [if_pos hwaited, hlevel] at hlog
  exact ⟨_, o', _, hs, hactivated, rfl, hlog⟩

end ElasticOpenTelemetry.FirstConfig
