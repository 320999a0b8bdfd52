import ElasticOpenTelemetry.Configuration.EnvironmentParser
import ElasticOpenTelemetry.Configuration.OpAmpHeaders

/-!
# The composite options

`CompositeElasticOpenTelemetryOptions` merges what the environment, an `IConfiguration` and the
user's `ElasticOpenTelemetryOptions` say about each setting
(`CompositeElasticOpenTelemetryOptions.cs`, `ConfigurationParser.cs`). Each setting is a
`ConfigCell`; the constructors assign the cells in the order environment, `IConfiguration`,
options, and the getters supply the defaults.

An options object is mutable in the source: resolving the OpAMP identity and applying a central
log level change it in place. Here each of these is a function to the new object.

* `offer_setFromEnvironment` and its siblings read every assignment as an offer to the cell.
* `equals_iff`: `Equals` is equality of the settings that the getters give.
-/

namespace ElasticOpenTelemetry

open DotNet EnvironmentVariables

/-- `IConfiguration`, as the code reads it: `GetValue<string>` of a key. -/
abbrev IConfiguration := Str → Option Str

/-- A reference to an `ILogger`. -/
abbrev LoggerRef := ℕ

/-- `OpAmpClientOptions`. -/
structure OpAmpClientOptions where
  endpoint : Option Str := none
  headers : Option Str := none

/-- `ElasticOpenTelemetryOptions`, what a user sets in code. A logger factory is the logger
that it creates. -/
structure ElasticOpenTelemetryOptions where
  logDirectory : Option Str := none
  logLevel : Option LogLevel := none
  logTargets : Option LogTargets := none
  skipOtlpExporter : Option Bool := none
  additionalLogger : Option LoggerRef := none
  additionalLoggerFactory : Option LoggerRef := none
  skipInstrumentationAssemblyScanning : Option Bool := none
  opAmpClientOptions : OpAmpClientOptions := {}

/-- `CompositeElasticOpenTelemetryOptions`: a cell for each setting, and the state that
bootstrapping leaves on the object. -/
structure CompositeElasticOpenTelemetryOptions extends InstrumentationCells where
  logDirectoryDefault : Str
  logDirectoryCell : ConfigCell Str
  logTargetsCell : ConfigCell LogTargets
  logLevelCell : ConfigCell LogLevel
  skipOtlpExporterCell : ConfigCell Bool
  skipInstrumentationAssemblyScanningCell : ConfigCell Bool
  runningInContainerCell : ConfigCell Bool
  opAmpEndpointCell : ConfigCell Str
  opAmpHeadersCell : ConfigCell Str
  resourceAttributesCell : ConfigCell Str
  serviceNameCell : ConfigCell Str
  additionalLogger : Option LoggerRef := none
  serviceVersion : Option Str := none
  /-- `_isOpAmpEnabled`: only `true` is ever cached -/
  isOpAmpEnabledCache : Option Bool := none
  identityResolved : Bool := false

/-! ### Assigning from the three sources -/

section Assign

variable {α : Type}

/-- `SetFromEnvironment`. -/
def setFromEnvironment (env : EnvironmentDictionary) (key : Str) (field : ConfigCell α)
    (parser : Option Str → Option α) : ConfigCell α :=
  match parser (some (getSafeEnvironmentVariable env key)) with
  | none => field
  | some value => field.assignFromEnvironmentVariable (some value)

/-- The common part of the `ConfigurationParser` methods: look the key up and parse it. -/
def setFromConfigurationKey (configuration : IConfiguration) (fullKey : Str)
    (cell : ConfigCell α) (parser : Option Str → Option α) : ConfigCell α :=
  match configuration fullKey with
  | none => cell
  | some lookup =>
    match parser (some lookup) with
    | none => cell
    | some parsed => cell.assignFromConfiguration (some parsed)

/-- `ConfigurationSection`. -/
def configurationSection : Str := "Elastic:OpenTelemetry".toList

/-- The key of a cell in an `IConfiguration`. -/
def configurationKey (key : Str) : Str := configurationSection ++ ":".toList ++ key

/-- `ConfigurationParser.SetFromConfiguration`. -/
def setFromConfiguration (configuration : IConfiguration) (cell : ConfigCell α)
    (parser : Option Str → Option α) : ConfigCell α :=
  setFromConfigurationKey configuration (configurationKey cell.key) cell parser

/-- `if (value.HasValue) cell.AssignFromOptions(value.Value)`. -/
def assignIfPresent (cell : ConfigCell α) (value : Option α) : ConfigCell α :=
  match value with
  | none => cell
  | some v => cell.assignFromOptions (some v)

/-- `ConfigurationParser.LoggingSectionLogLevel`: the category's entry of the logging section,
or its default entry. -/
def loggingSectionLogLevel (configuration : IConfiguration) : Option Str :=
  let level := configuration "Logging:LogLevel:Elastic.OpenTelemetry".toList
  if isNullOrEmpty level then configuration "Logging:LogLevel:Default".toList else level

/-- `ConfigurationParser.ParseLogLevel`. The fallback assigns what `ToLogLevel` gives, also
when that is null. -/
def parseLogLevel (configuration : IConfiguration) (logLevel : ConfigCell LogLevel) :
    ConfigCell LogLevel :=
  let logLevel := setFromConfiguration configuration logLevel logLevelParser
  let fallback := loggingSectionLogLevel configuration
  if !isNullOrEmpty fallback && logLevel.source == .default then
    logLevel.assignFromConfiguration (toLogLevel (fallback.getD []))
  else logLevel

/-- The value that an `IConfiguration` supplies under a key. -/
def configurationValue (configuration : IConfiguration) (key : Str)
    (parser : Option Str → Option α) : Option α :=
  (configuration key).bind fun lookup => parser (some lookup)

/-- The value that the environment supplies under a key. -/
def environmentValue (env : EnvironmentDictionary) (key : Str)
    (parser : Option Str → Option α) : Option α :=
  parser (some (getSafeEnvironmentVariable env key))

/-- Assigning from the environment is an offer to the cell. -/
theorem offer_setFromEnvironment (env : EnvironmentDictionary) (key : Str) (c : ConfigCell α)
    (parser : Option Str → Option α) :
    (setFromEnvironment env key c parser).toCell =
      c.toCell.offer (.environment, (environmentValue env key parser).map some) := by
  rw [setFromEnvironment, environmentValue]
  cases parser (some (getSafeEnvironmentVariable env key)) <;> rfl

theorem setFromConfigurationKey_eq (configuration : IConfiguration) (key : Str)
    (c : ConfigCell α) (parser : Option Str → Option α) :
    setFromConfigurationKey configuration key c parser =
      match configurationValue configuration key parser with
      | none => c
      | some parsed => c.assignFromConfiguration (some parsed) := by
  rw [setFromConfigurationKey, configurationValue]
  cases configuration key with
  | none => rfl
  | some lookup => rfl

/-- Assigning from an `IConfiguration` is an offer to the cell. -/
theorem offer_setFromConfigurationKey (configuration : IConfiguration) (key : Str)
    (c : ConfigCell α) (parser : Option Str → Option α) :
    (setFromConfigurationKey configuration key c parser).toCell =
      c.toCell.offer (.iConfiguration, (configurationValue configuration key parser).map some) := by
  rw [setFromConfigurationKey_eq]
  cases configurationValue configuration key parser <;> rfl

/-- Assigning from the user's options is an offer to the cell. -/
theorem offer_assignIfPresent (c : ConfigCell α) (value : Option α) :
    (assignIfPresent c value).toCell = c.toCell.offer (.options, value.map some) := by
  cases value <;> rfl

@[simp] theorem key_setFromEnvironment (env : EnvironmentDictionary) (key : Str)
    (c : ConfigCell α) (parser : Option Str → Option α) :
    (setFromEnvironment env key c parser).key = c.key := by
  rw [setFromEnvironment]
  split <;> rfl

end Assign

namespace CompositeElasticOpenTelemetryOptions

/-! ### The constructors -/

/-- `GetDefaultLogDirectory`. -/
def getDefaultLogDirectory (p : Platform) : Str :=
  match p.os with
  | .windows => p.combine [p.applicationData, "elastic".toList, "elastic-otel-dotnet".toList]
  | .osx => p.combine [p.localApplicationData, "elastic".toList, "elastic-otel-dotnet".toList]
  | .other => "/var/log/elastic/elastic-otel-dotnet".toList

/-- The field initialisers, and `LogDirectoryDefault`. -/
def initial (p : Platform) : CompositeElasticOpenTelemetryOptions where
  logDirectoryDefault := getDefaultLogDirectory p
  logDirectoryCell := .new "LogDirectory".toList none
  logTargetsCell := .new "LogTargets".toList none
  logLevelCell := .new "LogLevel".toList (some .warning)
  skipOtlpExporterCell := .new "SkipOtlpExporter".toList (some false)
  skipInstrumentationAssemblyScanningCell :=
    .new "SkipInstrumentationAssemblyScanning".toList (some false)
  runningInContainerCell := .new "_runningInContainer".toList (some false)
  opAmpEndpointCell := .new "OpAmpEndpoint".toList none
  opAmpHeadersCell := ElasticOpenTelemetry.opAmpHeadersCell
  signalsCell := .new "Signals".toList (some Signals.all)
  tracingCell := .new "Tracing".toList (some TraceInstrumentations.all)
  metricsCell := .new "Metrics".toList (some MetricInstrumentations.all)
  loggingCell := .new "Logging".toList (some LogInstrumentations.all)
  resourceAttributesCell := .new "ResourceAttributes".toList none
  serviceNameCell := .new "ServiceName".toList none

/-- The constructor from a dictionary of environment variables. -/
def ofEnvironment (p : Platform) (env : EnvironmentDictionary) :
    CompositeElasticOpenTelemetryOptions :=
  let o := initial p
  { o with
    runningInContainerCell :=
      setFromEnvironment env dotnetRunningInContainer o.runningInContainerCell boolParser
    logDirectoryCell :=
      setFromEnvironment env otelDotnetAutoLogDirectory o.logDirectoryCell stringParser
    logLevelCell := setFromEnvironment env otelLogLevel o.logLevelCell logLevelParser
    logTargetsCell :=
      setFromEnvironment env elasticOtelLogTargets o.logTargetsCell (logTargetsParser p)
    skipOtlpExporterCell :=
      setFromEnvironment env elasticOtelSkipOtlpExporter o.skipOtlpExporterCell boolParser
    skipInstrumentationAssemblyScanningCell :=
      setFromEnvironment env elasticOtelSkipAssemblyScanning
        o.skipInstrumentationAssemblyScanningCell boolParser
    opAmpEndpointCell :=
      setFromEnvironment env elasticOtelOpAmpEndpoint o.opAmpEndpointCell stringParser
    opAmpHeadersCell :=
      setFromEnvironment env elasticOtelOpAmpHeaders o.opAmpHeadersCell stringParser
    resourceAttributesCell :=
      setFromEnvironment env otelResourceAttributes o.resourceAttributesCell stringParser
    serviceNameCell := setFromEnvironment env otelServiceName o.serviceNameCell stringParser
    toInstrumentationCells := parseInstrumentationVariables env o.toInstrumentationCells }

/-- `AssignFromIConfiguration`. -/
def assignFromIConfiguration (p : Platform) (configuration : IConfiguration)
    (o : CompositeElasticOpenTelemetryOptions) : CompositeElasticOpenTelemetryOptions :=
  { o with
    logDirectoryCell := setFromConfiguration configuration o.logDirectoryCell stringParser
    logTargetsCell := setFromConfiguration configuration o.logTargetsCell (logTargetsParser p)
    logLevelCell := parseLogLevel configuration o.logLevelCell
    skipOtlpExporterCell := setFromConfiguration configuration o.skipOtlpExporterCell boolParser
    skipInstrumentationAssemblyScanningCell :=
      setFromConfiguration configuration o.skipInstrumentationAssemblyScanningCell boolParser
    opAmpEndpointCell := setFromConfiguration configuration o.opAmpEndpointCell stringParser
    resourceAttributesCell :=
      setFromConfigurationKey configuration otelResourceAttributes o.resourceAttributesCell
        stringParser
    serviceNameCell :=
      setFromConfigurationKey configuration otelServiceName o.serviceNameCell stringParser
    opAmpHeadersCell := setFromConfiguration configuration o.opAmpHeadersCell stringParser }

/-- `AssignFromElasticOpenTelemetryOptions`. An empty log directory counts as absent; an empty
endpoint or header list does not. -/
def assignFromElasticOpenTelemetryOptions (options : ElasticOpenTelemetryOptions)
    (o : CompositeElasticOpenTelemetryOptions) : CompositeElasticOpenTelemetryOptions :=
  { o with
    skipOtlpExporterCell := assignIfPresent o.skipOtlpExporterCell options.skipOtlpExporter
    logDirectoryCell :=
      if isNullOrEmpty options.logDirectory then o.logDirectoryCell
      else o.logDirectoryCell.assignFromOptions options.logDirectory
    logLevelCell := assignIfPresent o.logLevelCell options.logLevel
    logTargetsCell := assignIfPresent o.logTargetsCell options.logTargets
    skipInstrumentationAssemblyScanningCell :=
      assignIfPresent o.skipInstrumentationAssemblyScanningCell
        options.skipInstrumentationAssemblyScanning
    opAmpEndpointCell := assignIfPresent o.opAmpEndpointCell options.opAmpClientOptions.endpoint
    opAmpHeadersCell := assignIfPresent o.opAmpHeadersCell options.opAmpClientOptions.headers
    additionalLogger := options.additionalLogger.or options.additionalLoggerFactory }

/-- The constructor from an `IConfiguration`, which may be null. -/
def ofConfiguration (p : Platform) (configuration : Option IConfiguration)
    (env : EnvironmentDictionary) : CompositeElasticOpenTelemetryOptions :=
  match configuration with
  | none => ofEnvironment p env
  | some configuration => (ofEnvironment p env).assignFromIConfiguration p configuration

/-- The constructor from an `IConfiguration` and the user's options. -/
def ofConfigurationAndOptions (p : Platform) (configuration : IConfiguration)
    (options : ElasticOpenTelemetryOptions) (env : EnvironmentDictionary) :
    CompositeElasticOpenTelemetryOptions :=
  ((ofEnvironment p env).assignFromIConfiguration p
    configuration).assignFromElasticOpenTelemetryOptions options

/-- The constructor from the user's options. -/
def ofOptions (p : Platform) (options : ElasticOpenTelemetryOptions)
    (env : EnvironmentDictionary) : CompositeElasticOpenTelemetryOptions :=
  (ofEnvironment p env).assignFromElasticOpenTelemetryOptions options

/-! ### The getters -/

variable (o other : CompositeElasticOpenTelemetryOptions)

def globalLogEnabled : Bool :=
  let level := o.logLevelCell.value
  let targets := o.logTargetsCell.value
  let isActive := level.any (· ≤ .debug) || !isNullOrWhiteSpace o.logDirectoryCell.value ||
    targets.isSome
  -- a level or a target that is explicitly none switches an active logger off
  if !isActive then isActive
  else if level = some .none then false
  else if targets = some LogTargets.none then false
  else isActive

def logDirectory : Str := o.logDirectoryCell.value.getD o.logDirectoryDefault

def logLevel : LogLevel := o.logLevelCell.value.getD .warning

/-- The targets when no source names them. -/
def logTargetsDefault : LogTargets :=
  if o.globalLogEnabled then
    if o.runningInContainerCell.value = some true then LogTargets.stdOut else LogTargets.file
  else LogTargets.none

def logTargets : LogTargets := o.logTargetsCell.value.getD o.logTargetsDefault

def skipOtlpExporter : Bool := o.skipOtlpExporterCell.value.getD false

def skipInstrumentationAssemblyScanning : Bool :=
  o.skipInstrumentationAssemblyScanningCell.value.getD false

def signals : Signals := o.signalsCell.value.getD Signals.all

def tracing : TraceInstrumentations := o.tracingCell.value.getD TraceInstrumentations.all

def metrics : MetricInstrumentations := o.metricsCell.value.getD MetricInstrumentations.all

def logging : LogInstrumentations := o.loggingCell.value.getD LogInstrumentations.all

def opAmpEndpoint : Option Str := o.opAmpEndpointCell.value

def opAmpHeaders : Option Str := o.opAmpHeadersCell.value

def serviceName : Option Str := o.serviceNameCell.value

def resourceAttributes : Option Str := o.resourceAttributesCell.value

/-! ### Changes made by bootstrapping -/

/-- `LookupResourceAttribute`. -/
def lookupResourceAttribute (input key : Str) : Option Str :=
  (input.splitOn ',').findSome? fun segment =>
    match splitInTwo '=' (trim segment) with
    | [name, value] => if name = key then some value else none
    | _ => none

/-- `ResourceSemanticConventions.AttributeServiceName`. -/
def attributeServiceName : Str := "service.name".toList

/-- `ResourceSemanticConventions.AttributeServiceVersion`. -/
def attributeServiceVersion : Str := "service.version".toList

/-- `ResolveOpAmpServiceIdentity`. -/
def resolveOpAmpServiceIdentity : CompositeElasticOpenTelemetryOptions :=
  if isNullOrEmpty o.resourceAttributes then { o with identityResolved := true }
  else
    let attributes := o.resourceAttributes.getD []
    { o with
      -- a name that another source has set is kept
      serviceNameCell :=
        if isNullOrEmpty o.serviceName then
          o.serviceNameCell.assignFromProperty
            (lookupResourceAttribute attributes attributeServiceName)
        else o.serviceNameCell
      serviceVersion :=
        if isNullOrEmpty o.serviceVersion then
          lookupResourceAttribute attributes attributeServiceVersion
        else o.serviceVersion
      identityResolved := true }

/-- `IsOpAmpEnabled`: the answer, and the object with the answer cached. -/
def isOpAmpEnabled : Bool × CompositeElasticOpenTelemetryOptions :=
  if o.isOpAmpEnabledCache = some true then (true, o)
  else if isNullOrEmpty o.opAmpEndpoint || isNullOrEmpty o.serviceName then (false, o)
  -- only the positive answer is cached: the name may still be resolved
  else (true, { o with isOpAmpEnabledCache := some true })

/-- `SetLogLevelFromCentralConfig`. -/
def setLogLevelFromCentralConfig (level : Str) : CompositeElasticOpenTelemetryOptions :=
  match logLevelParser (some level) with
  | some parsed => { o with logLevelCell := o.logLevelCell.assignFromCentralConfig (some parsed) }
  | none => o

/-! ### Equality -/

/-- `Equals`. -/
def equals : Bool :=
  o.logDirectory == other.logDirectory && o.logLevel == other.logLevel &&
  o.logTargets == other.logTargets && o.skipOtlpExporter == other.skipOtlpExporter &&
  o.skipInstrumentationAssemblyScanning == other.skipInstrumentationAssemblyScanning &&
  o.signals == other.signals && o.tracing == other.tracing && o.metrics == other.metrics &&
  o.logging == other.logging && o.opAmpEndpoint == other.opAmpEndpoint &&
  o.opAmpHeaders == other.opAmpHeaders && o.serviceName == other.serviceName &&
  o.resourceAttributes == other.resourceAttributes &&
  o.additionalLogger == other.additionalLogger

/-- The settings of an options object: everything that its consumers read from it, and
everything that `Equals` compares. -/
structure Settings where
  logDirectory : Str
  logLevel : LogLevel
  logTargets : LogTargets
  skipOtlpExporter : Bool
  skipInstrumentationAssemblyScanning : Bool
  signals : Signals
  tracing : TraceInstrumentations
  metrics : MetricInstrumentations
  logging : LogInstrumentations
  opAmpEndpoint : Option Str
  opAmpHeaders : Option Str
  serviceName : Option Str
  resourceAttributes : Option Str
  additionalLogger : Option LoggerRef
  deriving DecidableEq

/-- The settings that the getters give. -/
def settings : Settings where
  logDirectory := o.logDirectory
  logLevel := o.logLevel
  logTargets := o.logTargets
  skipOtlpExporter := o.skipOtlpExporter
  skipInstrumentationAssemblyScanning := o.skipInstrumentationAssemblyScanning
  signals := o.signals
  tracing := o.tracing
  metrics := o.metrics
  logging := o.logging
  opAmpEndpoint := o.opAmpEndpoint
  opAmpHeaders := o.opAmpHeaders
  serviceName := o.serviceName
  resourceAttributes := o.resourceAttributes
  additionalLogger := o.additionalLogger

variable {o other}

/-- **`Equals` compares settings.** It is the equivalence of having the same settings, whatever
sources they came from. -/
theorem equals_iff : o.equals other = true ↔ o.settings = other.settings := by
  simp only [equals, settings, Bool.and_eq_true, beq_iff_eq, Settings.mk.injEq, and_assoc]

theorem equals_self (o : CompositeElasticOpenTelemetryOptions) : o.equals o = true :=
  equals_iff.mpr rfl

end CompositeElasticOpenTelemetryOptions

end ElasticOpenTelemetry
