import ElasticOpenTelemetry.SignalBuilder
import ElasticOpenTelemetry.Foundations.Faults

/-!
# Adding the distribution to a service collection

`AddElasticOpenTelemetry` creates an `OpenTelemetryBuilder` over the service collection and
applies the defaults to it (`ServiceCollectionExtensions.cs`, `OpenTelemetryBuilderExtensions.cs`
and the extensions of the three provider builders). The components are looked up in the service
collection, so that later calls reuse them, while `SignalBuilder.WithElasticDefaults` recognises
a builder by its identity, and every call has a new one.

An OTLP exporter is added where the defaults are applied to a provider builder, or after the user
callback if there is one. Of the SDK it is assumed that `AddOpenTelemetry`, `WithTracing`,
`WithMetrics` and `WithLogging` create a new builder, that the latter three run their callback at
once, and that `AddOtlpExporter` registers one exporter.
-/

namespace ElasticOpenTelemetry.ServiceCollectionExtensions

open Faults

/-- An exception of the user callback, or of `BuilderStateTable.Add`. -/
inductive Exception
  | userCallback
  | argumentException
  deriving DecidableEq, Repr

/-- How a user callback ends. What it registers is not an exporter. -/
inductive UserCallback
  | returns
  | throws
  deriving DecidableEq, Repr

/-- What is registered in the service collection. `builder` is the `OpenTelemetryBuilder` through
which it was registered. -/
inductive ServiceDescriptor
  | elasticOpenTelemetryComponents (implementationInstance : ElasticOpenTelemetryComponents)
  | elasticOpenTelemetryService
  | configureOtlpExporterOptions
  | otlpExporter (signal : Signal) (builder : ℕ)
  /-- what the user callback registers, or the place where it has run -/
  | userConfiguration (builder : ℕ)

/-- The statics of the distribution, the service collection and the builders. -/
structure World where
  registry : Registry
  services : List ServiceDescriptor
  /-- the builders created so far, each with its entry in `BuilderStateTable`; a reference to a
  builder is its position -/
  builders : List (Option BuilderState)

/-- `BuilderOptions`, of any type of builder. -/
structure BuilderOptions where
  userProvidedConfigureBuilder : Option UserCallback
  deferAddOtlpExporter : Bool

/-- A provider builder and the `OpenTelemetryBuilder` it was created by. -/
structure ProviderBuilder where
  id : ℕ
  signal : Signal
  openTelemetryBuilder : ℕ

abbrev Action := Program Exception World PUnit

/-! ### The SDK -/

namespace World

variable (w : World)

def addService (d : ServiceDescriptor) : World := { w with services := w.services ++ [d] }

/-- A builder is created. -/
def newBuilder : World := { w with builders := w.builders ++ [none] }

/-- The builder's entry in `BuilderStateTable`. -/
def builderState (builder : ℕ) : Option BuilderState := (w.builders[builder]?).join

def setBuilderState (builder : ℕ) (builderState : BuilderState) : World :=
  { w with builders := w.builders.set builder (some builderState) }

/-- `services.FirstOrDefault(s => s.ServiceType == typeof(ElasticOpenTelemetryComponents))`. -/
def components : Option ElasticOpenTelemetryComponents :=
  w.services.findSome? fun
    | .elasticOpenTelemetryComponents c => some c
    | _ => none

end World

/-- `WithTracing`, `WithMetrics` and `WithLogging`. -/
def withProvider (signal : Signal) (builder : ℕ) (configure : ProviderBuilder → Action) :
    Action := do
  let w ← get
  set w.newBuilder
  configure ⟨w.builders.length, signal, builder⟩

/-- `AddOtlpExporter()`. -/
def addOtlpExporter (builder : ProviderBuilder) : Action :=
  modify (·.addService (.otlpExporter builder.signal builder.openTelemetryBuilder))

/-- The user callback is run. -/
def UserCallback.invoke (callback : UserCallback) (builder : ℕ) : Action := do
  modify (·.addService (.userConfiguration builder))
  match callback with
  | returns => pure ⟨⟩
  | throws => throw .userCallback

/-! ### Applying the defaults -/

/-- `Bootstrap` with a service collection. -/
def bootstrap (options : CompositeElasticOpenTelemetryOptions) (initialLevel : Option DotNet.Str) :
    Program Exception World ElasticOpenTelemetryComponents := do
  let w ← get
  match w.components with
  | some existingComponents => pure existingComponents
  | none =>
    let r := w.registry.bootstrap options initialLevel
    set ({ w with registry := r.2 }.addService (.elasticOpenTelemetryComponents r.1))
    pure r.1

/-- `BuilderStateTable.Add`. -/
def addBuilderState (builder : ℕ) (builderState : BuilderState) : Action := do
  let w ← get
  match w.builderState builder with
  | some _ => throw .argumentException
  | none => set (w.setBuilderState builder builderState)

/-- `SignalBuilder.WithElasticDefaults` on one thread. Neither the options nor the service
collection are null here. -/
def withElasticDefaults (type : BuilderType) (builder : ℕ)
    (options : CompositeElasticOpenTelemetryOptions)
    (components : Option ElasticOpenTelemetryComponents) (initialLevel : Option DotNet.Str)
    (configureBuilder : BuilderState → Action) : Action := do
  match (← get).builderState builder with
  | some existingBuilderState =>
    modify (·.setBuilderState builder existingBuilderState.incrementWithElasticDefaults)
  | none =>
    if type.isEnabled (SignalBuilder.configuredSignals components (some options)) then
      -- the lock is entered, and nobody else changes the table
      let components ← bootstrap options initialLevel
      configureBuilder (.new components)
      addBuilderState builder (.new components)

/-- The end of `ConfigureBuilder` of the provider builders. -/
def configureProviderBuilder (builder : ProviderBuilder) (builderOptions : BuilderOptions)
    (builderState : BuilderState) : Action := do
  match builderOptions.userProvidedConfigureBuilder with
  | some callback => callback.invoke builder.openTelemetryBuilder
  | none => pure ⟨⟩
  if builderOptions.deferAddOtlpExporter then pure ⟨⟩
  else if builderState.components.options.skipOtlpExporter then pure ⟨⟩
  else addOtlpExporter builder

/-- `WithElasticDefaultsCore` of a provider builder. -/
def withElasticDefaultsCoreOf (type : BuilderType) (builder : ProviderBuilder)
    (components : ElasticOpenTelemetryComponents) (initialLevel : Option DotNet.Str)
    (builderOptions : BuilderOptions) : Action :=
  withElasticDefaults type builder.id components.options (some components) initialLevel
    (configureProviderBuilder builder builderOptions)

/-- `TracerProviderBuilderExtensions.WithElasticDefaultsCore`. -/
def tracerWithElasticDefaultsCore := withElasticDefaultsCoreOf .tracerProviderBuilder

/-- `MeterProviderBuilderExtensions.WithElasticDefaultsCore`. -/
def meterWithElasticDefaultsCore := withElasticDefaultsCoreOf .meterProviderBuilder

/-- `LoggerProviderBuilderExtensions.WithElasticDefaultsCore`. -/
def loggerWithElasticDefaultsCore := withElasticDefaultsCoreOf .loggerProviderBuilder

/-- One of the three signals in `ConfigureBuilder`. -/
def configureSignal (signal : Signal) (builder : ℕ) (signals : Signals)
    (withElasticDefaultsCore : ProviderBuilder → Action) : Action :=
  if signals.hasFlag signal.flag then withProvider signal builder withElasticDefaultsCore
  else pure ⟨⟩

/-- `HandleOtlpExporter`. -/
def handleOtlpExporter (signal : Signal) (builder : ℕ)
    (options : CompositeElasticOpenTelemetryOptions) : Action :=
  if options.signals.hasFlag signal.flag then
    if options.skipOtlpExporter then pure ⟨⟩
    else withProvider signal builder addOtlpExporter
  else pure ⟨⟩

/-- `OpenTelemetryBuilderExtensions.ConfigureBuilder`. -/
def configureBuilder (builder : ℕ) (initialLevel : Option DotNet.Str)
    (builderOptions : BuilderOptions) (builderState : BuilderState) : Action := do
  let components := builderState.components
  let signals := components.options.signals
  let providerOptions : BuilderOptions :=
    { userProvidedConfigureBuilder := none
      deferAddOtlpExporter := builderOptions.userProvidedConfigureBuilder.isSome }
  configureSignal .traces builder signals fun tpb =>
    tracerWithElasticDefaultsCore tpb components initialLevel providerOptions
  configureSignal .metrics builder signals fun mpb =>
    meterWithElasticDefaultsCore mpb components initialLevel providerOptions
  configureSignal .logs builder signals fun lpb =>
    loggerWithElasticDefaultsCore lpb components initialLevel providerOptions
  match builderOptions.userProvidedConfigureBuilder with
  | none => pure ⟨⟩
  | some callback =>
    callback.invoke builder
    handleOtlpExporter .traces builder components.options
    handleOtlpExporter .metrics builder components.options
    handleOtlpExporter .logs builder components.options

/-- `OpenTelemetryBuilderExtensions.WithElasticDefaultsCore`. -/
def withElasticDefaultsCore (builder : ℕ) (options : CompositeElasticOpenTelemetryOptions)
    (initialLevel : Option DotNet.Str) (builderOptions : BuilderOptions) : Action :=
  if options.signals = Signals.none then pure ⟨⟩
  else withElasticDefaults .openTelemetryBuilder builder options none initialLevel
    (configureBuilder builder initialLevel builderOptions)

/-- A call of `AddElasticOpenTelemetry`, and the log level that central configuration would
answer it. -/
structure Call where
  options : CompositeElasticOpenTelemetryOptions
  userProvidedConfigureBuilder : Option UserCallback
  initialLevel : Option DotNet.Str

end ElasticOpenTelemetry.ServiceCollectionExtensions
