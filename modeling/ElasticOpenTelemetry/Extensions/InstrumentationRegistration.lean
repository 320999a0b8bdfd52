import ElasticOpenTelemetry.SignalBuilder
import ElasticOpenTelemetry.Foundations.Emission

/-!
# What the defaults register on a provider builder

`ConfigureBuilder` of the tracer, meter and logger provider builders
(`TracerProviderBuilderExtensions.cs`, `MeterProviderBuilderExtensions.cs`,
`LoggerProviderBuilderExtensions.cs`) applies the defaults of the distribution, runs the callback
of the user and adds the OTLP exporter. Instrumentation that may or may not be deployed with the
application is looked up and invoked by reflection (`AddInstrumentationViaReflection` in
`SignalBuilder.cs`), and a failure there is logged and forgotten. From .NET 9 on there are native
sources for HTTP and for the runtime, which are added where the assembly of the contributed
instrumentation is not found beside the application.

A run is recorded as a list of events: what is registered, which methods are invoked, and what is
logged. What an instrumentation method or the callback of the user registers is foreign, as is
what reflection finds. A logger is assumed to return, and the SDK to run no callback at once.
-/

namespace ElasticOpenTelemetry.InstrumentationRegistration

open DotNet Faults

/-! ### The instrumentations -/

/-- `InstrumentationAssemblyInfo` -/
structure InstrumentationAssemblyInfo where
  name : Str
  assemblyName : Str
  fullyQualifiedType : Str
  instrumentationMethod : Str
  deriving DecidableEq

namespace InstrumentationAssemblyInfo

/-- An entry of the tables. -/
def ofStrings (name assemblyName fullyQualifiedType instrumentationMethod : String) :
    InstrumentationAssemblyInfo :=
  ⟨name.toList, assemblyName.toList, fullyQualifiedType.toList, instrumentationMethod.toList⟩

end InstrumentationAssemblyInfo

/-- The entry of the HTTP instrumentation of traces. -/
def httpTraceInstrumentation : InstrumentationAssemblyInfo :=
  .ofStrings "HTTP" "OpenTelemetry.Instrumentation.Http"
    "OpenTelemetry.Trace.HttpClientInstrumentationTracerProviderBuilderExtensions"
    "AddHttpClientInstrumentation"

/-- `ContribTraceInstrumentation.GetReflectionInstrumentationAssemblies` -/
def getReflectionInstrumentationAssemblies : List InstrumentationAssemblyInfo :=
  [.ofStrings "AspNet" "OpenTelemetry.Instrumentation.AspNet"
      "OpenTelemetry.Trace.TracerProviderBuilderExtensions" "AddAspNetInstrumentation",
    .ofStrings "AWS" "OpenTelemetry.Instrumentation.AWS"
      "OpenTelemetry.Trace.TracerProviderBuilderExtensions" "AddAWSInstrumentation",
    .ofStrings "ElasticsearchClient (NEST)" "OpenTelemetry.Instrumentation.ElasticsearchClient"
      "OpenTelemetry.Trace.TracerProviderBuilderExtensions"
      "AddElasticsearchClientInstrumentation",
    .ofStrings "EntityFrameworkCore" "OpenTelemetry.Instrumentation.EntityFrameworkCore"
      "OpenTelemetry.Trace.TracerProviderBuilderExtensions"
      "AddEntityFrameworkCoreInstrumentation",
    .ofStrings "GrpcNetClient" "OpenTelemetry.Instrumentation.GrpcNetClient"
      "OpenTelemetry.Trace.TracerProviderBuilderExtensions" "AddGrpcClientInstrumentation",
    .ofStrings "GrpcCore" "OpenTelemetry.Instrumentation.GrpcCore"
      "OpenTelemetry.Trace.TracerProviderBuilderExtensions" "AddGrpcCoreInstrumentation",
    .ofStrings "Hangfire" "OpenTelemetry.Instrumentation.Hangfire"
      "OpenTelemetry.Trace.TracerProviderBuilderExtensions" "AddHangfireInstrumentation",
    httpTraceInstrumentation,
    .ofStrings "Kafka (Producer)" "OpenTelemetry.Instrumentation.ConfluentKafka"
      "OpenTelemetry.Trace.TracerProviderBuilderExtensions" "AddKafkaProducerInstrumentation",
    .ofStrings "Kafka (Consumer)" "OpenTelemetry.Instrumentation.ConfluentKafka"
      "OpenTelemetry.Trace.TracerProviderBuilderExtensions" "AddKafkaConsumerInstrumentation",
    .ofStrings "Owin" "OpenTelemetry.Instrumentation.Owin"
      "OpenTelemetry.Trace.TracerProviderBuilderExtensions" "AddOwinInstrumentation",
    .ofStrings "Quartz" "OpenTelemetry.Instrumentation.Quartz"
      "OpenTelemetry.Trace.TracerProviderBuilderExtensions" "AddQuartzInstrumentation",
    .ofStrings "ServiceFabricRemoting" "OpenTelemetry.Instrumentation.ServiceFabricRemoting"
      "OpenTelemetry.Trace.TracerProviderBuilderExtensions"
      "AddServiceFabricRemotingInstrumentation",
    .ofStrings "SqlClient" "OpenTelemetry.Instrumentation.SqlClient"
      "OpenTelemetry.Trace.TracerProviderBuilderExtensions" "AddSqlClientInstrumentation",
    .ofStrings "StackExchangeRedis" "OpenTelemetry.Instrumentation.StackExchangeRedis"
      "OpenTelemetry.Trace.TracerProviderBuilderExtensions" "AddRedisInstrumentation",
    .ofStrings "WCF" "OpenTelemetry.Instrumentation.Wcf"
      "OpenTelemetry.Trace.TracerProviderBuilderExtensions" "AddWcfInstrumentation"]

/-- The entry of the HTTP instrumentation of metrics. -/
def httpMetricsInstrumentation : InstrumentationAssemblyInfo :=
  .ofStrings "HTTP" "OpenTelemetry.Instrumentation.Http"
    "OpenTelemetry.Metrics.HttpClientInstrumentationMeterProviderBuilderExtensions"
    "AddHttpClientInstrumentation"

/-- The entry of the runtime instrumentation. -/
def runtimeInstrumentation : InstrumentationAssemblyInfo :=
  .ofStrings "Runtime" "OpenTelemetry.Instrumentation.Runtime"
    "OpenTelemetry.Metrics.MeterProviderBuilderExtensions" "AddRuntimeInstrumentation"

/-- `ContribMetricsInstrumentation.GetMetricsInstrumentationAssembliesInfo` -/
def getMetricsInstrumentationAssembliesInfo : List InstrumentationAssemblyInfo :=
  [.ofStrings "AspNet" "OpenTelemetry.Instrumentation.AspNet"
      "OpenTelemetry.Metrics.MeterProviderBuilderExtensions" "AddAspNetInstrumentation",
    .ofStrings "AspNetCore" "OpenTelemetry.Instrumentation.AspNetCore"
      "OpenTelemetry.Metrics.AspNetCoreInstrumentationMeterProviderBuilderExtensions"
      "AddAspNetCoreInstrumentation",
    .ofStrings "AWS" "OpenTelemetry.Instrumentation.AWS"
      "OpenTelemetry.Metrics.MeterProviderBuilderExtensions" "AddAWSInstrumentation",
    .ofStrings "Cassandra" "OpenTelemetry.Instrumentation.Cassandra"
      "OpenTelemetry.Metrics.MeterProviderBuilderExtensions" "AddCassandraInstrumentation",
    .ofStrings "Kafka (Producer)" "OpenTelemetry.Instrumentation.ConfluentKafka"
      "OpenTelemetry.Metrics.MeterProviderBuilderExtensions" "AddKafkaProducerInstrumentation",
    .ofStrings "Kafka (Consumer)" "OpenTelemetry.Instrumentation.ConfluentKafka"
      "OpenTelemetry.Metrics.MeterProviderBuilderExtensions" "AddKafkaConsumerInstrumentation",
    .ofStrings "EventCounters" "OpenTelemetry.Instrumentation.EventCounters"
      "OpenTelemetry.Metrics.MeterProviderBuilderExtensions" "AddEventCountersInstrumentation",
    httpMetricsInstrumentation,
    runtimeInstrumentation,
    .ofStrings "Process" "OpenTelemetry.Instrumentation.Process"
      "OpenTelemetry.Metrics.MeterProviderBuilderExtensions" "AddProcessInstrumentation"]

/-- `ContribResourceDetectors.GetContribResourceDetectors` -/
def getContribResourceDetectors : List InstrumentationAssemblyInfo :=
  [.ofStrings "Container" "OpenTelemetry.Resources.Container"
      "OpenTelemetry.Resources.ContainerResourceBuilderExtensions" "AddContainerDetector",
    .ofStrings "OperatingSystem" "OpenTelemetry.Resources.OperatingSystem"
      "OpenTelemetry.Resources.OperatingSystemResourceBuilderExtensions"
      "AddOperatingSystemDetector",
    .ofStrings "Process" "OpenTelemetry.Resources.Process"
      "OpenTelemetry.Resources.ProcessResourceBuilderExtensions" "AddProcessDetector"]

/-! ### The environment -/

/-- What the package was compiled for. -/
inductive Target
  | netFramework
  | netStandard
  | net8
  | net9
  deriving DecidableEq

/-- `#if NET` -/
def Target.isNet : Target → Bool
  | netFramework | netStandard => false
  | net8 | net9 => true

/-- What reflection answers. -/
inductive Lookup
  | throws
  | null
  | found
  deriving DecidableEq

/-- A method as it is looked up: by its names, and by whether it takes options beside the
builder. -/
structure Method where
  builder : BuilderType
  assemblyName : Str
  fullyQualifiedType : Str
  instrumentationMethod : Str
  takesOptions : Bool
  deriving DecidableEq

/-- What foreign code that is given the builder registers on it, and whether it returns. -/
structure Invocation (R : Type) where
  registrations : List R
  returns : Bool

/-- What `ConfigureBuilder` depends on. -/
structure Environment (R : Type) where
  target : Target
  isDynamicCodeSupported : Bool
  /-- `Path.GetDirectoryName(AppContext.BaseDirectory)` -/
  directoryName : Option Str
  /-- `Path.Combine` -/
  combine : Str → Str → Str
  fileExists : Str → Bool
  /-- `Type.GetType`, of a type and an assembly -/
  getType : Str → Str → Lookup
  getMethod : Method → Lookup
  invoke : Method → Invocation R
  options : CompositeElasticOpenTelemetryOptions
  /-- `services` is not null -/
  hasServices : Bool
  userProvidedConfigureBuilder : Option (Invocation R)
  deferAddOtlpExporter : Bool
  /-- `builder.GetType().Name` -/
  builderTypeName : Str
  /-- `AddElasticProcessorsCallCount` -/
  addElasticProcessorsCallCount : ℕ

/-- What is registered. -/
inductive Registration (R : Type)
  /-- `ConfigureResource(r => r.WithElasticDefaults(..))` -/
  | configureResource
  | configureOtlpExporterOptions
  /-- delta temporality -/
  | configureMetricReaderOptions
  | configureLoggerOptions
  | addSource (activitySource : Str)
  | addMeter (meterName : Str)
  /-- by an instrumentation method -/
  | byMethod (method : Method) (r : R)
  | byUser (r : R)
  | otlpExporter
  deriving DecidableEq

/-- What is logged. -/
inductive Message
  | configuringBuilder
  | configuredOtlpExporterOptions (signal : Str)
  | httpInstrumentationFound (signal : Str)
  | runtimeInstrumentationFound
  /-- the warning about publishing with native AOT -/
  | notRegisteredAutomatically (file : Str)
  | activitySourceAdded (activitySource : Str)
  | meterAdded (meterName : Str)
  | skippingAssemblyScanning
  | unableToFindType (fullyQualifiedType assemblyName : Str)
  | unableToFindMethodWarning (fullyQualifiedType instrumentationMethod assemblyName : Str)
  | addedInstrumentationViaReflection (name : Str)
  | addedResourceDetectorViaReflection (name : Str)
  | dynamicInstrumentationFailed (name : Str)
  | multipleAddElasticProcessorsCalls (callCount : ℕ)
  | invokedConfigureAction
  | deferredOtlpExporter
  | skippedOtlpExporter
  | addedOtlpExporter
  | configuredSignalProvider
  deriving DecidableEq

inductive Event (R : Type)
  | registration (r : Registration R)
  /-- an instrumentation method is invoked -/
  | invoke (method : Method)
  | message (m : Message)
  deriving DecidableEq

/-- Where an exception comes from. -/
inductive Exception
  | reflection
  | userCallback
  deriving DecidableEq

/-- A program that records what it does. -/
abbrev Recording (R : Type) := Program Exception (List (Event R))

variable {R : Type}

/-- Something is registered. -/
def register (r : Registration R) : Recording R PUnit := emit (.registration r)

/-- Something is logged. -/
def log (m : Message) : Recording R PUnit := emit (.message m)

namespace Environment

variable (env : Environment R)

/-! ### Reflection -/

/-- `methodInfo.Invoke(null, [builder])` -/
def invokeMethod (method : Method) : Recording R PUnit := do
  emit (.invoke method)
  emitAll ((env.invoke method).registrations.map fun r => .registration (.byMethod method r))
  if (env.invoke method).returns then pure ⟨⟩ else throw .reflection

/-- `builderTypeName.StartsWith("ResourceBuilder")` -/
def isResourceBuilder : Bool := "ResourceBuilder".toList.isPrefixOf env.builderTypeName

/-- The method that an entry of a table names. -/
def methodOf (builder : BuilderType) (assemblyInfo : InstrumentationAssemblyInfo) : Method :=
  ⟨builder, assemblyInfo.assemblyName, assemblyInfo.fullyQualifiedType,
    assemblyInfo.instrumentationMethod, false⟩

/-- The `try` block in the loop of `AddInstrumentationViaReflection`. -/
def tryAddInstrumentation (builder : BuilderType) (assemblyInfo : InstrumentationAssemblyInfo) :
    Recording R PUnit :=
  match env.getType assemblyInfo.fullyQualifiedType assemblyInfo.assemblyName with
  | .throws => throw .reflection
  | .null => log (.unableToFindType assemblyInfo.fullyQualifiedType assemblyInfo.assemblyName)
  | .found =>
    match env.getMethod (methodOf builder assemblyInfo) with
    | .throws => throw .reflection
    | .null =>
      log (.unableToFindMethodWarning assemblyInfo.fullyQualifiedType
        assemblyInfo.instrumentationMethod assemblyInfo.assemblyName)
    | .found => do
      env.invokeMethod (methodOf builder assemblyInfo)
      if env.isResourceBuilder then log (.addedResourceDetectorViaReflection assemblyInfo.name)
      else log (.addedInstrumentationViaReflection assemblyInfo.name)

/-- `AddInstrumentationViaReflection` -/
def addInstrumentationViaReflection (builder : BuilderType)
    (assemblyInfos : List InstrumentationAssemblyInfo) : Recording R PUnit :=
  if env.options.skipInstrumentationAssemblyScanning then log .skippingAssemblyScanning
  else
    assemblyInfos.forM fun assemblyInfo =>
      tryCatch (env.tryAddInstrumentation builder assemblyInfo) fun _ =>
        log (.dynamicInstrumentationFailed assemblyInfo.name)

/-- `InstrumentationAssemblyExists` -/
def instrumentationAssemblyExists (assemblyName : Str) : Bool :=
  match env.directoryName with
  | none | some [] => false
  | some assemblyLocation => env.fileExists (env.combine assemblyLocation assemblyName)

/-- `RuntimeFeature.IsDynamicCodeSupported`, which only the targets with `NET` ask for. -/
def scansAssemblies : Bool := !env.target.isNet || env.isDynamicCodeSupported

/-- A block that runs only where dynamic code is supported. -/
def whenDynamicCodeSupported (block : Recording R PUnit) : Recording R PUnit :=
  if env.scansAssemblies then block else pure ⟨⟩

/-! ### The parts that the provider builders share -/

/-- The resource, and the options of the exporter. -/
def configureResourceAndOptions (signal : Str) : Recording R PUnit := do
  log .configuringBuilder
  register .configureResource
  if env.hasServices then pure ⟨⟩
  else
    register .configureOtlpExporterOptions
    log (.configuredOtlpExporterOptions signal)

/-- The callback of the user. -/
def invokeUserCallback : Recording R PUnit :=
  match env.userProvidedConfigureBuilder with
  | none => pure ⟨⟩
  | some callback => do
    emitAll (callback.registrations.map fun r => .registration (.byUser r))
    if callback.returns then log .invokedConfigureAction else throw .userCallback

/-- The exporter, unless a caller adds it later. -/
def addExporter : Recording R PUnit :=
  if env.deferAddOtlpExporter then log .deferredOtlpExporter
  else if env.options.skipOtlpExporter then log .skippedOtlpExporter
  else do
    register .otlpExporter
    log .addedOtlpExporter

/-! ### Traces -/

/-- `AddActivitySourceWithLogging` -/
def addActivitySourceWithLogging (activitySource : Str) : Recording R PUnit := do
  register (.addSource activitySource)
  log (.activitySourceAdded activitySource)

/-- `AddElasticProcessorsCore`, with a builder state. -/
def addElasticProcessorsCore : Recording R PUnit :=
  let callCount := env.addElasticProcessorsCallCount + 1
  if 1 < callCount then log (.multipleAddElasticProcessorsCalls callCount) else pure ⟨⟩

def aspNetCoreAssemblyName : Str := "OpenTelemetry.Instrumentation.AspNetCore".toList

def tracerProviderBuilderExtensionsTypeName : Str :=
  "OpenTelemetry.Trace.AspNetCoreInstrumentationTracerProviderBuilderExtensions".toList

def aspNetCoreTraceInstrumentationOptionsTypeName : Str :=
  "OpenTelemetry.Instrumentation.AspNetCore.AspNetCoreTraceInstrumentationOptions".toList

def extensionMethodName : Str := "AddAspNetCoreInstrumentation".toList

/-- The method of `AddAspNetCoreInstrumentation`. -/
def aspNetCoreMethod : Method :=
  ⟨.tracerProviderBuilder, aspNetCoreAssemblyName, tracerProviderBuilderExtensionsTypeName,
    extensionMethodName, true⟩

/-- The `try` block of `AddAspNetCoreInstrumentation`. -/
def tryAddAspNetCoreInstrumentation : Recording R PUnit :=
  -- both types are loaded before either is tested
  match env.getType tracerProviderBuilderExtensionsTypeName aspNetCoreAssemblyName,
    env.getType aspNetCoreTraceInstrumentationOptionsTypeName aspNetCoreAssemblyName with
  | .throws, _ | _, .throws => throw .reflection
  | .null, _ => log (.unableToFindType tracerProviderBuilderExtensionsTypeName
      aspNetCoreAssemblyName)
  | _, .null => log (.unableToFindType aspNetCoreTraceInstrumentationOptionsTypeName
      aspNetCoreAssemblyName)
  | .found, .found =>
    match env.getMethod aspNetCoreMethod with
    | .throws => throw .reflection
    | .null => log (.unableToFindMethodWarning tracerProviderBuilderExtensionsTypeName
        extensionMethodName aspNetCoreAssemblyName)
    | .found => do
      env.invokeMethod aspNetCoreMethod
      log (.addedInstrumentationViaReflection aspNetCoreAssemblyName)

/-- `AddAspNetCoreInstrumentation` -/
def addAspNetCoreInstrumentation : Recording R PUnit :=
  if env.options.skipInstrumentationAssemblyScanning then pure ⟨⟩
  else
    tryCatch env.tryAddAspNetCoreInstrumentation fun _ =>
      log (.dynamicInstrumentationFailed aspNetCoreAssemblyName)

def httpAssembly : Str := "OpenTelemetry.Instrumentation.Http.dll".toList

def runtimeAssembly : Str := "OpenTelemetry.Instrumentation.Runtime.dll".toList

def systemNetHttp : Str := "System.Net.Http".toList

def systemRuntime : Str := "System.Runtime".toList

def elasticTransport : Str := "Elastic.Transport".toList

def systemNetNameResolution : Str := "System.Net.NameResolution".toList

/-- The native source, where the assembly of the instrumentation is not beside the application. -/
def addNative (file : Str) (found : Message) (addNativeSource : Recording R PUnit) :
    Recording R PUnit :=
  if env.target = .net9 then
    if env.instrumentationAssemblyExists file then do
      log found
      if env.isDynamicCodeSupported then pure ⟨⟩ else log (.notRegisteredAutomatically file)
    else addNativeSource
  else pure ⟨⟩

/-- `TracerProviderBuilderExtensions.ConfigureBuilder`, up to the callback of the user. -/
def tracerDefaults : Recording R PUnit := do
  env.configureResourceAndOptions "traces".toList
  env.addNative httpAssembly (.httpInstrumentationFound "trace".toList)
    (addActivitySourceWithLogging systemNetHttp)
  addActivitySourceWithLogging elasticTransport
  env.whenDynamicCodeSupported do
    env.addInstrumentationViaReflection .tracerProviderBuilder
      getReflectionInstrumentationAssemblies
    env.addAspNetCoreInstrumentation
  env.addElasticProcessorsCore

/-! ### Metrics and logs -/

/-- `AddMeterWithLogging` -/
def addMeterWithLogging (meterName : Str) : Recording R PUnit := do
  register (.addMeter meterName)
  log (.meterAdded meterName)

/-- The meters of ASP.NET Core. -/
def aspNetCoreMeters : List Str :=
  ["Microsoft.AspNetCore.Hosting".toList, "Microsoft.AspNetCore.Routing".toList,
    "Microsoft.AspNetCore.Diagnostics".toList, "Microsoft.AspNetCore.RateLimiting".toList,
    "Microsoft.AspNetCore.HeaderParsing".toList, "Microsoft.AspNetCore.Server.Kestrel".toList,
    "Microsoft.AspNetCore.Http.Connections".toList]

/-- They are added where the assembly of the instrumentation is beside the application. -/
def addAspNetCoreMeters : Recording R PUnit :=
  if env.instrumentationAssemblyExists "OpenTelemetry.Instrumentation.AspNetCore.dll".toList then
    aspNetCoreMeters.forM addMeterWithLogging
  else pure ⟨⟩

/-- `ConfigureBuilder` of `MeterProviderBuilderExtensions`, up to the callback of the user. -/
def meterDefaults : Recording R PUnit := do
  env.configureResourceAndOptions "metrics".toList
  register .configureMetricReaderOptions
  env.addNative httpAssembly (.httpInstrumentationFound "metric".toList)
    (addMeterWithLogging systemNetHttp)
  env.addNative runtimeAssembly .runtimeInstrumentationFound (addMeterWithLogging systemRuntime)
  env.addAspNetCoreMeters
  addMeterWithLogging systemNetNameResolution
  env.whenDynamicCodeSupported
    (env.addInstrumentationViaReflection .meterProviderBuilder
      getMetricsInstrumentationAssembliesInfo)

/-- `ConfigureBuilder` of `LoggerProviderBuilderExtensions`, up to the callback of the user. -/
def loggerDefaults : Recording R PUnit := do
  env.configureResourceAndOptions "logs".toList
  register .configureLoggerOptions

/-- The part of `ConfigureBuilder` that precedes the callback of the user. -/
def defaults : Signal → Recording R PUnit
  | .traces => env.tracerDefaults
  | .metrics => env.meterDefaults
  | .logs => env.loggerDefaults

/-- `ConfigureBuilder` -/
def configureBuilder (signal : Signal) : Recording R PUnit := do
  env.defaults signal
  env.invokeUserCallback
  env.addExporter
  log .configuredSignalProvider

/-! ### What is emitted -/

/-- What the invocation of a method emits. -/
def invocationEvents (method : Method) : List (Event R) :=
  .invoke method ::
    (env.invoke method).registrations.map fun r => .registration (.byMethod method r)

theorem emits_invokeMethod (method : Method) :
    Emits (env.invokeMethod method)
      (if (env.invoke method).returns then .ok ⟨⟩ else .error .reflection)
      (env.invocationEvents method) := by
  have hend : Emits (if (env.invoke method).returns then pure ⟨⟩ else throw .reflection :
      Recording R PUnit)
      (if (env.invoke method).returns then .ok ⟨⟩ else .error .reflection) [] := by
    split
    · exact emits_pure _
    · exact emits_throw _
  rw [invocationEvents, ← List.append_nil (List.map _ _)]
  exact emits_emit_bind (emits_emitAll_bind hend)

/-- A method is invoked and `added` is logged, unless the method throws. -/
def addedEvents (method : Method) (added failed : Message) : List (Event R) :=
  env.invocationEvents method ++
    [.message (if (env.invoke method).returns then added else failed)]

theorem emits_added (method : Method) (added failed : Message) :
    Emits (tryCatch (do env.invokeMethod method; log added) fun _ => log failed) (.ok ⟨⟩)
      (env.addedEvents method added failed) := by
  have hinvoke := env.emits_invokeMethod method
  rw [addedEvents]
  cases hreturns : (env.invoke method).returns with
  | true =>
    rw [hreturns] at hinvoke
    exact (hinvoke.bind (emits_emit _)).tryCatch_ok
  | false =>
    rw [hreturns] at hinvoke
    exact hinvoke.bind_error.tryCatch_error (emits_emit _)

/-- What is emitted for an entry of a table. -/
def entryEvents (builder : BuilderType) (assemblyInfo : InstrumentationAssemblyInfo) :
    List (Event R) :=
  let failed := Message.dynamicInstrumentationFailed assemblyInfo.name
  match env.getType assemblyInfo.fullyQualifiedType assemblyInfo.assemblyName with
  | .throws => [.message failed]
  | .null =>
    [.message (.unableToFindType assemblyInfo.fullyQualifiedType assemblyInfo.assemblyName)]
  | .found =>
    match env.getMethod (methodOf builder assemblyInfo) with
    | .throws => [.message failed]
    | .null =>
      [.message (.unableToFindMethodWarning assemblyInfo.fullyQualifiedType
        assemblyInfo.instrumentationMethod assemblyInfo.assemblyName)]
    | .found =>
      env.addedEvents (methodOf builder assemblyInfo)
        (if env.isResourceBuilder then .addedResourceDetectorViaReflection assemblyInfo.name
          else .addedInstrumentationViaReflection assemblyInfo.name) failed

theorem emits_entry (builder : BuilderType) (assemblyInfo : InstrumentationAssemblyInfo) :
    Emits (tryCatch (env.tryAddInstrumentation builder assemblyInfo) fun _ =>
      log (.dynamicInstrumentationFailed assemblyInfo.name)) (.ok ⟨⟩)
      (env.entryEvents builder assemblyInfo) := by
  rw [tryAddInstrumentation, entryEvents]
  cases env.getType assemblyInfo.fullyQualifiedType assemblyInfo.assemblyName with
  | throws => exact (emits_throw _).tryCatch_error (emits_emit _)
  | null => exact (emits_emit _).tryCatch_ok
  | found =>
    cases env.getMethod (methodOf builder assemblyInfo) with
    | throws => exact (emits_throw _).tryCatch_error (emits_emit _)
    | null => exact (emits_emit _).tryCatch_ok
    | found =>
      simp only
      split
      · exact env.emits_added _ _ _
      · exact env.emits_added _ _ _

def reflectionEvents (builder : BuilderType) (assemblyInfos : List InstrumentationAssemblyInfo) :
    List (Event R) :=
  if env.options.skipInstrumentationAssemblyScanning then [.message .skippingAssemblyScanning]
  else assemblyInfos.flatMap (env.entryEvents builder)

theorem emits_addInstrumentationViaReflection (builder : BuilderType)
    (assemblyInfos : List InstrumentationAssemblyInfo) :
    Emits (env.addInstrumentationViaReflection builder assemblyInfos) (.ok ⟨⟩)
      (env.reflectionEvents builder assemblyInfos) :=
  emits_ite (emits_emit _) (emits_forM (env.emits_entry builder) assemblyInfos)

def aspNetCoreEvents : List (Event R) :=
  if env.options.skipInstrumentationAssemblyScanning then []
  else
    match env.getType tracerProviderBuilderExtensionsTypeName aspNetCoreAssemblyName,
      env.getType aspNetCoreTraceInstrumentationOptionsTypeName aspNetCoreAssemblyName with
    | .throws, _ | _, .throws => [.message (.dynamicInstrumentationFailed aspNetCoreAssemblyName)]
    | .null, _ => [.message (.unableToFindType tracerProviderBuilderExtensionsTypeName
        aspNetCoreAssemblyName)]
    | _, .null => [.message (.unableToFindType aspNetCoreTraceInstrumentationOptionsTypeName
        aspNetCoreAssemblyName)]
    | .found, .found =>
      match env.getMethod aspNetCoreMethod with
      | .throws => [.message (.dynamicInstrumentationFailed aspNetCoreAssemblyName)]
      | .null => [.message (.unableToFindMethodWarning tracerProviderBuilderExtensionsTypeName
          extensionMethodName aspNetCoreAssemblyName)]
      | .found =>
        env.addedEvents aspNetCoreMethod
          (.addedInstrumentationViaReflection aspNetCoreAssemblyName)
          (.dynamicInstrumentationFailed aspNetCoreAssemblyName)

theorem emits_addAspNetCoreInstrumentation :
    Emits env.addAspNetCoreInstrumentation (.ok ⟨⟩) env.aspNetCoreEvents := by
  refine emits_ite (emits_pure _) ?_
  rw [tryAddAspNetCoreInstrumentation]
  have hthrows : Emits (tryCatch (throw .reflection) fun _ =>
      log (.dynamicInstrumentationFailed aspNetCoreAssemblyName) : Recording R PUnit) (.ok ⟨⟩)
      [.message (.dynamicInstrumentationFailed aspNetCoreAssemblyName)] :=
    (emits_throw _).tryCatch_error (emits_emit _)
  cases env.getType tracerProviderBuilderExtensionsTypeName aspNetCoreAssemblyName with
  | throws => exact hthrows
  | null =>
    cases env.getType aspNetCoreTraceInstrumentationOptionsTypeName aspNetCoreAssemblyName with
    | throws => exact hthrows
    | null | found => exact (emits_emit _).tryCatch_ok
  | found =>
    cases env.getType aspNetCoreTraceInstrumentationOptionsTypeName aspNetCoreAssemblyName with
    | throws => exact hthrows
    | null => exact (emits_emit _).tryCatch_ok
    | found =>
      cases env.getMethod aspNetCoreMethod with
      | throws => exact hthrows
      | null => exact (emits_emit _).tryCatch_ok
      | found => exact env.emits_added _ _ _

def resourceAndOptionsEvents (signal : Str) : List (Event R) :=
  .message .configuringBuilder :: .registration .configureResource ::
    if env.hasServices then []
    else
      [.registration .configureOtlpExporterOptions,
        .message (.configuredOtlpExporterOptions signal)]

theorem emits_configureResourceAndOptions (signal : Str) :
    Emits (env.configureResourceAndOptions signal) (.ok ⟨⟩)
      (env.resourceAndOptionsEvents signal) :=
  emits_emit_bind (emits_emit_bind
    (emits_ite (emits_pure _) (emits_emit_bind (emits_emit _))))

def sourceEvents (activitySource : Str) : List (Event R) :=
  [.registration (.addSource activitySource), .message (.activitySourceAdded activitySource)]

theorem emits_addActivitySourceWithLogging (activitySource : Str) :
    Emits (addActivitySourceWithLogging activitySource : Recording R PUnit) (.ok ⟨⟩)
      (sourceEvents activitySource) :=
  emits_emit_bind (emits_emit _)

def meterEvents (meterName : Str) : List (Event R) :=
  [.registration (.addMeter meterName), .message (.meterAdded meterName)]

theorem emits_addMeterWithLogging (meterName : Str) :
    Emits (addMeterWithLogging meterName : Recording R PUnit) (.ok ⟨⟩)
      (meterEvents meterName) :=
  emits_emit_bind (emits_emit _)

def nativeEvents (file : Str) (found : Message) (native : List (Event R)) : List (Event R) :=
  if env.target = .net9 then
    if env.instrumentationAssemblyExists file then
      .message found ::
        if env.isDynamicCodeSupported then [] else [.message (.notRegisteredAutomatically file)]
    else native
  else []

theorem emits_addNative {file : Str} {found : Message} {addNativeSource : Recording R PUnit}
    {native : List (Event R)} (h : Emits addNativeSource (.ok ⟨⟩) native) :
    Emits (env.addNative file found addNativeSource) (.ok ⟨⟩)
      (env.nativeEvents file found native) :=
  emits_ite (emits_ite (emits_emit_bind (emits_ite (emits_pure _) (emits_emit _))) h)
    (emits_pure _)

def processorsEvents : List (Event R) :=
  if 1 < env.addElasticProcessorsCallCount + 1 then
    [.message (.multipleAddElasticProcessorsCalls (env.addElasticProcessorsCallCount + 1))]
  else []

theorem emits_addElasticProcessorsCore :
    Emits env.addElasticProcessorsCore (.ok ⟨⟩) env.processorsEvents :=
  emits_ite (emits_emit _) (emits_pure _)

/-- What scanning the assemblies emits. -/
def tracerScanEvents : List (Event R) :=
  if env.scansAssemblies then
    env.reflectionEvents .tracerProviderBuilder getReflectionInstrumentationAssemblies ++
      env.aspNetCoreEvents
  else []

def tracerEvents : List (Event R) :=
  env.resourceAndOptionsEvents "traces".toList ++
    (env.nativeEvents httpAssembly (.httpInstrumentationFound "trace".toList)
        (sourceEvents systemNetHttp) ++
      (sourceEvents elasticTransport ++
        (env.tracerScanEvents ++ env.processorsEvents)))

theorem emits_tracerDefaults : Emits env.tracerDefaults (.ok ⟨⟩) env.tracerEvents :=
  (env.emits_configureResourceAndOptions _).bind
    ((env.emits_addNative (emits_addActivitySourceWithLogging _)).bind
      ((emits_addActivitySourceWithLogging _).bind
        ((emits_ite ((env.emits_addInstrumentationViaReflection _ _).bind
          env.emits_addAspNetCoreInstrumentation) (emits_pure _)).bind
            env.emits_addElasticProcessorsCore)))

/-- What scanning the assemblies emits. -/
def meterScanEvents : List (Event R) :=
  if env.scansAssemblies then
    env.reflectionEvents .meterProviderBuilder getMetricsInstrumentationAssembliesInfo
  else []

def aspNetCoreMeterEvents : List (Event R) :=
  if env.instrumentationAssemblyExists "OpenTelemetry.Instrumentation.AspNetCore.dll".toList then
    aspNetCoreMeters.flatMap meterEvents
  else []

def meterDefaultsEvents : List (Event R) :=
  env.resourceAndOptionsEvents "metrics".toList ++
    ([.registration .configureMetricReaderOptions] ++
      (env.nativeEvents httpAssembly (.httpInstrumentationFound "metric".toList)
          (meterEvents systemNetHttp) ++
        (env.nativeEvents runtimeAssembly .runtimeInstrumentationFound
            (meterEvents systemRuntime) ++
          (env.aspNetCoreMeterEvents ++
            (meterEvents systemNetNameResolution ++ env.meterScanEvents)))))

theorem emits_meterDefaults : Emits env.meterDefaults (.ok ⟨⟩) env.meterDefaultsEvents :=
  (env.emits_configureResourceAndOptions _).bind ((emits_emit _).bind
    ((env.emits_addNative (emits_addMeterWithLogging _)).bind
      ((env.emits_addNative (emits_addMeterWithLogging _)).bind
        ((emits_ite (emits_forM emits_addMeterWithLogging _) (emits_pure _)).bind
          ((emits_addMeterWithLogging _).bind
            (emits_ite (env.emits_addInstrumentationViaReflection _ _) (emits_pure _)))))))

/-- What the defaults emit. -/
def defaultsEvents : Signal → List (Event R)
  | .traces => env.tracerEvents
  | .metrics => env.meterDefaultsEvents
  | .logs =>
    env.resourceAndOptionsEvents "logs".toList ++ [.registration .configureLoggerOptions]

theorem emits_defaults (signal : Signal) :
    Emits (env.defaults signal) (.ok ⟨⟩) (env.defaultsEvents signal) := by
  cases signal with
  | traces => exact env.emits_tracerDefaults
  | metrics => exact env.emits_meterDefaults
  | logs => exact (env.emits_configureResourceAndOptions _).bind (emits_emit _)

/-- How the callback of the user, and with it `ConfigureBuilder`, ends. -/
def result : Except Exception PUnit :=
  if env.userProvidedConfigureBuilder.all (·.returns) then .ok ⟨⟩ else .error .userCallback

/-- What the callback of the user registers. -/
def userRegistrations : List R :=
  env.userProvidedConfigureBuilder.elim [] Invocation.registrations

def callbackEvents : List (Event R) :=
  (env.userRegistrations.map fun r => .registration (.byUser r)) ++
    if env.userProvidedConfigureBuilder.any (·.returns) then [.message .invokedConfigureAction]
    else []

theorem emits_invokeUserCallback :
    Emits env.invokeUserCallback env.result env.callbackEvents := by
  rw [invokeUserCallback, result, callbackEvents, userRegistrations]
  cases env.userProvidedConfigureBuilder with
  | none => exact emits_pure _
  | some callback =>
    obtain ⟨registrations, returns⟩ := callback
    cases returns with
    | true => exact emits_emitAll_bind (emits_emit _)
    | false => exact emits_emitAll_bind (emits_throw _)

def exporterEvents : List (Event R) :=
  if env.deferAddOtlpExporter then [.message .deferredOtlpExporter]
  else if env.options.skipOtlpExporter then [.message .skippedOtlpExporter]
  else [.registration .otlpExporter, .message .addedOtlpExporter]

theorem emits_addExporter : Emits env.addExporter (.ok ⟨⟩) env.exporterEvents :=
  emits_ite (emits_emit _) (emits_ite (emits_emit _) (emits_emit_bind (emits_emit _)))

/-- What follows when the callback of the user returns. -/
def finalEvents : List (Event R) :=
  if env.userProvidedConfigureBuilder.all (·.returns) then
    env.exporterEvents ++ [.message .configuredSignalProvider]
  else []

/-- **What a run of `ConfigureBuilder` emits**: the defaults, what the user registers, and the
exporter. -/
theorem emits_configureBuilder (signal : Signal) :
    Emits (env.configureBuilder signal) env.result
      (env.defaultsEvents signal ++ (env.callbackEvents ++ env.finalEvents)) := by
  refine (env.emits_defaults signal).bind ?_
  have hcallback := env.emits_invokeUserCallback
  rw [result] at hcallback ⊢
  rw [finalEvents]
  split
  next hreturns =>
    rw [if_pos hreturns] at hcallback
    exact hcallback.bind (env.emits_addExporter.bind (emits_emit _))
  next hthrows =>
    rw [if_neg hthrows] at hcallback
    rw [List.append_nil]
    exact hcallback.bind_error

theorem run_configureBuilder (signal : Signal) :
    (env.configureBuilder signal).run [] =
      (env.result, env.defaultsEvents signal ++ (env.callbackEvents ++ env.finalEvents)) :=
  (env.emits_configureBuilder signal []).trans (by rw [List.nil_append])

end Environment

/-! ### The order of what is registered -/

/-- The part of `ConfigureBuilder` that registers this: the defaults, the user, the exporter. -/
def Registration.phase : Registration R → ℕ
  | configureResource | configureOtlpExporterOptions | configureMetricReaderOptions
  | configureLoggerOptions | addSource _ | addMeter _ | byMethod _ _ => 0
  | byUser _ => 1
  | otlpExporter => 2

def Registration.ofUser : Registration R → Option R
  | byUser r => some r
  | _ => none

def Registration.isExporter : Registration R → Bool
  | otlpExporter => true
  | _ => false

def Event.registration? : Event R → Option (Registration R)
  | registration r => some r
  | _ => none

/-- What is registered, in this order. -/
def registrationsOf (events : List (Event R)) : List (Registration R) :=
  events.filterMap Event.registration?

/-- Nothing but defaults. -/
def Event.isDefault : Event R → Bool
  | registration r => r.phase = 0
  | invoke _ | message _ => true

namespace Environment

variable (env : Environment R)

theorem isDefault_addedEvents (method : Method) (added failed : Message) :
    (env.addedEvents method added failed).all Event.isDefault = true := by
  simp [addedEvents, invocationEvents, Event.isDefault, Registration.phase]

theorem isDefault_entryEvents (builder : BuilderType)
    (assemblyInfo : InstrumentationAssemblyInfo) :
    (env.entryEvents builder assemblyInfo).all Event.isDefault = true := by
  rw [entryEvents]
  cases env.getType assemblyInfo.fullyQualifiedType assemblyInfo.assemblyName with
  | throws | null => rfl
  | found =>
    cases env.getMethod (methodOf builder assemblyInfo) with
    | throws | null => rfl
    | found => exact env.isDefault_addedEvents _ _ _

theorem isDefault_reflectionEvents (builder : BuilderType)
    (assemblyInfos : List InstrumentationAssemblyInfo) :
    (env.reflectionEvents builder assemblyInfos).all Event.isDefault = true := by
  rw [reflectionEvents]
  split
  · rfl
  · rw [List.all_flatMap, List.all_eq_true]
    exact fun assemblyInfo _ => env.isDefault_entryEvents builder assemblyInfo

theorem isDefault_aspNetCoreEvents : env.aspNetCoreEvents.all Event.isDefault = true := by
  rw [aspNetCoreEvents]
  split
  · rfl
  · split <;> try rfl
    split <;> try rfl
    exact env.isDefault_addedEvents _ _ _

theorem isDefault_nativeEvents {file : Str} {found : Message} {native : List (Event R)}
    (h : native.all Event.isDefault = true) :
    (env.nativeEvents file found native).all Event.isDefault = true := by
  rw [nativeEvents]
  split_ifs
  · rfl
  · rfl
  · exact h
  · rfl

theorem isDefault_resourceAndOptionsEvents (signal : Str) :
    (env.resourceAndOptionsEvents signal).all Event.isDefault = true := by
  rw [resourceAndOptionsEvents]
  split_ifs <;> rfl

theorem isDefault_defaultsEvents (signal : Signal) :
    (env.defaultsEvents signal).all Event.isDefault = true := by
  cases signal with
  | traces =>
    have hprocessors : env.processorsEvents.all Event.isDefault = true := by
      rw [processorsEvents]
      split_ifs <;> rfl
    have hscan : env.tracerScanEvents.all Event.isDefault = true := by
      rw [tracerScanEvents]
      split
      · rw [List.all_append, isDefault_reflectionEvents, isDefault_aspNetCoreEvents]
        rfl
      · rfl
    rw [defaultsEvents, tracerEvents, List.all_append, List.all_append, List.all_append,
      List.all_append, isDefault_resourceAndOptionsEvents, isDefault_nativeEvents _ rfl, hscan,
      hprocessors]
    rfl
  | metrics =>
    have hmeters : env.aspNetCoreMeterEvents.all Event.isDefault = true := by
      rw [aspNetCoreMeterEvents]
      split <;> rfl
    have hscan : env.meterScanEvents.all Event.isDefault = true := by
      rw [meterScanEvents]
      split
      · exact env.isDefault_reflectionEvents _ _
      · rfl
    rw [defaultsEvents, meterDefaultsEvents, List.all_append, List.all_append, List.all_append,
      List.all_append, List.all_append, List.all_append, isDefault_resourceAndOptionsEvents,
      isDefault_nativeEvents _ rfl, isDefault_nativeEvents _ rfl, hmeters, hscan]
    rfl
  | logs =>
    rw [defaultsEvents, List.all_append, isDefault_resourceAndOptionsEvents]
    rfl

/-- The registrations of the three parts. -/
theorem registrationsOf_configureBuilder (signal : Signal) :
    registrationsOf ((env.configureBuilder signal).run []).2 =
      registrationsOf (env.defaultsEvents signal) ++ (env.userRegistrations.map .byUser ++
        if env.userProvidedConfigureBuilder.all (·.returns) && !env.deferAddOtlpExporter &&
          !env.options.skipOtlpExporter then [.otlpExporter] else []) := by
  have huser : registrationsOf env.callbackEvents = env.userRegistrations.map .byUser := by
    have hmessage : registrationsOf (if env.userProvidedConfigureBuilder.any (·.returns) then
        [Event.message .invokedConfigureAction] else [] : List (Event R)) = [] := by
      split <;> rfl
    rw [registrationsOf] at hmessage ⊢
    rw [callbackEvents, List.filterMap_append, List.filterMap_map, hmessage, List.append_nil,
      ← List.filterMap_eq_map]
    rfl
  have hfinal : registrationsOf env.finalEvents =
      if env.userProvidedConfigureBuilder.all (·.returns) && !env.deferAddOtlpExporter &&
        !env.options.skipOtlpExporter then [.otlpExporter] else [] := by
    rw [finalEvents, exporterEvents]
    cases env.userProvidedConfigureBuilder.all (·.returns) <;>
      cases env.deferAddOtlpExporter <;> cases env.options.skipOtlpExporter <;> rfl
  rw [← huser, ← hfinal, run_configureBuilder, registrationsOf, List.filterMap_append,
    List.filterMap_append]
  rfl

theorem phase_defaultsEvents {signal : Signal} {r : Registration R}
    (h : r ∈ registrationsOf (env.defaultsEvents signal)) : r.phase = 0 := by
  obtain ⟨x, hx, heq⟩ := List.mem_filterMap.mp h
  have hdefault := List.all_eq_true.mp (env.isDefault_defaultsEvents signal) x hx
  cases x with
  | registration r' =>
    cases heq
    exact of_decide_eq_true hdefault
  | invoke | message => cases heq

/-- What is registered in front of the user's, of the user's and of the exporter is sorted. -/
theorem pairwise_phase {rs : List (Registration R)} (hrs : ∀ r ∈ rs, r.phase = 0)
    (user : List R) (exporter : Bool) :
    List.Pairwise (fun r r' : Registration R => r.phase ≤ r'.phase)
      (rs ++ (user.map .byUser ++ if exporter then [.otlpExporter] else [])) := by
  have huser : ∀ r ∈ user.map (Registration.byUser (R := R)), r.phase = 1 := by
    intro r hr
    obtain ⟨u, -, rfl⟩ := List.mem_map.mp hr
    rfl
  have hexporter : ∀ r ∈ (if exporter then [.otlpExporter] else [] : List (Registration R)),
      r.phase = 2 := by
    cases exporter with
    | true =>
      intro r hr
      cases List.mem_singleton.mp hr
      rfl
    | false => nofun
  have hsame : ∀ {l : List (Registration R)} {n : ℕ}, (∀ r ∈ l, r.phase = n) →
      l.Pairwise fun r r' => r.phase ≤ r'.phase := fun hl =>
    List.pairwise_of_forall_mem_list fun r hr r' hr' => ((hl r hr).trans (hl r' hr').symm).le
  refine List.pairwise_append.mpr ⟨hsame hrs, List.pairwise_append.mpr
    ⟨hsame huser, hsame hexporter, fun r hr r' hr' => ?_⟩, fun r hr r' _ => ?_⟩
  · rw [huser r hr, hexporter r' hr']
    decide
  · rw [hrs r hr]
    exact Nat.zero_le _

theorem filterMap_ofUser_eq_nil {rs : List (Registration R)} (hrs : ∀ r ∈ rs, r.phase = 0) :
    rs.filterMap Registration.ofUser = [] := by
  refine List.filterMap_eq_nil_iff.mpr fun r hr => ?_
  cases r with
  | byUser u => cases hrs _ hr
  | _ => rfl

theorem countP_isExporter_eq_zero {rs : List (Registration R)} (hrs : ∀ r ∈ rs, r.phase = 0) :
    rs.countP Registration.isExporter = 0 := by
  refine List.countP_eq_zero.mpr fun r hr => ?_
  cases r with
  | otlpExporter => cases hrs _ hr
  | _ => nofun

/-- **The order of what is registered.** In every environment, a run of `ConfigureBuilder`
registers the resource first, then the other defaults, then what the user does, all of it, and
last the exporter: once, unless the callback of the user throws, the exporter is deferred or is to
be skipped. No instrumentation makes it throw. -/
theorem configureBuilder_order (signal : Signal) :
    let rs := registrationsOf ((env.configureBuilder signal).run []).2
    ((env.configureBuilder signal).run []).1 = env.result ∧
      rs.head? = some .configureResource ∧
      rs.Pairwise (fun r r' => r.phase ≤ r'.phase) ∧
      rs.filterMap Registration.ofUser = env.userRegistrations ∧
      rs.countP Registration.isExporter =
        if env.userProvidedConfigureBuilder.all (·.returns) && !env.deferAddOtlpExporter &&
          !env.options.skipOtlpExporter then 1 else 0 := by
  intro rs
  have hrs : rs = _ := env.registrationsOf_configureBuilder signal
  have hphase : ∀ r ∈ registrationsOf (env.defaultsEvents signal), r.phase = 0 :=
    fun _ => env.phase_defaultsEvents
  refine ⟨by rw [run_configureBuilder], ?_, ?_, ?_, ?_⟩
  · rw [hrs]
    cases signal <;> rfl
  · rw [hrs]
    exact pairwise_phase hphase _ _
  · have huser : (env.userRegistrations.map Registration.byUser).filterMap Registration.ofUser =
        env.userRegistrations := by
      rw [List.filterMap_map]
      exact List.filterMap_some
    rw [hrs, List.filterMap_append, List.filterMap_append, filterMap_ofUser_eq_nil hphase, huser]
    split
    · exact List.append_nil _
    · exact List.append_nil _
  · have huser : (env.userRegistrations.map Registration.byUser).countP Registration.isExporter =
        0 := by
      rw [List.countP_map]
      exact List.countP_eq_zero.mpr fun _ _ => nofun
    rw [hrs, List.countP_append, List.countP_append, countP_isExporter_eq_zero hphase, huser]
    split
    · rfl
    · rfl

end Environment

end ElasticOpenTelemetry.InstrumentationRegistration
