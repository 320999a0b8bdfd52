import ElasticOpenTelemetry.Bootstrap
import ElasticOpenTelemetry.Foundations.Faults

/-!
# A bootstrap that fails

`Bootstrap` and `CreateComponents` (`ElasticOpenTelemetry.cs`) with the constructor and the
`Dispose` of `CentralConfiguration`, where loggers and the OpAMP client are foreign code that may
throw. A `Step` is a place where an exception can be raised. The clean-up of `CreateComponents`
sees two locals, `centralConfig` and `eventListener`, while what has to be cleaned up also lives
inside constructors that have not returned, on the worker thread of `StartClient`, and in the
components once these own it.

How the start-up of the client ends is a field of the environment (see `OpAmp.StartClient` for
the two threads). The messages of `BootstrapLogger` are left out: it is not user-supplied.
-/

namespace ElasticOpenTelemetry.BootstrapFailure

open DotNet Faults

/-- The places where an exception can be raised, those of `CreateComponents` in the order of
the source. -/
inductive Step
  | getOrCreate
  | resolveOpAmpServiceIdentity
  | isOpAmpEnabled
  | logOpAmpEnabledAttempting
  | logOpAmpNotEnabled
  | logInitializingCentralConfig
  | logOpAmpClientCreationFailed
  | logUsingEmptyOpAmpClient
  | subscribeToRemoteConfigMessages
  | logOpAmpClientCreated
  | logOpAmpClientStarted
  | logOpAmpClientStartTimeout
  | waitForFirstConfig
  | logInitialConfigRetrieved
  | setLogLevelFromCentralConfig
  | logFailedToRetrieveConfig
  | logOpAmpNotEnabledSkipping
  | activate
  | loggingEventListener
  | elasticOpenTelemetryComponents
  | logDistroPreamble
  | logComponentsCreated
  -- the clean-up
  | logDisposingOpAmpClient
  | logOperationTimedOut
  | logOperationFaulted
  | logDisposeFaulted
  -- the rest of `Bootstrap`
  | logServiceCollectionComponentsReused
  | logSharedComponentsReused
  | logSharedComponentsNotReused
  | logBootstrapInvoked
  deriving DecidableEq, Repr

/-- What `StartClient` and its worker thread come to by the time `Bootstrap` exits. -/
inductive StartUp
  /-- `StartAsync` succeeded and `Join` returned true -/
  | succeeded
  /-- the worker cleaned up and `Join` returned true -/
  | failed
  /-- `Join` timed out, and the worker has not finished -/
  | pending
  /-- `Join` timed out, and the worker cleaned up after a failed start -/
  | failedLate
  /-- `Join` timed out, and the worker read `_client` before it was exchanged, if it was -/
  | succeededBeforeExchange
  /-- `Join` timed out, and the worker read `_client` after it was exchanged, if it was -/
  | succeededAfterExchange
  deriving DecidableEq, Repr

/-- What becomes of `StopAsync` while `Dispose` waits for it. -/
inductive StopResult
  | completes
  | timesOut
  /-- it throws, or its task faults -/
  | faults
  deriving DecidableEq, Repr

/-- What the caller and the foreign code bring to a call of `Bootstrap`. -/
structure Environment where
  options : CompositeElasticOpenTelemetryOptions
  /-- `ElasticOpAmpClientFactory.Create` returns a client -/
  createsClient : Bool
  startUp : StartUp
  /-- the log level of the central configuration that arrives in time, if one does -/
  firstConfig : Option (Option Str)
  stopAsync : StopResult
  /-- `Dispose` of the client returns -/
  disposeReturns : Bool
  throws : Step → Bool

/-- A resource of the call: a client or an event listener. -/
inductive Resource
  | notCreated
  | live
  | disposed
  deriving DecidableEq, Repr

/-- What `_client` of a `CentralConfiguration` refers to. -/
inductive ClientRef
  | original
  | emptyOpAmpClient
  deriving DecidableEq, Repr

/-- A service, of which only the implementation instance of `ElasticOpenTelemetryComponents`
matters. -/
structure ServiceDescriptor where
  isElasticOpenTelemetryComponents : Bool
  implementationInstance : Option ElasticOpenTelemetryComponents

/-- The resources of the call, the locals of `CreateComponents` and what outlives the call. -/
structure State where
  opAmpClient : Resource
  listener : Resource
  /-- the field `_client` of the `CentralConfiguration` under construction -/
  client : ClientRef
  /-- the local `centralConfig` is not null -/
  centralConfig : Bool
  /-- the local `eventListener` is not null -/
  eventListener : Bool
  registry : Registry
  services : Option (List ServiceDescriptor)

/-- The state in which `Bootstrap` is called. -/
def State.atCall (registry : Registry) (services : Option (List ServiceDescriptor)) : State :=
  ⟨.notCreated, .notCreated, .original, false, false, registry, services⟩

/-! ### The steps of `CentralConfiguration` -/

/-- `Dispose` is called on a resource. -/
def Resource.dispose : Resource → Resource
  | notCreated => notCreated
  | live => disposed
  | disposed => disposed

/-- `Dispose` of the client. -/
def State.disposeClient (s : State) : State := { s with opAmpClient := s.opAmpClient.dispose }

/-- `eventListener?.Dispose()`. -/
def State.disposeEventListener (s : State) : State :=
  if s.eventListener then { s with listener := s.listener.dispose } else s

namespace Environment

variable (env : Environment)

/-- A call into foreign code. -/
abbrev foreign (step : Step) : Program Step State PUnit := call env.throws step

/-- The answer of `IsOpAmpEnabled` in `CreateComponents`. -/
def opAmpEnabled : Bool := env.options.resolveOpAmpServiceIdentity.isOpAmpEnabled.1

/-- The answer of `IsOpAmpEnabled` in the constructor of `CentralConfiguration`. -/
def opAmpEnabledAgain : Bool :=
  env.options.resolveOpAmpServiceIdentity.isOpAmpEnabled.2.isOpAmpEnabled.1

/-- The worker thread, as far as it got while the caller waited. -/
def workerBeforeExchange (s : State) : State :=
  match env.startUp with
  | .failed | .failedLate => s.disposeClient
  | .succeeded | .pending | .succeededBeforeExchange | .succeededAfterExchange => s

/-- The worker thread, as far as it gets once `_client` is exchanged. -/
def workerAfterExchange (s : State) : State :=
  match env.startUp with
  | .succeededAfterExchange => s.disposeClient
  | .succeeded | .failed | .pending | .failedLate | .succeededBeforeExchange => s

/-- `StartClient`. -/
def startClient : Program Step State PUnit := do
  env.foreign .subscribeToRemoteConfigMessages
  env.foreign .logOpAmpClientCreated
  modify env.workerBeforeExchange
  if env.startUp = .succeeded then
    env.foreign .logOpAmpClientStarted
  else
    env.foreign .logOpAmpClientStartTimeout
    modify fun s => { s with client := .emptyOpAmpClient }
    modify env.workerAfterExchange

/-- The client is created, subscribed to and started. -/
def createClient : Program Step State PUnit := do
  modify fun s => { s with opAmpClient := .live }
  env.startClient

/-- The factory threw. -/
def useEmptyClient : Program Step State PUnit := do
  env.foreign .logOpAmpClientCreationFailed
  env.foreign .logUsingEmptyOpAmpClient
  modify fun s => { s with client := .emptyOpAmpClient }

/-- The constructor of `CentralConfiguration`. -/
def centralConfiguration : Program Step State PUnit := do
  if env.opAmpEnabledAgain then
    env.foreign .logInitializingCentralConfig
    if env.createsClient then env.createClient else env.useEmptyClient
  else
    modify fun s => { s with client := .emptyOpAmpClient }
    env.foreign .logOpAmpNotEnabled

/-- What is made of the answer of `WaitForFirstConfig` and `TryGetInitialConfig`. -/
def applyFirstConfig : Option (Option Str) → Program Step State PUnit
  | none => env.foreign .logFailedToRetrieveConfig
  | some none => env.foreign .logInitialConfigRetrieved
  | some (some _) => do
    env.foreign .logInitialConfigRetrieved
    env.foreign .setLogLevelFromCentralConfig

/-- `WaitForFirstConfig`, which reports a wait that ends without a configuration. -/
def waitForFirstConfig (client : ClientRef) : Program Step State (Option (Option Str)) :=
  if client = .emptyOpAmpClient then pure none
  else if env.firstConfig.isSome then pure env.firstConfig
  else do
    env.foreign .waitForFirstConfig
    pure none

/-- `Dispose` of the client, under the name of `SafeDispose`: what it throws is logged. -/
def safeDispose : Program Step State PUnit := do
  modify State.disposeClient
  if env.disposeReturns then pure ⟨⟩ else env.foreign .logDisposeFaulted

/-- `TryWaitForCompletion` of `StopAsync`. The message about a timeout is logged inside the
`try` block. -/
def tryStopAsync : Program Step State PUnit :=
  match env.stopAsync with
  | .completes => pure ⟨⟩
  | .timesOut =>
    tryCatch (env.foreign .logOperationTimedOut) fun _ => env.foreign .logOperationFaulted
  | .faults => env.foreign .logOperationFaulted

/-- `Dispose` of `CentralConfiguration`, called for the first time. -/
def disposeCentralConfiguration : Program Step State PUnit := do
  if (← get).client = .emptyOpAmpClient then pure ⟨⟩
  else
    env.foreign .logDisposingOpAmpClient
    try env.tryStopAsync
    finally env.safeDispose

/-! ### `CreateComponents` -/

/-- The OpAMP part of `CreateComponents`. -/
def configureOpAmp : Program Step State PUnit :=
  if env.opAmpEnabled then do
    env.foreign .logOpAmpEnabledAttempting
    env.centralConfiguration
    modify fun s => { s with centralConfig := true }
    let config ← env.waitForFirstConfig (← get).client
    env.applyFirstConfig config
  else env.foreign .logOpAmpNotEnabledSkipping

/-- The constructor of `LoggingEventListener`. The base constructor has registered the listener
when the first message is logged. -/
def createEventListener : Program Step State PUnit := do
  modify fun s => { s with listener := .live }
  env.foreign .loggingEventListener
  modify fun s => { s with eventListener := true }

/-- The `try` block of `CreateComponents`. -/
def createComponentsBody : Program Step State PUnit := do
  env.foreign .resolveOpAmpServiceIdentity
  env.foreign .isOpAmpEnabled
  env.configureOpAmp
  env.foreign .activate
  env.createEventListener
  env.foreign .elasticOpenTelemetryComponents
  -- ownership passes to the components
  modify fun s => { s with centralConfig := false, eventListener := false }
  env.foreign .logDistroPreamble
  env.foreign .logComponentsCreated

/-- `centralConfig?.Dispose()`. -/
def disposeCentralConfig : Program Step State PUnit := do
  if (← get).centralConfig then env.disposeCentralConfiguration else pure ⟨⟩

/-- The `catch` block of `CreateComponents`, before it throws again. -/
def cleanUp : Program Step State PUnit := do
  env.disposeCentralConfig
  modify State.disposeEventListener

/-- The client is retained by its `CentralConfiguration`. -/
def retained : Bool := env.createsClient && decide (env.startUp = .succeeded)

/-- The log level that central configuration gives the new components. -/
def initialLevel : Option Str := if env.retained then env.firstConfig.join else none

/-- `CreateComponents`. -/
def createComponents : Program Step State ElasticOpenTelemetryComponents := do
  env.foreign .getOrCreate
  tryCatch env.createComponentsBody fun e => do
    env.cleanUp
    throw e
  return (← get).registry.createComponents env.options env.initialLevel

end Environment

/-! ### `Bootstrap` -/

/-- `TryGetExistingComponentsFromServiceCollection`. -/
def existingComponents (services : Option (List ServiceDescriptor)) :
    Option ElasticOpenTelemetryComponents :=
  services.bind fun services =>
    (services.find? ServiceDescriptor.isElasticOpenTelemetryComponents).bind
      ServiceDescriptor.implementationInstance

/-- `services?.AddSingleton(components)`. -/
def addSingleton (c : ElasticOpenTelemetryComponents) (s : State) : State :=
  { s with services := s.services.map (· ++ [⟨true, some c⟩]) }

/-- `Bootstrap`. -/
def bootstrap (env : Environment) : Program Step State ElasticOpenTelemetryComponents := do
  match existingComponents (← get).services with
  | some c =>
    env.foreign .logServiceCollectionComponentsReused
    env.foreign .logBootstrapInvoked
    pure c
  | none =>
    match (← get).registry.tryGetSharedComponents env.options with
    | some c =>
      env.foreign .logSharedComponentsReused
      env.foreign .logBootstrapInvoked
      modify (addSingleton c)
      pure c
    | none =>
      let c ← env.createComponents
      env.foreign .logSharedComponentsNotReused
      modify fun s => { s with registry := s.registry.add env.options env.initialLevel }
      env.foreign .logBootstrapInvoked
      modify (addSingleton c)
      pure c

/-! ### The path of a call -/

/-- `step` comes no later than `step'` in the source. -/
def Step.le (step step' : Step) : Bool := decide (step.ctorIdx ≤ step'.ctorIdx)

namespace Environment

variable (env : Environment)

/-- The calls of the constructor of `CentralConfiguration`. -/
def centralConfigurationPath : List Step :=
  if env.createsClient then
    [.logInitializingCentralConfig, .subscribeToRemoteConfigMessages, .logOpAmpClientCreated,
      if env.startUp = .succeeded then .logOpAmpClientStarted else .logOpAmpClientStartTimeout]
  else [.logInitializingCentralConfig, .logOpAmpClientCreationFailed, .logUsingEmptyOpAmpClient]

/-- The calls from `WaitForFirstConfig` to the log level that is applied. -/
def firstConfigPath : List Step :=
  if env.retained then
    match env.firstConfig with
    | none => [.waitForFirstConfig, .logFailedToRetrieveConfig]
    | some none => [.logInitialConfigRetrieved]
    | some (some _) => [.logInitialConfigRetrieved, .setLogLevelFromCentralConfig]
  else [.logFailedToRetrieveConfig]

/-- The calls of the OpAMP part of `CreateComponents`. -/
def opAmpPath : List Step :=
  if env.opAmpEnabled then
    .logOpAmpEnabledAttempting :: (env.centralConfigurationPath ++ env.firstConfigPath)
  else [.logOpAmpNotEnabledSkipping]

/-- The calls of the `try` block of `CreateComponents`. -/
def bodyPath : List Step :=
  [.resolveOpAmpServiceIdentity, .isOpAmpEnabled] ++ env.opAmpPath ++
    [.activate, .loggingEventListener, .elasticOpenTelemetryComponents, .logDistroPreamble,
      .logComponentsCreated]

/-- The first step of `CreateComponents` that throws, if one does. -/
def firstFailure : Option Step := (.getOrCreate :: env.bodyPath).find? env.throws

/-- `centralConfig` is not null when `step` is reached. -/
def ownsCentralConfig (step : Step) : Bool :=
  Step.le .waitForFirstConfig step && Step.le step .elasticOpenTelemetryComponents &&
    env.opAmpEnabled

/-- The client when `step` is reached. -/
def clientAt (step : Step) : Resource :=
  if Step.le .subscribeToRemoteConfigMessages step && env.opAmpEnabled && env.createsClient then
    match env.startUp with
    | .succeeded | .pending | .succeededBeforeExchange => .live
    | .failed | .failedLate =>
      if Step.le .logOpAmpClientStartTimeout step then .disposed else .live
    | .succeededAfterExchange => if Step.le .waitForFirstConfig step then .disposed else .live
  else .notCreated

/-- The state when `step` is reached. -/
def stateAt (s : State) (step : Step) : State where
  opAmpClient := env.clientAt step
  listener := if Step.le .loggingEventListener step then .live else .notCreated
  client :=
    if Step.le .waitForFirstConfig step && env.opAmpEnabled && !env.retained then
      .emptyOpAmpClient
    else .original
  centralConfig := env.ownsCentralConfig step
  eventListener := decide (step = .elasticOpenTelemetryComponents)
  registry := s.registry
  services := s.services

end Environment

end ElasticOpenTelemetry.BootstrapFailure
