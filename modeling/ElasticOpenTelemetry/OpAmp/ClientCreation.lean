import ElasticOpenTelemetry.BootstrapFailure
import ElasticOpenTelemetry.Configuration.OpAmpHeaders
import ElasticOpenTelemetry.Foundations.Contracts
import ElasticOpenTelemetry.Foundations.ProcessPool

/-!
# Creating the OpAMP client

The constructor of `CentralConfiguration` (`CentralConfiguration.cs`) creates its client through
`OpAmpIsolatedLoadContext` (`OpAmpIsolatedLoadContext.cs`), where the build asks for that and the
runtime can do it, and otherwise through `ElasticOpAmpClientFactory`
(`ElasticOpAmpClientFactory.cs`) itself. Either way the constructor of `ElasticOpAmpClient`
(`ElasticOpAmpClient.cs`) makes an `HttpClient` and an inner `OpAmpClient`, which does not dispose
the `HttpClient` it is given.

`run_elasticOpAmpClient` states when that constructor leaves an `HttpClient` behind, and
`run_createClient` what the three layers come to: which resources are held, which exceptions get
out, and that a failure is reported. `BootstrapFailure` has the outcome as one Boolean.
-/

namespace ElasticOpenTelemetry.ClientCreation

open DotNet Faults Std.Do
open BootstrapFailure (Resource)

set_option mvcgen.warning false

/-! ### Messages -/

/-- The methods that report an assembly that cannot be resolved. -/
inductive Method
  | load
  | createOpAmpClientInstance
  deriving DecidableEq

/-- What is logged on the way. -/
inductive Message
  | usingIsolatedLoadContext
  | dynamicCodeNotSupported
  | opAmpNotSupportedOnPlatform
  | opAmpClientCreationFailed
  -- the constructor of `OpAmpIsolatedLoadContext`
  | installDirNotSet
  | netPathNotFound (netPath : Str)
  | opAmpDllNotFound (opAmpPath : Str)
  | initializingLoadContext (netPath : Str)
  | resolverFailed (opAmpPath : Str)
  -- `Load` and `CreateOpAmpClientInstance`
  | assemblyResolved (assemblyName path : Str)
  | assemblyResolverReturnedNull (assemblyName : Str)
  | assemblyResolvedPathNotFound (assemblyName path : Str)
  | assemblyResolutionFailed (method : Method) (assemblyName : Str)
  | factoryTypeNotFound (typeName : Str)
  | factoryActivationFailed (typeName : Str)
  | factoryCreateException (typeName : Str)
  deriving DecidableEq

def Message.level : Message → LogLevel
  | usingIsolatedLoadContext | initializingLoadContext _ | assemblyResolved _ _ => .debug
  | dynamicCodeNotSupported | opAmpNotSupportedOnPlatform | installDirNotSet | netPathNotFound _
  | opAmpDllNotFound _ | resolverFailed _ | assemblyResolverReturnedNull _
  | assemblyResolvedPathNotFound _ _ | assemblyResolutionFailed _ _ => .warning
  | opAmpClientCreationFailed | factoryTypeNotFound _ | factoryActivationFailed _
  | factoryCreateException _ => .error

/-! ### The environment -/

/-- The arguments of `IOpAmpClientFactory.Create`, but for the logger. -/
structure Arguments where
  endPoint : Str
  headers : Str
  serviceName : Str
  serviceVersion : Option Str
  userAgent : Str

/-- `OpAmpClientSettings`, but for its `HttpClientFactory`, which is set to return the one
`HttpClient`. -/
structure Settings where
  serverUrl : Option Str
  connectionTypeHttp : Bool
  identifyingAttributes : List (Str × Str)
  heartbeatEnabled : Bool
  deriving DecidableEq

/-- What `CentralConfiguration` is built for. -/
inductive Platform
  /-- `USE_ISOLATED_OPAMP_CLIENT`, with `RuntimeFeature.IsDynamicCodeSupported` -/
  | isolated (isDynamicCodeSupported : Bool)
  /-- `NETFRAMEWORK || NET` -/
  | direct
  | other

/-- `AssemblyDependencyResolver.ResolveAssemblyToPath` -/
abbrev Resolver (ε : Type) := Str → Except ε (Option Str)

/-- The code outside the repository, with exceptions `ε` and assemblies `A`. -/
structure Environment (ε A : Type) where
  platform : Platform
  /-- a `FileNotFoundException`, a `FileLoadException` or a `BadImageFormatException` -/
  isLoadException : ε → Bool
  log : Message → Except ε PUnit
  /-- `OTEL_DOTNET_AUTO_INSTALL_DIR` -/
  installationPath : Option Str
  /-- `Path.Join` -/
  join : Str → Str → Str
  directoryExists : Str → Bool
  fileExists : Str → Bool
  assemblyDependencyResolver : Str → Except ε (Resolver ε)
  loadFromAssemblyPath : Str → Except ε A
  /-- the default load context, which the runtime asks when `Load` returns null -/
  loadByDefault : Str → Except ε A
  /-- `GetType` finds the type in the assembly -/
  getType : A → Str → Except ε Bool
  /-- `Activator.CreateInstance` returns an instance, which is cast -/
  createInstance : A → Str → Except ε Bool
  /-- `DefaultRequestHeaders.Add`, after these headers were added -/
  addHeader : List (Str × Str) → Str × Str → Except ε PUnit
  /-- the settings that `OpAmpClient` passes to its configuration action -/
  defaultSettings : Settings
  /-- `new Uri` -/
  uri : Str → Except ε Str
  /-- the rest of the constructor of `OpAmpClient` -/
  opAmpClient : Settings → Except ε PUnit
  subscribe : Except ε PUnit
  /-- `Dispose` of the inner client -/
  disposeInner : Except ε PUnit

/-- The `HttpClient` with its headers, the inner client with its settings, and what was logged. -/
structure State where
  httpClient : Resource
  headers : List (Str × Str)
  innerClient : Resource
  settings : Option Settings
  /-- the `RemoteConfigMessageListener` is subscribed -/
  subscribed : Bool
  messages : List Message

/-- Nothing has been created. -/
def State.initial : State where
  httpClient := .notCreated
  headers := []
  innerClient := .notCreated
  settings := none
  subscribed := false
  messages := []

/-! ### `OpAmpClientConfiguration` -/

variable {ε A : Type}

/-- `GetConfigurationAction` -/
def configurationAction (uri : Str → Except ε Str) (a : Arguments) (opts : Settings) :
    Except ε Settings := do
  let serverUrl ← uri a.endPoint
  let version := if isNullOrEmpty a.serviceVersion then [] else
    [("application.version".toList, a.serviceVersion.getD [])]
  return { opts with
    serverUrl := some serverUrl
    connectionTypeHttp := true
    identifyingAttributes :=
      opts.identifyingAttributes ++ ("application.name".toList, a.serviceName) :: version
    heartbeatEnabled := false }

namespace Environment

variable (env : Environment ε A)

/-- A message counts as logged when the logger returns. -/
def logMessage (message : Message) : Program ε State PUnit := do
  foreign (env.log message)
  modify fun s => { s with messages := s.messages ++ [message] }

/-- `client.DefaultRequestHeaders.Add(name, value)` -/
def add (header : Str × Str) : Program ε State PUnit := do
  foreign (env.addHeader (← get).headers header)
  modify fun s => { s with headers := s.headers ++ [header] }

/-- `CreateHttpClient` -/
def newHttpClient (a : Arguments) : Program ε State PUnit := do
  modify fun s => { s with httpClient := .live, headers := [] }
  (createHttpClient (some a.headers) a.userAgent).forM env.add

/-! ### `ElasticOpAmpClient` -/

/-- `new OpAmpClient(OpAmpClientConfiguration.GetConfigurationAction(..))` -/
def newOpAmpClient (a : Arguments) : Program ε State PUnit := do
  let settings ← foreign (configurationAction env.uri a env.defaultSettings)
  foreign (env.opAmpClient settings)
  modify fun s => { s with innerClient := .live, settings := some settings }

/-- `_innerClient.Subscribe(_remoteConfigMessageListener)` -/
def subscribeListener : Program ε State PUnit := do
  foreign env.subscribe
  modify fun s => { s with subscribed := true }

/-- `_innerClient?.Dispose()`; the field is null unless the constructor of the client returned. -/
def disposeInnerClient : Program ε State PUnit := do
  if (← get).innerClient = .live then
    modify fun s => { s with innerClient := .disposed }
    foreign env.disposeInner

/-- The constructor of `ElasticOpAmpClient`. -/
def elasticOpAmpClient (a : Arguments) : Program ε State PUnit := do
  -- outside the `try` block
  env.newHttpClient a
  tryCatch (do
      env.newOpAmpClient a
      env.subscribeListener)
    fun e => do
      env.disposeInnerClient
      modify fun s => { s with httpClient := .disposed }
      throw e

/-! ### `OpAmpIsolatedLoadContext` -/

/-- `OpAmpClientContract.AssemblyName` -/
def assemblyName : Str := "Elastic.OpenTelemetry.OpAmp".toList

/-- `OpAmpClientContract.FactoryTypeName` -/
def factoryTypeName : Str := "Elastic.OpenTelemetry.OpAmp.ElasticOpAmpClientFactory".toList

/-- `AssembliesToLoad` -/
def assembliesToLoad : List Str :=
  ["Google.Protobuf".toList, "OpenTelemetry.OpAmp.Client".toList, assemblyName]

/-- The constructor of `OpAmpIsolatedLoadContext` in a release build: the field `_resolver`. -/
def newLoadContext : Program ε State (Option (Resolver ε)) := do
  if isNullOrEmpty env.installationPath then
    env.logMessage .installDirNotSet
    return none
  else
    let netPath := env.join (env.installationPath.getD []) "net".toList
    if env.directoryExists netPath then
      let opAmpPath := env.join netPath "Elastic.OpenTelemetry.OpAmp.dll".toList
      if env.fileExists opAmpPath then
        env.logMessage (.initializingLoadContext netPath)
        tryCatch (some <$> foreign (env.assemblyDependencyResolver opAmpPath)) fun _ => do
          env.logMessage (.resolverFailed opAmpPath)
          return none
      else
        env.logMessage (.opAmpDllNotFound opAmpPath)
        return none
    else
      env.logMessage (.netPathNotFound netPath)
      return none

/-- The `try` block of `Load`. -/
def loadResolved (resolve : Resolver ε) (name : Str) : Program ε State (Option A) := do
  match ← foreign (resolve name) with
  | some path =>
    if env.fileExists path then
      env.logMessage (.assemblyResolved name path)
      some <$> foreign (env.loadFromAssemblyPath path)
    else
      env.logMessage (.assemblyResolvedPathNotFound name path)
      return none
  | none =>
    env.logMessage (.assemblyResolverReturnedNull name)
    return none

/-- `Load`, which the runtime calls for an assembly that is needed in the context. -/
def load (resolver : Option (Resolver ε)) (name : Str) : Program ε State (Option A) :=
  match resolver with
  | none => return none
  | some resolve =>
    if isNullOrWhiteSpace (some name) || !assembliesToLoad.contains name then return none
    else tryCatch (env.loadResolved resolve name) fun _ => do
      env.logMessage (.assemblyResolutionFailed .load name)
      return none

/-- `LoadFromAssemblyName` of the runtime. -/
def loadFromAssemblyName (resolver : Option (Resolver ε)) (name : Str) : Program ε State A := do
  match ← env.load resolver name with
  | some assembly => return assembly
  | none => foreign (env.loadByDefault name)

/-- The last `try` block of `CreateOpAmpClientInstance`. -/
def createThroughFactory (a : Arguments) (assembly : A) : Program ε State Bool := do
  if ← foreign (env.createInstance assembly factoryTypeName) then
    env.elasticOpAmpClient a
    return true
  else
    env.logMessage (.factoryActivationFailed factoryTypeName)
    return false

/-- `CreateOpAmpClientInstance` from the loaded assembly on. -/
def createInAssembly (a : Arguments) (assembly : A) : Program ε State Bool := do
  if ← foreign (env.getType assembly factoryTypeName) then
    tryCatch (env.createThroughFactory a assembly) fun _ => do
      env.logMessage (.factoryCreateException factoryTypeName)
      return false
  else
    env.logMessage (.factoryTypeNotFound factoryTypeName)
    return false

/-- The first `try` block of `CreateOpAmpClientInstance`, with its filter: the loaded assembly. -/
def loadAssembly (resolver : Option (Resolver ε)) : Program ε State (Option A) :=
  tryCatch (some <$> env.loadFromAssemblyName resolver assemblyName) fun e => do
    if env.isLoadException e then
      env.logMessage (.assemblyResolutionFailed .createOpAmpClientInstance assemblyName)
      return none
    else throw e

/-- `CreateOpAmpClientInstance`: a client is returned, and not null. -/
def createOpAmpClientInstance (resolver : Option (Resolver ε)) (a : Arguments) :
    Program ε State Bool := do
  match ← env.loadAssembly resolver with
  | some assembly => env.createInAssembly a assembly
  | none => return false

/-! ### `CentralConfiguration` -/

/-- What is done with an exception. -/
def creationFailed : Program ε State Bool := do
  env.logMessage .opAmpClientCreationFailed
  return false

/-- The constructor of `CentralConfiguration` from the declaration of `client` to its use: `client`
is not null. -/
def createClient (a : Arguments) : Program ε State Bool :=
  match env.platform with
  | .isolated true => do
    env.logMessage .usingIsolatedLoadContext
    tryCatch (do
        let loadContext ← env.newLoadContext
        env.createOpAmpClientInstance loadContext a)
      fun _ => env.creationFailed
  | .isolated false => do
    env.logMessage .dynamicCodeNotSupported
    return false
  | .direct =>
    tryCatch (do
        env.elasticOpAmpClient a
        return true)
      fun _ => env.creationFailed
  | .other => do
    env.logMessage .opAmpNotSupportedOnPlatform
    return false

/-! ### The constructor of `ElasticOpAmpClient` -/

/-- The levels of what is not meant for debugging. -/
def reportLevels : List LogLevel := [.warning, .error]

/-- A warning or an error was logged. -/
def Reported (s : State) : Prop := ∃ message ∈ s.messages, message.level ∈ reportLevels

/-- An exception comes from the logger. -/
def FromLogger (e : ε) : Prop := ∃ message, env.log message = .error e

/-- A header is rejected when it is added after these and those before it in the list. -/
def Rejects (added headers : List (Str × Str)) : Prop :=
  ∃ before header after, headers = before ++ header :: after ∧
    ∃ e, env.addHeader (added ++ before) header = .error e

/-- A header is rejected when it is added to the `HttpClient`. -/
def RejectsHeader (a : Arguments) : Prop :=
  env.Rejects [] (createHttpClient (some a.headers) a.userAgent)

/-- The inner client is constructed, and both its `Subscribe` and its `Dispose` throw. -/
def CleanUpThrows (a : Arguments) : Prop :=
  (∃ settings, configurationAction env.uri a env.defaultSettings = .ok settings ∧
    env.opAmpClient settings = .ok ⟨⟩) ∧
  (∃ e, env.subscribe = .error e) ∧ ∃ e, env.disposeInner = .error e

/-- The client is there, with all it needs. -/
@[mk_iff]
structure Created (a : Arguments) (s : State) : Prop where
  httpClient : s.httpClient = .live
  headers : s.headers = createHttpClient (some a.headers) a.userAgent
  innerClient : s.innerClient = .live
  settings : ∃ settings, s.settings = some settings ∧
    configurationAction env.uri a env.defaultSettings = .ok settings
  subscribed : s.subscribed = true

/-- There is no client, and the exact condition under which an `HttpClient` is left. -/
@[mk_iff]
structure Abandoned (a : Arguments) (s : State) : Prop where
  innerClient : s.innerClient ≠ .live
  httpClient : s.httpClient = .live ↔ env.RejectsHeader a ∨ env.CleanUpThrows a

variable {env}

@[spec]
theorem logMessage_spec (message : Message) (s₀ : State) :
    ⦃fun s => ⌜s = s₀⌝⦄ env.logMessage message
    ⦃post⟨fun _ s => ⌜s = { s₀ with messages := s₀.messages ++ [message] } ∧
        (message.level ∈ reportLevels → Reported s)⌝,
      fun e s => ⌜s = s₀ ∧ env.FromLogger e⌝⟩⦄ := by
  mvcgen [logMessage] <;> grind [Reported, FromLogger]

theorem rejects_nil {added : List (Str × Str)} : ¬ env.Rejects added [] := by
  simp [Rejects]

/-- Either the first header is rejected or one of the others, after it. -/
theorem rejects_cons {added headers : List (Str × Str)} {header : Str × Str} :
    env.Rejects added (header :: headers) ↔
      (∃ e, env.addHeader added header = .error e) ∨ env.Rejects (added ++ [header]) headers := by
  constructor
  · rintro ⟨_ | ⟨first, before⟩, rejected, after, heq, e, he⟩
    · obtain ⟨rfl, rfl⟩ := List.cons.inj heq
      rw [List.append_nil] at he
      exact .inl ⟨e, he⟩
    · obtain ⟨rfl, rfl⟩ := List.cons.inj heq
      rw [List.append_cons] at he
      exact .inr ⟨before, rejected, after, rfl, e, he⟩
  · rintro (⟨e, he⟩ | ⟨before, rejected, after, rfl, e, he⟩)
    · exact ⟨[], header, headers, rfl, e, by rwa [List.append_nil]⟩
    · rw [← List.append_cons] at he
      exact ⟨header :: before, rejected, after, rfl, e, he⟩

@[spec]
theorem add_spec (header : Str × Str) (s₀ : State) :
    ⦃fun s => ⌜s = s₀⌝⦄ env.add header
    ⦃post⟨fun _ s => ⌜s = { s₀ with headers := s₀.headers ++ [header] } ∧
        env.addHeader s₀.headers header = .ok ⟨⟩⌝,
      fun e s => ⌜s = s₀ ∧ env.addHeader s₀.headers header = .error e⌝⟩⦄ := by
  mvcgen [add] <;> grind

/-- Headers are added up to the first one that is rejected. -/
@[spec]
theorem forM_add_spec (headers : List (Str × Str)) (s₀ : State) :
    ⦃fun s => ⌜s = s₀⌝⦄ headers.forM env.add
    ⦃post⟨fun _ s => ⌜s = { s₀ with headers := s₀.headers ++ headers } ∧
        ¬ env.Rejects s₀.headers headers⌝,
      fun _ s => ⌜(∃ added, s = { s₀ with headers := added }) ∧
        env.Rejects s₀.headers headers⌝⟩⦄ := by
  induction headers generalizing s₀ with
  | nil =>
    mvcgen [List.forM]
    simp_all [rejects_nil]
  | cons header headers ih =>
    mvcgen [List.forM, ih]
    case vc3.cons.post.except.handle =>
      rintro rfl he
      subst_vars
      exact ⟨⟨_, rfl⟩, rejects_cons.mpr (.inl ⟨_, he⟩)⟩
    all_goals grind [rejects_cons]

@[spec]
theorem newHttpClient_spec (a : Arguments) (s₀ : State) :
    ⦃fun s => ⌜s = s₀⌝⦄ env.newHttpClient a
    ⦃post⟨fun _ s => ⌜s = { s₀ with
          httpClient := .live, headers := createHttpClient (some a.headers) a.userAgent } ∧
        ¬ env.RejectsHeader a⌝,
      fun _ s => ⌜(∃ added, s = { s₀ with httpClient := .live, headers := added }) ∧
        env.RejectsHeader a⌝⟩⦄ := by
  mvcgen [newHttpClient] <;> grind [RejectsHeader]

@[spec]
theorem newOpAmpClient_spec (a : Arguments) (s₀ : State) :
    ⦃fun s => ⌜s = s₀⌝⦄ env.newOpAmpClient a
    ⦃post⟨fun _ s => ⌜∃ settings, s = { s₀ with innerClient := .live, settings := some settings } ∧
        configurationAction env.uri a env.defaultSettings = .ok settings ∧
        env.opAmpClient settings = .ok ⟨⟩⌝,
      fun _ s => ⌜s = s₀ ∧ ¬ env.CleanUpThrows a⌝⟩⦄ := by
  mvcgen [newOpAmpClient] <;> grind [CleanUpThrows]

@[spec]
theorem subscribeListener_spec (s₀ : State) :
    ⦃fun s => ⌜s = s₀⌝⦄ env.subscribeListener
    ⦃post⟨fun _ s => ⌜s = { s₀ with subscribed := true }⌝,
      fun e s => ⌜s = s₀ ∧ env.subscribe = .error e⌝⟩⦄ := by
  mvcgen [subscribeListener] <;> grind

@[spec]
theorem disposeInnerClient_spec (s₀ : State) :
    ⦃fun s => ⌜s = s₀⌝⦄ env.disposeInnerClient
    ⦃post⟨fun _ s => ⌜(s₀.innerClient = .live → env.disposeInner = .ok ⟨⟩) ∧
        s.innerClient ≠ .live ∧ s.httpClient = s₀.httpClient ∧ s.messages = s₀.messages⌝,
      fun e s => ⌜s₀.innerClient = .live ∧ env.disposeInner = .error e ∧
        s.innerClient ≠ .live ∧ s.httpClient = s₀.httpClient ∧ s.messages = s₀.messages⌝⟩⦄ := by
  mvcgen [disposeInnerClient] <;> grind

/-- **What the constructor of `ElasticOpAmpClient` leaves.** -/
@[spec]
theorem elasticOpAmpClient_spec (a : Arguments) (s₀ : State) :
    ⦃fun s => ⌜s = s₀ ∧ s₀.innerClient = .notCreated⌝⦄ env.elasticOpAmpClient a
    ⦃post⟨fun _ s => ⌜env.Created a s ∧ s.messages = s₀.messages⌝,
      fun _ s => ⌜env.Abandoned a s ∧ s.messages = s₀.messages⌝⟩⦄ := by
  mvcgen [elasticOpAmpClient]
  all_goals simp only [created_iff, abandoned_iff, CleanUpThrows] at *
  all_goals grind

/-! ### From the load context to the client -/

/-- Neither client has been created. -/
def Untouched (s : State) : Prop := s.httpClient = .notCreated ∧ s.innerClient = .notCreated

/-- No client is held, but for an `HttpClient` left by the constructor of `ElasticOpAmpClient`. -/
@[mk_iff]
structure Released (env : Environment ε A) (a : Arguments) (s : State) : Prop where
  innerClient : s.innerClient ≠ .live
  httpClient : s.httpClient = .live → env.RejectsHeader a ∨ env.CleanUpThrows a

/-- What the answer says: whether there is a client. -/
def Answers (env : Environment ε A) (a : Arguments) (client : Bool) (s : State) : Prop :=
  (client = true → env.Created a s) ∧ (client = false → env.Released a s ∧ Reported s)

@[spec]
theorem newLoadContext_spec :
    ⦃fun s => ⌜Untouched s⌝⦄ env.newLoadContext
    ⦃post⟨fun _ s => ⌜Untouched s⌝, fun e s => ⌜Untouched s ∧ env.FromLogger e⌝⟩⦄ := by
  mvcgen [newLoadContext] <;> grind [Untouched, FromLogger]

@[spec]
theorem loadResolved_spec (resolve : Resolver ε) (name : Str) :
    ⦃fun s => ⌜Untouched s⌝⦄ env.loadResolved resolve name
    ⦃post⟨fun _ s => ⌜Untouched s⌝, fun _ s => ⌜Untouched s⌝⟩⦄ := by
  mvcgen [loadResolved] <;> grind [Untouched]

@[spec]
theorem load_spec (resolver : Option (Resolver ε)) (name : Str) :
    ⦃fun s => ⌜Untouched s⌝⦄ env.load resolver name
    ⦃post⟨fun _ s => ⌜Untouched s⌝, fun e s => ⌜Untouched s ∧ env.FromLogger e⌝⟩⦄ := by
  mvcgen [load] <;> grind [Untouched, FromLogger]

@[spec]
theorem loadFromAssemblyName_spec (resolver : Option (Resolver ε)) (name : Str) :
    ⦃fun s => ⌜Untouched s⌝⦄ env.loadFromAssemblyName resolver name
    ⦃post⟨fun _ s => ⌜Untouched s⌝, fun _ s => ⌜Untouched s⌝⟩⦄ := by
  mvcgen [loadFromAssemblyName] <;> grind [Untouched]

@[spec]
theorem createThroughFactory_spec (a : Arguments) (assembly : A) :
    ⦃fun s => ⌜Untouched s⌝⦄ env.createThroughFactory a assembly
    ⦃post⟨fun client s => ⌜env.Answers a client s⌝, fun _ s => ⌜env.Released a s⌝⟩⦄ := by
  mvcgen [createThroughFactory]
  all_goals simp only [Untouched, Answers, released_iff, abandoned_iff] at *
  all_goals grind [reportLevels, Message.level]

@[spec]
theorem createInAssembly_spec (a : Arguments) (assembly : A) :
    ⦃fun s => ⌜Untouched s⌝⦄ env.createInAssembly a assembly
    ⦃post⟨fun client s => ⌜env.Answers a client s⌝, fun _ s => ⌜env.Released a s⌝⟩⦄ := by
  mvcgen [createInAssembly]
  all_goals simp only [Untouched, Answers, released_iff] at *
  all_goals grind [reportLevels, Message.level]

@[spec]
theorem loadAssembly_spec (resolver : Option (Resolver ε)) :
    ⦃fun s => ⌜Untouched s⌝⦄ env.loadAssembly resolver
    ⦃post⟨fun assembly s => ⌜Untouched s ∧ (assembly = none → Reported s)⌝,
      fun _ s => ⌜Untouched s⌝⟩⦄ := by
  mvcgen [loadAssembly] <;> grind [Untouched, reportLevels, Message.level]

@[spec]
theorem createOpAmpClientInstance_spec (resolver : Option (Resolver ε)) (a : Arguments) :
    ⦃fun s => ⌜Untouched s⌝⦄ env.createOpAmpClientInstance resolver a
    ⦃post⟨fun client s => ⌜env.Answers a client s⌝, fun _ s => ⌜env.Released a s⌝⟩⦄ := by
  mvcgen [createOpAmpClientInstance]
  all_goals simp only [Untouched, Answers, released_iff] at *
  all_goals grind [reportLevels, Message.level]

@[spec]
theorem creationFailed_spec (a : Arguments) :
    ⦃fun s => ⌜env.Released a s⌝⦄ env.creationFailed
    ⦃post⟨fun client s => ⌜client = false ∧ env.Released a s ∧ Reported s⌝,
      fun e s => ⌜env.Released a s ∧ env.FromLogger e⌝⟩⦄ := by
  mvcgen [creationFailed]
  all_goals simp only [released_iff] at *
  all_goals grind [reportLevels, Message.level]

@[spec]
theorem createClient_spec (a : Arguments) :
    ⦃fun s => ⌜Untouched s⌝⦄ env.createClient a
    ⦃post⟨fun client s => ⌜env.Answers a client s⌝,
      fun e s => ⌜env.Released a s ∧ env.FromLogger e⌝⟩⦄ := by
  mvcgen [createClient]
  all_goals simp only [Untouched, Answers, released_iff, abandoned_iff] at *
  all_goals grind [reportLevels, Message.level]

/-- **When the constructor of `ElasticOpAmpClient` leaves an `HttpClient` behind.** It either
returns a client that is configured and subscribed, or it throws and holds no inner client. Then the
`HttpClient` is left exactly if a header is rejected, which happens outside the `try` block, or if
`Dispose` of the inner client throws during the clean-up. -/
theorem run_elasticOpAmpClient (env : Environment ε A) (a : Arguments) :
    let (result, s) := (env.elasticOpAmpClient a).run .initial
    (result = .ok ⟨⟩ → env.Created a s) ∧ ∀ e, result = .error e → env.Abandoned a s := by
  have hspec := @elasticOpAmpClient_spec ε A env a .initial
  obtain ⟨hok, herror⟩ := run_of_triple hspec (s := .initial) ⟨rfl, rfl⟩ rfl
  exact ⟨fun h => (hok ⟨⟩ h).1, fun e h => (herror e h).1⟩

/-- **How the creation of the client ends**, whatever the runtime, the loaded assemblies, the client
library and the logger do. If there is a client, it has both its parts. If not, neither is held, but
for an `HttpClient` left by the constructor of `ElasticOpAmpClient`; that there is none has been
reported, or the logger threw, and no other exception gets out. -/
theorem run_createClient (env : Environment ε A) (a : Arguments) :
    let (result, s) := (env.createClient a).run .initial
    (result = .ok true → env.Created a s) ∧ (result ≠ .ok true → env.Released a s) ∧
      (result = .ok false → Reported s) ∧ ∀ e, result = .error e → env.FromLogger e := by
  have hspec := @createClient_spec ε A env a
  obtain ⟨hok, herror⟩ := run_of_triple hspec (s := .initial) ⟨rfl, rfl⟩ rfl
  refine ⟨fun h => (hok true h).1 rfl, fun h => ?_, fun h => ((hok false h).2 rfl).2,
    fun e h => (herror e h).2⟩
  cases hresult : ((env.createClient a).run .initial).1 with
  | error e => exact (herror e hresult).1
  | ok client =>
    cases client with
    | false => exact ((hok false hresult).2 rfl).1
    | true => exact absurd hresult h

end Environment

/-! ### `Dispose` -/

section Dispose

open Execution

/-- What `Dispose` of `ElasticOpAmpClient` disposes. -/
inductive Part
  | innerClient
  | httpClient
  deriving DecidableEq

/-- The field `_disposed`, and the parts in the order in which their `Dispose` was called. -/
structure Disposal where
  disposed : Bool
  parts : List Part
  deriving DecidableEq

/-- Where a call of `Dispose` is. -/
inductive DisposePc
  /-- `Interlocked.Exchange(ref _disposed, 1)` -/
  | exchange
  | log
  | disposeInnerClient
  | disposeHttpClient
  | returned
  | threw
  deriving DecidableEq

/-- `Dispose`, called by any number of threads; the choice says whether the logger and the inner
client return. -/
def disposeStep {ι : Type} : Pool.Program ι Disposal DisposePc Bool := fun _ returns d pc =>
  match pc with
  | .exchange =>
    if d.disposed then some (d, .returned) else some ({ d with disposed := true }, .log)
  | .log => some (d, if returns then .disposeInnerClient else .threw)
  | .disposeInnerClient =>
    some ({ d with parts := d.parts ++ [.innerClient] },
      if returns then .disposeHttpClient else .threw)
  | .disposeHttpClient => some ({ d with parts := d.parts ++ [.httpClient] }, .returned)
  | .returned | .threw => none

variable {ι : Type}

/-- The client is in use, and no call has been made. -/
def inUse : Pool ι Disposal DisposePc where
  shared := ⟨false, []⟩
  pc := fun _ => .exchange

/-- What the call that set `_disposed` has disposed by now. -/
def Disposed (parts : List Part) : DisposePc → Prop
  | .exchange => False
  | .log | .disposeInnerClient => parts = []
  | .disposeHttpClient => parts = [.innerClient]
  | .returned => parts = [.innerClient, .httpClient]
  | .threw => parts = [] ∨ parts = [.innerClient]

/-- One call has set `_disposed`, and every other one returns without doing anything. -/
def OneDisposes (c : Pool ι Disposal DisposePc) : Prop :=
  c.shared.disposed = true ∧ ∃ owner, Disposed c.shared.parts (c.pc owner) ∧
    ∀ i, i ≠ owner → c.pc i = .exchange ∨ c.pc i = .returned

/-- Before the first call and after it. -/
def DisposalInvariant (c : Pool ι Disposal DisposePc) : Prop :=
  c = inUse ∨ OneDisposes c

variable [DecidableEq ι]

theorem disposalInvariant_next {a : ι × Bool} {c d : Pool ι Disposal DisposePc}
    (hc : DisposalInvariant c) (h : Pool.next disposeStep a c = some d) : DisposalInvariant d := by
  obtain ⟨i, returns⟩ := a
  obtain ⟨t, pc, hstep, rfl⟩ := Pool.next_eq_some.mp h
  right
  rcases hc with rfl | ⟨hdisposed, owner, howner, hothers⟩
  · obtain ⟨rfl, rfl⟩ : { disposed := true, parts := [] } = t ∧ DisposePc.log = pc := by
      simpa [disposeStep, inUse] using hstep
    exact ⟨rfl, i, by simp [Disposed], fun j hj => by simp [hj, inUse]⟩
  · by_cases hi : i = owner
    · subst hi
      have hothers' : ∀ j, j ≠ i → Function.update c.pc i pc j = .exchange ∨
          Function.update c.pc i pc j = .returned := fun j hj => by simpa [hj] using hothers j hj
      refine ⟨?_, i, ?_, hothers'⟩
      · cases hpc : c.pc i <;> grind [disposeStep]
      · simp only [Function.update_self]
        cases hpc : c.pc i <;> rw [hpc] at hstep howner <;> simp only [disposeStep] at hstep <;>
          grind [Disposed]
    · -- the call finds `_disposed` set
      rcases hothers i hi with hpc | hpc
      · obtain ⟨rfl, rfl⟩ : c.shared = t ∧ DisposePc.returned = pc := by
          simpa [disposeStep, hpc, hdisposed] using hstep
        refine ⟨hdisposed, owner, by simpa [Ne.symm hi] using howner, fun j hj => ?_⟩
        by_cases hji : j = i
        · simp [hji]
        · simpa [hji] using hothers j hj
      · simp [disposeStep, hpc] at hstep

/-- **The parts of a client are disposed once, the inner client first**, by any number of calls of
`Dispose` from any threads. When no call is under way, both have been disposed exactly if there was
a call and none threw: no later call makes up for one that threw. -/
theorem exec_disposeStep {as : List (ι × Bool)} {c : Pool ι Disposal DisposePc}
    (h : exec (Pool.next disposeStep) as inUse = some c) :
    c.shared.parts <+: [.innerClient, .httpClient] ∧
      ((∀ i, c.pc i ∈ [DisposePc.exchange, .returned, .threw]) →
        (c.shared.parts = [.innerClient, .httpClient] ↔
          (∃ i, c.pc i ≠ .exchange) ∧ ∀ i, c.pc i ≠ .threw)) := by
  have hc : DisposalInvariant c :=
    exec_invariant (fun _ _ _ => disposalInvariant_next) (.inl rfl) h
  rcases hc with rfl | ⟨-, owner, howner, hothers⟩
  · simp [inUse]
  · refine ⟨?_, fun hrest => ?_⟩
    · cases hpc : c.pc owner <;> rw [hpc] at howner <;> simp only [Disposed] at howner
      all_goals grind
    · have hthrew : (∀ i, c.pc i ≠ .threw) ↔ c.pc owner ≠ .threw := by
        refine ⟨fun hall => hall owner, fun hne i => ?_⟩
        by_cases hi : i = owner
        · rwa [hi]
        · rcases hothers i hi with hpc | hpc <;> simp [hpc]
      have hcalled : ∃ i, c.pc i ≠ .exchange := ⟨owner, fun hpc => by
        rw [hpc] at howner
        exact howner⟩
      have hrest' := hrest owner
      rw [hthrew]
      cases hpc : c.pc owner <;> rw [hpc] at howner hrest' <;> simp only [Disposed] at howner
      all_goals grind

/-- The second call comes while the first one is disposing the inner client. -/
theorem exec_disposeStep_twoThreads :
    ∃ c : Pool Bool Disposal DisposePc,
      exec (Pool.next disposeStep)
          [(true, true), (true, true), (false, true), (true, true), (true, true)] inUse = some c ∧
        c.shared.parts <+: [.innerClient, .httpClient] ∧
        c.shared.parts = [.innerClient, .httpClient] := by
  have hrun : (exec (Pool.next (ι := Bool) disposeStep)
      [(true, true), (true, true), (false, true), (true, true), (true, true)] inUse).isSome =
        true := rfl
  have hreturned : ∀ i, (Option.get _ hrun).pc i = .returned := by
    intro i
    cases i <;> rfl
  obtain ⟨horder, hparts⟩ := exec_disposeStep (Option.some_get hrun).symm
  refine ⟨_, (Option.some_get hrun).symm, horder,
    (hparts fun i => ?_).mpr ⟨⟨true, ?_⟩, fun i => ?_⟩⟩
  · simp [hreturned i]
  · simp [hreturned true]
  · simp [hreturned i]

end Dispose

end ElasticOpenTelemetry.ClientCreation
