import ElasticOpenTelemetry.Bootstrap
import ElasticOpenTelemetry.Foundations.Execution
import ElasticOpenTelemetry.Foundations.FirstAnswer
import ElasticOpenTelemetry.OpAmp.CentralConfigJsonParser

/-!
# The first central configuration

From a remote configuration message to the log level that the logger is activated with.
`RemoteConfigMessageListener` filters a message and parses it; the `RemoteConfigSubscriber` of
`CentralConfiguration` keeps the first configuration by a compare-and-exchange and completes
`FirstConfigTask` after it; `CreateComponents` waits for that task with a bound, reads the
configuration if the wait succeeded, and activates the logger.

The listener handles one message after another. Its steps interleave with those of
`CreateComponents`, and `WaitForFirstConfig` and `TryGetInitialConfig` may be called in any
state. A wait that ends in a state returns whether the task is completed there, and never waits
for the client that replaces one that could not be started; when it ends is up to the
schedule. `Valid` says which messages are valid, and with which level, without the listener's
filter; `firstConfig_wins` is the result: the first valid message decides.
-/

namespace ElasticOpenTelemetry.FirstConfig

open DotNet Execution FirstAnswer CompositeElasticOpenTelemetryOptions

/-! ### Messages -/

/-- An entry of the `AgentConfigMap`. -/
structure AgentConfigFile where
  contentType : Option Str
  body : List UInt8

/-- `RemoteConfigMessage`. -/
structure RemoteConfigMessage where
  agentConfigMap : Str → Option AgentConfigFile

/-- `ElasticRemoteConfig`. -/
structure ElasticRemoteConfig where
  logLevel : Option Str
  deriving DecidableEq

/-- The filter of `RemoteConfigMessageListener.HandleMessage`: what the subscribers are told, if
they are told. -/
def extract (message : RemoteConfigMessage) : Option ElasticRemoteConfig :=
  match message.agentConfigMap "elastic".toList with
  | none => none
  | some config =>
    if config.contentType ≠ some "application/json".toList then none
    else
      match CentralConfigJsonParser.tryParseLogLevel config.body with
      | none => none
      | some logLevel => some ⟨some logLevel⟩

/-- The configuration of the first valid message. -/
def firstConfig (messages : List RemoteConfigMessage) : Option ElasticRemoteConfig :=
  messages.findSome? extract

/-- A message is valid, and its level is `level`: it has an `elastic` entry of JSON, in the body
of which the parser finds the level. -/
def Valid (message : RemoteConfigMessage) (level : Str) : Prop :=
  ∃ file, message.agentConfigMap "elastic".toList = some file ∧
    file.contentType = some "application/json".toList ∧
    CentralConfigJsonParser.tryParseLogLevel file.body = some level

/-- The filter lets the valid messages through, each with its own level. -/
theorem extract_eq_some_iff (message : RemoteConfigMessage) (config : ElasticRemoteConfig) :
    extract message = some config ↔ ∃ level, config = ⟨some level⟩ ∧ Valid message level := by
  rw [extract]
  constructor
  · intro h
    cases hentry : message.agentConfigMap "elastic".toList with
    | none =>
      rw [hentry] at h
      exact absurd h (by simp)
    | some file =>
      simp only [hentry] at h
      by_cases htype : file.contentType = some "application/json".toList
      · rw [if_neg (by simp [htype])] at h
        cases hlevel : CentralConfigJsonParser.tryParseLogLevel file.body with
        | none =>
          rw [hlevel] at h
          exact absurd h (by simp)
        | some level =>
          rw [hlevel] at h
          exact ⟨level, (Option.some.inj h).symm, file, hentry, htype, hlevel⟩
      · rw [if_pos htype] at h
        exact absurd h (by simp)
  · rintro ⟨level, rfl, file, hentry, htype, hlevel⟩
    simp only [hentry]
    rw [if_neg (by simp [htype]), hlevel]

/-- The first configuration is the level of the first valid message. -/
theorem firstConfig_eq_some_iff (messages : List RemoteConfigMessage)
    (config : ElasticRemoteConfig) :
    firstConfig messages = some config ↔
      ∃ level, config = ⟨some level⟩ ∧ FirstOf (messages.map Valid) level := by
  rw [firstConfig, findSome?_eq_some_iff_firstOf_map extract_eq_some_iff]
  exact firstOf_map_dressed (fun level => ⟨some level⟩) config messages

/-! ### Handling messages, and creating components -/

/-- Where `RemoteConfigSubscriber.HandleMessage` is. -/
inductive Handler
  | idle
  /-- before the compare-and-exchange -/
  | notified (config : ElasticRemoteConfig)
  /-- the exchange won, before `TrySetResult` -/
  | completing

/-- Where `CreateComponents` is, with its options. -/
inductive CreateComponents
  | start (options : CompositeElasticOpenTelemetryOptions)
  /-- in `WaitForFirstConfig` -/
  | waiting (options : CompositeElasticOpenTelemetryOptions)
  /-- the wait succeeded, before `TryGetInitialConfig` -/
  | reading (options : CompositeElasticOpenTelemetryOptions)
  | activating (options : CompositeElasticOpenTelemetryOptions)
  /-- `logger.Activate` has been called with these options -/
  | activated (options : CompositeElasticOpenTelemetryOptions)

structure State where
  /-- the client was started and is not an `EmptyOpAmpClient` -/
  retained : Bool
  /-- the messages that the listener was given -/
  messages : List RemoteConfigMessage
  handler : Handler
  initialConfig : Option ElasticRemoteConfig
  /-- `FirstConfigTask` is completed -/
  firstConfigTask : Bool
  create : CreateComponents
  /-- what the wait of `CreateComponents` returned, once it has -/
  waited : Option Bool

inductive Action
  /-- the listener is given a message and filters it -/
  | receive (message : RemoteConfigMessage)
  /-- the next step of the subscriber -/
  | handle
  /-- the next step of `CreateComponents` -/
  | create

/-- `WaitForFirstConfig`, in the state in which the wait ends. -/
def waitForFirstConfig (s : State) : Bool := s.retained && s.firstConfigTask

/-- `TryGetInitialConfig`. -/
def tryGetInitialConfig (s : State) : Option ElasticRemoteConfig := s.initialConfig

/-- A step of the subscriber. -/
def handleStep (s : State) : Option State :=
  match s.handler with
  | .idle => none
  | .notified config =>
    match s.initialConfig with
    | none => some { s with initialConfig := some config, handler := .completing }
    | some _ => some { s with handler := .idle }
  | .completing => some { s with firstConfigTask := true, handler := .idle }

/-- A step of `CreateComponents`. -/
def createStep (s : State) : Option State :=
  match s.create with
  | .start options =>
    let resolved := options.resolveOpAmpServiceIdentity.isOpAmpEnabled
    some { s with create := if resolved.1 then .waiting resolved.2 else .activating resolved.2 }
  | .waiting options =>
    let result := waitForFirstConfig s
    some { s with
      waited := some result
      create := if result then .reading options else .activating options }
  | .reading options =>
    match tryGetInitialConfig s with
    | some config =>
      match config.logLevel with
      | some level =>
        some { s with create := .activating (options.setLogLevelFromCentralConfig level) }
      | none => some { s with create := .activating options }
    | none => some { s with create := .activating options }
  | .activating options => some { s with create := .activated options }
  | .activated _ => none

def next : Action → State → Option State
  | .receive message, s =>
    match s.handler with
    | .idle =>
      let handler := match extract message with
        | some config => .notified config
        | none => .idle
      some { s with messages := s.messages ++ [message], handler := handler }
    | _ => none
  | .handle, s => handleStep s
  | .create, s => createStep s

/-- Before any message, with the options that `CreateComponents` is given. -/
def initial (retained : Bool) (options : CompositeElasticOpenTelemetryOptions) : State where
  retained := retained
  messages := []
  handler := .idle
  initialConfig := none
  firstConfigTask := false
  create := .start options
  waited := none

/-! ### The invariant -/

/-- The level of a configuration, where it is recognised, and the local one elsewhere. -/
def levelOf (config : Option ElasticRemoteConfig) (locally : LogLevel) : LogLevel :=
  ((config.bind ElasticRemoteConfig.logLevel).bind toLogLevel).getD locally

/-- The subscriber has the first valid configuration, unless it is about to be told. -/
def HandlerInv (s : State) : Prop :=
  match s.handler with
  | .idle => s.initialConfig = firstConfig s.messages ∧ s.firstConfigTask = s.initialConfig.isSome
  | .notified config =>
    s.initialConfig.or (some config) = firstConfig s.messages ∧
      s.firstConfigTask = s.initialConfig.isSome
  | .completing =>
    s.initialConfig = firstConfig s.messages ∧ s.initialConfig.isSome = true ∧
      s.firstConfigTask = false

/-- `CreateComponents` has the local level until it reads a configuration, and reads one only
after a successful wait. -/
def CreateInv (locally : LogLevel) (s : State) : Prop :=
  match s.create with
  | .start options => options.logLevel = locally ∧ s.waited = none
  | .waiting options => options.logLevel = locally ∧ s.waited = none
  | .reading options =>
    options.logLevel = locally ∧ s.waited = some true ∧ s.initialConfig.isSome = true
  | .activating options | .activated options =>
    (s.waited ≠ some true ∧ options.logLevel = locally) ∨
      (s.waited = some true ∧ s.initialConfig.isSome = true ∧
        options.logLevel = levelOf s.initialConfig locally)

structure Inv (locally : LogLevel) (s : State) : Prop where
  handler : HandlerInv s
  create : CreateInv locally s

theorem inv_initial (retained : Bool) (options : CompositeElasticOpenTelemetryOptions) :
    Inv options.logLevel (initial retained options) :=
  ⟨⟨rfl, rfl⟩, rfl, rfl⟩

/-- What the subscriber has, it has from a valid message, and it is the first one. -/
theorem firstConfig_of_initialConfig {s : State} (h : HandlerInv s) {config : ElasticRemoteConfig}
    (hs : s.initialConfig = some config) : firstConfig s.messages = some config := by
  rw [HandlerInv] at h
  cases hhandler : s.handler with
  | idle | completing =>
    rw [hhandler] at h
    rw [← h.1, hs]
  | notified config' =>
    rw [hhandler, hs] at h
    exact h.1.symm

/-- A completed task means that there is a configuration. -/
theorem isSome_of_firstConfigTask {s : State} (h : HandlerInv s)
    (htask : s.firstConfigTask = true) : s.initialConfig.isSome = true := by
  rw [HandlerInv] at h
  cases hhandler : s.handler with
  | idle | notified =>
    rw [hhandler] at h
    rw [← h.2, htask]
  | completing =>
    rw [hhandler] at h
    exact h.2.1

theorem firstConfig_append (messages : List RemoteConfigMessage) (message : RemoteConfigMessage) :
    firstConfig (messages ++ [message]) = (firstConfig messages).or (extract message) := by
  rw [firstConfig, List.findSome?_append, List.findSome?_singleton]
  rfl

/-! ### Steps -/

/-- The subscriber and the listener leave `CreateComponents` alone, and a configuration that is
there stays. -/
def Frame (s t : State) : Prop :=
  t.create = s.create ∧ t.waited = s.waited ∧
    ∀ config, s.initialConfig = some config → t.initialConfig = some config

theorem createInv_of_frame {locally : LogLevel} {s t : State} (h : CreateInv locally s)
    (hframe : Frame s t) : CreateInv locally t := by
  obtain ⟨hcreate, hwaited, hkeep⟩ := hframe
  rw [CreateInv] at h ⊢
  rw [hcreate, hwaited]
  cases hs : s.create with
  | start options => rwa [hs] at h
  | waiting options => rwa [hs] at h
  | reading options =>
    rw [hs] at h
    obtain ⟨config, hconfig⟩ := Option.isSome_iff_exists.mp h.2.2
    exact ⟨h.1, h.2.1, by rw [hkeep config hconfig]; rfl⟩
  | activating options | activated options =>
    rw [hs] at h
    rcases h with h | ⟨hw, hsome, hlevel⟩
    · exact Or.inl h
    · obtain ⟨config, hconfig⟩ := Option.isSome_iff_exists.mp hsome
      have hsame : t.initialConfig = s.initialConfig := by rw [hkeep config hconfig, hconfig]
      exact Or.inr ⟨hw, by rw [hsame, hsome], by rw [hsame, hlevel]⟩

theorem receive_spec {message : RemoteConfigMessage} {s t : State} (hs : HandlerInv s)
    (h : next (.receive message) s = some t) : HandlerInv t ∧ Frame s t := by
  rw [next] at h
  rw [HandlerInv] at hs
  cases hhandler : s.handler with
  | notified config => rw [hhandler] at h; exact absurd h (by simp)
  | completing => rw [hhandler] at h; exact absurd h (by simp)
  | idle =>
    rw [hhandler] at h hs
    obtain rfl := Option.some.inj h
    refine ⟨?_, rfl, rfl, fun config hconfig => hconfig⟩
    rw [HandlerInv]
    have happend := firstConfig_append s.messages message
    cases hextract : extract message with
    | none =>
      rw [hextract, Option.or_none] at happend
      exact ⟨hs.1.trans happend.symm, hs.2⟩
    | some config =>
      rw [hextract, ← hs.1] at happend
      exact ⟨happend.symm, hs.2⟩

theorem handle_spec {s t : State} (hs : HandlerInv s) (h : next .handle s = some t) :
    HandlerInv t ∧ Frame s t := by
  rw [next, handleStep] at h
  rw [HandlerInv] at hs
  cases hhandler : s.handler with
  | idle => rw [hhandler] at h; exact absurd h (by simp)
  | notified config =>
    rw [hhandler] at h hs
    cases hinitial : s.initialConfig with
    | none =>
      -- the exchange wins: this is the first configuration
      rw [hinitial] at h hs
      obtain rfl := Option.some.inj h
      exact ⟨⟨hs.1, rfl, hs.2⟩, rfl, rfl, fun config' hconfig' => by simp [hinitial] at hconfig'⟩
    | some config' =>
      simp only [hinitial] at h hs
      obtain rfl := Option.some.inj h
      exact ⟨hs, rfl, rfl, fun config'' hconfig => hinitial.symm.trans hconfig⟩
  | completing =>
    rw [hhandler] at h hs
    obtain rfl := Option.some.inj h
    exact ⟨⟨hs.1, hs.2.1.symm⟩, rfl, rfl, fun config hconfig => hconfig⟩

/-- The empty level, which the parser of levels treats apart, is not a level. -/
theorem logLevelParser_some (level : Str) : logLevelParser (some level) = toLogLevel level := by
  cases level with
  | nil => decide
  | cons c level => rfl

theorem logLevel_setLogLevelFromCentralConfig (options : CompositeElasticOpenTelemetryOptions)
    (level : Str) :
    (options.setLogLevelFromCentralConfig level).logLevel =
      (toLogLevel level).getD options.logLevel := by
  rw [setLogLevelFromCentralConfig, logLevelParser_some]
  cases toLogLevel level with
  | none => rfl
  | some parsed => simp [logLevel]

theorem logLevel_isOpAmpEnabled (options : CompositeElasticOpenTelemetryOptions) :
    options.resolveOpAmpServiceIdentity.isOpAmpEnabled.2.logLevel = options.logLevel := by
  have hresolve : options.resolveOpAmpServiceIdentity.logLevel = options.logLevel := by
    rw [resolveOpAmpServiceIdentity]
    split_ifs <;> rfl
  rw [← hresolve, isOpAmpEnabled]
  split_ifs <;> rfl

theorem create_spec {locally : LogLevel} {s t : State} (hs : Inv locally s)
    (h : next .create s = some t) : Inv locally t := by
  have hcreate := hs.create
  rw [CreateInv] at hcreate
  rw [next, createStep] at h
  cases hpc : s.create with
  | start options =>
    rw [hpc] at h hcreate
    have hlevel := (logLevel_isOpAmpEnabled options).trans hcreate.1
    obtain rfl := Option.some.inj h
    refine ⟨hs.handler, ?_⟩
    rw [CreateInv]
    simp only
    generalize options.resolveOpAmpServiceIdentity.isOpAmpEnabled = resolved at hlevel ⊢
    split_ifs
    · exact ⟨hlevel, hcreate.2⟩
    · exact Or.inl ⟨by simp [hcreate.2], hlevel⟩
  | waiting options =>
    rw [hpc] at h hcreate
    obtain rfl := Option.some.inj h
    refine ⟨hs.handler, ?_⟩
    rw [CreateInv]
    cases hwait : waitForFirstConfig s with
    | true =>
      have htask : s.firstConfigTask = true := (Bool.and_eq_true_iff.mp hwait).2
      exact ⟨hcreate.1, rfl, isSome_of_firstConfigTask hs.handler htask⟩
    | false => exact Or.inl ⟨by simp, hcreate.1⟩
  | reading options =>
    rw [hpc] at h hcreate
    obtain ⟨hlevel, hwaited, hsome⟩ := hcreate
    obtain ⟨config, hconfig⟩ := Option.isSome_iff_exists.mp hsome
    have hget : tryGetInitialConfig s = some config := hconfig
    simp only [hget] at h
    cases hcentral : config.logLevel with
    | none =>
      rw [hcentral] at h
      obtain rfl := Option.some.inj h
      refine ⟨hs.handler, Or.inr ⟨hwaited, hsome, ?_⟩⟩
      rw [hconfig, levelOf, Option.bind_some, hcentral]
      exact hlevel
    | some level =>
      rw [hcentral] at h
      obtain rfl := Option.some.inj h
      refine ⟨hs.handler, Or.inr ⟨hwaited, hsome, ?_⟩⟩
      rw [hconfig, levelOf, Option.bind_some, hcentral, Option.bind_some,
        logLevel_setLogLevelFromCentralConfig, hlevel]
  | activating options =>
    rw [hpc] at h hcreate
    obtain rfl := Option.some.inj h
    exact ⟨hs.handler, hcreate⟩
  | activated options =>
    rw [hpc] at h
    exact absurd h (by simp)

/-- No step of `CreateComponents` writes the configuration. -/
theorem initialConfig_create {s t : State} (h : next .create s = some t) :
    t.initialConfig = s.initialConfig := by
  change createStep s = some t at h
  revert h
  fun_cases createStep s with
  | case7 =>
    intro h
    cases h
  | _ =>
    intro h
    obtain rfl := Option.some.inj h
    rfl

/-- Every step keeps the invariant, and a configuration that is there stays. -/
theorem step_spec {locally : LogLevel} {a : Action} {s t : State} (hs : Inv locally s)
    (h : next a s = some t) :
    Inv locally t ∧ ∀ config, s.initialConfig = some config → t.initialConfig = some config := by
  cases a with
  | receive message =>
    obtain ⟨hhandler, hframe⟩ := receive_spec hs.handler h
    exact ⟨⟨hhandler, createInv_of_frame hs.create hframe⟩, hframe.2.2⟩
  | handle =>
    obtain ⟨hhandler, hframe⟩ := handle_spec hs.handler h
    exact ⟨⟨hhandler, createInv_of_frame hs.create hframe⟩, hframe.2.2⟩
  | create =>
    refine ⟨create_spec hs h, fun config hconfig => ?_⟩
    rw [initialConfig_create h]
    exact hconfig

theorem inv_exec {locally : LogLevel} {as : List Action} {s t : State} (hs : Inv locally s)
    (h : exec next as s = some t) : Inv locally t :=
  exec_invariant (fun _ _ _ hu hn => (step_spec hu hn).1) hs h

/-- A configuration that is there stays for the rest of the run. -/
theorem initialConfig_exec {locally : LogLevel} {as : List Action} {s t : State}
    (hs : Inv locally s) (h : exec next as s = some t) {config : ElasticRemoteConfig}
    (hconfig : s.initialConfig = some config) : t.initialConfig = some config := by
  have hinv : Inv locally t ∧ t.initialConfig = some config :=
    exec_invariant (I := fun u => Inv locally u ∧ u.initialConfig = some config)
      (fun _ _ _ hu hn => ⟨(step_spec hu.1 hn).1, (step_spec hu.1 hn).2 config hu.2⟩)
      ⟨hs, hconfig⟩ h
  exact hinv.2

/-! ### The first configuration wins -/

/-- The configuration of the first valid message has that message's level. -/
theorem levelOf_firstConfig {messages : List RemoteConfigMessage} {level : Str}
    (h : FirstOf (messages.map Valid) level) (locally : LogLevel) :
    levelOf (firstConfig messages) locally = (toLogLevel level).getD locally := by
  rw [(firstConfig_eq_some_iff messages _).mpr ⟨level, rfl, h⟩]
  rfl

/-- **The first valid configuration wins, end to end.** After any run: the subscriber's
configuration, if there is one, is the level of the first valid message, and it stays for the
rest of the run; once no message is being handled, it is there as soon as a message was valid;
when a wait returns true, it is what `TryGetInitialConfig` returns from then on; and the level
that the logger is activated with is that of the first valid message, where it is recognised, if
the wait of `CreateComponents` returned true, and the local level in every other case. -/
theorem firstConfig_wins (retained : Bool) (options : CompositeElasticOpenTelemetryOptions)
    (as bs : List Action) (s t : State) (hs : exec next as (initial retained options) = some s)
    (ht : exec next bs s = some t) :
    (∀ config, s.initialConfig = some config →
      (∃ level, config = ⟨some level⟩ ∧ FirstOf (s.messages.map Valid) level) ∧
        t.initialConfig = some config) ∧
    (s.handler = .idle → ∀ level,
      s.initialConfig = some ⟨some level⟩ ↔ FirstOf (s.messages.map Valid) level) ∧
    (waitForFirstConfig s = true → ∃ level, FirstOf (s.messages.map Valid) level ∧
      tryGetInitialConfig t = some ⟨some level⟩) ∧
    ∀ options', s.create = .activated options' →
      (s.waited = some true → ∃ level, FirstOf (s.messages.map Valid) level ∧
        options'.logLevel = (toLogLevel level).getD options.logLevel) ∧
      (s.waited ≠ some true → options'.logLevel = options.logLevel) := by
  have hinv : Inv options.logLevel s := inv_exec (inv_initial retained options) hs
  have hfirst : ∀ config, s.initialConfig = some config →
      ∃ level, config = ⟨some level⟩ ∧ FirstOf (s.messages.map Valid) level :=
    fun config hconfig => (firstConfig_eq_some_iff s.messages config).mp
      (firstConfig_of_initialConfig hinv.handler hconfig)
  refine ⟨fun config hconfig => ?_, fun hidle level => ?_, fun hwait => ?_,
    fun options' hactive => ?_⟩
  · exact ⟨hfirst config hconfig, initialConfig_exec hinv ht hconfig⟩
  · have hhandler := hinv.handler
    rw [HandlerInv, hidle] at hhandler
    rw [hhandler.1, firstConfig_eq_some_iff]
    constructor
    · rintro ⟨level', hlevel, hvalid⟩
      obtain rfl : level = level' := by simpa using hlevel
      exact hvalid
    · exact fun hvalid => ⟨level, rfl, hvalid⟩
  · have htask : s.firstConfigTask = true := (Bool.and_eq_true_iff.mp hwait).2
    obtain ⟨config, hconfig⟩ :=
      Option.isSome_iff_exists.mp (isSome_of_firstConfigTask hinv.handler htask)
    obtain ⟨level, rfl, hvalid⟩ := hfirst config hconfig
    exact ⟨level, hvalid, initialConfig_exec hinv ht hconfig⟩
  · have hcreate := hinv.create
    rw [CreateInv, hactive] at hcreate
    rcases hcreate with ⟨hwaited, hlevel⟩ | ⟨hwaited, hsome, hlevel⟩
    · exact ⟨fun h => absurd h hwaited, fun _ => hlevel⟩
    · obtain ⟨config, hconfig⟩ := Option.isSome_iff_exists.mp hsome
      obtain ⟨level, rfl, hvalid⟩ := hfirst config hconfig
      refine ⟨fun _ => ⟨level, hvalid, ?_⟩, fun h => absurd hwaited h⟩
      rw [hlevel, hconfig, ← levelOf_firstConfig hvalid,
        firstConfig_of_initialConfig hinv.handler hconfig]

/-! ### A run with two messages -/

/-- A message with a log level. -/
def levelMessage (json : Str) : RemoteConfigMessage where
  agentConfigMap := fun key =>
    if key = "elastic".toList then some ⟨some "application/json".toList, getBytes json⟩ else none

/-- Options with OpAMP enabled. -/
def enabledOptions : CompositeElasticOpenTelemetryOptions :=
  { CompositeElasticOpenTelemetryOptions.initial Platform.linux with
    opAmpEndpointCell := .new "OpAmpEndpoint".toList (some "http://localhost:4320".toList)
    serviceNameCell := .new "ServiceName".toList (some "service".toList) }

/-- A second message arrives before `CreateComponents` reads the first. -/
def twoMessages : List Action :=
  [.create, .receive (levelMessage "\x7b\"log_level\": \"debug\"\x7d".toList), .handle, .handle,
    .receive (levelMessage "\x7b\"log_level\": \"error\"\x7d".toList), .create, .handle, .create,
    .create]

/-- The logger is activated at the level of the first one. -/
theorem firstConfig_wins_twoMessages : ∃ s options',
    exec next twoMessages (initial true enabledOptions) = some s ∧
      s.create = .activated options' ∧ options'.logLevel = .debug := by
  have hrun : (exec next twoMessages (initial true enabledOptions)).isSome = true := rfl
  have hs := (Option.some_get hrun).symm
  obtain ⟨options', hactive⟩ :
      ∃ options', ((exec next twoMessages (initial true enabledOptions)).get hrun).create =
        .activated options' := ⟨_, rfl⟩
  refine ⟨_, options', hs, hactive, ?_⟩
  obtain ⟨level, hfirst, hlevel⟩ :=
    ((firstConfig_wins true enabledOptions twoMessages [] _ _ hs rfl).2.2.2 options'
      hactive).1 rfl
  exact hlevel.trans ((levelOf_firstConfig hfirst _).symm.trans rfl)

end ElasticOpenTelemetry.FirstConfig
