import ElasticOpenTelemetry.Configuration.InstrumentationResolution
import ElasticOpenTelemetry.Configuration.OpAmpIdentity
import ElasticOpenTelemetry.Configuration.SourcePrecedence

/-!
# Cells that record a source without a value

A `ConfigCell` takes what a source supplies (`ConfigCell.Takes`), and a source that has nothing that
parses supplies nothing. The helpers of `ConfigurationParser.cs` and
`CompositeElasticOpenTelemetryOptions.cs` test for that before they assign. Two hand-written paths
do not: the fallback of `ParseLogLevel` assigns what `ToLogLevel` gives for the entry of the logging
section, and `ResolveOpAmpServiceIdentity` assigns the service name that `LookupResourceAttribute`
finds. When that is nothing the cell loses its value to a null with the source `IConfiguration` or
`Property`.

`recorded_iff` states when this happens, over the creation of an options object and any calls on
it.
-/

namespace ElasticOpenTelemetry

open DotNet EnvironmentVariables

/-! ### Cells and their changes -/

section Cells

variable {α : Type}

/-- A cell that records a source holds a value. -/
def ConfigCell.Recorded (c : ConfigCell α) : Prop := c.source ≠ .default → c.value ≠ none

/-- The cell takes what a source supplies, and does not change when that is nothing. -/
def ConfigCell.Takes (source : ConfigSource) (supplied : Option α) (c c' : ConfigCell α) : Prop :=
  c'.toCell = c.toCell.offer (source, supplied.map some)

/-- Value and source are unchanged, or there is a value now. -/
def ConfigCell.Kept (c c' : ConfigCell α) : Prop := c'.toCell = c.toCell ∨ c'.value ≠ none

theorem ConfigCell.Kept.refl (c : ConfigCell α) : c.Kept c := .inl rfl

theorem ConfigCell.Kept.recorded {c c' : ConfigCell α} (h : c.Kept c') (hc : c.Recorded) :
    c'.Recorded := by
  intro hsource
  rcases h with heq | hvalue
  · rw [heq] at hsource ⊢
    exact hc hsource
  · exact hvalue

theorem ConfigCell.Kept.trans {c c' c'' : ConfigCell α} (h : c.Kept c') (h' : c'.Kept c'') :
    c.Kept c'' := by
  rcases h' with heq | hvalue
  · rcases h with heq' | hvalue'
    · exact .inl (heq.trans heq')
    · exact .inr (heq ▸ hvalue')
  · exact .inr hvalue

/-- A value is not lost. -/
theorem ConfigCell.Kept.value_ne_none {c c' : ConfigCell α} (h : c.Kept c') (hc : c.value ≠ none) :
    c'.value ≠ none := by
  rcases h with heq | hvalue
  · rwa [heq]
  · exact hvalue

theorem ConfigCell.Takes.kept {source : ConfigSource} {supplied : Option α} {c c' : ConfigCell α}
    (h : c.Takes source supplied c') : c.Kept c' := by
  rcases c.toCell.offer_cases (source, supplied.map some) with hsame | ⟨v, hv, hnew⟩
  · exact .inl (h.trans hsame)
  · obtain ⟨w, -, rfl⟩ := Option.map_eq_some_iff.mp hv
    refine .inr ?_
    rw [h, hnew]
    exact Option.some_ne_none w

theorem ConfigCell.takes_none (c : ConfigCell α) (source : ConfigSource) :
    c.Takes source none c := rfl

theorem ConfigCell.takes_ite (c : ConfigCell α) (opted : Bool) (v : α) :
    c.Takes .environment (if opted then some v else none)
      (if opted then c.assignFromEnvironmentVariable (some v) else c) := by
  cases opted <;> rfl

theorem ConfigCell.takes_setFromConfiguration {c : ConfigCell α} {key : Str} (hkey : c.key = key)
    (configuration : IConfiguration) (parser : Option Str → Option α) :
    c.Takes .iConfiguration (sectionValue configuration key parser)
      (setFromConfiguration configuration c parser) := by
  subst hkey
  exact offer_setFromConfigurationKey configuration (configurationKey c.key) c parser

end Cells

namespace CompositeElasticOpenTelemetryOptions

/-- The cells of an options object. -/
inductive Setting
  | logDirectory | logTargets | logLevel | skipOtlpExporter | skipInstrumentationAssemblyScanning
  | runningInContainer | opAmpEndpoint | opAmpHeaders | signals | tracing | metrics | logging
  | resourceAttributes | serviceName
  deriving DecidableEq, Repr

/-- The type of a setting's values. -/
def Setting.Value : Setting → Type
  | .logDirectory | .opAmpEndpoint | .opAmpHeaders | .resourceAttributes | .serviceName => Str
  | .logTargets => LogTargets
  | .logLevel => LogLevel
  | .skipOtlpExporter | .skipInstrumentationAssemblyScanning | .runningInContainer => Bool
  | .signals => Signals
  | .tracing => TraceInstrumentations
  | .metrics => MetricInstrumentations
  | .logging => LogInstrumentations

/-- The cell of a setting. -/
def cell (o : CompositeElasticOpenTelemetryOptions) : (s : Setting) → ConfigCell s.Value
  | .logDirectory => o.logDirectoryCell
  | .logTargets => o.logTargetsCell
  | .logLevel => o.logLevelCell
  | .skipOtlpExporter => o.skipOtlpExporterCell
  | .skipInstrumentationAssemblyScanning => o.skipInstrumentationAssemblyScanningCell
  | .runningInContainer => o.runningInContainerCell
  | .opAmpEndpoint => o.opAmpEndpointCell
  | .opAmpHeaders => o.opAmpHeadersCell
  | .signals => o.signalsCell
  | .tracing => o.tracingCell
  | .metrics => o.metricsCell
  | .logging => o.loggingCell
  | .resourceAttributes => o.resourceAttributesCell
  | .serviceName => o.serviceNameCell

/-- Every cell that records a source holds a value. -/
def Recorded (o : CompositeElasticOpenTelemetryOptions) : Prop := ∀ s, (o.cell s).Recorded

/-- What a source supplies for each setting. -/
abbrev Supplies := (s : Setting) → Option s.Value

/-- Every cell takes what the source supplies for it. -/
def Takes (source : ConfigSource) (supplies : Supplies)
    (o o' : CompositeElasticOpenTelemetryOptions) : Prop :=
  ∀ s, (o.cell s).Takes source (supplies s) (o'.cell s)

theorem Takes.recorded {source : ConfigSource} {supplies : Supplies}
    {o o' : CompositeElasticOpenTelemetryOptions} (h : Takes source supplies o o')
    (ho : Recorded o) : Recorded o' := fun s => (h s).kept.recorded (ho s)

/-! ### Creation -/

section Creation

variable (p : Platform) (env : EnvironmentDictionary) (configuration : IConfiguration)
  (options : ElasticOpenTelemetryOptions)

/-- The set of a signal, when one of its instrumentations has a switch of its own. -/
def enumerated {T : Type} (r : Bool × Finset T) : Option (Finset T) :=
  if r.1 then some r.2 else none

/-- What the environment supplies. -/
def environmentSupplies : Supplies
  | .logDirectory => environmentValue env otelDotnetAutoLogDirectory stringParser
  | .logTargets => environmentValue env elasticOtelLogTargets (logTargetsParser p)
  | .logLevel => environmentValue env otelLogLevel logLevelParser
  | .skipOtlpExporter => environmentValue env elasticOtelSkipOtlpExporter boolParser
  | .skipInstrumentationAssemblyScanning =>
    environmentValue env elasticOtelSkipAssemblyScanning boolParser
  | .runningInContainer => environmentValue env dotnetRunningInContainer boolParser
  | .opAmpEndpoint => environmentValue env elasticOtelOpAmpEndpoint stringParser
  | .opAmpHeaders => environmentValue env elasticOtelOpAmpHeaders stringParser
  | .signals =>
    if assignsSignals env then
      some (instrumentationSignals (allSwitch env)
        (0 < (enabledLogInstrumentations env (configured env .logs)).2.card)
        (0 < (enabledTraceInstrumentations env (configured env .traces)).2.card)
        (0 < (enabledMetricInstrumentations env (configured env .metrics)).2.card))
    else none
  | .tracing => enumerated (enabledTraceInstrumentations env (configured env .traces))
  | .metrics => enumerated (enabledMetricInstrumentations env (configured env .metrics))
  | .logging => enumerated (enabledLogInstrumentations env (configured env .logs))
  | .resourceAttributes => environmentValue env otelResourceAttributes stringParser
  | .serviceName => environmentValue env otelServiceName stringParser

/-- What an `IConfiguration` supplies. -/
def configurationSupplies : Supplies
  | .logDirectory => sectionValue configuration "LogDirectory".toList stringParser
  | .logTargets => sectionValue configuration "LogTargets".toList (logTargetsParser p)
  | .logLevel => configuredLogLevel configuration
  | .skipOtlpExporter => sectionValue configuration "SkipOtlpExporter".toList boolParser
  | .skipInstrumentationAssemblyScanning =>
    sectionValue configuration "SkipInstrumentationAssemblyScanning".toList boolParser
  | .opAmpEndpoint => sectionValue configuration "OpAmpEndpoint".toList stringParser
  | .opAmpHeaders => sectionValue configuration "OpAmpHeaders".toList stringParser
  | .resourceAttributes => configurationValue configuration otelResourceAttributes stringParser
  | .serviceName => configurationValue configuration otelServiceName stringParser
  | .runningInContainer | .signals | .tracing | .metrics | .logging => none

/-- What the user's options supply. -/
def optionsSupply : Supplies
  | .logDirectory => stringParser options.logDirectory
  | .logTargets => options.logTargets
  | .logLevel => options.logLevel
  | .skipOtlpExporter => options.skipOtlpExporter
  | .skipInstrumentationAssemblyScanning => options.skipInstrumentationAssemblyScanning
  | .opAmpEndpoint => options.opAmpClientOptions.endpoint
  | .opAmpHeaders => options.opAmpClientOptions.headers
  | .runningInContainer | .signals | .tracing | .metrics | .logging | .resourceAttributes |
    .serviceName => none

theorem recorded_initial : Recorded (initial p) := by
  intro s hsource
  cases s <;> exact absurd rfl hsource

theorem takes_ofEnvironment :
    Takes .environment (environmentSupplies p env) (initial p) (ofEnvironment p env) := by
  intro s
  cases s
  case signals =>
    simp only [cell, ofEnvironment, initial, parseInstrumentationVariables, environmentSupplies,
      assignsSignals, Bool.or_assoc]
    cases (signalSwitch env .logs).isSome <;> cases (signalSwitch env .traces).isSome <;>
      cases (allSwitch env).isSome <;>
      cases (enabledLogInstrumentations env (configured env .logs)).1 <;>
      cases (enabledMetricInstrumentations env (configured env .metrics)).1 <;>
      cases (enabledTraceInstrumentations env (configured env .traces)).1 <;> rfl
  case tracing | metrics | logging => exact ConfigCell.takes_ite _ _ _
  all_goals exact offer_setFromEnvironment env _ _ _

theorem takes_assignFromIConfiguration {s : Setting} (hs : s ≠ .logLevel) :
    ((ofEnvironment p env).cell s).Takes .iConfiguration (configurationSupplies p configuration s)
      (((ofEnvironment p env).assignFromIConfiguration p configuration).cell s) := by
  cases s
  case logLevel => exact absurd rfl hs
  case signals | tracing | metrics | logging | runningInContainer =>
    exact ConfigCell.takes_none _ _
  case resourceAttributes | serviceName => exact offer_setFromConfigurationKey configuration _ _ _
  all_goals
    exact ConfigCell.takes_setFromConfiguration (key_setFromEnvironment env _ _ _) configuration _

theorem takes_assignFromElasticOpenTelemetryOptions (o : CompositeElasticOpenTelemetryOptions) :
    Takes .options (optionsSupply options) o (o.assignFromElasticOpenTelemetryOptions options) := by
  intro s
  cases s
  case logDirectory =>
    simp only [cell, assignFromElasticOpenTelemetryOptions, assign_nonempty]
    exact offer_assignIfPresent _ _
  case signals | tracing | metrics | logging | runningInContainer | resourceAttributes |
    serviceName => exact ConfigCell.takes_none _ _
  all_goals exact offer_assignIfPresent _ _

/-- `ParseLogLevel` falls back on an entry of the logging section that is no level. -/
structure FallbackUnusable (env : EnvironmentDictionary) (configuration : IConfiguration) :
    Prop where
  environment : environmentValue env otelLogLevel logLevelParser = none
  own : sectionValue configuration "LogLevel".toList logLevelParser = none
  nonempty : isNullOrEmpty (loggingSectionLogLevel configuration) = false
  unusable : toLogLevel ((loggingSectionLogLevel configuration).getD []) = none

/-- The fallback, on a cell for which neither the environment nor its own entry has a level. -/
theorem parseLogLevel_of_none {c : ConfigCell LogLevel} (hsource : c.source = .default)
    (hown : configurationValue configuration (configurationKey c.key) logLevelParser = none) :
    parseLogLevel configuration c =
      if isNullOrEmpty (loggingSectionLogLevel configuration) then c
      else c.assignFromConfiguration
        (toLogLevel ((loggingSectionLogLevel configuration).getD [])) := by
  have hset : setFromConfiguration configuration c logLevelParser = c := by
    rw [setFromConfiguration, setFromConfigurationKey_eq, hown]
  rw [parseLogLevel, hset, hsource]
  cases isNullOrEmpty (loggingSectionLogLevel configuration) <;> rfl

/-- Its own entry has a level, so that there is no fallback. -/
theorem parseLogLevel_of_own {c : ConfigCell LogLevel} {level : LogLevel}
    (hsource : c.source = .default)
    (hown : configurationValue configuration (configurationKey c.key) logLevelParser =
      some level) : (parseLogLevel configuration c).toCell = ⟨some level, .iConfiguration⟩ := by
  have hset : setFromConfiguration configuration c logLevelParser =
      c.assignFromConfiguration (some level) := by
    rw [setFromConfiguration, setFromConfigurationKey_eq, hown]
  have hassigned : (c.assignFromConfiguration (some level)).toCell =
      ⟨some level, .iConfiguration⟩ :=
    Precedence.Cell.assign_of_le (hsource ▸ ConfigSource.default_le _) _
  have hnot : ((c.assignFromConfiguration (some level)).source == .default) = false := by
    rw [hassigned]
    rfl
  rw [parseLogLevel, hset, hnot, Bool.and_false, if_neg Bool.false_ne_true, hassigned]

/-- The log level cell before and after the `IConfiguration`. -/
theorem logLevelCell_assignFromIConfiguration :
    (¬ FallbackUnusable env configuration → (ofEnvironment p env).logLevelCell.Takes
      .iConfiguration (configuredLogLevel configuration)
      ((ofEnvironment p env).assignFromIConfiguration p configuration).logLevelCell) ∧
    (FallbackUnusable env configuration →
      ((ofEnvironment p env).assignFromIConfiguration p configuration).logLevelCell.toCell =
        ⟨none, .iConfiguration⟩ ∧
      (ofEnvironment p env).logLevelCell.toCell = ⟨some .warning, .default⟩) := by
  have hparse : ((ofEnvironment p env).assignFromIConfiguration p configuration).logLevelCell =
      parseLogLevel configuration (ofEnvironment p env).logLevelCell := rfl
  have hset : (ofEnvironment p env).logLevelCell.toCell =
      (⟨some .warning, .default⟩ : Precedence.Cell ConfigSource (Option LogLevel)).offer
        (.environment, (environmentValue env otelLogLevel logLevelParser).map some) :=
    offer_setFromEnvironment env otelLogLevel (initial p).logLevelCell logLevelParser
  have hkey : (ofEnvironment p env).logLevelCell.key = "LogLevel".toList :=
    key_setFromEnvironment env otelLogLevel (initial p).logLevelCell logLevelParser
  rw [hparse, ConfigCell.Takes]
  generalize (ofEnvironment p env).logLevelCell = c at hset hkey ⊢
  cases henv : environmentValue env otelLogLevel logLevelParser with
  | some level =>
    rw [henv] at hset
    have hsource : c.source = .environment := congrArg Precedence.Cell.source hset
    refine ⟨fun _ => ?_, fun h => ?_⟩
    · rw [parseLogLevel_of_environment configuration hsource, Precedence.Cell.offer_of_lt
        (hsource ▸ ConfigSource.iConfiguration_lt_environment)]
    · rw [h.environment] at henv
      cases henv
  | none =>
    rw [henv] at hset
    have hcell : c.toCell = ⟨some .warning, .default⟩ := hset
    have hsource : c.source = .default := congrArg Precedence.Cell.source hcell
    have hassigned (value : Option LogLevel) : c.toCell.assign value .iConfiguration =
        ⟨value, .iConfiguration⟩ :=
      Precedence.Cell.assign_of_le (hsource ▸ ConfigSource.default_le _) _
    have hownValue : configurationValue configuration (configurationKey c.key) logLevelParser =
        sectionValue configuration "LogLevel".toList logLevelParser := by
      rw [hkey]
      rfl
    rw [configuredLogLevel_eq]
    cases hown : sectionValue configuration "LogLevel".toList logLevelParser with
    | some level =>
      refine ⟨fun _ => ?_, fun h => ?_⟩
      · rw [parseLogLevel_of_own configuration hsource (hownValue.trans hown)]
        exact (hassigned (some level)).symm
      · rw [h.own] at hown
        cases hown
    | none =>
      rw [parseLogLevel_of_none configuration hsource (hownValue.trans hown), Option.none_or,
        logLevelParser]
      refine ⟨fun hnot => ?_, fun h => ?_⟩
      · split_ifs with hempty
        · rfl
        · -- the fallback gives a level
          have husable : toLogLevel ((loggingSectionLogLevel configuration).getD []) ≠ none :=
            fun hunusable => hnot ⟨henv, hown, by simpa using hempty, hunusable⟩
          obtain ⟨level, hlevel⟩ := Option.ne_none_iff_exists'.mp husable
          rw [hlevel]
          rfl
      · rw [if_neg (by simp [h.nonempty]), h.unusable]
        exact ⟨hassigned none, hcell⟩

/-- A usable fallback, or none, is taken. -/
theorem takes_of_usable (h : ¬ FallbackUnusable env configuration) :
    Takes .iConfiguration (configurationSupplies p configuration) (ofEnvironment p env)
      ((ofEnvironment p env).assignFromIConfiguration p configuration) := by
  intro s
  by_cases hs : s = .logLevel
  · subst hs
    exact (logLevelCell_assignFromIConfiguration p env configuration).1 h
  · exact takes_assignFromIConfiguration p env configuration hs

end Creation

/-! ### Calls -/

/-- There are resource attributes and no service name, and the attributes do not have one. -/
structure NameNotFound (attributes name : Option Str) : Prop where
  hasAttributes : isNullOrEmpty attributes = false
  nameless : isNullOrEmpty name = true
  notFound : lookupResourceAttribute (attributes.getD []) attributeServiceName = none

variable {o s : CompositeElasticOpenTelemetryOptions}

/-- The source that a call assigns from. -/
def Call.source : Call → ConfigSource
  | .resolveOpAmpServiceIdentity | .isOpAmpEnabled => .property
  | .setLogLevelFromCentralConfig _ => .centralConfig

/-- What a call supplies: the service name that it looks for and finds, or a parsed level. -/
def Call.supplies (o : CompositeElasticOpenTelemetryOptions) : Call → Supplies
  | .resolveOpAmpServiceIdentity, .serviceName =>
    if isNullOrEmpty o.resourceAttributes = false ∧ isNullOrEmpty o.serviceName = true then
      lookupResourceAttribute (o.resourceAttributes.getD []) attributeServiceName
    else none
  | .setLogLevelFromCentralConfig level, .logLevel => logLevelParser (some level)
  | _, _ => none

theorem Call.supplies_serviceName :
    resolveOpAmpServiceIdentity.supplies s .serviceName =
      if isNullOrEmpty s.resourceAttributes = false ∧ isNullOrEmpty s.serviceName = true then
        lookupResourceAttribute (s.resourceAttributes.getD []) attributeServiceName
      else none := rfl

theorem Call.supplies_logLevel (level : Str) :
    (setLogLevelFromCentralConfig level).supplies s .logLevel = logLevelParser (some level) := rfl

theorem Setting.logLevel_ne_serviceName : Setting.logLevel ≠ .serviceName := by
  decide

theorem takes_apply_of_ne (s : CompositeElasticOpenTelemetryOptions) (call : Call)
    {setting : Setting} (hsetting : setting ≠ .serviceName) :
    (s.cell setting).Takes call.source (call.supplies s setting)
      ((call.apply s).cell setting) := by
  cases call with
  | resolveOpAmpServiceIdentity =>
    rw [Call.apply, resolveOpAmpServiceIdentity]
    cases setting
    case serviceName => exact absurd rfl hsetting
    all_goals
      split_ifs <;> exact ConfigCell.takes_none _ _
  | isOpAmpEnabled =>
    rw [Call.apply, isOpAmpEnabled]
    split_ifs <;> cases setting <;> exact ConfigCell.takes_none _ _
  | setLogLevelFromCentralConfig level =>
    rw [Call.apply, setLogLevelFromCentralConfig]
    cases setting
    case logLevel =>
      rw [Call.supplies_logLevel]
      cases logLevelParser (some level) <;> rfl
    all_goals
      cases logLevelParser (some level) <;> exact ConfigCell.takes_none _ _

theorem kept_run_of_ne (o : CompositeElasticOpenTelemetryOptions) (calls : List Call)
    {setting : Setting} (hsetting : setting ≠ .serviceName) :
    (o.cell setting).Kept ((o.run calls).cell setting) := by
  induction calls using List.reverseRecOn with
  | nil => exact .refl _
  | append_singleton calls call ih =>
    rw [run_concat]
    exact ih.trans (takes_apply_of_ne _ call hsetting).kept

/-- Only resolving assigns the service name. -/
theorem serviceNameCell_apply {call : Call} (h : call ≠ .resolveOpAmpServiceIdentity) :
    (call.apply s).serviceNameCell = s.serviceNameCell := by
  cases call with
  | resolveOpAmpServiceIdentity => exact absurd rfl h
  | isOpAmpEnabled =>
    rw [Call.apply, isOpAmpEnabled]
    split_ifs <;> rfl
  | setLogLevelFromCentralConfig level => rw [Call.apply, setLogLevelFromCentralConfig_eq]

/-- Resolving looks the name up when there are attributes and no name. -/
theorem serviceNameCell_resolveOpAmpServiceIdentity
    (hsource : s.serviceNameCell.source ≤ .property) :
    s.resolveOpAmpServiceIdentity.serviceNameCell.toCell =
      if isNullOrEmpty s.resourceAttributes = false ∧ isNullOrEmpty s.serviceName = true then
        ⟨lookupResourceAttribute (s.resourceAttributes.getD []) attributeServiceName, .property⟩
      else s.serviceNameCell.toCell := by
  rw [resolveOpAmpServiceIdentity]
  cases isNullOrEmpty s.resourceAttributes with
  | true => rfl
  | false =>
    cases isNullOrEmpty s.serviceName with
    | true => exact Precedence.Cell.assign_of_le hsource _
    | false => rfl

/-- The name is missing when it was before the first call and none is found. -/
theorem Resolution.name_missing (hs : Resolution o s)
    (hname : isNullOrEmpty s.serviceName = true) : isNullOrEmpty o.serviceName = true := by
  by_contra hnot
  have hkept : s.serviceName = o.serviceName := by
    cases hresolved : s.identityResolved with
    | false => exact (hs.pending hresolved).1
    | true =>
      rw [(hs.resolved hresolved).1, resolvedFrom_of_nonempty (by simpa using hnot)]
  rw [hkept] at hname
  exact hnot hname

theorem Resolution.name_missing_of_notFound (hs : Resolution o s)
    (h : NameNotFound o.resourceAttributes o.serviceName) :
    isNullOrEmpty s.serviceName = true := by
  cases hresolved : s.identityResolved with
  | false => rw [(hs.pending hresolved).1, h.nameless]
  | true =>
    rw [(hs.resolved hresolved).1, resolvedFrom, if_pos h.nameless, h.notFound]
    rfl

/-- A name that is found is taken. -/
theorem takes_apply (ho : Unresolved o) {call : Call}
    (hnot : call = .resolveOpAmpServiceIdentity →
      ¬ NameNotFound o.resourceAttributes o.serviceName) (calls : List Call) :
    Takes call.source (call.supplies (o.run calls)) (o.run calls) (call.apply (o.run calls)) := by
  intro setting
  by_cases hsetting : setting = .serviceName
  · subst hsetting
    have hs := resolution_run ho calls
    by_cases hcall : call = .resolveOpAmpServiceIdentity
    · subst hcall
      have hcell := serviceNameCell_resolveOpAmpServiceIdentity hs.source
      rw [Call.supplies_serviceName]
      split_ifs at hcell ⊢ with hlookup
      · have hfound : lookupResourceAttribute ((o.run calls).resourceAttributes.getD [])
            attributeServiceName ≠ none := by
          intro hnone
          rw [hs.resourceAttributes] at hnone hlookup
          exact hnot rfl ⟨hlookup.1, hs.name_missing hlookup.2, hnone⟩
        obtain ⟨name, hname⟩ := Option.ne_none_iff_exists'.mp hfound
        rw [hname] at hcell ⊢
        exact hcell.trans (Precedence.Cell.assign_of_le hs.source _).symm
      · exact hcell
    · have hsame := congrArg ConfigCell.toCell (serviceNameCell_apply (s := o.run calls) hcall)
      cases call with
      | resolveOpAmpServiceIdentity => exact absurd rfl hcall
      | isOpAmpEnabled => exact hsame
      | setLogLevelFromCentralConfig level => exact hsame
  · exact takes_apply_of_ne _ call hsetting

theorem kept_run_of_found (ho : Unresolved o) {calls : List Call}
    (hnot : .resolveOpAmpServiceIdentity ∈ calls →
      ¬ NameNotFound o.resourceAttributes o.serviceName) (setting : Setting) :
    (o.cell setting).Kept ((o.run calls).cell setting) := by
  induction calls using List.reverseRecOn with
  | nil => exact .refl _
  | append_singleton calls call ih =>
    have hbefore := ih fun hmem => hnot (List.mem_append_left _ hmem)
    rw [run_concat]
    refine hbefore.trans (takes_apply ho ?_ calls setting).kept
    rintro rfl
    exact hnot (List.mem_concat_self)

/-- A name that is not found leaves a null from `Property`. -/
theorem serviceNameCell_run (ho : Unresolved o)
    (h : NameNotFound o.resourceAttributes o.serviceName) {calls : List Call}
    (hmem : .resolveOpAmpServiceIdentity ∈ calls) :
    (o.run calls).serviceNameCell.toCell = ⟨none, .property⟩ := by
  induction calls using List.reverseRecOn with
  | nil => cases hmem
  | append_singleton calls call ih =>
    rw [run_concat]
    have hs := resolution_run ho calls
    by_cases hcall : call = .resolveOpAmpServiceIdentity
    · subst hcall
      rw [Call.apply, serviceNameCell_resolveOpAmpServiceIdentity hs.source,
        hs.resourceAttributes, if_pos ⟨h.hasAttributes, hs.name_missing_of_notFound h⟩, h.notFound]
    · rw [serviceNameCell_apply hcall]
      refine ih ((List.mem_append.mp hmem).resolve_right fun hlast => hcall ?_)
      exact (List.mem_singleton.mp hlast).symm

/-- The cell of the service name after the calls. -/
theorem recorded_serviceNameCell_run (ho : Unresolved o) (hcell : o.serviceNameCell.Recorded)
    (calls : List Call) :
    (o.run calls).serviceNameCell.Recorded ↔ (.resolveOpAmpServiceIdentity ∈ calls →
      ¬ NameNotFound o.resourceAttributes o.serviceName) := by
  refine ⟨fun hrecorded hmem h => ?_, fun hnot => ?_⟩
  · have hlost := serviceNameCell_run ho h hmem
    refine hrecorded ?_ (congrArg Precedence.Cell.value hlost)
    rw [hlost]
    simp
  · exact (kept_run_of_found ho hnot .serviceName).recorded hcell

/-- Central configuration sends a level that parses. -/
def LevelArrives (calls : List Call) : Prop :=
  ∃ level, .setLogLevelFromCentralConfig level ∈ calls ∧ logLevelParser (some level) ≠ none

/-- Only a level that parses changes the log level. -/
theorem logLevelCell_apply {call : Call} (h : ¬ LevelArrives [call]) :
    (call.apply s).logLevelCell = s.logLevelCell := by
  cases call with
  | resolveOpAmpServiceIdentity =>
    rw [Call.apply, resolveOpAmpServiceIdentity]
    split_ifs <;> rfl
  | isOpAmpEnabled =>
    rw [Call.apply, isOpAmpEnabled]
    split_ifs <;> rfl
  | setLogLevelFromCentralConfig level =>
    rw [Call.apply, setLogLevelFromCentralConfig]
    cases hparsed : logLevelParser (some level) with
    | none => rfl
    | some parsed =>
      refine absurd ⟨level, List.mem_singleton_self _, ?_⟩ h
      rw [hparsed]
      exact Option.some_ne_none parsed

theorem logLevelCell_apply_of_arrives {call : Call} (h : LevelArrives [call]) :
    (call.apply s).logLevelCell.value ≠ none := by
  obtain ⟨level, hmem, hparses⟩ := h
  obtain rfl := List.mem_singleton.mp hmem
  obtain ⟨parsed, hparsed⟩ := Option.ne_none_iff_exists'.mp hparses
  rw [Call.apply, setLogLevelFromCentralConfig, hparsed]
  dsimp only
  rw [ConfigCell.value_assignFromCentralConfig]
  exact Option.some_ne_none parsed

theorem levelArrives_concat {calls : List Call} {call : Call} :
    LevelArrives (calls ++ [call]) ↔ LevelArrives calls ∨ LevelArrives [call] := by
  simp only [LevelArrives, List.mem_append, or_and_right, exists_or]

theorem logLevelCell_run {calls : List Call} (h : ¬ LevelArrives calls) :
    (o.run calls).logLevelCell = o.logLevelCell := by
  induction calls using List.reverseRecOn with
  | nil => rfl
  | append_singleton calls call ih =>
    rw [levelArrives_concat, not_or] at h
    rw [run_concat, logLevelCell_apply h.2, ih h.1]

theorem logLevelCell_run_of_arrives {calls : List Call} (h : LevelArrives calls) :
    (o.run calls).logLevelCell.value ≠ none := by
  induction calls using List.reverseRecOn with
  | nil =>
    obtain ⟨level, hmem, -⟩ := h
    cases hmem
  | append_singleton calls call ih =>
    rw [run_concat]
    rcases levelArrives_concat.mp h with hbefore | hlast
    · have htakes := takes_apply_of_ne (o.run calls) call Setting.logLevel_ne_serviceName
      exact htakes.kept.value_ne_none (ih hbefore)
    · exact logLevelCell_apply_of_arrives hlast

/-! ### The main result -/

variable (p : Platform) (env : EnvironmentDictionary) (configuration : IConfiguration)
  (options : ElasticOpenTelemetryOptions)

/-- What the sources supply for the identity. -/
def suppliedText (env : EnvironmentDictionary) (configuration : IConfiguration) (key : Str) :
    Option Str :=
  supplied none (environmentValue env key stringParser)
    (configurationValue configuration key stringParser)

theorem identity_ofConfigurationAndOptions :
    (ofConfigurationAndOptions p configuration options env).resourceAttributes =
        suppliedText env configuration otelResourceAttributes ∧
      (ofConfigurationAndOptions p configuration options env).serviceName =
        suppliedText env configuration otelServiceName :=
  ⟨(value_threeSources rfl env otelResourceAttributes configuration otelResourceAttributes
      stringParser none).trans Option.or_none,
    (value_threeSources rfl env otelServiceName configuration otelServiceName stringParser
      none).trans Option.or_none⟩

/-- Every cell takes what is supplied, from each source in the creation of the object and by each
call: a value that does not parse, or is not found, changes nothing. -/
structure StepsTake (calls : List Call) : Prop where
  fromEnvironment : Takes .environment (environmentSupplies p env) (initial p) (ofEnvironment p env)
  fromConfiguration : Takes .iConfiguration (configurationSupplies p configuration)
    (ofEnvironment p env) ((ofEnvironment p env).assignFromIConfiguration p configuration)
  fromOptions : Takes .options (optionsSupply options)
    ((ofEnvironment p env).assignFromIConfiguration p configuration)
    (ofConfigurationAndOptions p configuration options env)
  onCall (before : List Call) (call : Call) : before ++ [call] <+: calls →
    let o := (ofConfigurationAndOptions p configuration options env).run before
    Takes call.source (call.supplies o) o (call.apply o)

theorem StepsTake.recorded {calls : List Call}
    (h : StepsTake p env configuration options calls) :
    Recorded ((ofConfigurationAndOptions p configuration options env).run calls) := by
  have hcreated : Recorded (ofConfigurationAndOptions p configuration options env) :=
    h.fromOptions.recorded
      (h.fromConfiguration.recorded (h.fromEnvironment.recorded (recorded_initial p)))
  have hstart {before : List Call} (hbefore : before <+: calls) :
      Recorded ((ofConfigurationAndOptions p configuration options env).run before) := by
    induction before using List.reverseRecOn with
    | nil => exact hcreated
    | append_singleton before call ih =>
      rw [run_concat]
      exact (h.onCall before call hbefore).recorded (ih ((List.prefix_append ..).trans hbefore))
  exact hstart (List.prefix_refl calls)

/-- The cell of the log level after the calls. -/
theorem recorded_logLevelCell_run (calls : List Call) :
    ((ofConfigurationAndOptions p configuration options env).run calls).logLevelCell.Recorded ↔
      (FallbackUnusable env configuration → options.logLevel ≠ none ∨ LevelArrives calls) := by
  have htakes := takes_assignFromElasticOpenTelemetryOptions options
    ((ofEnvironment p env).assignFromIConfiguration p configuration) .logLevel
  have hcell : (ofConfigurationAndOptions p configuration options env).logLevelCell.toCell =
      ((ofEnvironment p env).assignFromIConfiguration p configuration).logLevelCell.toCell.offer
        (.options, options.logLevel.map some) := htakes
  have hrun : (ofConfigurationAndOptions p configuration options env).logLevelCell.Kept
      ((ofConfigurationAndOptions p configuration options env).run calls).logLevelCell :=
    kept_run_of_ne _ calls Setting.logLevel_ne_serviceName
  by_cases hunusable : FallbackUnusable env configuration
  · have hlost := ((logLevelCell_assignFromIConfiguration p env configuration).2 hunusable).1
    rw [hlost] at hcell
    refine ⟨fun hrecorded _ => ?_, fun h => ?_⟩
    · by_contra hnot
      obtain ⟨hoptions, hcalls⟩ := not_or.mp hnot
      rw [not_not.mp hoptions] at hcell
      rw [logLevelCell_run hcalls] at hrecorded
      refine hrecorded ?_ (congrArg Precedence.Cell.value hcell)
      rw [hcell]
      simp
    · refine fun _ => ?_
      rcases h hunusable with hoptions | hcalls
      · obtain ⟨level, hlevel⟩ := Option.ne_none_iff_exists'.mp hoptions
        refine hrun.value_ne_none ?_
        rw [hlevel, Option.map_some, Precedence.Cell.offer_some, Precedence.Cell.assign_of_le
          (ConfigSource.iConfiguration_lt_environment.trans
            ConfigSource.environment_lt_options).le] at hcell
        rw [hcell]
        exact Option.some_ne_none level
      · exact logLevelCell_run_of_arrives hcalls
  · refine iff_of_true (hrun.recorded ?_) fun h => absurd h hunusable
    have hconfiguration := takes_of_usable p env configuration hunusable
    exact htakes.kept.recorded
      (hconfiguration.recorded ((takes_ofEnvironment p env).recorded (recorded_initial p))
        .logLevel)

/-- The other cells. -/
theorem recorded_cell_run (calls : List Call) {s : Setting} (hlogLevel : s ≠ .logLevel) :
    ((ofConfigurationAndOptions p configuration options env).cell s).Recorded ∧
      (s ≠ .serviceName →
        (((ofConfigurationAndOptions p configuration options env).run calls).cell s).Recorded) := by
  have henvironment := (takes_ofEnvironment p env).recorded (recorded_initial p) s
  have htakes := takes_assignFromIConfiguration p env configuration hlogLevel
  have hconfiguration := htakes.kept.recorded henvironment
  have hcreated :
      ((ofConfigurationAndOptions p configuration options env).cell s).Recorded :=
    (takes_assignFromElasticOpenTelemetryOptions options _ s).kept.recorded hconfiguration
  exact ⟨hcreated, fun hname => (kept_run_of_ne _ calls hname).recorded hcreated⟩

/-- **Cells that record a source.** Take an options object created from an environment, an
`IConfiguration` and the user's options, and make any calls on it. Every cell that records a source
holds a value unless a resolving call finds no service name, or the fallback of the log level is no
level and neither the options nor central configuration replace it. That everything that does not
parse or is not found changes nothing holds under the same condition, without the replacement. -/
theorem recorded_iff (p : Platform) (env : EnvironmentDictionary) (configuration : IConfiguration)
    (options : ElasticOpenTelemetryOptions) (calls : List Call) :
    let nameNotFound := NameNotFound (suppliedText env configuration otelResourceAttributes)
      (suppliedText env configuration otelServiceName)
    (Recorded ((ofConfigurationAndOptions p configuration options env).run calls) ↔
      (FallbackUnusable env configuration → options.logLevel ≠ none ∨ LevelArrives calls) ∧
      (.resolveOpAmpServiceIdentity ∈ calls → ¬ nameNotFound)) ∧
    (StepsTake p env configuration options calls ↔
      ¬ FallbackUnusable env configuration ∧
      (.resolveOpAmpServiceIdentity ∈ calls → ¬ nameNotFound)) := by
  intro nameNotFound
  have ho : Unresolved (ofConfigurationAndOptions p configuration options env) :=
    unresolved_create p env configuration options {}
  obtain ⟨hattributes, hname⟩ := identity_ofConfigurationAndOptions p env configuration options
  have hnot : nameNotFound = NameNotFound
      (ofConfigurationAndOptions p configuration options env).resourceAttributes
      (ofConfigurationAndOptions p configuration options env).serviceName := by
    rw [hattributes, hname]
  have hserviceName := recorded_serviceNameCell_run ho
    (recorded_cell_run p env configuration options [] (s := .serviceName) nofun).1 calls
  have hlogLevel := recorded_logLevelCell_run p env configuration options calls
  rw [hnot]
  refine ⟨⟨fun h => ?_, fun ⟨hlevel, hfound⟩ s => ?_⟩, ⟨fun h => ?_, fun ⟨hlevel, hfound⟩ => ?_⟩⟩
  · exact ⟨hlogLevel.mp (h .logLevel), hserviceName.mp (h .serviceName)⟩
  · by_cases hs : s = .logLevel
    · subst hs
      exact hlogLevel.mpr hlevel
    · by_cases hs' : s = .serviceName
      · subst hs'
        exact hserviceName.mpr hfound
      · exact (recorded_cell_run p env configuration options calls hs).2 hs'
  · refine ⟨fun hunusable => ?_,
      hserviceName.mp (h.recorded p env configuration options .serviceName)⟩
    -- the level that the cell held is gone
    obtain ⟨hafter, hbefore⟩ :=
      (logLevelCell_assignFromIConfiguration p env configuration).2 hunusable
    rcases (h.fromConfiguration .logLevel).kept with hsame | hvalue
    · have hcells := hafter.symm.trans (hsame.trans hbefore)
      cases hcells
    · exact hvalue (congrArg Precedence.Cell.value hafter)
  · refine ⟨takes_ofEnvironment p env, takes_of_usable p env configuration hlevel,
      takes_assignFromElasticOpenTelemetryOptions options _, fun before call hstart => ?_⟩
    refine takes_apply ho ?_ before
    rintro rfl
    exact hfound (hstart.subset List.mem_concat_self)

/-- An `IConfiguration` with a default log level that is no level, and with resource attributes
that name no service. -/
def unusableConfiguration : IConfiguration := fun key =>
  if key = "Logging:LogLevel:Default".toList then some "Verbose".toList
  else if key = otelResourceAttributes then some "service.version=1.0".toList
  else none

/-- Both paths lose a value. -/
theorem sourceWithoutValue :
    let o := ofConfigurationAndOptions .linux unusableConfiguration {} (fun _ => none)
    (o.logLevelCell.value = none ∧ o.logLevelCell.source = .iConfiguration) ∧
    ((o.run [.resolveOpAmpServiceIdentity]).serviceNameCell.value = none ∧
      (o.run [.resolveOpAmpServiceIdentity]).serviceNameCell.source = .property) ∧
    ¬ Recorded o := by
  have hvalue : (ofConfigurationAndOptions .linux unusableConfiguration {}
      (fun _ => none)).logLevelCell.value = none := by decide
  have hsource : (ofConfigurationAndOptions .linux unusableConfiguration {}
      (fun _ => none)).logLevelCell.source = .iConfiguration := by decide
  refine ⟨⟨hvalue, hsource⟩, ⟨by decide, by decide⟩, fun h => h .logLevel ?_ hvalue⟩
  exact fun hdefault => absurd (hsource.symm.trans hdefault) nofun

end CompositeElasticOpenTelemetryOptions

end ElasticOpenTelemetry
