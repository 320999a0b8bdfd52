import ElasticOpenTelemetry.Configuration.Options

/-!
# Bootstrapping and the shared components

`Bootstrap` (`ElasticOpenTelemetry.cs`) hands out components: it looks for shared components
whose options `Equals` the given ones, and creates and shares new ones otherwise. Creating them
resolves the OpAMP service identity and may apply a log level from central configuration, both
on the options object that the new components keep. An options object that is built from the
same configuration later has seen neither change.

`applyCreation_settings_iff` states which options keep their settings through creation, and
`bootstrap_reuses_iff` that these are exactly the ones for which bootstrapping again finds the
first components. The rest of `Bootstrap` (the lock, its messages, an `IServiceCollection`) has
no part in this: the calls are made without services and one after the other.
-/

namespace ElasticOpenTelemetry

open DotNet

namespace CompositeElasticOpenTelemetryOptions

/-! ### What creation does to the options -/

/-- The changes that `CreateComponents` makes to the options object; `initialLevel` is the log
level in the first central configuration, if one arrives in time. -/
def applyCreation (initialLevel : Option Str) (o : CompositeElasticOpenTelemetryOptions) :
    CompositeElasticOpenTelemetryOptions :=
  let (enabled, o) := o.resolveOpAmpServiceIdentity.isOpAmpEnabled
  if enabled then
    match initialLevel with
    | some level => o.setLogLevelFromCentralConfig level
    | none => o
  else o

/-- The options keep their settings when components are created from them: resolving the
identity finds no other service name, and no other log level is applied. -/
structure SurvivesCreation (o : CompositeElasticOpenTelemetryOptions)
    (initialLevel : Option Str) : Prop where
  serviceName : isNullOrEmpty o.resourceAttributes = true ∨ isNullOrEmpty o.serviceName = false ∨
    lookupResourceAttribute (o.resourceAttributes.getD []) attributeServiceName = o.serviceName
  logLevel : isNullOrEmpty o.opAmpEndpoint = true ∨ isNullOrEmpty o.serviceName = true ∨
    ∀ level parsed, initialLevel = some level → logLevelParser (some level) = some parsed →
      parsed = o.logLevel

variable {o : CompositeElasticOpenTelemetryOptions}

/-- The service name that resolving the identity gives. -/
def resolvedServiceName (o : CompositeElasticOpenTelemetryOptions) : Option Str :=
  if isNullOrEmpty o.resourceAttributes then o.serviceName
  else if isNullOrEmpty o.serviceName then
    lookupResourceAttribute (o.resourceAttributes.getD []) attributeServiceName
  else o.serviceName

theorem resolvedServiceName_eq_iff :
    o.resolvedServiceName = o.serviceName ↔
      isNullOrEmpty o.resourceAttributes = true ∨ isNullOrEmpty o.serviceName = false ∨
        lookupResourceAttribute (o.resourceAttributes.getD []) attributeServiceName =
          o.serviceName := by
  rw [resolvedServiceName]
  by_cases hattributes : isNullOrEmpty o.resourceAttributes = true
  · simp [hattributes]
  · by_cases hname : isNullOrEmpty o.serviceName = true
    · simp [hattributes, hname]
    · simp [hattributes, hname]

/-- Resolving the identity changes the service name and no other setting. -/
theorem settings_resolveOpAmpServiceIdentity (hsource : o.serviceNameCell.source ≤ .property) :
    o.resolveOpAmpServiceIdentity.settings =
      { o.settings with serviceName := o.resolvedServiceName } := by
  rw [resolveOpAmpServiceIdentity, resolvedServiceName]
  by_cases hattributes : isNullOrEmpty o.resourceAttributes = true
  · rw [if_pos hattributes, if_pos hattributes]
    rfl
  · rw [if_neg hattributes, if_neg hattributes]
    by_cases hname : isNullOrEmpty o.serviceName = true
    · rw [if_pos hname]
      have hvalue : (o.serviceNameCell.assignFromProperty (lookupResourceAttribute
          (o.resourceAttributes.getD []) attributeServiceName)).value =
            lookupResourceAttribute (o.resourceAttributes.getD []) attributeServiceName :=
        congrArg Precedence.Cell.value (Precedence.Cell.assign_of_le hsource _)
      simp only [if_pos hname]
      exact congrArg (fun name => { o.settings with serviceName := name }) hvalue
    · simp only [if_neg hname]
      rfl

theorem isOpAmpEnabledCache_resolveOpAmpServiceIdentity :
    o.resolveOpAmpServiceIdentity.isOpAmpEnabledCache = o.isOpAmpEnabledCache := by
  rw [resolveOpAmpServiceIdentity]
  split <;> rfl

theorem isOpAmpEnabled_fst (hcache : o.isOpAmpEnabledCache = none) :
    o.isOpAmpEnabled.1 = (!isNullOrEmpty o.opAmpEndpoint && !isNullOrEmpty o.serviceName) := by
  rw [isOpAmpEnabled, hcache, if_neg (by simp)]
  cases isNullOrEmpty o.opAmpEndpoint <;> cases isNullOrEmpty o.serviceName <;> rfl

theorem settings_isOpAmpEnabled : o.isOpAmpEnabled.2.settings = o.settings := by
  rw [isOpAmpEnabled]
  split_ifs <;> rfl

/-- Assigning the level in force again changes no setting. The log targets look at the level
itself, but a null one, which is read as `Warning`, enables and disables nothing either. -/
theorem settings_assign_logLevel :
    { o with logLevelCell :=
        o.logLevelCell.assignFromCentralConfig (some o.logLevel) }.settings = o.settings := by
  have hnot : ¬ LogLevel.warning ≤ LogLevel.debug := by decide
  cases hvalue : o.logLevelCell.value with
  | none => simp [settings, logDirectory, logLevel, logTargets, logTargetsDefault,
      globalLogEnabled, skipOtlpExporter, skipInstrumentationAssemblyScanning, signals,
      tracing, metrics, logging, opAmpEndpoint, opAmpHeaders, serviceName, resourceAttributes,
      hvalue, hnot]
  | some level => simp [settings, logDirectory, logLevel, logTargets, logTargetsDefault,
      globalLogEnabled, skipOtlpExporter, skipInstrumentationAssemblyScanning, signals,
      tracing, metrics, logging, opAmpEndpoint, opAmpHeaders, serviceName, resourceAttributes,
      hvalue]

/-- A central level changes no setting exactly when it does not parse or is in force already. -/
theorem settings_setLogLevelFromCentralConfig_iff (o : CompositeElasticOpenTelemetryOptions)
    (level : Str) :
    (o.setLogLevelFromCentralConfig level).settings = o.settings ↔
      ∀ parsed, logLevelParser (some level) = some parsed → parsed = o.logLevel := by
  rw [setLogLevelFromCentralConfig]
  cases hparsed : logLevelParser (some level) with
  | none => simp
  | some parsed =>
    constructor
    · intro h parsed' hparsed'
      have hlevel := congrArg Settings.logLevel h
      simp only [settings, logLevel, ConfigCell.value_assignFromCentralConfig,
        Option.getD_some] at hlevel
      rw [← Option.some.inj hparsed', hlevel]
      rfl
    · intro h
      obtain rfl : parsed = o.logLevel := h parsed rfl
      exact settings_assign_logLevel

/-- Creation decides the service name by resolving the identity alone. -/
theorem serviceName_applyCreation (hsource : o.serviceNameCell.source ≤ .property)
    (initialLevel : Option Str) :
    (o.applyCreation initialLevel).serviceName = o.resolvedServiceName := by
  have hresolved : o.resolveOpAmpServiceIdentity.isOpAmpEnabled.2.serviceName =
      o.resolvedServiceName := by
    have h := settings_isOpAmpEnabled (o := o.resolveOpAmpServiceIdentity)
    rw [settings_resolveOpAmpServiceIdentity hsource] at h
    exact congrArg Settings.serviceName h
  rw [applyCreation]
  generalize o.resolveOpAmpServiceIdentity.isOpAmpEnabled = r at hresolved ⊢
  obtain ⟨enabled, o'⟩ := r
  cases enabled with
  | false => exact hresolved
  | true =>
    cases initialLevel with
    | none => exact hresolved
    | some level =>
      rw [← hresolved]
      simp only [if_true, setLogLevelFromCentralConfig]
      cases logLevelParser (some level) <;> rfl

/-- **Settings through creation.** The object keeps its settings exactly when it survives. -/
theorem applyCreation_settings_iff (hcache : o.isOpAmpEnabledCache = none)
    (hsource : o.serviceNameCell.source ≤ .property) (initialLevel : Option Str) :
    (o.applyCreation initialLevel).settings = o.settings ↔ o.SurvivesCreation initialLevel := by
  by_cases hname : o.resolvedServiceName = o.serviceName
  · have hresolved : o.resolveOpAmpServiceIdentity.isOpAmpEnabled.2.settings = o.settings := by
      rw [settings_isOpAmpEnabled, settings_resolveOpAmpServiceIdentity hsource, hname]
      rfl
    have hsettings := settings_resolveOpAmpServiceIdentity hsource
    have hendpoint : o.resolveOpAmpServiceIdentity.opAmpEndpoint = o.opAmpEndpoint :=
      congrArg Settings.opAmpEndpoint hsettings
    have hservice : o.resolveOpAmpServiceIdentity.serviceName = o.serviceName :=
      (congrArg Settings.serviceName hsettings).trans hname
    have henabled : o.resolveOpAmpServiceIdentity.isOpAmpEnabled.1 =
        (!isNullOrEmpty o.opAmpEndpoint && !isNullOrEmpty o.serviceName) := by
      rw [isOpAmpEnabled_fst (isOpAmpEnabledCache_resolveOpAmpServiceIdentity.trans hcache),
        hendpoint, hservice]
    have hsurvives := resolvedServiceName_eq_iff.mp hname
    rw [applyCreation]
    generalize o.resolveOpAmpServiceIdentity.isOpAmpEnabled = r at hresolved henabled ⊢
    obtain ⟨enabled, o'⟩ := r
    cases enabled with
    | false =>
      refine iff_of_true hresolved ⟨hsurvives, ?_⟩
      cases hempty : isNullOrEmpty o.opAmpEndpoint with
      | true => exact Or.inl rfl
      | false =>
        rw [hempty] at henabled
        exact Or.inr (Or.inl (by simpa using henabled.symm))
    | true =>
      have hon : isNullOrEmpty o.opAmpEndpoint = false ∧ isNullOrEmpty o.serviceName = false := by
        simpa using henabled.symm
      cases initialLevel with
      | none => exact iff_of_true hresolved ⟨hsurvives, Or.inr (Or.inr (by simp))⟩
      | some level =>
        have hlevel : o'.logLevel = o.logLevel := congrArg Settings.logLevel hresolved
        have hiff := settings_setLogLevelFromCentralConfig_iff o' level
        rw [hlevel] at hiff
        rw [← hresolved]
        refine hiff.trans ⟨fun h => ⟨hsurvives, Or.inr (Or.inr ?_)⟩, fun h => ?_⟩
        · rintro level' parsed hlevel' hparsed
          obtain rfl : level = level' := Option.some.inj hlevel'
          exact h parsed hparsed
        · rcases h.logLevel with hempty | hempty | h
          · simp [hon.1] at hempty
          · simp [hon.2] at hempty
          · exact fun parsed hparsed => h level parsed rfl hparsed
  · refine iff_of_false (fun h => hname ?_) fun h => hname (resolvedServiceName_eq_iff.mpr h.1)
    rw [← serviceName_applyCreation hsource initialLevel]
    exact congrArg Settings.serviceName h

end CompositeElasticOpenTelemetryOptions

/-! ### Shared components -/

/-- `ElasticOpenTelemetryComponents`, by its instance and its options. -/
structure ElasticOpenTelemetryComponents where
  instanceId : ℕ
  options : CompositeElasticOpenTelemetryOptions

/-- The static state of `ElasticOpenTelemetry`: the shared components, and the instances
created so far. -/
structure Registry where
  sharedComponents : List ElasticOpenTelemetryComponents
  nextInstanceId : ℕ
  /-- an instance yet to be created is not shared -/
  fresh : ∀ c ∈ sharedComponents, c.instanceId < nextInstanceId

namespace Registry

/-- No components are shared. -/
def empty : Registry := ⟨[], 0, by simp⟩

/-- `TryGetSharedComponents`. -/
def tryGetSharedComponents (s : Registry) (options : CompositeElasticOpenTelemetryOptions) :
    Option ElasticOpenTelemetryComponents :=
  s.sharedComponents.find? fun cachedComponents => cachedComponents.options.equals options

/-- `CreateComponents`. -/
def createComponents (s : Registry) (options : CompositeElasticOpenTelemetryOptions)
    (initialLevel : Option Str) : ElasticOpenTelemetryComponents :=
  ⟨s.nextInstanceId, options.applyCreation initialLevel⟩

/-- `SharedComponents.Add`. -/
def add (s : Registry) (options : CompositeElasticOpenTelemetryOptions)
    (initialLevel : Option Str) : Registry where
  sharedComponents := s.sharedComponents ++ [s.createComponents options initialLevel]
  nextInstanceId := s.nextInstanceId + 1
  fresh := fun c hc => by
    rcases List.mem_append.mp hc with hc | hc
    · exact (s.fresh c hc).trans (Nat.lt_succ_self _)
    · rw [List.mem_singleton.mp hc]
      exact Nat.lt_succ_self _

/-- `Bootstrap`, without services. -/
def bootstrap (s : Registry) (options : CompositeElasticOpenTelemetryOptions)
    (initialLevel : Option Str) : ElasticOpenTelemetryComponents × Registry :=
  match s.tryGetSharedComponents options with
  | some sharedComponents => (sharedComponents, s)
  | none => (s.createComponents options initialLevel, s.add options initialLevel)

/-- One call of `bootstrap` after the other, each with an options object of its own with the
same contents, and with what central configuration would answer it. -/
def bootstrapAll (s : Registry) (options : CompositeElasticOpenTelemetryOptions) :
    List (Option Str) → List ElasticOpenTelemetryComponents × Registry
  | [] => ([], s)
  | initialLevel :: initialLevels =>
    let first := s.bootstrap options initialLevel
    let later := first.2.bootstrapAll options initialLevels
    (first.1 :: later.1, later.2)

/-- All calls return the same components, and exactly one instance is shared for them. -/
def ReusesComponents (s : Registry) (options : CompositeElasticOpenTelemetryOptions)
    (initialLevels : List (Option Str)) : Prop :=
  (∃ id, ∀ c ∈ (s.bootstrapAll options initialLevels).1, c.instanceId = id) ∧
    (s.bootstrapAll options initialLevels).2.sharedComponents.length =
      s.sharedComponents.length + 1

variable {s : Registry} {options : CompositeElasticOpenTelemetryOptions}

theorem bootstrap_of_some {c : ElasticOpenTelemetryComponents}
    (h : s.tryGetSharedComponents options = some c) (initialLevel : Option Str) :
    s.bootstrap options initialLevel = (c, s) := by
  rw [bootstrap, h]

theorem bootstrap_of_none (h : s.tryGetSharedComponents options = none)
    (initialLevel : Option Str) : s.bootstrap options initialLevel =
      (s.createComponents options initialLevel, s.add options initialLevel) := by
  rw [bootstrap, h]

theorem tryGetSharedComponents_eq_none :
    s.tryGetSharedComponents options = none ↔
      ∀ c ∈ s.sharedComponents, c.options.equals options = false := by
  simp [tryGetSharedComponents]

/-- Components that are found once are found by every later call. -/
theorem bootstrapAll_of_some {c : ElasticOpenTelemetryComponents}
    (h : s.tryGetSharedComponents options = some c) (initialLevels : List (Option Str)) :
    s.bootstrapAll options initialLevels = (initialLevels.map fun _ => c, s) := by
  induction initialLevels with
  | nil => rfl
  | cons initialLevel initialLevels ih =>
    simp only [bootstrapAll, bootstrap_of_some h, ih, List.map_cons]

/-- What a later call finds in the components created by the first. -/
theorem tryGetSharedComponents_add (h : s.tryGetSharedComponents options = none)
    (initialLevel : Option Str) :
    (s.add options initialLevel).tryGetSharedComponents options =
      if (options.applyCreation initialLevel).equals options then
        some (s.createComponents options initialLevel)
      else none := by
  rw [tryGetSharedComponents] at h ⊢
  rw [add, List.find?_append, h, Option.none_or, List.find?_cons]
  split <;> simp_all [createComponents]

/-- When creation changes the settings, the second call creates an instance of its own. -/
theorem not_sameInstance_of_changed (h : s.tryGetSharedComponents options = none)
    {initialLevel : Option Str}
    (hequals : (options.applyCreation initialLevel).equals options = false)
    (initialLevel' : Option Str) (initialLevels : List (Option Str)) :
    ¬ ∃ id, ∀ c ∈ (s.bootstrapAll options (initialLevel :: initialLevel' :: initialLevels)).1,
      c.instanceId = id := by
  have hlater := tryGetSharedComponents_add h initialLevel
  rw [hequals, if_neg Bool.false_ne_true] at hlater
  rintro ⟨id, hid⟩
  simp only [bootstrapAll, bootstrap_of_none h, bootstrap_of_none hlater] at hid
  have hfirst := hid _ List.mem_cons_self
  have hsecond := hid _ (List.mem_cons_of_mem _ List.mem_cons_self)
  have hne : s.nextInstanceId = s.nextInstanceId + 1 := hfirst.trans hsecond.symm
  omega

/-- No constructor assigns the service name from a source above the properties. -/
theorem source_serviceNameCell_le (p : Platform) (env : EnvironmentDictionary)
    (configuration : IConfiguration) (userOptions : ElasticOpenTelemetryOptions) :
    (CompositeElasticOpenTelemetryOptions.ofConfigurationAndOptions p configuration userOptions
      env).serviceNameCell.source ≤ .property := by
  have hcell := offer_setFromConfigurationKey configuration EnvironmentVariables.otelServiceName
    (setFromEnvironment env EnvironmentVariables.otelServiceName
      (CompositeElasticOpenTelemetryOptions.initial p).serviceNameCell stringParser) stringParser
  rw [offer_setFromEnvironment] at hcell
  refine (congrArg Precedence.Cell.source hcell).trans_le ?_
  refine Precedence.Cell.source_offer_le (Precedence.Cell.source_offer_le ?_ ?_) ?_
  · exact ConfigSource.default_le _
  · exact ConfigSource.environment_lt_options.le.trans ConfigSource.options_lt_property.le
  · exact ConfigSource.iConfiguration_lt_environment.le.trans
      (ConfigSource.environment_lt_options.le.trans ConfigSource.options_lt_property.le)

/-- **Reuse of shared components.** Bootstrapping any number of times from one configuration
gives one instance exactly when no shared components equal that configuration beforehand and,
if there is a second call, the options keep their settings through creation. -/
theorem bootstrap_reuses_iff (p : Platform) (env : EnvironmentDictionary)
    (configuration : IConfiguration) (userOptions : ElasticOpenTelemetryOptions) (s : Registry)
    (initialLevel : Option Str) (initialLevels : List (Option Str)) :
    let options := CompositeElasticOpenTelemetryOptions.ofConfigurationAndOptions p configuration
      userOptions env
    s.ReusesComponents options (initialLevel :: initialLevels) ↔
      (∀ c ∈ s.sharedComponents, c.options.equals options = false) ∧
        (initialLevels = [] ∨ options.SurvivesCreation initialLevel) := by
  intro options
  have hsettings := CompositeElasticOpenTelemetryOptions.applyCreation_settings_iff
    (o := options) rfl (source_serviceNameCell_le p env configuration userOptions) initialLevel
  rw [← tryGetSharedComponents_eq_none, ← hsettings,
    ← CompositeElasticOpenTelemetryOptions.equals_iff]
  cases hfind : s.tryGetSharedComponents options with
  | some c =>
    -- shared components exist already, and no call creates any
    refine iff_of_false (fun h => ?_) (by simp)
    have hlength := h.2
    rw [bootstrapAll_of_some hfind] at hlength
    exact absurd hlength (by simp)
  | none =>
    have hlater := tryGetSharedComponents_add hfind initialLevel
    rw [ReusesComponents]
    simp only [bootstrapAll, bootstrap_of_none hfind]
    cases hequals : (options.applyCreation initialLevel).equals options with
    | true =>
      rw [hequals, if_pos rfl] at hlater
      rw [bootstrapAll_of_some hlater]
      refine iff_of_true ⟨⟨s.nextInstanceId, ?_⟩, by simp [add]⟩ ⟨trivial, Or.inr rfl⟩
      intro c hc
      rcases List.mem_cons.mp hc with rfl | hc
      · rfl
      · obtain ⟨-, -, rfl⟩ := List.mem_map.mp hc
        rfl
    | false =>
      rw [hequals, if_neg Bool.false_ne_true] at hlater
      cases initialLevels with
      | nil => simp [bootstrapAll, add]
      | cons initialLevel' initialLevels =>
        refine iff_of_false (fun h => ?_) (by simp)
        refine not_sameInstance_of_changed hfind hequals initialLevel' initialLevels ?_
        simpa only [bootstrapAll, bootstrap_of_none hfind] using h.1

/-- An environment that names the service in the resource attributes only. -/
def serviceInResourceAttributes : EnvironmentDictionary := fun key =>
  if key = EnvironmentVariables.otelResourceAttributes then
    some (some "service.name=checkout".toList)
  else none

/-- Two calls with that environment give two instances: the first resolves the service name on
its own options object. -/
theorem bootstrap_not_reused :
    ¬ empty.ReusesComponents (CompositeElasticOpenTelemetryOptions.ofConfigurationAndOptions
      .linux (fun _ => none) {} serviceInResourceAttributes) [none, none] := by
  rintro ⟨hid, -⟩
  exact not_sameInstance_of_changed rfl (by decide +kernel) none [] hid

end Registry

end ElasticOpenTelemetry
