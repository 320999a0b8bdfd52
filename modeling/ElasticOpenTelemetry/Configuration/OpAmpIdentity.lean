import ElasticOpenTelemetry.Configuration.Options

/-!
# The OpAMP identity of an options object

An options object changes after its creation by three calls, made in any order and any number of
times (`CompositeElasticOpenTelemetryOptions.cs`): `ResolveOpAmpServiceIdentity`, which fills in
the service name and version from the resource attributes, `IsOpAmpEnabled`, which caches a
positive answer, and `SetLogLevelFromCentralConfig`.

The invariant of a run is `Resolution`. The cache is sound as what it has seen is never taken back:
the endpoint is not changed, and a name that is not empty is not replaced.
-/

namespace ElasticOpenTelemetry

open DotNet EnvironmentVariables

namespace CompositeElasticOpenTelemetryOptions

/-! ### Creating an object and calling it -/

/-- The property initialisers of an object creation; an initialiser that is absent leaves the cell
alone, one with a null value does not. -/
structure Initializers where
  logDirectory : Option Str := none
  logLevel : Option LogLevel := none
  logTargets : Option LogTargets := none
  skipOtlpExporter : Option Bool := none
  skipInstrumentationAssemblyScanning : Option Bool := none
  additionalLogger : Option (Option LoggerRef) := none
  signals : Option Signals := none
  tracing : Option TraceInstrumentations := none
  metrics : Option MetricInstrumentations := none
  logging : Option LogInstrumentations := none
  opAmpEndpoint : Option (Option Str) := none
  opAmpHeaders : Option (Option Str) := none
  resourceAttributes : Option (Option Str) := none

/-- `init => cell.AssignFromProperty(value)`. -/
def initProperty {α : Type} (cell : ConfigCell α) (value : Option (Option α)) : ConfigCell α :=
  match value with
  | none => cell
  | some v => cell.assignFromProperty v

/-- Run the property initialisers. -/
def withInitializers (i : Initializers) (o : CompositeElasticOpenTelemetryOptions) :
    CompositeElasticOpenTelemetryOptions :=
  { o with
    logDirectoryCell := initProperty o.logDirectoryCell (i.logDirectory.map some)
    logLevelCell := initProperty o.logLevelCell (i.logLevel.map some)
    logTargetsCell := initProperty o.logTargetsCell (i.logTargets.map some)
    skipOtlpExporterCell := initProperty o.skipOtlpExporterCell (i.skipOtlpExporter.map some)
    skipInstrumentationAssemblyScanningCell :=
      initProperty o.skipInstrumentationAssemblyScanningCell
        (i.skipInstrumentationAssemblyScanning.map some)
    additionalLogger := i.additionalLogger.getD o.additionalLogger
    signalsCell := initProperty o.signalsCell (i.signals.map some)
    tracingCell := initProperty o.tracingCell (i.tracing.map some)
    metricsCell := initProperty o.metricsCell (i.metrics.map some)
    loggingCell := initProperty o.loggingCell (i.logging.map some)
    opAmpEndpointCell := initProperty o.opAmpEndpointCell i.opAmpEndpoint
    opAmpHeadersCell := initProperty o.opAmpHeadersCell i.opAmpHeaders
    resourceAttributesCell := initProperty o.resourceAttributesCell i.resourceAttributes }

/-- An object as its creation leaves it. The constructors that take fewer sources are cases of the
one with all of them (`ofOptions_eq` and its siblings). -/
def create (p : Platform) (env : EnvironmentDictionary) (configuration : IConfiguration)
    (options : ElasticOpenTelemetryOptions) (i : Initializers) :
    CompositeElasticOpenTelemetryOptions :=
  (ofConfigurationAndOptions p configuration options env).withInitializers i

/-- A call on an options object. -/
inductive Call
  | resolveOpAmpServiceIdentity
  | isOpAmpEnabled
  | setLogLevelFromCentralConfig (level : Str)
  deriving DecidableEq

/-- The object after a call. -/
def Call.apply (o : CompositeElasticOpenTelemetryOptions) :
    Call → CompositeElasticOpenTelemetryOptions
  | .resolveOpAmpServiceIdentity => o.resolveOpAmpServiceIdentity
  | .isOpAmpEnabled => o.isOpAmpEnabled.2
  | .setLogLevelFromCentralConfig level => o.setLogLevelFromCentralConfig level

/-- The object after a sequence of calls. -/
def run (o : CompositeElasticOpenTelemetryOptions) (calls : List Call) :
    CompositeElasticOpenTelemetryOptions :=
  calls.foldl Call.apply o

variable {o s : CompositeElasticOpenTelemetryOptions}

@[simp] theorem run_concat (calls : List Call) (call : Call) :
    o.run (calls ++ [call]) = call.apply (o.run calls) := List.foldl_concat ..

theorem run_append (calls later : List Call) : o.run (calls ++ later) = (o.run calls).run later :=
  List.foldl_append

/-! ### What the calls do to the identity -/

/-- An attribute that is looked up when the value is empty. -/
def resolvedFrom (attributes : Option Str) (key : Str) (value : Option Str) : Option Str :=
  if isNullOrEmpty value then lookupResourceAttribute (attributes.getD []) key else value

theorem resolvedFrom_of_nonempty {attributes : Option Str} {key : Str} {value : Option Str}
    (h : isNullOrEmpty value = false) : resolvedFrom attributes key value = value := by
  rw [resolvedFrom, if_neg (by simp [h])]

@[simp] theorem resolvedFrom_resolvedFrom (attributes : Option Str) (key : Str)
    (value : Option Str) :
    resolvedFrom attributes key (resolvedFrom attributes key value) =
      resolvedFrom attributes key value := by
  by_cases h : isNullOrEmpty value = true
  · have hlookup : resolvedFrom attributes key value =
        lookupResourceAttribute (attributes.getD []) key := if_pos h
    rw [hlookup, resolvedFrom]
    split_ifs <;> rfl
  · have hvalue : isNullOrEmpty value = false := by simpa using h
    rw [resolvedFrom_of_nonempty hvalue, resolvedFrom_of_nonempty hvalue]

/-- Nothing is found where there are no attributes. -/
theorem resolvedFrom_of_empty {attributes : Option Str} {key : Str} {value : Option Str}
    (hattributes : isNullOrEmpty attributes = true) (hvalue : value ≠ some []) :
    resolvedFrom attributes key value = value := by
  have hempty : attributes.getD [] = [] := by simpa [isNullOrEmpty] using hattributes
  rw [resolvedFrom, hempty]
  split_ifs with h
  · have hnone : value = none := by
      cases value with
      | none => rfl
      | some v =>
        obtain rfl : v = [] := by simpa [isNullOrEmpty] using h
        exact absurd rfl hvalue
    rw [hnone]
    rfl
  · rfl

/-- What `ResolveOpAmpServiceIdentity` does. -/
structure Resolves (s t : CompositeElasticOpenTelemetryOptions) : Prop where
  opAmpEndpoint : t.opAmpEndpoint = s.opAmpEndpoint
  resourceAttributes : t.resourceAttributes = s.resourceAttributes
  source : t.serviceNameCell.source ≤ .property
  cache : t.isOpAmpEnabledCache = s.isOpAmpEnabledCache
  serviceName : t.serviceName =
    if isNullOrEmpty s.resourceAttributes then s.serviceName
    else resolvedFrom s.resourceAttributes attributeServiceName s.serviceName
  serviceVersion : t.serviceVersion =
    if isNullOrEmpty s.resourceAttributes then s.serviceVersion
    else resolvedFrom s.resourceAttributes attributeServiceVersion s.serviceVersion
  identityResolved : t.identityResolved = true

theorem resolves_resolveOpAmpServiceIdentity (hsource : s.serviceNameCell.source ≤ .property) :
    Resolves s s.resolveOpAmpServiceIdentity := by
  rw [resolveOpAmpServiceIdentity]
  by_cases hattributes : isNullOrEmpty s.resourceAttributes = true
  · rw [if_pos hattributes]
    exact ⟨rfl, rfl, hsource, rfl, (if_pos hattributes).symm, (if_pos hattributes).symm, rfl⟩
  · rw [if_neg hattributes]
    have hassign (value : Option Str) : (s.serviceNameCell.assignFromProperty value).toCell =
        ⟨value, .property⟩ := Precedence.Cell.assign_of_le hsource value
    refine ⟨rfl, rfl, ?_, rfl, ?_, (if_neg hattributes).symm, rfl⟩
    · dsimp only
      split_ifs
      · rw [hassign]
      · exact hsource
    · rw [if_neg hattributes, resolvedFrom, serviceName]
      dsimp only
      split_ifs
      · rw [hassign]
      · rfl

/-- The answer of `IsOpAmpEnabled` when nothing is cached. -/
def opAmpConfigured (s : CompositeElasticOpenTelemetryOptions) : Bool :=
  !isNullOrEmpty s.opAmpEndpoint && !isNullOrEmpty s.serviceName

theorem isOpAmpEnabled_eq (hcache : s.isOpAmpEnabledCache = some true → s.opAmpConfigured = true) :
    s.isOpAmpEnabled =
      (s.opAmpConfigured, if s.opAmpConfigured then { s with isOpAmpEnabledCache := some true }
        else s) := by
  rw [isOpAmpEnabled]
  by_cases hcached : s.isOpAmpEnabledCache = some true
  · rw [if_pos hcached, hcache hcached, if_pos rfl, ← hcached]
  · rw [if_neg hcached, opAmpConfigured]
    by_cases hmissing : (isNullOrEmpty s.opAmpEndpoint || isNullOrEmpty s.serviceName) = true
    · rw [if_pos hmissing, ← Bool.not_or, hmissing]
      rfl
    · rw [if_neg hmissing, ← Bool.not_or, Bool.eq_false_iff.mpr hmissing]
      rfl

/-- A call that is not about the identity. -/
theorem setLogLevelFromCentralConfig_eq (s : CompositeElasticOpenTelemetryOptions) (level : Str) :
    s.setLogLevelFromCentralConfig level =
      { s with logLevelCell := (s.setLogLevelFromCentralConfig level).logLevelCell } := by
  rw [setLogLevelFromCentralConfig]
  cases logLevelParser (some level) <;> rfl

/-! ### The invariant of a run -/

/-- What creation leaves of the identity. -/
structure Unresolved (o : CompositeElasticOpenTelemetryOptions) : Prop where
  source : o.serviceNameCell.source ≤ .property
  name : o.serviceName ≠ some []
  version : o.serviceVersion = none
  cache : o.isOpAmpEnabledCache = none
  notResolved : o.identityResolved = false

/-- `s` is the object `o` after some calls. -/
structure Resolution (o s : CompositeElasticOpenTelemetryOptions) : Prop where
  opAmpEndpoint : s.opAmpEndpoint = o.opAmpEndpoint
  resourceAttributes : s.resourceAttributes = o.resourceAttributes
  source : s.serviceNameCell.source ≤ .property
  cache : s.isOpAmpEnabledCache = some true → s.opAmpConfigured = true
  pending : s.identityResolved = false →
    s.serviceName = o.serviceName ∧ s.serviceVersion = o.serviceVersion
  resolved : s.identityResolved = true →
    s.serviceName = resolvedFrom o.resourceAttributes attributeServiceName o.serviceName ∧
    s.serviceVersion = resolvedFrom o.resourceAttributes attributeServiceVersion o.serviceVersion

/-- No source supplies an empty service name. -/
theorem unresolved_create (p : Platform) (env : EnvironmentDictionary)
    (configuration : IConfiguration) (options : ElasticOpenTelemetryOptions) (i : Initializers) :
    Unresolved (create p env configuration options i) := by
  have hcell : (create p env configuration options i).serviceNameCell.toCell =
      ((⟨none, .default⟩ : Precedence.Cell ConfigSource (Option Str)).offer
        (.environment, (environmentValue env otelServiceName stringParser).map some)).offer
        (.iConfiguration, (configurationValue configuration otelServiceName stringParser).map
          some) := by
    rw [← show (initial p).serviceNameCell.toCell = ⟨none, .default⟩ from rfl,
      ← offer_setFromEnvironment, ← offer_setFromConfigurationKey]
    rfl
  have hparsed (s : Option Str) : stringParser s ≠ some [] := by
    rw [stringParser]
    split_ifs with h
    · simp
    · rintro rfl
      exact h rfl
  have henv : environmentValue env otelServiceName stringParser ≠ some [] := hparsed _
  have hconfiguration : configurationValue configuration otelServiceName stringParser ≠
      some [] := by
    rw [configurationValue]
    cases configuration otelServiceName with
    | none => simp
    | some lookup => exact hparsed _
  -- an offer of a parsed value does not make the cell hold an empty one
  have hoffer {c : Precedence.Cell ConfigSource (Option Str)} {source : ConfigSource}
      {value : Option Str} (hc : c.value ≠ some []) (hvalue : value ≠ some []) :
      (c.offer (source, value.map some)).value ≠ some [] := by
    rcases c.offer_cases (source, value.map some) with h | ⟨v, hv, h⟩
    · rwa [h]
    · rw [h]
      obtain ⟨w, rfl, rfl⟩ := Option.map_eq_some_iff.mp hv
      exact hvalue
  have henvSource : ConfigSource.environment ≤ .property :=
    (ConfigSource.environment_lt_options.trans ConfigSource.options_lt_property).le
  refine ⟨?_, ?_, rfl, rfl, rfl⟩
  · rw [hcell]
    exact Precedence.Cell.source_offer_le (Precedence.Cell.source_offer_le
      (ConfigSource.default_le _) henvSource)
      (ConfigSource.iConfiguration_lt_environment.le.trans henvSource)
  · rw [serviceName, hcell]
    exact hoffer (hoffer (by simp) henv) hconfiguration

theorem Unresolved.resolution (ho : Unresolved o) : Resolution o o where
  opAmpEndpoint := rfl
  resourceAttributes := rfl
  source := ho.source
  cache := fun h => by
    rw [ho.cache] at h
    cases h
  pending := fun _ => ⟨rfl, rfl⟩
  resolved := fun h => by
    rw [ho.notResolved] at h
    cases h

/-- The name or the version after a call that resolves, whether or not it is the first. -/
theorem resolvedFrom_of_resolves {attributes first before after : Option Str} {key : Str}
    (hfirst : first ≠ some [])
    (hbefore : before = first ∨ before = resolvedFrom attributes key first)
    (hafter : after = if isNullOrEmpty attributes then before
      else resolvedFrom attributes key before) :
    after = resolvedFrom attributes key first := by
  by_cases hattributes : isNullOrEmpty attributes = true
  · rw [if_pos hattributes] at hafter
    rcases hbefore with rfl | rfl
    · rw [hafter, resolvedFrom_of_empty hattributes hfirst]
    · exact hafter
  · rw [if_neg hattributes] at hafter
    rcases hbefore with rfl | rfl
    · exact hafter
    · rw [hafter, resolvedFrom_resolvedFrom]

/-- What is not empty stays when it is resolved. -/
theorem isNullOrEmpty_of_resolves {attributes before after : Option Str} {key : Str}
    (hbefore : isNullOrEmpty before = false)
    (hafter : after = if isNullOrEmpty attributes then before
      else resolvedFrom attributes key before) : after = before := by
  rw [hafter, resolvedFrom_of_nonempty hbefore, ite_self]

/-- A call of `ResolveOpAmpServiceIdentity`. -/
theorem Resolution.resolve (ho : Unresolved o) (hs : Resolution o s) :
    Resolution o s.resolveOpAmpServiceIdentity := by
  have h := resolves_resolveOpAmpServiceIdentity hs.source
  have hattributes := hs.resourceAttributes
  have hbefore : (s.serviceName = o.serviceName ∨ s.serviceName =
        resolvedFrom s.resourceAttributes attributeServiceName o.serviceName) ∧
      (s.serviceVersion = o.serviceVersion ∨ s.serviceVersion =
        resolvedFrom s.resourceAttributes attributeServiceVersion o.serviceVersion) := by
    rw [hattributes]
    cases hresolved : s.identityResolved with
    | false => exact ⟨.inl (hs.pending hresolved).1, .inl (hs.pending hresolved).2⟩
    | true => exact ⟨.inr (hs.resolved hresolved).1, .inr (hs.resolved hresolved).2⟩
  have hversion : o.serviceVersion ≠ some [] := by
    rw [ho.version]
    nofun
  refine ⟨h.opAmpEndpoint.trans hs.opAmpEndpoint, h.resourceAttributes.trans hattributes,
    h.source, fun hcache => ?_, fun hpending => ?_, fun _ => ?_⟩
  · have hconfigured := hs.cache (h.cache.symm.trans hcache)
    have hname : isNullOrEmpty s.serviceName = false := by
      rw [opAmpConfigured, Bool.and_eq_true] at hconfigured
      simpa using hconfigured.2
    rw [opAmpConfigured, h.opAmpEndpoint, isNullOrEmpty_of_resolves hname h.serviceName]
    exact hconfigured
  · rw [h.identityResolved] at hpending
    cases hpending
  · rw [← hattributes]
    exact ⟨resolvedFrom_of_resolves ho.name hbefore.1 h.serviceName,
      resolvedFrom_of_resolves hversion hbefore.2 h.serviceVersion⟩

/-- A call of `IsOpAmpEnabled`. -/
theorem Resolution.isOpAmpEnabled (hs : Resolution o s) : Resolution o s.isOpAmpEnabled.2 := by
  rw [isOpAmpEnabled_eq hs.cache]
  cases hconfigured : s.opAmpConfigured with
  | false => exact hs
  | true => exact { hs with cache := fun _ => hconfigured }

theorem Resolution.apply (ho : Unresolved o) (hs : Resolution o s) (call : Call) :
    Resolution o (call.apply s) := by
  cases call with
  | resolveOpAmpServiceIdentity => exact hs.resolve ho
  | isOpAmpEnabled => exact hs.isOpAmpEnabled
  | setLogLevelFromCentralConfig level =>
    rw [Call.apply, setLogLevelFromCentralConfig_eq]
    exact { hs with }

theorem resolution_run (ho : Unresolved o) (calls : List Call) : Resolution o (o.run calls) := by
  induction calls using List.reverseRecOn with
  | nil => exact ho.resolution
  | append_singleton calls call ih =>
    rw [run_concat]
    exact ih.apply ho call

/-! ### The main result -/

/-- Once resolved, the object stays so. -/
theorem identityResolved_apply (hs : Resolution o s) (call : Call)
    (h : s.identityResolved = true ∨ call = .resolveOpAmpServiceIdentity) :
    (call.apply s).identityResolved = true := by
  cases call with
  | resolveOpAmpServiceIdentity =>
    exact (resolves_resolveOpAmpServiceIdentity hs.source).identityResolved
  | isOpAmpEnabled =>
    rw [Call.apply, isOpAmpEnabled_eq hs.cache]
    have hresolved := h.resolve_right nofun
    dsimp only
    split_ifs <;> exact hresolved
  | setLogLevelFromCentralConfig level =>
    rw [Call.apply, setLogLevelFromCentralConfig_eq]
    exact h.resolve_right nofun

theorem identityResolved_run (ho : Unresolved o) {calls : List Call}
    (h : .resolveOpAmpServiceIdentity ∈ calls) : (o.run calls).identityResolved = true := by
  induction calls using List.reverseRecOn with
  | nil => cases h
  | append_singleton calls call ih =>
    rw [run_concat]
    refine identityResolved_apply (resolution_run ho calls) call ?_
    rcases List.mem_append.mp h with h | h
    · exact .inl (ih h)
    · exact .inr (List.mem_singleton.mp h).symm

/-- A call does not replace a name or a version that is not empty. -/
theorem kept_apply (hs : Resolution o s) (call : Call) :
    (isNullOrEmpty s.serviceName = false → (call.apply s).serviceName = s.serviceName) ∧
      (isNullOrEmpty s.serviceVersion = false →
        (call.apply s).serviceVersion = s.serviceVersion) := by
  cases call with
  | resolveOpAmpServiceIdentity =>
    have h := resolves_resolveOpAmpServiceIdentity hs.source
    exact ⟨fun hname => isNullOrEmpty_of_resolves hname h.serviceName,
      fun hversion => isNullOrEmpty_of_resolves hversion h.serviceVersion⟩
  | isOpAmpEnabled =>
    rw [Call.apply, isOpAmpEnabled_eq hs.cache]
    dsimp only
    split_ifs <;> exact ⟨fun _ => rfl, fun _ => rfl⟩
  | setLogLevelFromCentralConfig level =>
    rw [Call.apply, setLogLevelFromCentralConfig_eq]
    exact ⟨fun _ => rfl, fun _ => rfl⟩

theorem kept_run (ho : Unresolved o) (calls later : List Call) :
    (isNullOrEmpty (o.run calls).serviceName = false →
      (o.run (calls ++ later)).serviceName = (o.run calls).serviceName) ∧
    (isNullOrEmpty (o.run calls).serviceVersion = false →
      (o.run (calls ++ later)).serviceVersion = (o.run calls).serviceVersion) := by
  induction later using List.reverseRecOn with
  | nil =>
    rw [List.append_nil]
    exact ⟨fun _ => rfl, fun _ => rfl⟩
  | append_singleton later call ih =>
    rw [← List.append_assoc, run_concat]
    obtain ⟨hname, hversion⟩ := kept_apply (resolution_run ho (calls ++ later)) call
    refine ⟨fun h => ?_, fun h => ?_⟩
    · rw [hname (by rw [ih.1 h]; exact h), ih.1 h]
    · rw [hversion (by rw [ih.2 h]; exact h), ih.2 h]

/-- **The OpAMP identity.** Take an options object from any sources and make any calls on it.
Once resolved, the name is the configured one or else the one in the resource attributes, and no
further call changes the name or the version; a name or a version that is not empty is never
replaced. `IsOpAmpEnabled` changes neither, answers whether there are an endpoint and a name, from
its cache as well, and having answered `true` does so forever. -/
theorem opAmpIdentity (p : Platform) (env : EnvironmentDictionary) (configuration : IConfiguration)
    (options : ElasticOpenTelemetryOptions) (i : Initializers) (calls : List Call) :
    let o := create p env configuration options i
    let s := o.run calls
    (.resolveOpAmpServiceIdentity ∈ calls →
      s.serviceName = (if isNullOrEmpty o.serviceName then
        lookupResourceAttribute (o.resourceAttributes.getD []) attributeServiceName
        else o.serviceName) ∧
      ∀ later, (s.run later).serviceName = s.serviceName ∧
        (s.run later).serviceVersion = s.serviceVersion) ∧
    (isNullOrEmpty s.serviceName = false →
      ∀ later, (s.run later).serviceName = s.serviceName) ∧
    (isNullOrEmpty s.serviceVersion = false →
      ∀ later, (s.run later).serviceVersion = s.serviceVersion) ∧
    s.isOpAmpEnabled.2.serviceName = s.serviceName ∧
    s.isOpAmpEnabled.2.serviceVersion = s.serviceVersion ∧
    s.isOpAmpEnabled.1 = (!isNullOrEmpty s.opAmpEndpoint && !isNullOrEmpty s.serviceName) ∧
    (s.isOpAmpEnabled.1 = true → ∀ later, (s.run later).isOpAmpEnabled.1 = true) := by
  intro o s
  have ho : Unresolved o := unresolved_create p env configuration options i
  have hs : Resolution o s := resolution_run ho calls
  have hlater (later : List Call) : s.run later = o.run (calls ++ later) := (run_append ..).symm
  refine ⟨fun hmem => ?_, fun hname later => ?_, fun hversion later => ?_, ?_, ?_, ?_,
    fun henabled later => ?_⟩
  · obtain ⟨hname, hversion⟩ := hs.resolved (identityResolved_run ho hmem)
    refine ⟨hname, fun later => ?_⟩
    have hmem' : .resolveOpAmpServiceIdentity ∈ calls ++ later := List.mem_append_left _ hmem
    obtain ⟨hname', hversion'⟩ :=
      (resolution_run ho (calls ++ later)).resolved (identityResolved_run ho hmem')
    rw [hlater]
    exact ⟨hname'.trans hname.symm, hversion'.trans hversion.symm⟩
  · rw [hlater]
    exact (kept_run ho calls later).1 hname
  · rw [hlater]
    exact (kept_run ho calls later).2 hversion
  · rw [isOpAmpEnabled_eq hs.cache]
    dsimp only
    split_ifs <;> rfl
  · rw [isOpAmpEnabled_eq hs.cache]
    dsimp only
    split_ifs <;> rfl
  · rw [isOpAmpEnabled_eq hs.cache]
    rfl
  · rw [isOpAmpEnabled_eq hs.cache, opAmpConfigured, Bool.and_eq_true] at henabled
    have hname : isNullOrEmpty s.serviceName = false := by simpa using henabled.2
    have hrun := resolution_run ho (calls ++ later)
    rw [hlater, isOpAmpEnabled_eq hrun.cache, opAmpConfigured, (kept_run ho calls later).1 hname,
      hrun.opAmpEndpoint, ← hs.opAmpEndpoint, Bool.and_eq_true]
    exact henabled

end CompositeElasticOpenTelemetryOptions

end ElasticOpenTelemetry
