import ElasticOpenTelemetry.Configuration.OpAmpIdentity

/-!
# Hash codes of options objects

`Equals` compares the instrumentation sets of two options objects with `SetEquals`, and
`GetHashCode` takes their hash codes as objects: `HashSet` does not override `GetHashCode`. So the
hash code sees which set objects an options object holds, which `Equals` does not.

The settings do not tell that, and a `SetRef` does. Options objects are created one after the
other in a process (`OptionsInstances`); a cell starts with the static set of all instrumentations,
the parser puts a new set into it when an own switch is set, and a property initialiser a set that
there is already.
`instrumentationCell` is the course of such a cell, over references and over contents alike, and
`HeldSets` are the references that lead to the contents.

`hashCode_agrees_iff` states for which pairs of objects equality implies equal hash codes.
-/

namespace ElasticOpenTelemetry

open DotNet CompositeElasticOpenTelemetryOptions

/-! ### Set objects -/

/-- A set object of one of the three types. -/
inductive SetRef
  /-- the static `All` -/
  | all
  /-- the one that the constructor of an options object allocates -/
  | parsed (creation : ℕ)
  /-- any other -/
  | given (n : ℕ)
  deriving DecidableEq, Repr

/-- What a set object holds. -/
def SetRef.contents {T : Type} (all : Finset T) (parsed given : ℕ → Finset T) : SetRef → Finset T
  | .all => all
  | .parsed creation => parsed creation
  | .given n => given n

section InstrumentationCell

variable {β γ : Type}

/-- The cell of an instrumentation set in the creation of an options object: the field
initialiser, the parser and the property initialiser. -/
def instrumentationCell (key : Str) (all : β) (opted : Bool) (enumerated : β)
    (initializer : Option β) : ConfigCell β :=
  let cell : ConfigCell β := .new key (some all)
  initProperty (if opted then cell.assignFromEnvironmentVariable (some enumerated) else cell)
    (initializer.map some)

theorem value_instrumentationCell (key : Str) (all : β) (opted : Bool) (enumerated : β)
    (initializer : Option β) :
    (instrumentationCell key all opted enumerated initializer).value =
      some (initializer.getD (if opted then enumerated else all)) := by
  cases initializer with
  | none => cases opted <;> rfl
  | some given => cases opted <;> rfl

/-- The contents follow the references. -/
theorem value_instrumentationCell_map (f : β → γ) (key : Str) (all : β) (opted : Bool)
    (enumerated : β) (initializer : Option β) :
    (instrumentationCell key (f all) opted (f enumerated) (initializer.map f)).value =
      (instrumentationCell key all opted enumerated initializer).value.map f := by
  rw [value_instrumentationCell, value_instrumentationCell, Option.map_some, ← apply_ite f,
    Option.getD_map]

end InstrumentationCell

namespace CompositeElasticOpenTelemetryOptions

theorem instrumentationCells_create (p : Platform) (env : EnvironmentDictionary)
    (configuration : IConfiguration) (options : ElasticOpenTelemetryOptions) (i : Initializers) :
    (create p env configuration options i).tracingCell =
      instrumentationCell "Tracing".toList TraceInstrumentations.all
        (enabledTraceInstrumentations env (configured env .traces)).1
        (enabledTraceInstrumentations env (configured env .traces)).2 i.tracing ∧
    (create p env configuration options i).metricsCell =
      instrumentationCell "Metrics".toList MetricInstrumentations.all
        (enabledMetricInstrumentations env (configured env .metrics)).1
        (enabledMetricInstrumentations env (configured env .metrics)).2 i.metrics ∧
    (create p env configuration options i).loggingCell =
      instrumentationCell "Logging".toList LogInstrumentations.all
        (enabledLogInstrumentations env (configured env .logs)).1
        (enabledLogInstrumentations env (configured env .logs)).2 i.logging :=
  ⟨rfl, rfl, rfl⟩

/-- The calls do not change the instrumentations. -/
theorem toInstrumentationCells_run (o : CompositeElasticOpenTelemetryOptions)
    (calls : List Call) : (o.run calls).toInstrumentationCells = o.toInstrumentationCells := by
  induction calls using List.reverseRecOn with
  | nil => rfl
  | append_singleton calls call ih =>
    rw [run_concat, ← ih]
    cases call with
    | resolveOpAmpServiceIdentity =>
      rw [Call.apply, resolveOpAmpServiceIdentity]
      split_ifs <;> rfl
    | isOpAmpEnabled =>
      rw [Call.apply, isOpAmpEnabled]
      split_ifs <;> rfl
    | setLogLevelFromCentralConfig level => rw [Call.apply, setLogLevelFromCentralConfig_eq]

end CompositeElasticOpenTelemetryOptions

/-! ### The options objects of a process -/

/-- The set objects that an options object holds. -/
structure SetRefs where
  tracing : SetRef
  metrics : SetRef
  logging : SetRef
  deriving DecidableEq, Repr

/-- The creation of an options object and the calls made on it. -/
structure Creation where
  env : EnvironmentDictionary
  configuration : IConfiguration
  options : ElasticOpenTelemetryOptions
  /-- the property initialisers but those of the three sets -/
  initializers : Initializers
  tracing : Option SetRef := none
  metrics : Option SetRef := none
  logging : Option SetRef := none
  calls : List Call := []

/-- The options objects of a process, and its other set objects. -/
structure OptionsInstances where
  platform : Platform
  creation : ℕ → Creation
  givenTracing : ℕ → TraceInstrumentations
  givenMetrics : ℕ → MetricInstrumentations
  givenLogging : ℕ → LogInstrumentations

namespace OptionsInstances

variable (P : OptionsInstances)

/-- What the parser enumerates for the `k`th object. -/
def enumeratedTracing (k : ℕ) : Bool × TraceInstrumentations :=
  enabledTraceInstrumentations (P.creation k).env (configured (P.creation k).env .traces)

def enumeratedMetrics (k : ℕ) : Bool × MetricInstrumentations :=
  enabledMetricInstrumentations (P.creation k).env (configured (P.creation k).env .metrics)

def enumeratedLogging (k : ℕ) : Bool × LogInstrumentations :=
  enabledLogInstrumentations (P.creation k).env (configured (P.creation k).env .logs)

def tracingContents : SetRef → TraceInstrumentations :=
  SetRef.contents TraceInstrumentations.all (fun k => (P.enumeratedTracing k).2) P.givenTracing

def metricsContents : SetRef → MetricInstrumentations :=
  SetRef.contents MetricInstrumentations.all (fun k => (P.enumeratedMetrics k).2) P.givenMetrics

def loggingContents : SetRef → LogInstrumentations :=
  SetRef.contents LogInstrumentations.all (fun k => (P.enumeratedLogging k).2) P.givenLogging

/-- The `k`th options object. -/
def object (k : ℕ) : CompositeElasticOpenTelemetryOptions :=
  let c := P.creation k
  (create P.platform c.env c.configuration c.options
    { c.initializers with
      tracing := c.tracing.map P.tracingContents
      metrics := c.metrics.map P.metricsContents
      logging := c.logging.map P.loggingContents }).run c.calls

/-- The set objects that the getters of the `k`th options object return. -/
def setRefs (k : ℕ) : SetRefs where
  tracing := (instrumentationCell "Tracing".toList .all (P.enumeratedTracing k).1 (.parsed k)
    (P.creation k).tracing).value.getD .all
  metrics := (instrumentationCell "Metrics".toList .all (P.enumeratedMetrics k).1 (.parsed k)
    (P.creation k).metrics).value.getD .all
  logging := (instrumentationCell "Logging".toList .all (P.enumeratedLogging k).1 (.parsed k)
    (P.creation k).logging).value.getD .all

/-- The contents of a set object that a getter returns. -/
theorem contents_getD {T : Type} (f : SetRef → Finset T) (key : Str) (opted : Bool)
    (enumerated : SetRef) (initializer : Option SetRef) :
    (instrumentationCell key (f .all) opted (f enumerated) (initializer.map f)).value.getD
        (f .all) =
      f ((instrumentationCell key .all opted enumerated initializer).value.getD .all) := by
  rw [value_instrumentationCell_map, Option.getD_map]

/-- The set objects hold what the getters of the options object give. -/
theorem contents_setRefs (k : ℕ) :
    (P.object k).tracing = P.tracingContents (P.setRefs k).tracing ∧
    (P.object k).metrics = P.metricsContents (P.setRefs k).metrics ∧
    (P.object k).logging = P.loggingContents (P.setRefs k).logging := by
  have hcells := toInstrumentationCells_run (create P.platform (P.creation k).env
    (P.creation k).configuration (P.creation k).options
    { (P.creation k).initializers with
      tracing := (P.creation k).tracing.map P.tracingContents
      metrics := (P.creation k).metrics.map P.metricsContents
      logging := (P.creation k).logging.map P.loggingContents }) (P.creation k).calls
  obtain ⟨htracing, hmetrics, hlogging⟩ := instrumentationCells_create P.platform
    (P.creation k).env (P.creation k).configuration (P.creation k).options
    { (P.creation k).initializers with
      tracing := (P.creation k).tracing.map P.tracingContents
      metrics := (P.creation k).metrics.map P.metricsContents
      logging := (P.creation k).logging.map P.loggingContents }
  refine ⟨?_, ?_, ?_⟩
  · rw [tracing, object, hcells, htracing]
    exact contents_getD P.tracingContents _ _ (.parsed k) _
  · rw [metrics, object, hcells, hmetrics]
    exact contents_getD P.metricsContents _ _ (.parsed k) _
  · rw [logging, object, hcells, hlogging]
    exact contents_getD P.loggingContents _ _ (.parsed k) _

/-- Set objects with the contents that the getters of the `k`th options object return. -/
structure HeldSets (k : ℕ) extends SetRefs where
  tracing_eq : (P.object k).tracing = P.tracingContents tracing
  metrics_eq : (P.object k).metrics = P.metricsContents metrics
  logging_eq : (P.object k).logging = P.loggingContents logging

/-- The set objects that `GetHashCode` of the `k`th options object asks for their hash codes. -/
def hashSets (k : ℕ) : P.HeldSets k where
  toSetRefs := P.setRefs k
  tracing_eq := (P.contents_setRefs k).1
  metrics_eq := (P.contents_setRefs k).2.1
  logging_eq := (P.contents_setRefs k).2.2

end OptionsInstances

/-! ### Hash codes -/

/-- The hash functions of a process: of values, of objects by reference, and `HashCode.Combine` on
the hash codes of its arguments. -/
structure Hashing where
  string : Str → BitVec 32
  logLevel : LogLevel → BitVec 32
  logTargets : LogTargets → BitVec 32
  bool : Bool → BitVec 32
  signals : Signals → BitVec 32
  tracing : SetRef → BitVec 32
  metrics : SetRef → BitVec 32
  logging : SetRef → BitVec 32
  logger : LoggerRef → BitVec 32
  combine : List (BitVec 32) → BitVec 32

/-- The two versions of `GetHashCode`: with `^` for `NET462` and `NETSTANDARD2_0`, and with
`HashCode.Combine` otherwise. -/
inductive TargetFramework
  | netStandard
  | net
  deriving DecidableEq, Repr

namespace Hashing

variable (h : Hashing)

/-- The hash code of a string that may be null. -/
def nullableString (value : Option Str) : BitVec 32 := (value.map h.string).getD 0

def nullableLogger (value : Option LoggerRef) : BitVec 32 := (value.map h.logger).getD 0

end Hashing

namespace CompositeElasticOpenTelemetryOptions

/-- `GetHashCode`, of an options object that holds the given set objects. -/
def getHashCode (h : Hashing) (o : CompositeElasticOpenTelemetryOptions) (sets : SetRefs) :
    TargetFramework → BitVec 32
  | .netStandard =>
    h.string o.logDirectory
      ^^^ h.logLevel o.logLevel
      ^^^ h.logTargets o.logTargets
      ^^^ h.bool o.skipOtlpExporter
      ^^^ h.bool o.skipInstrumentationAssemblyScanning
      ^^^ h.signals o.signals
      ^^^ h.tracing sets.tracing
      ^^^ h.metrics sets.metrics
      ^^^ h.logging sets.logging
      ^^^ h.nullableString o.opAmpEndpoint
      ^^^ h.nullableString o.opAmpHeaders
      ^^^ h.nullableString o.serviceName
      ^^^ h.nullableString o.resourceAttributes
      ^^^ h.nullableLogger o.additionalLogger
  | .net =>
    let hash1 := h.combine [h.string o.logDirectory, h.logLevel o.logLevel,
      h.logTargets o.logTargets, h.bool o.skipOtlpExporter]
    let hash2 := h.combine [h.signals o.signals, h.tracing sets.tracing, h.metrics sets.metrics,
      h.logging sets.logging, h.nullableLogger o.additionalLogger]
    let hash3 := h.combine [h.bool o.skipInstrumentationAssemblyScanning,
      h.nullableString o.opAmpEndpoint, h.nullableString o.opAmpHeaders,
      h.nullableString o.resourceAttributes, h.nullableString o.serviceName]
    h.combine [hash1, hash2, hash3]

variable {o o' : CompositeElasticOpenTelemetryOptions} {sets sets' : SetRefs}

/-- Apart from the set objects, the hash code is one of the settings. -/
theorem getHashCode_congr (hsettings : o.settings = o'.settings) (h : Hashing) (sets : SetRefs)
    (framework : TargetFramework) :
    getHashCode h o sets framework = getHashCode h o' sets framework := by
  simp only [settings, Settings.mk.injEq] at hsettings
  obtain ⟨hlogDirectory, hlogLevel, hlogTargets, hskipOtlpExporter, hskipScanning, hsignals, -, -,
    -, hopAmpEndpoint, hopAmpHeaders, hserviceName, hresourceAttributes, hadditionalLogger⟩ :=
    hsettings
  cases framework <;>
    simp only [getHashCode, hlogDirectory, hlogLevel, hlogTargets, hskipOtlpExporter,
      hskipScanning, hsignals, hopAmpEndpoint, hopAmpHeaders, hserviceName, hresourceAttributes,
      hadditionalLogger]

/-- Hash functions that see nothing but the set objects. -/
def setHashing (tracing metrics logging : SetRef → BitVec 32) : Hashing where
  string := fun _ => 0#32
  logLevel := fun _ => 0#32
  logTargets := fun _ => 0#32
  bool := fun _ => 0#32
  signals := fun _ => 0#32
  tracing := tracing
  metrics := metrics
  logging := logging
  logger := fun _ => 0#32
  combine := List.foldl (· ^^^ ·) 0#32

theorem getHashCode_setHashing (tracing metrics logging : SetRef → BitVec 32)
    (o : CompositeElasticOpenTelemetryOptions) (sets : SetRefs) (framework : TargetFramework) :
    getHashCode (setHashing tracing metrics logging) o sets framework =
      tracing sets.tracing ^^^ metrics sets.metrics ^^^ logging sets.logging := by
  have hstring (value : Option Str) :
      (setHashing tracing metrics logging).nullableString value = 0#32 := by
    cases value <;> rfl
  have hlogger (value : Option LoggerRef) :
      (setHashing tracing metrics logging).nullableLogger value = 0#32 := by
    cases value <;> rfl
  cases framework <;> simp only [getHashCode, hstring, hlogger] <;> simp [setHashing]

/-- The hash code of one object. -/
def mark (ref : SetRef) : SetRef → BitVec 32 := fun ref' => if ref' = ref then 1#32 else 0#32

theorem eq_of_mark_eq {ref ref' : SetRef} (h : mark ref ref = mark ref ref') : ref' = ref := by
  by_contra hne
  rw [mark, mark, if_pos rfl, if_neg hne] at h
  exact absurd h (by decide)

/-- Equal options objects have equal hash codes, whatever the hash functions, only when they hold
the same set objects. -/
theorem getHashCode_eq_iff (hsettings : o.settings = o'.settings) (framework : TargetFramework) :
    (∀ h, getHashCode h o sets framework = getHashCode h o' sets' framework) ↔ sets = sets' := by
  constructor
  · intro hall
    have hsets (tracing metrics logging : SetRef → BitVec 32) :
        tracing sets.tracing ^^^ metrics sets.metrics ^^^ logging sets.logging =
          tracing sets'.tracing ^^^ metrics sets'.metrics ^^^ logging sets'.logging := by
      rw [← getHashCode_setHashing tracing metrics logging o sets framework, hall,
        getHashCode_setHashing]
    have htracing := hsets (mark sets.tracing) (fun _ => 0#32) (fun _ => 0#32)
    have hmetrics := hsets (fun _ => 0#32) (mark sets.metrics) (fun _ => 0#32)
    have hlogging := hsets (fun _ => 0#32) (fun _ => 0#32) (mark sets.logging)
    simp only [BitVec.xor_zero, BitVec.zero_xor] at htracing hmetrics hlogging
    obtain ⟨tracing, metrics, logging⟩ := sets
    obtain ⟨tracing', metrics', logging'⟩ := sets'
    rw [SetRefs.mk.injEq]
    exact ⟨(eq_of_mark_eq htracing).symm, (eq_of_mark_eq hmetrics).symm,
      (eq_of_mark_eq hlogging).symm⟩
  · rintro rfl h
    exact getHashCode_congr hsettings h sets framework

end CompositeElasticOpenTelemetryOptions

/-! ### The main result -/

/-- Some instrumentation of the signal has a switch of its own. -/
def anyOwnSwitch (env : EnvironmentDictionary) : Signal → Bool
  | .traces => TraceInstrumentation.getValues.any fun i =>
      (ownSwitch env .traces i.toStringFast).isSome
  | .metrics => MetricInstrumentation.getValues.any fun i =>
      (ownSwitch env .metrics i.toStringFast).isSome
  | .logs => LogInstrumentation.getValues.any fun i =>
      (ownSwitch env .logs i.toStringFast).isSome

/-- The set that a property initialiser gives for the signal. -/
def Creation.given (c : Creation) : Signal → Option SetRef
  | .traces => c.tracing
  | .metrics => c.metrics
  | .logs => c.logging

namespace OptionsInstances

variable (P : OptionsInstances)

/-- Where the set of the `k`th object for a signal comes from. -/
def origin (k : ℕ) (signal : Signal) : SetRef :=
  ((P.creation k).given signal).getD
    (if anyOwnSwitch (P.creation k).env signal then .parsed k else .all)

theorem toSetRefs_hashSets (k : ℕ) :
    (P.hashSets k).toSetRefs =
      ⟨P.origin k .traces, P.origin k .metrics, P.origin k .logs⟩ := by
  simp only [hashSets, setRefs, value_instrumentationCell, Option.getD_some, enumeratedTracing,
    enumeratedMetrics, enumeratedLogging, enabledTraceInstrumentations,
    enabledMetricInstrumentations, enabledLogInstrumentations, enumerateEnabled_opted]
  rfl

/-- Two options objects hold the same set object for every signal. -/
def SharesSets (j k : ℕ) : Prop := ∀ signal, P.origin j signal = P.origin k signal

theorem hashSets_eq_iff (j k : ℕ) :
    (P.hashSets j).toSetRefs = (P.hashSets k).toSetRefs ↔ P.SharesSets j k := by
  rw [toSetRefs_hashSets, toSetRefs_hashSets, SetRefs.mk.injEq]
  refine ⟨fun ⟨htraces, hmetrics, hlogs⟩ signal => ?_, fun h => ⟨h .traces, h .metrics, h .logs⟩⟩
  cases signal with
  | traces => exact htraces
  | metrics => exact hmetrics
  | logs => exact hlogs

/-- **Equality and hashing.** That two options objects of a process are equal implies that their
hash codes are, for all hash functions of values and objects, exactly when equal ones hold the same
set object for every signal. -/
theorem hashCode_agrees_iff (framework : TargetFramework) (j k : ℕ) :
    ((P.object j).equals (P.object k) = true →
      ∀ h, (P.object j).getHashCode h (P.hashSets j).toSetRefs framework =
        (P.object k).getHashCode h (P.hashSets k).toSetRefs framework) ↔
    ((P.object j).equals (P.object k) = true → P.SharesSets j k) := by
  refine imp_congr_right fun hequals => ?_
  rw [getHashCode_eq_iff (equals_iff.mp hequals), hashSets_eq_iff]

/-- Traces are switched off but for one instrumentation. -/
def onlyElasticsearch : EnvironmentDictionary := fun key =>
  if key = "OTEL_DOTNET_AUTO_TRACES_INSTRUMENTATION_ENABLED".toList then some (some "False".toList)
  else if key = "OTEL_DOTNET_AUTO_TRACES_ELASTICSEARCH_INSTRUMENTATION_ENABLED".toList then
    some (some "True".toList)
  else none

/-- Options objects that are all created in the same way. -/
def sameOptions : OptionsInstances where
  platform := .linux
  creation := fun _ =>
    { env := onlyElasticsearch, configuration := fun _ => none, options := {}, initializers := {} }
  givenTracing := fun _ => ∅
  givenMetrics := fun _ => ∅
  givenLogging := fun _ => ∅

/-- The first two of them are equal, and their hash codes are not. -/
theorem sameOptions_hashCode :
    (sameOptions.object 0).equals (sameOptions.object 1) = true ∧
    ∀ framework, ¬ ∀ h,
      (sameOptions.object 0).getHashCode h (sameOptions.hashSets 0).toSetRefs framework =
        (sameOptions.object 1).getHashCode h (sameOptions.hashSets 1).toSetRefs framework := by
  have hequals : (sameOptions.object 0).equals (sameOptions.object 1) = true :=
    equals_self (sameOptions.object 0)
  have hswitch : (ownSwitch onlyElasticsearch .traces
      TraceInstrumentation.elasticsearch.toStringFast).isSome = true := by decide
  have hopted : anyOwnSwitch onlyElasticsearch .traces = true :=
    List.any_eq_true.mpr ⟨.elasticsearch, TraceInstrumentation.mem_getValues _, hswitch⟩
  have horigin (k : ℕ) : sameOptions.origin k .traces = .parsed k := by
    have hcase : sameOptions.origin k .traces =
        if anyOwnSwitch onlyElasticsearch .traces then .parsed k else .all := rfl
    rw [hcase, if_pos hopted]
  refine ⟨hequals, fun framework hall => ?_⟩
  rw [getHashCode_eq_iff (equals_iff.mp hequals), hashSets_eq_iff] at hall
  have hsame := hall .traces
  rw [horigin, horigin] at hsame
  cases hsame

end OptionsInstances

end ElasticOpenTelemetry
