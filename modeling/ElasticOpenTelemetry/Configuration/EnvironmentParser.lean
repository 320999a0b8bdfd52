import Mathlib.Data.Finset.Card
import ElasticOpenTelemetry.Configuration.ConfigCell
import ElasticOpenTelemetry.Configuration.Instrumentations
import ElasticOpenTelemetry.Configuration.SharedParsers

/-!
# Environment variables and the instrumentation switches

The names of `EnvironmentVariables.cs`, and `EnvironmentParser.cs`, which reads the
instrumentation switches into the `Signals` cell and the three instrumentation cells.

`mem_enumerateEnabled` gives `EnumerateEnabled`'s loop in closed form, and
`hasFlag_instrumentationSignals` the flags that the final value of `signals` has; both are what
the resolution rule of the switches is proved from.
-/

namespace ElasticOpenTelemetry

open DotNet

/-- An `IDictionary` of environment variables: a key is absent, or present with a value whose
`ToString()` may be null. -/
abbrev EnvironmentDictionary := Str → Option (Option Str)

/-- `GetSafeEnvironmentVariable`: an absent variable and a null value read as the empty
string. -/
def getSafeEnvironmentVariable (env : EnvironmentDictionary) (key : Str) : Str :=
  match env key with
  | some value => value.getD []
  | none => []

namespace EnvironmentVariables

def elasticOtelSkipOtlpExporter : Str := "ELASTIC_OTEL_SKIP_OTLP_EXPORTER".toList
def elasticOtelSkipAssemblyScanning : Str := "ELASTIC_OTEL_SKIP_ASSEMBLY_SCANNING".toList
def elasticOtelLogTargets : Str := "ELASTIC_OTEL_LOG_TARGETS".toList
def elasticOtelOpAmpEndpoint : Str := "ELASTIC_OTEL_OPAMP_ENDPOINT".toList
def elasticOtelOpAmpHeaders : Str := "ELASTIC_OTEL_OPAMP_HEADERS".toList
def otelDotnetAutoLogDirectory : Str := "OTEL_DOTNET_AUTO_LOG_DIRECTORY".toList
def otelLogLevel : Str := "OTEL_LOG_LEVEL".toList
def dotnetRunningInContainer : Str := "DOTNET_RUNNING_IN_CONTAINER".toList
def otelDotnetAutoInstrumentationEnabled : Str :=
  "OTEL_DOTNET_AUTO_INSTRUMENTATION_ENABLED".toList
def otelDotnetAutoTracesInstrumentationEnabled : Str :=
  "OTEL_DOTNET_AUTO_TRACES_INSTRUMENTATION_ENABLED".toList
def otelDotnetAutoMetricsInstrumentationEnabled : Str :=
  "OTEL_DOTNET_AUTO_METRICS_INSTRUMENTATION_ENABLED".toList
def otelDotnetAutoLogsInstrumentationEnabled : Str :=
  "OTEL_DOTNET_AUTO_LOGS_INSTRUMENTATION_ENABLED".toList
def otelExporterOtlpHeaders : Str := "OTEL_EXPORTER_OTLP_HEADERS".toList
def otelExporterOtlpTracesHeaders : Str := "OTEL_EXPORTER_OTLP_TRACES_HEADERS".toList
def otelExporterOtlpMetricsHeaders : Str := "OTEL_EXPORTER_OTLP_METRICS_HEADERS".toList
def otelExporterOtlpLogsHeaders : Str := "OTEL_EXPORTER_OTLP_LOGS_HEADERS".toList
def otelServiceName : Str := "OTEL_SERVICE_NAME".toList
def otelResourceAttributes : Str := "OTEL_RESOURCE_ATTRIBUTES".toList

/-- `SensitiveEnvironmentVariables`. -/
def sensitiveEnvironmentVariables : List Str :=
  [otelExporterOtlpHeaders, otelExporterOtlpTracesHeaders, otelExporterOtlpMetricsHeaders,
   otelExporterOtlpLogsHeaders, elasticOtelOpAmpHeaders]

end EnvironmentVariables

open EnvironmentVariables

/-! ### One signal's switches -/

section EnumerateEnabled

variable {T : Type} [DecidableEq T]

/-- The variable that switches one instrumentation of a signal. -/
def instrumentationKey (signal : Signal) (name : Str) : Str :=
  "OTEL_DOTNET_AUTO_".toList ++ toUpperInvariant signal.toStringFast ++ "_".toList ++
    toUpperInvariant name ++ "_INSTRUMENTATION_ENABLED".toList

/-- One instrumentation of `EnumerateEnabled`'s loop: whether any switch was set so far, and
the instrumentations enabled so far. -/
def enumerateStep (env : EnvironmentDictionary) (allEnabled : Bool) (signal : Signal)
    (getter : T → Str) (acc : Bool × Finset T) (instrumentation : T) : Bool × Finset T :=
  let enabled := boolParser
    (some (getSafeEnvironmentVariable env (instrumentationKey signal (getter instrumentation))))
  let instrumentations :=
    if enabled = some true ∨ enabled = none ∧ allEnabled = true then
      insert instrumentation acc.2
    else acc.2
  (if enabled.isSome then true else acc.1, instrumentations)

/-- `EnvironmentParser.EnumerateEnabled`. -/
def enumerateEnabled (env : EnvironmentDictionary) (allEnabled : Bool) (available : List T)
    (signal : Signal) (getter : T → Str) : Bool × Finset T :=
  available.foldl (enumerateStep env allEnabled signal getter) (false, ∅)

/-- The switch of one instrumentation, as the loop parses it. -/
def ownSwitch (env : EnvironmentDictionary) (signal : Signal) (name : Str) : Option Bool :=
  boolParser (some (getSafeEnvironmentVariable env (instrumentationKey signal name)))

private theorem enumerateStep_snd (env : EnvironmentDictionary) (allEnabled : Bool)
    (signal : Signal) (getter : T → Str) (acc : Bool × Finset T) (i j : T) :
    j ∈ (enumerateStep env allEnabled signal getter acc i).2 ↔
      j ∈ acc.2 ∨ j = i ∧ (ownSwitch env signal (getter i)).getD allEnabled = true := by
  simp only [enumerateStep, ownSwitch]
  cases boolParser (some (getSafeEnvironmentVariable env
      (instrumentationKey signal (getter i)))) with
  | none => cases allEnabled <;> simp [or_comm]
  | some b => cases b <;> simp [or_comm]

private theorem enumerateStep_fst (env : EnvironmentDictionary) (allEnabled : Bool)
    (signal : Signal) (getter : T → Str) (acc : Bool × Finset T) (i : T) :
    (enumerateStep env allEnabled signal getter acc i).1 =
      (acc.1 || (ownSwitch env signal (getter i)).isSome) := by
  simp only [enumerateStep, ownSwitch]
  split_ifs with h <;> simp [h]

private theorem foldl_enumerateStep (env : EnvironmentDictionary) (allEnabled : Bool)
    (signal : Signal) (getter : T → Str) (available : List T) (acc : Bool × Finset T) :
    let r := available.foldl (enumerateStep env allEnabled signal getter) acc
    r.1 = (acc.1 || available.any fun i => (ownSwitch env signal (getter i)).isSome) ∧
      ∀ j, j ∈ r.2 ↔ j ∈ acc.2 ∨
        j ∈ available ∧ (ownSwitch env signal (getter j)).getD allEnabled = true := by
  induction available generalizing acc with
  | nil => simp
  | cons i available ih =>
    obtain ⟨h1, h2⟩ := ih (enumerateStep env allEnabled signal getter acc i)
    refine ⟨?_, fun j => ?_⟩
    · rw [List.foldl_cons, h1, enumerateStep_fst, List.any_cons, Bool.or_assoc]
    · rw [List.foldl_cons, h2, enumerateStep_snd, List.mem_cons]
      constructor
      · rintro ((h | ⟨rfl, h⟩) | h)
        · exact Or.inl h
        · exact Or.inr ⟨Or.inl rfl, h⟩
        · exact Or.inr ⟨Or.inr h.1, h.2⟩
      · rintro (h | ⟨rfl | hj, h⟩)
        · exact Or.inl (Or.inl h)
        · exact Or.inl (Or.inr ⟨rfl, h⟩)
        · exact Or.inr ⟨hj, h⟩

/-- Whether any instrumentation of the signal was switched on its own. -/
theorem enumerateEnabled_opted (env : EnvironmentDictionary) (allEnabled : Bool)
    (available : List T) (signal : Signal) (getter : T → Str) :
    (enumerateEnabled env allEnabled available signal getter).1 =
      available.any fun i => (ownSwitch env signal (getter i)).isSome := by
  simpa [enumerateEnabled] using
    (foldl_enumerateStep env allEnabled signal getter available (false, ∅)).1

/-- An instrumentation is enabled by its own switch, and by the signal where that is absent. -/
theorem mem_enumerateEnabled (env : EnvironmentDictionary) (allEnabled : Bool)
    (available : List T) (signal : Signal) (getter : T → Str) (j : T) :
    j ∈ (enumerateEnabled env allEnabled available signal getter).2 ↔
      j ∈ available ∧ (ownSwitch env signal (getter j)).getD allEnabled = true := by
  simpa [enumerateEnabled] using
    (foldl_enumerateStep env allEnabled signal getter available (false, ∅)).2 j

end EnumerateEnabled

/-! ### All switches -/

/-- The four cells that the switches are read into. -/
structure InstrumentationCells where
  signalsCell : ConfigCell Signals
  tracingCell : ConfigCell TraceInstrumentations
  metricsCell : ConfigCell MetricInstrumentations
  loggingCell : ConfigCell LogInstrumentations

/-- The switch of all instrumentations. -/
def allSwitch (env : EnvironmentDictionary) : Option Bool :=
  boolParser (some (getSafeEnvironmentVariable env otelDotnetAutoInstrumentationEnabled))

/-- The variable that switches a whole signal. -/
def signalKey : Signal → Str
  | .traces => otelDotnetAutoTracesInstrumentationEnabled
  | .metrics => otelDotnetAutoMetricsInstrumentationEnabled
  | .logs => otelDotnetAutoLogsInstrumentationEnabled

/-- The switch of a whole signal. -/
def signalSwitch (env : EnvironmentDictionary) (signal : Signal) : Option Bool :=
  boolParser (some (getSafeEnvironmentVariable env (signalKey signal)))

/-- `Configured`: the signal's switch, the switch of all instrumentations, or on. -/
def configured (env : EnvironmentDictionary) (signal : Signal) : Bool :=
  ((signalSwitch env signal).or (allSwitch env)).getD true

def enabledTraceInstrumentations (env : EnvironmentDictionary) (allEnabled : Bool) :
    Bool × TraceInstrumentations :=
  enumerateEnabled env allEnabled TraceInstrumentation.getValues .traces
    TraceInstrumentation.toStringFast

def enabledMetricInstrumentations (env : EnvironmentDictionary) (allEnabled : Bool) :
    Bool × MetricInstrumentations :=
  enumerateEnabled env allEnabled MetricInstrumentation.getValues .metrics
    MetricInstrumentation.toStringFast

def enabledLogInstrumentations (env : EnvironmentDictionary) (allEnabled : Bool) :
    Bool × LogInstrumentations :=
  enumerateEnabled env allEnabled LogInstrumentation.getValues .logs
    LogInstrumentation.toStringFast

/-- One of the three updates of `signals`: set the flag of a signal with instrumentations, and
clear it otherwise. -/
def updateSignal (signals : Signals) (flag : Signals) (nonempty : Bool) : Signals :=
  if nonempty then signals ||| flag else signals &&& ~~~flag

/-- The final value of `signals`, from the default and whether each signal has an enabled
instrumentation. -/
def instrumentationSignals (allEnabled : Option Bool) (logs traces metrics : Bool) : Signals :=
  let defaultSignals :=
    match allEnabled with
    | some enabled => if enabled then Signals.all else Signals.none
    | none => Signals.all
  updateSignal (updateSignal (updateSignal defaultSignals Signals.logs logs)
    Signals.traces traces) Signals.metrics metrics

/-- `EnvironmentParser.ParseInstrumentationVariables`. -/
def parseInstrumentationVariables (env : EnvironmentDictionary) (cells : InstrumentationCells) :
    InstrumentationCells :=
  let allEnabled := allSwitch env
  let logs := signalSwitch env .logs
  let traces := signalSwitch env .traces
  let (optedTraces, traceInstrumentations) :=
    enabledTraceInstrumentations env (configured env .traces)
  let (optedMetrics, metricInstrumentations) :=
    enabledMetricInstrumentations env (configured env .metrics)
  let (optedLogs, logInstrumentations) := enabledLogInstrumentations env (configured env .logs)
  let signals := instrumentationSignals allEnabled (0 < logInstrumentations.card)
    (0 < traceInstrumentations.card) (0 < metricInstrumentations.card)
  -- the traces switch is tested twice here, and the metrics switch not at all
  let signalsCell :=
    if logs.isSome || traces.isSome || traces.isSome || allEnabled.isSome then
      cells.signalsCell.assignFromEnvironmentVariable (some signals)
    else cells.signalsCell
  let signalsCell :=
    if optedLogs || optedMetrics || optedTraces then
      signalsCell.assignFromEnvironmentVariable (some signals)
    else signalsCell
  { signalsCell := signalsCell
    tracingCell :=
      if optedTraces then
        cells.tracingCell.assignFromEnvironmentVariable (some traceInstrumentations)
      else cells.tracingCell
    metricsCell :=
      if optedMetrics then
        cells.metricsCell.assignFromEnvironmentVariable (some metricInstrumentations)
      else cells.metricsCell
    loggingCell :=
      if optedLogs then
        cells.loggingCell.assignFromEnvironmentVariable (some logInstrumentations)
      else cells.loggingCell }

/-- Whether a signal has an enabled instrumentation decides its flag, whatever the default. -/
theorem hasFlag_instrumentationSignals (allEnabled : Option Bool) (logs traces metrics : Bool) :
    (instrumentationSignals allEnabled logs traces metrics).hasFlag Signals.logs = logs ∧
    (instrumentationSignals allEnabled logs traces metrics).hasFlag Signals.traces = traces ∧
    (instrumentationSignals allEnabled logs traces metrics).hasFlag Signals.metrics = metrics := by
  revert logs traces metrics
  rcases allEnabled with _ | _ | _ <;> decide

end ElasticOpenTelemetry
