import ElasticOpenTelemetry.Configuration.InstrumentationResolution

/-!
# The flags of the enabled signals

`Signals.None` stands for "nothing enabled": `WithElasticDefaults` skips the bootstrap when it
finds it, and `Equals` compares `Signals` values. `EnvironmentParser.cs` edits the three flags of
a value that starts as `All`, which is `~0`, or as `None`; the other 29 bits are never touched.
So a value without a flag is `None` only when it has started as `None`, and two values with the
same flags are equal only when both have started alike.

`signals_none_and_equal_iff` states for which environments `None` means that nothing is enabled,
and for which pairs of environments the same flags mean equal values.
-/

namespace ElasticOpenTelemetry

open DotNet CompositeElasticOpenTelemetryOptions

/-! ### The value of `Signals` -/

/-- Nothing but the starting value and the flags matters. -/
theorem instrumentationSignals_eq_iff (a a' : Option Bool) (logs traces metrics : Bool) :
    instrumentationSignals a logs traces metrics = instrumentationSignals a' logs traces metrics ↔
      (a = some false ↔ a' = some false) := by
  revert logs traces metrics
  rcases a with _ | _ | _ <;> rcases a' with _ | _ | _ <;> decide

theorem instrumentationSignals_eq_none_iff (a : Option Bool) (logs traces metrics : Bool) :
    instrumentationSignals a logs traces metrics = Signals.none ↔
      a = some false ∧ logs = false ∧ traces = false ∧ metrics = false := by
  revert logs traces metrics
  rcases a with _ | _ | _ <;> decide

/-- The value is made up of the flags that it has, also where the parser leaves the default. -/
theorem signals_eq (p : Platform) (env : EnvironmentDictionary) :
    (ofEnvironment p env).signals = instrumentationSignals (allSwitch env)
      ((ofEnvironment p env).signals.hasFlag Signals.logs)
      ((ofEnvironment p env).signals.hasFlag Signals.traces)
      ((ofEnvironment p env).signals.hasFlag Signals.metrics) := by
  rw [signals_ofEnvironment]
  cases hassigns : assignsSignals env with
  | true =>
    obtain ⟨hlogs, htraces, hmetrics⟩ := hasFlag_instrumentationSignals (allSwitch env)
      (0 < (enabledLogInstrumentations env (configured env .logs)).2.card)
      (0 < (enabledTraceInstrumentations env (configured env .traces)).2.card)
      (0 < (enabledMetricInstrumentations env (configured env .metrics)).2.card)
    rw [if_pos rfl, hlogs, htraces, hmetrics]
  | false =>
    have hall : allSwitch env = none := by
      simp only [assignsSignals, Bool.or_eq_false_iff] at hassigns
      simpa using hassigns.1.1.1.2
    rw [if_neg Bool.false_ne_true, hall]
    decide

/-! ### The flags -/

/-- Some instrumentation of the signal is on. -/
def SomeResolved (env : EnvironmentDictionary) : Signal → Prop
  | .traces => ∃ i : TraceInstrumentation, resolved env .traces i.toStringFast = true
  | .metrics => ∃ i : MetricInstrumentation, resolved env .metrics i.toStringFast = true
  | .logs => ∃ i : LogInstrumentation, resolved env .logs i.toStringFast = true

/-- The switches set the flag of the signal. Metrics that are switched off alone keep theirs. -/
def FlagOn (env : EnvironmentDictionary) (signal : Signal) : Prop :=
  SomeResolved env signal ∨ signal = .metrics ∧ MetricsSwitchAlone env

/-- Without any switch that is about it, an instrumentation is on. -/
theorem resolved_of_none {env : EnvironmentDictionary} {signal : Signal} {name : Str}
    (hown : ownSwitch env signal name = none) (hsignal : signalSwitch env signal = none)
    (hall : allSwitch env = none) : resolved env signal name = true := by
  rw [resolved, hown, hsignal, hall]
  rfl

theorem hasFlag_iff_flagOn (p : Platform) (env : EnvironmentDictionary) (signal : Signal) :
    (ofEnvironment p env).signals.hasFlag signal.flag = true ↔ FlagOn env signal := by
  by_cases hmetrics : MetricsSwitchAlone env
  · -- the parser leaves the default, which has every flag
    obtain ⟨hassigns, -⟩ := metricsSwitchAlone_iff.mp hmetrics
    obtain ⟨-, htraces, hlogs, hall, hownTraces, -, hownLogs⟩ := id hmetrics
    rw [signals_ofEnvironment, if_neg (by simp [hassigns])]
    refine iff_of_true (by cases signal <;> decide) ?_
    cases signal with
    | traces => exact .inl ⟨.aspNet, resolved_of_none (hownTraces _) htraces hall⟩
    | metrics => exact .inr ⟨rfl, hmetrics⟩
    | logs => exact .inl ⟨.iLogger, resolved_of_none (hownLogs _) hlogs hall⟩
  · obtain ⟨⟨htraces, -⟩, ⟨hmetrics', -⟩, ⟨hlogs, -⟩⟩ :=
      (resolvesInstrumentations_iff p env).mpr hmetrics
    rw [FlagOn, or_iff_left fun h => hmetrics h.2]
    cases signal with
    | traces => exact htraces
    | metrics => exact hmetrics'
    | logs => exact hlogs

/-- Traces are on when metrics are switched off alone, so that the flag of metrics makes no
difference to whether any flag is set. -/
theorem exists_flagOn_iff (env : EnvironmentDictionary) :
    (∃ signal, FlagOn env signal) ↔ ∃ signal, SomeResolved env signal := by
  constructor
  · rintro ⟨signal, hsome | ⟨-, hmetrics⟩⟩
    · exact ⟨signal, hsome⟩
    · obtain ⟨-, htraces, -, hall, hownTraces, -, -⟩ := hmetrics
      exact ⟨.traces, .aspNet, resolved_of_none (hownTraces _) htraces hall⟩
  · rintro ⟨signal, hsome⟩
    exact ⟨signal, .inl hsome⟩

/-! ### What the value tells -/

/-- None of the three flags is set. -/
def NoFlag (signals : Signals) : Prop := ∀ signal : Signal, signals.hasFlag signal.flag = false

/-- The same flags are set. -/
def SameFlags (signals signals' : Signals) : Prop :=
  ∀ signal : Signal, signals.hasFlag signal.flag = signals'.hasFlag signal.flag

theorem noFlag_iff (p : Platform) (env : EnvironmentDictionary) :
    NoFlag (ofEnvironment p env).signals ↔ ¬ ∃ signal, SomeResolved env signal := by
  rw [← exists_flagOn_iff, not_exists]
  refine forall_congr' fun signal => ?_
  rw [← hasFlag_iff_flagOn p, Bool.not_eq_true]

theorem sameFlags_iff (p : Platform) (env env' : EnvironmentDictionary) :
    SameFlags (ofEnvironment p env).signals (ofEnvironment p env').signals ↔
      ∀ signal, FlagOn env signal ↔ FlagOn env' signal := by
  refine forall_congr' fun signal => ?_
  rw [← hasFlag_iff_flagOn p, ← hasFlag_iff_flagOn p, ← Bool.eq_iff_iff]

theorem signals_eq_none_iff (p : Platform) (env : EnvironmentDictionary) :
    (ofEnvironment p env).signals = Signals.none ↔
      allSwitch env = some false ∧ NoFlag (ofEnvironment p env).signals := by
  conv_lhs => rw [signals_eq]
  rw [instrumentationSignals_eq_none_iff]
  refine and_congr_right fun _ => ⟨fun ⟨hlogs, htraces, hmetrics⟩ signal => ?_, fun h => ?_⟩
  · cases signal with
    | traces => exact htraces
    | metrics => exact hmetrics
    | logs => exact hlogs
  · exact ⟨h .logs, h .traces, h .metrics⟩

theorem signals_eq_iff_of_sameFlags (p : Platform) {env env' : EnvironmentDictionary}
    (h : SameFlags (ofEnvironment p env).signals (ofEnvironment p env').signals) :
    (ofEnvironment p env).signals = (ofEnvironment p env').signals ↔
      (allSwitch env = some false ↔ allSwitch env' = some false) := by
  have hlogs := h .logs
  have htraces := h .traces
  have hmetrics := h .metrics
  simp only [Signal.flag] at hlogs htraces hmetrics
  rw [signals_eq p env, signals_eq p env', ← hlogs, ← htraces, ← hmetrics,
    instrumentationSignals_eq_iff]

/-- **`Signals.None` and equal values.** `None` means that no flag is set for exactly the
environments that switch all instrumentations off or leave some instrumentation on. The same flags
mean equal values for exactly the pairs of environments of which both or neither switch all
instrumentations off, and those that do not have the same flags anyway. -/
theorem signals_none_and_equal_iff (p : Platform) :
    (∀ env, ((ofEnvironment p env).signals = Signals.none ↔
        NoFlag (ofEnvironment p env).signals) ↔
      allSwitch env = some false ∨ ∃ signal, SomeResolved env signal) ∧
    ∀ env env', (SameFlags (ofEnvironment p env).signals (ofEnvironment p env').signals →
        (ofEnvironment p env).signals = (ofEnvironment p env').signals) ↔
      (allSwitch env = some false ↔ allSwitch env' = some false) ∨
        ∃ signal, ¬ (FlagOn env signal ↔ FlagOn env' signal) := by
  refine ⟨fun env => ?_, fun env env' => ?_⟩
  · rw [signals_eq_none_iff, noFlag_iff, and_iff_right_iff_imp, or_comm]
    exact or_iff_not_imp_left.symm
  · rw [← not_forall, or_comm, ← imp_iff_not_or, ← sameFlags_iff p]
    exact imp_congr_right fun h => signals_eq_iff_of_sameFlags p h

/-- All three signals are switched off one by one. -/
def signalsOff : EnvironmentDictionary := fun key =>
  if key = EnvironmentVariables.otelDotnetAutoTracesInstrumentationEnabled ∨
      key = EnvironmentVariables.otelDotnetAutoMetricsInstrumentationEnabled ∨
      key = EnvironmentVariables.otelDotnetAutoLogsInstrumentationEnabled then
    some (some "false".toList)
  else none

/-- All instrumentations are switched off at once. -/
def allOff : EnvironmentDictionary := fun key =>
  if key = EnvironmentVariables.otelDotnetAutoInstrumentationEnabled then
    some (some "false".toList)
  else none

/-- Nothing is enabled in either environment; only the second one gives `None`. -/
theorem signalsOff_ne_none :
    NoFlag (ofEnvironment .linux signalsOff).signals ∧
      (ofEnvironment .linux signalsOff).signals ≠ Signals.none ∧
      NoFlag (ofEnvironment .linux allOff).signals ∧
      (ofEnvironment .linux allOff).signals = Signals.none := by
  have hsignals : (ofEnvironment .linux signalsOff).signals = ~~~7 := by
    rw [signals_ofEnvironment]
    decide
  have hall : (ofEnvironment .linux allOff).signals = Signals.none := by
    rw [signals_ofEnvironment]
    decide
  rw [hsignals, hall]
  refine ⟨?_, by decide, ?_, rfl⟩ <;> intro signal <;> cases signal <;> decide

end ElasticOpenTelemetry
