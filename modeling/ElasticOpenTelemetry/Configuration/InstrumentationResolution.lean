import ElasticOpenTelemetry.Configuration.Options

/-!
# Resolving the instrumentation switches

An instrumentation has a switch of its own, its signal has one, and there is one for all
instrumentations. The rule is that the first of the three that is set decides, and that an
instrumentation without any is on (`resolved`). The options built from the environment express
the result twice: by the flags of `Signals` and by the set of enabled instrumentations of each
signal (`FollowsSwitches`).

`resolvesInstrumentations_iff` states when they follow the rule for all three signals. The
condition for assigning the `Signals` cell tests the traces switch twice and the metrics switch
never, so an environment that only switches metrics off is not followed
(`MetricsSwitchAlone`): the metrics flag stays set.
-/

namespace ElasticOpenTelemetry

open DotNet CompositeElasticOpenTelemetryOptions

/-! ### The rule -/

/-- Whether an instrumentation is on: its own switch, the signal's, the switch of all
instrumentations, or on. -/
def resolved (env : EnvironmentDictionary) (signal : Signal) (name : Str) : Bool :=
  (((ownSwitch env signal name).or (signalSwitch env signal)).or (allSwitch env)).getD true

/-- The flag and the set of one signal follow the rule: the flag is set when some
instrumentation is on, and then the set holds the instrumentations that are on. -/
def FollowsSwitches {T : Type} (env : EnvironmentDictionary) (signal : Signal) (getter : T → Str)
    (signals : Signals) (enabled : Finset T) : Prop :=
  (signals.hasFlag signal.flag = true ↔ ∃ i, resolved env signal (getter i) = true) ∧
    (signals.hasFlag signal.flag = true →
      ∀ i, i ∈ enabled ↔ resolved env signal (getter i) = true)

/-- The options follow the rule for the three signals. -/
def ResolvesInstrumentations (env : EnvironmentDictionary)
    (o : CompositeElasticOpenTelemetryOptions) : Prop :=
  FollowsSwitches env .traces TraceInstrumentation.toStringFast o.signals o.tracing ∧
  FollowsSwitches env .metrics MetricInstrumentation.toStringFast o.signals o.metrics ∧
  FollowsSwitches env .logs LogInstrumentation.toStringFast o.signals o.logging

/-- Metrics are switched off, and no other switch is set. -/
def MetricsSwitchAlone (env : EnvironmentDictionary) : Prop :=
  signalSwitch env .metrics = some false ∧ signalSwitch env .traces = none ∧
  signalSwitch env .logs = none ∧ allSwitch env = none ∧
  (∀ i : TraceInstrumentation, ownSwitch env .traces i.toStringFast = none) ∧
  (∀ i : MetricInstrumentation, ownSwitch env .metrics i.toStringFast = none) ∧
  ∀ i : LogInstrumentation, ownSwitch env .logs i.toStringFast = none

theorem resolved_eq (env : EnvironmentDictionary) (signal : Signal) (name : Str) :
    resolved env signal name = (ownSwitch env signal name).getD (configured env signal) := by
  rw [resolved, configured, Option.or_assoc]
  cases ownSwitch env signal name <;> rfl

/-! ### One signal -/

section OneSignal

variable {T : Type} [DecidableEq T] {env : EnvironmentDictionary} {signal : Signal}
  {available : List T} {getter : T → Str} {signals : Signals}

/-- What the parser leaves in the cell of a signal: the enumerated set when one of its
instrumentations has a switch, and all instrumentations otherwise. -/
def enumeratedOrAll (env : EnvironmentDictionary) (signal : Signal) (available : List T)
    (getter : T → Str) : Finset T :=
  let r := enumerateEnabled env (configured env signal) available signal getter
  if r.1 then r.2 else available.toFinset

/-- Without switches of their own, all instrumentations of a signal resolve alike. -/
theorem resolved_of_not_opted (havailable : ∀ i, i ∈ available)
    (h : (enumerateEnabled env (configured env signal) available signal getter).1 = false)
    (i : T) : resolved env signal (getter i) = configured env signal := by
  rw [enumerateEnabled_opted, List.any_eq_false] at h
  have hown : ownSwitch env signal (getter i) = none := by simpa using h i (havailable i)
  rw [resolved_eq, hown, Option.getD_none]

/-- A flag that is set by whether the enumerated set is nonempty follows the rule. -/
theorem followsSwitches_of_card (havailable : ∀ i, i ∈ available)
    (hflag : signals.hasFlag signal.flag = decide
      (0 < (enumerateEnabled env (configured env signal) available signal getter).2.card)) :
    FollowsSwitches env signal getter signals
      (enumeratedOrAll env signal available getter) := by
  have hmem : ∀ i, i ∈ (enumerateEnabled env (configured env signal) available signal getter).2 ↔
      resolved env signal (getter i) = true := fun i => by
    rw [mem_enumerateEnabled, resolved_eq]
    exact and_iff_right (havailable i)
  have hiff : signals.hasFlag signal.flag = true ↔
      ∃ i, resolved env signal (getter i) = true := by
    rw [hflag, decide_eq_true_eq, Finset.card_pos]
    exact exists_congr hmem
  refine ⟨hiff, fun hset i => ?_⟩
  rw [enumeratedOrAll]
  by_cases hopted :
      (enumerateEnabled env (configured env signal) available signal getter).1 = true
  · rw [if_pos hopted]
    exact hmem i
  · -- no switch of its own: the set is full, and one enabled instrumentation means all are
    rw [if_neg hopted]
    have hall := resolved_of_not_opted havailable (Bool.eq_false_iff.mpr hopted)
    obtain ⟨j, hj⟩ := hiff.mp hset
    simp [havailable i, hall i, ← hall j, hj]

/-- A flag that keeps its default follows the rule exactly when the signal resolves to on. -/
theorem followsSwitches_of_default (havailable : ∀ i, i ∈ available) (hne : available ≠ [])
    (hflag : signals.hasFlag signal.flag = true)
    (h : (enumerateEnabled env (configured env signal) available signal getter).1 = false) :
    FollowsSwitches env signal getter signals (enumeratedOrAll env signal available getter) ↔
      configured env signal = true := by
  have hall := resolved_of_not_opted havailable h
  constructor
  · rintro ⟨hiff, -⟩
    obtain ⟨i, hi⟩ := hiff.mp hflag
    rwa [hall i] at hi
  · intro hon
    obtain ⟨i, hi⟩ := List.exists_mem_of_ne_nil available hne
    refine ⟨iff_of_true hflag ⟨i, by rw [hall i, hon]⟩, fun _ j => ?_⟩
    rw [enumeratedOrAll, if_neg (by simp [h])]
    simp [havailable j, hall j, hon]

end OneSignal

/-! ### The options built from an environment -/

/-- Whether the parser assigns the `Signals` cell. -/
def assignsSignals (env : EnvironmentDictionary) : Bool :=
  (signalSwitch env .logs).isSome || (signalSwitch env .traces).isSome ||
  (allSwitch env).isSome ||
  (enabledLogInstrumentations env (configured env .logs)).1 ||
  (enabledMetricInstrumentations env (configured env .metrics)).1 ||
  (enabledTraceInstrumentations env (configured env .traces)).1

theorem signals_ofEnvironment (p : Platform) (env : EnvironmentDictionary) :
    (ofEnvironment p env).signals =
      if assignsSignals env then
        instrumentationSignals (allSwitch env)
          (0 < (enabledLogInstrumentations env (configured env .logs)).2.card)
          (0 < (enabledTraceInstrumentations env (configured env .traces)).2.card)
          (0 < (enabledMetricInstrumentations env (configured env .metrics)).2.card)
      else Signals.all := by
  simp only [signals, ofEnvironment, initial, parseInstrumentationVariables, assignsSignals,
    Bool.or_assoc]
  cases (signalSwitch env .logs).isSome <;> cases (signalSwitch env .traces).isSome <;>
    cases (allSwitch env).isSome <;>
    cases (enabledLogInstrumentations env (configured env .logs)).1 <;>
    cases (enabledMetricInstrumentations env (configured env .metrics)).1 <;>
    cases (enabledTraceInstrumentations env (configured env .traces)).1 <;> rfl

private theorem getD_assigned {T : Type} (key : Str) (r : Bool × Finset T) (all : Finset T) :
    (if r.1 then (ConfigCell.new key (some all)).assignFromEnvironmentVariable (some r.2)
      else ConfigCell.new key (some all)).value.getD all = if r.1 then r.2 else all := by
  obtain ⟨opted, enabled⟩ := r
  cases opted <;> rfl

theorem tracing_ofEnvironment (p : Platform) (env : EnvironmentDictionary) :
    (ofEnvironment p env).tracing = enumeratedOrAll env .traces TraceInstrumentation.getValues
      TraceInstrumentation.toStringFast :=
  getD_assigned _ (enabledTraceInstrumentations env (configured env .traces)) _

theorem metrics_ofEnvironment (p : Platform) (env : EnvironmentDictionary) :
    (ofEnvironment p env).metrics = enumeratedOrAll env .metrics MetricInstrumentation.getValues
      MetricInstrumentation.toStringFast :=
  getD_assigned _ (enabledMetricInstrumentations env (configured env .metrics)) _

theorem logging_ofEnvironment (p : Platform) (env : EnvironmentDictionary) :
    (ofEnvironment p env).logging = enumeratedOrAll env .logs LogInstrumentation.getValues
      LogInstrumentation.toStringFast :=
  getD_assigned _ (enabledLogInstrumentations env (configured env .logs)) _

/-! ### Following the rule -/

private theorem assignsSignals_eq_false {env : EnvironmentDictionary} :
    assignsSignals env = false ↔
      signalSwitch env .traces = none ∧ signalSwitch env .logs = none ∧ allSwitch env = none ∧
      (enabledTraceInstrumentations env (configured env .traces)).1 = false ∧
      (enabledMetricInstrumentations env (configured env .metrics)).1 = false ∧
      (enabledLogInstrumentations env (configured env .logs)).1 = false := by
  simp only [assignsSignals, Bool.or_eq_false_iff, Option.isSome_eq_false_iff,
    Option.isNone_iff_eq_none]
  constructor
  · rintro ⟨⟨⟨⟨⟨hlogs, htraces⟩, hall⟩, hoptedLogs⟩, hoptedMetrics⟩, hoptedTraces⟩
    exact ⟨htraces, hlogs, hall, hoptedTraces, hoptedMetrics, hoptedLogs⟩
  · rintro ⟨htraces, hlogs, hall, hoptedTraces, hoptedMetrics, hoptedLogs⟩
    exact ⟨⟨⟨⟨⟨hlogs, htraces⟩, hall⟩, hoptedLogs⟩, hoptedMetrics⟩, hoptedTraces⟩

/-- Metrics switched off alone, in terms of what the parser computes. -/
theorem metricsSwitchAlone_iff {env : EnvironmentDictionary} :
    MetricsSwitchAlone env ↔
      assignsSignals env = false ∧ signalSwitch env .metrics = some false := by
  have htraces : (enabledTraceInstrumentations env (configured env .traces)).1 = false ↔
      ∀ i : TraceInstrumentation, ownSwitch env .traces i.toStringFast = none := by
    simp [enabledTraceInstrumentations, enumerateEnabled_opted,
      TraceInstrumentation.mem_getValues]
  have hmetrics : (enabledMetricInstrumentations env (configured env .metrics)).1 = false ↔
      ∀ i : MetricInstrumentation, ownSwitch env .metrics i.toStringFast = none := by
    simp [enabledMetricInstrumentations, enumerateEnabled_opted,
      MetricInstrumentation.mem_getValues]
  have hlogs : (enabledLogInstrumentations env (configured env .logs)).1 = false ↔
      ∀ i : LogInstrumentation, ownSwitch env .logs i.toStringFast = none := by
    simp [enabledLogInstrumentations, enumerateEnabled_opted, LogInstrumentation.mem_getValues]
  rw [assignsSignals_eq_false, htraces, hmetrics, hlogs, MetricsSwitchAlone]
  constructor
  · rintro ⟨hoff, hrest⟩
    exact ⟨hrest, hoff⟩
  · rintro ⟨hrest, hoff⟩
    exact ⟨hoff, hrest⟩

/-- **Resolution of the switches.** The options built from an environment follow the rule for
every instrumentation of every signal, unless that environment only switches metrics off. -/
theorem resolvesInstrumentations_iff (p : Platform) (env : EnvironmentDictionary) :
    ResolvesInstrumentations env (ofEnvironment p env) ↔ ¬ MetricsSwitchAlone env := by
  rw [ResolvesInstrumentations, tracing_ofEnvironment, metrics_ofEnvironment,
    logging_ofEnvironment, signals_ofEnvironment, metricsSwitchAlone_iff]
  cases hassigns : assignsSignals env with
  | true =>
    obtain ⟨hlogs, htraces, hmetrics⟩ := hasFlag_instrumentationSignals (allSwitch env)
      (0 < (enabledLogInstrumentations env (configured env .logs)).2.card)
      (0 < (enabledTraceInstrumentations env (configured env .traces)).2.card)
      (0 < (enabledMetricInstrumentations env (configured env .metrics)).2.card)
    refine iff_of_true ⟨?_, ?_, ?_⟩ (by simp)
    · exact followsSwitches_of_card TraceInstrumentation.mem_getValues htraces
    · exact followsSwitches_of_card MetricInstrumentation.mem_getValues hmetrics
    · exact followsSwitches_of_card LogInstrumentation.mem_getValues hlogs
  | false =>
    obtain ⟨htraces, hlogs, hall, hoptedTraces, hoptedMetrics, hoptedLogs⟩ :=
      assignsSignals_eq_false.mp hassigns
    -- every flag keeps its default, so a signal must resolve to on
    rw [if_neg (by simp),
      followsSwitches_of_default TraceInstrumentation.mem_getValues (by decide) (by decide)
        hoptedTraces,
      followsSwitches_of_default MetricInstrumentation.mem_getValues (by decide) (by decide)
        hoptedMetrics,
      followsSwitches_of_default LogInstrumentation.mem_getValues (by decide) (by decide)
        hoptedLogs]
    simp only [configured, htraces, hlogs, hall, Option.or_none, Option.getD_none, true_and,
      and_true]
    cases signalSwitch env .metrics with
    | none => simp
    | some enabled => cases enabled <;> simp

/-- An environment that only switches metrics off. -/
def metricsOff : EnvironmentDictionary := fun key =>
  if key = EnvironmentVariables.otelDotnetAutoMetricsInstrumentationEnabled then
    some (some "false".toList)
  else none

/-- With only metrics switched off, the metrics flag stays set. -/
theorem metricsOff_not_resolved :
    ¬ ResolvesInstrumentations metricsOff (ofEnvironment .linux metricsOff) := by
  rintro ⟨-, ⟨hiff, -⟩, -⟩
  obtain ⟨i, hi⟩ := hiff.mp (by rw [signals_ofEnvironment, if_neg (by decide)]; decide)
  revert hi
  cases i <;> decide

end ElasticOpenTelemetry
