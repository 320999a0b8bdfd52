import ElasticOpenTelemetry.Bootstrap
import ElasticOpenTelemetry.Foundations.NestedCalls

/-!
# Applying the defaults to a builder

`SignalBuilder.WithElasticDefaults` configures a builder and remembers that it has, in a
`BuilderState` under the builder in `BuilderStateTable` (`SignalBuilder.cs`, `BuilderState.cs`).
A call that finds a state counts itself in it and leaves. The state is stored only after
`configureBuilder` has returned, and `configureBuilder` runs user code. That code runs under a
lock which its own thread may enter again, so a call it makes on the same builder finds no state
and configures the builder a second time; and after a callback that throws there is no state
either.

The model runs any number of threads on one builder, each with a stack of calls. A step is one
access to the table, to the counter or to the lock. What user code does inside
`configureBuilder`, and what `Bootstrap` returns, is up to the environment. So is whether
something else that a call runs throws: `Bootstrap`, which passes on what the creation of the
components throws, the code of `configureBuilder` besides the callback, or one of the loggers that
a call logs to. Nothing in `WithElasticDefaults` catches an exception, and the `using` block leaves
the lock.
-/

namespace ElasticOpenTelemetry

/-- `BuilderState`. -/
structure BuilderState where
  components : ElasticOpenTelemetryComponents
  withElasticDefaultsCounter : ℕ

namespace BuilderState

/-- `new BuilderState(components, ..)`. -/
def new (components : ElasticOpenTelemetryComponents) : BuilderState := ⟨components, 1⟩

/-- `IncrementWithElasticDefaults`. -/
def incrementWithElasticDefaults (s : BuilderState) : BuilderState :=
  { s with withElasticDefaultsCounter := s.withElasticDefaultsCounter + 1 }

end BuilderState

/-- The types of builder that `WithElasticDefaults` is called with. -/
inductive BuilderType
  | openTelemetryBuilder
  | resourceBuilder
  | tracerProviderBuilder
  | meterProviderBuilder
  | loggerProviderBuilder
  deriving DecidableEq, Repr

/-- The signal that a builder is specific to. -/
def BuilderType.signal : BuilderType → Option Signal
  | openTelemetryBuilder | resourceBuilder => none
  | tracerProviderBuilder => some .traces
  | meterProviderBuilder => some .metrics
  | loggerProviderBuilder => some .logs

/-- The signal is enabled, or the builder is not specific to one. -/
def BuilderType.isEnabled (builder : BuilderType) (configuredSignals : Signals) : Bool :=
  builder.signal.all fun signal => configuredSignals.hasFlag signal.flag

namespace SignalBuilder

open Execution

/-- `configuredSignals` of a call. -/
def configuredSignals (components : Option ElasticOpenTelemetryComponents)
    (options : Option CompositeElasticOpenTelemetryOptions) : Signals :=
  ((components.map fun c => c.options.signals).or (options.map fun o => o.signals)).getD
    Signals.all

/-- Where a call of `WithElasticDefaults` is. -/
inductive Pc
  | tryGetValue (configuredSignals : Signals)
  /-- `GetLogger`, and the test of the signal -/
  | checkSignal (configuredSignals : Signals)
  | enterLock
  | tryGetValueLocked
  /-- `ElasticOpenTelemetry.Bootstrap` and the calls up to `configureBuilder` -/
  | bootstrap
  | configureBuilder (builderState : BuilderState)
  /-- `LogStoringBuilderState` and `BuilderStateTable.Add` -/
  | add (builderState : BuilderState)
  /-- `HandleExistingBuilderState`, up to `IncrementWithElasticDefaults` -/
  | incrementWithElasticDefaults (locked : Bool)
  /-- the warning that follows, as the counter is above one now -/
  | logWarning (locked : Bool)
  /-- the end of the `using` block, reached by a return or by an exception -/
  | exitLock

/-- What is counted about the calls made so far. -/
structure History where
  calls : ℕ
  configureBuilderRuns : ℕ
  callbackExceptions : ℕ
  /-- how often `Add` has rejected a key that was present -/
  argumentExceptions : ℕ
  /-- how often `Bootstrap`, a logger or `configureBuilder` itself has thrown -/
  otherExceptions : ℕ

/-- `Lock` and the builder's entry in `BuilderStateTable`. -/
structure Shared (ι : Type) where
  lock : ReentrantLock ι
  builderState : Option BuilderState
  history : History

/-- What happens next on a thread. -/
inductive Choice
  /-- its user code calls `WithElasticDefaults`, with these configured signals -/
  | call (configuredSignals : Signals)
  | step
  /-- `Bootstrap` returns these components -/
  | bootstrap (components : ElasticOpenTelemetryComponents)
  /-- the user code that runs within `configureBuilder` returns -/
  | callbackReturns
  | callbackThrows
  /-- `Bootstrap` throws, or a logger that the call logs to, or `configureBuilder` outside of the
  callback -/
  | throws

namespace Shared

variable {ι : Type} (s : Shared ι)

def call : Shared ι :=
  { s with history := { s.history with calls := s.history.calls + 1 } }

def runConfigureBuilder : Shared ι :=
  { s with history :=
    { s.history with configureBuilderRuns := s.history.configureBuilderRuns + 1 } }

def callbackThrows : Shared ι :=
  { s with history := { s.history with callbackExceptions := s.history.callbackExceptions + 1 } }

def argumentException : Shared ι :=
  { s with history := { s.history with argumentExceptions := s.history.argumentExceptions + 1 } }

def otherException : Shared ι :=
  { s with history := { s.history with otherExceptions := s.history.otherExceptions + 1 } }

end Shared

variable {ι : Type} [DecidableEq ι]

/-- One step of a thread; the last call it has made is on top of its stack. -/
def withElasticDefaults (builder : BuilderType) :
    Pool.Program ι (Shared ι) (List Pc) Choice := fun i choice s stack =>
  match choice, stack with
  -- user code runs outside of any call, or within `configureBuilder`
  | .call signals, [] => some (s.call, [.tryGetValue signals])
  | .call signals, .configureBuilder builderState :: callers =>
    some (s.call, .tryGetValue signals :: .configureBuilder builderState :: callers)
  | .step, .tryGetValue signals :: callers =>
    match s.builderState with
    | some _ => some (s, .incrementWithElasticDefaults false :: callers)
    | none => some (s, .checkSignal signals :: callers)
  | .step, .checkSignal signals :: callers =>
    if builder.isEnabled signals then some (s, .enterLock :: callers) else some (s, callers)
  | .step, .enterLock :: callers =>
    (s.lock.enter i).map fun lock => ({ s with lock := lock }, .tryGetValueLocked :: callers)
  | .step, .tryGetValueLocked :: callers =>
    match s.builderState with
    | some _ => some (s, .incrementWithElasticDefaults true :: callers)
    | none => some (s, .bootstrap :: callers)
  | .bootstrap components, .bootstrap :: callers =>
    some (s.runConfigureBuilder, .configureBuilder (.new components) :: callers)
  | .callbackReturns, .configureBuilder builderState :: callers =>
    some (s, .add builderState :: callers)
  | .callbackThrows, .configureBuilder _ :: callers => some (s.callbackThrows, .exitLock :: callers)
  | .step, .add builderState :: callers =>
    match s.builderState with
    | some _ => some (s.argumentException, .exitLock :: callers)
    | none => some ({ s with builderState := some builderState }, .exitLock :: callers)
  | .step, .incrementWithElasticDefaults locked :: callers =>
    some ({ s with builderState := s.builderState.map .incrementWithElasticDefaults },
      .logWarning locked :: callers)
  | .step, .logWarning locked :: callers =>
    some (s, if locked then .exitLock :: callers else callers)
  | .step, .exitLock :: callers =>
    (s.lock.exit i).map fun lock => ({ s with lock := lock }, callers)
  -- an exception ends the call, and leaves the lock where the call is inside the block
  | .throws, .checkSignal _ :: callers => some (s.otherException, callers)
  | .throws, .bootstrap :: callers => some (s.otherException, .exitLock :: callers)
  | .throws, .configureBuilder _ :: callers => some (s.otherException, .exitLock :: callers)
  | .throws, .add _ :: callers => some (s.otherException, .exitLock :: callers)
  | .throws, .incrementWithElasticDefaults locked :: callers =>
    some (s.otherException, if locked then .exitLock :: callers else callers)
  | .throws, .logWarning locked :: callers =>
    some (s.otherException, if locked then .exitLock :: callers else callers)
  | _, _ => none

/-- No call has been made on the builder. -/
def initial : Pool ι (Shared ι) (List Pc) := ⟨⟨.free, none, ⟨0, 0, 0, 0, 0⟩⟩, fun _ => []⟩

/-! ### What is asked of the calls -/

/-- A call is not made from within `configureBuilder`, nor after a callback has thrown; a
callback throws only while no other call is under way; and nothing else throws. -/
def Undisturbed (a : ι × Choice) (c : Pool ι (Shared ι) (List Pc)) : Prop :=
  match a.2 with
  | .call _ => c.pc a.1 = [] ∧ c.shared.history.callbackExceptions = 0
  | .callbackThrows => ∀ j, j ≠ a.1 → c.pc j = []
  | .throws => False
  | _ => True

end SignalBuilder

end ElasticOpenTelemetry
