import ElasticOpenTelemetry.Configuration.Options
import ElasticOpenTelemetry.Foundations.Execution

/-!
# Subscribing to event sources

`LoggingEventListener` (`LoggingEventListener.cs`) is told of every event source by a callback that
may come before its constructor has run: the base constructor makes it for the sources that exist,
and other threads for the ones that they create. The field initialisers have run by then. Sources
that come early are kept in a list, which the constructor takes under the lock and sets to null
when the event level is known; later ones are subscribed by the callback itself.

The runtime makes one callback for each source, so that the callbacks are indexed by the sources.
`subscribed_exactlyOnce` states that no source is lost or subscribed twice. What is a source of
the SDK is decided ignoring case (`subscribed_ignoringCase`).
-/

namespace ElasticOpenTelemetry.LoggingEventListener

open DotNet Execution

variable {ι : Type}

/-- `EventLevel`. -/
inductive EventLevel
  | logAlways
  | critical
  | error
  | warning
  | informational
  | verbose
  deriving DecidableEq, Repr

/-- `LogLevelToEventLevel`. -/
def logLevelToEventLevel : Option LogLevel → EventLevel
  | some .trace | some .debug => .logAlways
  | some .information => .informational
  | some .warning => .warning
  | some .error => .error
  | some .critical => .critical
  -- fallback to info level
  | some .none | none => .informational

/-- `OpenTelemetryEventSourceNamePrefix`. -/
def openTelemetryEventSourceNamePrefix : Str := "OpenTelemetry-".toList

/-- The test of `OnEventSourceCreated`. -/
def isOpenTelemetry (name : Str) : Bool :=
  startsWithIgnoreCase openTelemetryEventSourceNamePrefix name

/-- Where the constructor is. -/
inductive ConstructorPc (ι : Type)
  | assignLogger
  | assignEventLevel
  /-- `_logger.LogDebug(…)` -/
  | logEventLevel
  /-- take the list and set the field to null, under the lock -/
  | take
  /-- the loop over the list: add the next source, under the lock -/
  | add (eventSources : List ι)
  /-- `EnableEvents(eventSource, _eventLevel, …)` -/
  | enable (eventSource : ι) (eventSources : List ι)
  | logSubscribed (eventSources : List ι)
  | returned

/-- Where `OnEventSourceCreated` is. -/
inductive CallbackPc
  /-- the test of the source's name -/
  | test
  /-- `if (_eventSourcesBeforeConstructor is not null)`, outside the lock -/
  | readBefore
  /-- the same test again and the addition, under the lock -/
  | addBefore
  /-- `_subscribedEventSources.Add(eventSource)`, under the lock -/
  | add
  | enable
  | logSubscribed
  | returned
  /-- an exception: there is no logger yet -/
  | threw
  deriving DecidableEq, Repr

/-- The listener with its constructor and its callbacks. -/
structure State (ι : Type) where
  /-- `_logger` is not null -/
  logger : Bool
  eventLevel : EventLevel
  eventSourcesBeforeConstructor : Option (List ι)
  subscribedEventSources : List ι
  /-- the calls of `EnableEvents` -/
  enabled : List (ι × EventLevel)
  constructor : ConstructorPc ι
  callback : ι → CallbackPc

/-- The field initialisers have run, and nothing else. -/
def initial : State ι where
  logger := false
  eventLevel := .informational
  eventSourcesBeforeConstructor := some []
  subscribedEventSources := []
  enabled := []
  constructor := .assignLogger
  callback := fun _ => .test

/-- Who moves. -/
inductive Action (ι : Type)
  | constructor
  | callback (eventSource : ι)

section Steps

variable [DecidableEq ι] (options : CompositeElasticOpenTelemetryOptions) (name : ι → Str)

/-- A step of the constructor. -/
def constructorStep (s : State ι) : Option (State ι) :=
  match s.constructor with
  | .assignLogger => some { s with logger := true, constructor := .assignEventLevel }
  | .assignEventLevel =>
    some { s with
      eventLevel := logLevelToEventLevel (some options.logLevel)
      constructor := .logEventLevel }
  | .logEventLevel => some { s with constructor := .take }
  | .take =>
    some { s with
      eventSourcesBeforeConstructor := none
      constructor := .add (s.eventSourcesBeforeConstructor.getD []) }
  | .add [] => some { s with constructor := .returned }
  | .add (eventSource :: eventSources) =>
    some { s with
      subscribedEventSources := s.subscribedEventSources ++ [eventSource]
      constructor := .enable eventSource eventSources }
  | .enable eventSource eventSources =>
    some { s with
      enabled := s.enabled ++ [(eventSource, s.eventLevel)]
      constructor := .logSubscribed eventSources }
  | .logSubscribed eventSources => some { s with constructor := .add eventSources }
  | .returned => none

/-- The callback of a source comes to another place. -/
def State.goto (s : State ι) (i : ι) (pc : CallbackPc) : State ι :=
  { s with callback := Function.update s.callback i pc }

/-- A step of `OnEventSourceCreated`. -/
def callbackStep (i : ι) (s : State ι) : Option (State ι) :=
  match s.callback i with
  | .test => some (s.goto i (if isOpenTelemetry (name i) then .readBefore else .returned))
  | .readBefore =>
    some (s.goto i (if s.eventSourcesBeforeConstructor.isSome then .addBefore else .add))
  -- the constructor may have taken the list meanwhile
  | .addBefore =>
    match s.eventSourcesBeforeConstructor with
    | some eventSources =>
      some ({ s with eventSourcesBeforeConstructor := some (eventSources ++ [i]) }.goto i
        .returned)
    | none => some (s.goto i .add)
  | .add =>
    some ({ s with subscribedEventSources := s.subscribedEventSources ++ [i] }.goto i .enable)
  | .enable =>
    some ({ s with enabled := s.enabled ++ [(i, s.eventLevel)] }.goto i .logSubscribed)
  | .logSubscribed => some (s.goto i (if s.logger then .returned else .threw))
  | .returned => none
  | .threw => none

/-- One step. -/
def next : Action ι → State ι → Option (State ι)
  | .constructor, s => constructorStep options s
  | .callback i, s => callbackStep name i s

end Steps

/-! ### The invariant -/

namespace ConstructorPc

/-- The list has not been taken. -/
def beforeTake : ConstructorPc ι → Bool
  | .assignLogger | .assignEventLevel | .logEventLevel | .take => true
  | _ => false

/-- `_logger` is assigned. -/
def hasLogger : ConstructorPc ι → Bool
  | .assignLogger => false
  | _ => true

/-- `_eventLevel` is assigned. -/
def hasLevel : ConstructorPc ι → Bool
  | .assignLogger | .assignEventLevel => false
  | _ => true

theorem hasLevel_of_taken {pc : ConstructorPc ι} (h : pc.beforeTake = false) :
    pc.hasLevel = true := by
  cases pc <;> first | rfl | cases h

theorem hasLogger_of_taken {pc : ConstructorPc ι} (h : pc.beforeTake = false) :
    pc.hasLogger = true := by
  cases pc <;> first | rfl | cases h

/-- The sources that were taken and are still to be subscribed. -/
def rest : ConstructorPc ι → List ι
  | .add eventSources | .enable _ eventSources | .logSubscribed eventSources => eventSources
  | _ => []

/-- The source that was added and is still to be enabled. -/
def enabling : ConstructorPc ι → List ι
  | .enable eventSource _ => [eventSource]
  | _ => []

end ConstructorPc

/-- The callback has handed its source over. -/
def delivered (name : Str) : CallbackPc → ℕ
  | .enable | .logSubscribed => 1
  | .returned => if isOpenTelemetry name then 1 else 0
  | _ => 0

/-- The callback subscribes its source itself. -/
def CallbackPc.late : CallbackPc → Bool
  | .add | .enable | .logSubscribed => true
  | _ => false

/-- The callback has added its source and is about to enable it. -/
def CallbackPc.enabling : CallbackPc → ℕ
  | .enable => 1
  | _ => 0

/-- The callback has found that the source is one of the SDK. -/
def CallbackPc.matched : CallbackPc → Bool
  | .test | .returned => false
  | _ => true

section Invariant

variable [DecidableEq ι] (level : EventLevel) (name : ι → Str)

/-- What holds of the fields in every state. -/
structure Coherent (s : State ι) : Prop where
  untaken : s.eventSourcesBeforeConstructor.isSome = s.constructor.beforeTake
  logger : s.constructor.hasLogger = true → s.logger = true
  eventLevel : s.constructor.hasLevel = true → s.eventLevel = level
  enabledLevel : ∀ r ∈ s.enabled, r.2 = level

/-- What holds of a source: it is in one place at most, and there when its callback has handed it
over; it was enabled if it was added, unless whoever has added it is about to enable it. -/
structure Accounted (s : State ι) (i : ι) : Prop where
  late : (s.callback i).late = true → s.constructor.beforeTake = false
  matched : (s.callback i).matched = true → isOpenTelemetry (name i) = true
  notThrown : s.callback i ≠ .threw
  places : (s.eventSourcesBeforeConstructor.getD []).count i + s.constructor.rest.count i +
    s.subscribedEventSources.count i = delivered (name i) (s.callback i)
  enabled : (s.enabled.map Prod.fst).count i + s.constructor.enabling.count i +
    (s.callback i).enabling = s.subscribedEventSources.count i

/-- The invariant. -/
structure Inv (s : State ι) : Prop where
  coherent : Coherent level s
  accounted : ∀ i, Accounted name s i

end Invariant

/-! ### Steps -/

section Steps

variable {options : CompositeElasticOpenTelemetryOptions} {name : ι → Str} {s t : State ι} {i j : ι}
  {level : EventLevel}

theorem coherent_constructorStep
    (hs : Coherent (logLevelToEventLevel (some options.logLevel)) s)
    (h : constructorStep options s = some t) :
    Coherent (logLevelToEventLevel (some options.logLevel)) t := by
  obtain ⟨huntaken, hlogger, hlevel, henabled⟩ := hs
  rw [constructorStep] at h
  cases hpc : s.constructor with
  | assignLogger =>
    rw [hpc] at h huntaken
    cases h
    exact ⟨huntaken, fun _ => rfl, nofun, henabled⟩
  | assignEventLevel =>
    rw [hpc] at h huntaken hlogger
    cases h
    exact ⟨huntaken, fun _ => hlogger rfl, fun _ => rfl, henabled⟩
  | logEventLevel =>
    rw [hpc] at h huntaken hlogger hlevel
    cases h
    exact ⟨huntaken, fun _ => hlogger rfl, fun _ => hlevel rfl, henabled⟩
  | take =>
    rw [hpc] at h hlogger hlevel
    cases h
    exact ⟨rfl, fun _ => hlogger rfl, fun _ => hlevel rfl, henabled⟩
  | add eventSources =>
    rw [hpc] at h huntaken hlogger hlevel
    cases eventSources <;> cases h <;>
      exact ⟨huntaken, fun _ => hlogger rfl, fun _ => hlevel rfl, henabled⟩
  | enable eventSource eventSources =>
    rw [hpc] at h huntaken hlogger hlevel
    cases h
    refine ⟨huntaken, fun _ => hlogger rfl, fun _ => hlevel rfl, fun r hr => ?_⟩
    rcases List.mem_append.mp hr with hr | hr
    · exact henabled r hr
    · rw [List.mem_singleton.mp hr]
      exact hlevel rfl
  | logSubscribed eventSources =>
    rw [hpc] at h huntaken hlogger hlevel
    cases h
    exact ⟨huntaken, fun _ => hlogger rfl, fun _ => hlevel rfl, henabled⟩
  | returned =>
    rw [hpc] at h
    cases h

variable [DecidableEq ι]

theorem inv_initial (level : EventLevel) (name : ι → Str) : Inv level name (initial : State ι) where
  coherent := ⟨rfl, nofun, nofun, nofun⟩
  accounted := fun _ => ⟨nofun, nofun, nofun, rfl, rfl⟩

/-- The constructor hands sources on from the list that it has taken. -/
theorem accounted_constructorStep (hs : Accounted name s i)
    (h : constructorStep options s = some t) : Accounted name t i := by
  obtain ⟨hlate, hmatched, hthrown, hplaces, henabled⟩ := hs
  rw [constructorStep] at h
  cases hpc : s.constructor with
  | assignLogger | assignEventLevel | logEventLevel =>
    rw [hpc] at h hlate hplaces henabled
    cases h
    exact ⟨hlate, hmatched, hthrown, hplaces, henabled⟩
  | take =>
    rw [hpc] at h hplaces henabled
    cases h
    refine ⟨fun _ => rfl, hmatched, hthrown, ?_, henabled⟩
    rw [← hplaces]
    simp [ConstructorPc.rest]
  | add eventSources =>
    rw [hpc] at h hlate hplaces henabled
    cases eventSources with
    | nil =>
      cases h
      exact ⟨hlate, hmatched, hthrown, hplaces, henabled⟩
    | cons eventSource eventSources =>
      cases h
      refine ⟨hlate, hmatched, hthrown, ?_, ?_⟩
      · rw [← hplaces]
        simp only [ConstructorPc.rest, List.count_append, List.count_cons, List.count_nil]
        omega
      · rw [List.count_append, ← henabled]
        simp only [ConstructorPc.enabling, List.count_nil]
        omega
  | enable eventSource eventSources =>
    rw [hpc] at h hlate hplaces henabled
    cases h
    refine ⟨hlate, hmatched, hthrown, hplaces, ?_⟩
    rw [← henabled]
    simp only [ConstructorPc.enabling, List.map_append, List.map_cons, List.map_nil,
      List.count_append, List.count_nil]
    omega
  | logSubscribed eventSources =>
    rw [hpc] at h hlate hplaces henabled
    cases h
    exact ⟨hlate, hmatched, hthrown, hplaces, henabled⟩
  | returned =>
    rw [hpc] at h
    cases h

theorem coherent_callbackStep (hs : Coherent level s)
    (hlate : (s.callback i).late = true → s.constructor.beforeTake = false)
    (h : callbackStep name i s = some t) : Coherent level t := by
  obtain ⟨huntaken, hlogger, hlevel, henabled⟩ := hs
  rw [callbackStep] at h
  cases hpc : s.callback i with
  | test | readBefore | add | logSubscribed =>
    rw [hpc] at h
    cases h
    exact ⟨huntaken, hlogger, hlevel, henabled⟩
  | addBefore =>
    rw [hpc] at h
    dsimp only at h
    split at h <;> cases h
    · next hsome =>
      rw [hsome] at huntaken
      exact ⟨huntaken, hlogger, hlevel, henabled⟩
    · exact ⟨huntaken, hlogger, hlevel, henabled⟩
  | enable =>
    rw [hpc] at h hlate
    cases h
    refine ⟨huntaken, hlogger, hlevel, fun r hr => ?_⟩
    rcases List.mem_append.mp hr with hr | hr
    · exact henabled r hr
    · rw [List.mem_singleton.mp hr]
      exact hlevel (ConstructorPc.hasLevel_of_taken (hlate rfl))
  | returned | threw =>
    rw [hpc] at h
    cases h

/-- A callback is about its own source. -/
theorem accounted_callbackStep_of_ne (hs : Accounted name s j) (hne : j ≠ i)
    (h : callbackStep name i s = some t) : Accounted name t j := by
  obtain ⟨hlate, hmatched, hthrown, hplaces, henabled⟩ := hs
  have hsame (pc : CallbackPc) : Function.update s.callback i pc j = s.callback j :=
    Function.update_of_ne hne ..
  have hcount (xs : List ι) : (xs ++ [i]).count j = xs.count j := by
    rw [List.count_append, List.count_singleton, if_neg (by simpa using hne.symm),
      Nat.add_zero]
  rw [callbackStep] at h
  cases hpc : s.callback i with
  | test | readBefore | logSubscribed =>
    rw [hpc] at h
    cases h
    rw [← hsame _] at hlate hmatched hthrown hplaces henabled
    exact ⟨hlate, hmatched, hthrown, hplaces, henabled⟩
  | addBefore =>
    rw [hpc] at h
    dsimp only at h
    split at h <;> cases h <;> rw [← hsame _] at hlate hmatched hthrown hplaces henabled
    · next eventSources hsome =>
      refine ⟨hlate, hmatched, hthrown, ?_, henabled⟩
      rw [hsome] at hplaces
      simpa [State.goto, hcount] using hplaces
    · exact ⟨hlate, hmatched, hthrown, hplaces, henabled⟩
  | add =>
    rw [hpc] at h
    cases h
    rw [← hsame _] at hlate hmatched hthrown hplaces henabled
    refine ⟨hlate, hmatched, hthrown, ?_, ?_⟩
    · simpa only [State.goto, hcount] using hplaces
    · simpa only [State.goto, hcount] using henabled
  | enable =>
    rw [hpc] at h
    cases h
    rw [← hsame _] at hlate hmatched hthrown hplaces henabled
    refine ⟨hlate, hmatched, hthrown, hplaces, ?_⟩
    simpa only [State.goto, List.map_append, List.map_cons, List.map_nil, hcount] using henabled
  | returned | threw =>
    rw [hpc] at h
    cases h

theorem delivered_returned {name : Str} {delivers : Bool}
    (hname : isOpenTelemetry name = delivers) : delivered name .returned = delivers.toNat := by
  subst hname
  rw [delivered]
  cases isOpenTelemetry name <;> rfl

theorem accounted_goto {pc : CallbackPc} (hlate : pc.late = true → s.constructor.beforeTake = false)
    (hmatched : pc.matched = true → isOpenTelemetry (name i) = true) (hthrown : pc ≠ .threw)
    (hplaces : (s.eventSourcesBeforeConstructor.getD []).count i + s.constructor.rest.count i +
      s.subscribedEventSources.count i = delivered (name i) pc)
    (henabled : (s.enabled.map Prod.fst).count i + s.constructor.enabling.count i + pc.enabling =
      s.subscribedEventSources.count i) : Accounted name (s.goto i pc) i := by
  have hself : (s.goto i pc).callback i = pc := Function.update_self ..
  rw [← hself] at hlate hmatched hthrown hplaces henabled
  exact ⟨hlate, hmatched, hthrown, hplaces, henabled⟩

/-- A callback hands its source over to the list, or adds and enables it itself. -/
theorem accounted_callbackStep (hcoherent : Coherent level s) (hs : Accounted name s i)
    (h : callbackStep name i s = some t) : Accounted name t i := by
  obtain ⟨hlate, hmatched, hthrown, hplaces, henabled⟩ := hs
  have huntaken := hcoherent.untaken
  have hcount (xs : List ι) : (xs ++ [i]).count i = xs.count i + 1 := by
    rw [List.count_append, List.count_singleton_self]
  rw [callbackStep] at h
  cases hpc : s.callback i with
  | test =>
    rw [hpc] at h hplaces henabled
    cases h
    cases hname : isOpenTelemetry (name i) with
    | true => exact accounted_goto nofun (fun _ => hname) nofun hplaces henabled
    | false =>
      exact accounted_goto nofun nofun nofun (hplaces.trans (delivered_returned hname).symm)
        henabled
  | readBefore =>
    rw [hpc] at h hmatched hplaces henabled
    cases h
    cases hsome : s.eventSourcesBeforeConstructor.isSome with
    | true => exact accounted_goto nofun (fun _ => hmatched rfl) nofun hplaces henabled
    | false =>
      rw [hsome] at huntaken
      exact accounted_goto (fun _ => huntaken.symm) (fun _ => hmatched rfl) nofun hplaces henabled
  | addBefore =>
    rw [hpc] at h hmatched hplaces henabled
    dsimp only at h
    split at h <;> cases h
    · next eventSources hsome =>
      refine accounted_goto nofun nofun nofun ?_ henabled
      rw [hsome] at hplaces
      have hnowhere : (eventSources.count i + s.constructor.rest.count i +
        s.subscribedEventSources.count i) = 0 := hplaces
      dsimp only
      rw [delivered_returned (hmatched rfl), Option.getD_some, hcount, Bool.toNat_true]
      omega
    · next hnone =>
      rw [hnone] at huntaken
      exact accounted_goto (fun _ => huntaken.symm) (fun _ => hmatched rfl) nofun hplaces henabled
  | add =>
    rw [hpc] at h hlate hmatched hplaces henabled
    cases h
    refine accounted_goto (fun _ => hlate rfl) (fun _ => hmatched rfl) nofun ?_ ?_
    · dsimp only
      rw [hcount, ← Nat.add_assoc, hplaces]
      rfl
    · dsimp only
      rw [hcount, ← henabled]
      rfl
  | enable =>
    rw [hpc] at h hlate hmatched hplaces henabled
    cases h
    refine accounted_goto (fun _ => hlate rfl) (fun _ => hmatched rfl) nofun hplaces ?_
    dsimp only
    rw [List.map_append, List.map_singleton, hcount, ← henabled]
    exact Nat.add_right_comm _ 1 (s.constructor.enabling.count i)
  | logSubscribed =>
    rw [hpc] at h hlate hmatched hplaces henabled
    have hlogger := hcoherent.logger (ConstructorPc.hasLogger_of_taken (hlate rfl))
    rw [hlogger] at h
    cases h
    exact accounted_goto nofun nofun nofun
      (hplaces.trans (delivered_returned (hmatched rfl)).symm) henabled
  | returned | threw =>
    rw [hpc] at h
    cases h

theorem inv_next {a : Action ι} (hs : Inv (logLevelToEventLevel (some options.logLevel)) name s)
    (h : next options name a s = some t) :
    Inv (logLevelToEventLevel (some options.logLevel)) name t := by
  cases a with
  | constructor =>
    exact ⟨coherent_constructorStep hs.coherent h,
      fun i => accounted_constructorStep (hs.accounted i) h⟩
  | callback i =>
    refine ⟨coherent_callbackStep hs.coherent (hs.accounted i).late h, fun j => ?_⟩
    by_cases hj : j = i
    · subst hj
      exact accounted_callbackStep hs.coherent (hs.accounted j) h
    · exact accounted_callbackStep_of_ne (hs.accounted j) hj h

end Steps

/-! ### The main result -/

section Main

variable [DecidableEq ι]

/-- A source that was enabled once, at the level that all sources are enabled at. -/
theorem filter_eq_singleton {enabled : List (ι × EventLevel)} {level : EventLevel} {i : ι}
    (hlevel : ∀ r ∈ enabled, r.2 = level) (hcount : (enabled.map Prod.fst).count i = 1) :
    enabled.filter (fun r => r.1 = i) = [(i, level)] := by
  rw [List.count, List.countP_map, List.countP_eq_length_filter] at hcount
  obtain ⟨r, hr⟩ := List.length_eq_one_iff.mp hcount
  have hmem : r ∈ enabled.filter ((fun x => x == i) ∘ Prod.fst) := by
    rw [hr]
    exact List.mem_singleton_self r
  obtain ⟨henabled, hi⟩ := List.mem_filter.mp hmem
  have hpair : r = (i, level) := Prod.ext (by simpa using hi) (hlevel r henabled)
  rw [← hpair, ← hr]
  rfl

/-- **Each source is subscribed once.** When the constructor has returned, a source of the SDK,
whatever the case of its name, whose callback has finished was added once and enabled once, at the
level of the options; no other source was added or enabled. No callback finds `_logger` null. -/
theorem subscribed_exactlyOnce (options : CompositeElasticOpenTelemetryOptions) (name : ι → Str)
    (as : List (Action ι)) (s : State ι) (h : exec (next options name) as initial = some s) :
    (∀ i, s.callback i ≠ .threw) ∧
    (s.constructor = .returned → ∀ i, s.callback i = .returned →
      if isOpenTelemetry (name i) = true then
        s.subscribedEventSources.count i = 1 ∧
        s.enabled.filter (fun r => r.1 = i) =
          [(i, logLevelToEventLevel (some options.logLevel))]
      else i ∉ s.subscribedEventSources ∧ ∀ r ∈ s.enabled, r.1 ≠ i) := by
  have hs : Inv (logLevelToEventLevel (some options.logLevel)) name s :=
    exec_invariant (fun _ _ _ => inv_next) (inv_initial _ _) h
  refine ⟨fun i => (hs.accounted i).notThrown, fun hconstructor i hcallback => ?_⟩
  obtain ⟨-, -, -, hplaces, henabled⟩ := hs.accounted i
  -- nothing is left in the list or in the hands of the constructor
  have hnone : s.eventSourcesBeforeConstructor = none := by
    have huntaken := hs.coherent.untaken
    rw [hconstructor] at huntaken
    simpa [ConstructorPc.beforeTake] using huntaken
  rw [hnone, hconstructor, hcallback] at hplaces
  rw [hconstructor, hcallback] at henabled
  have hsubscribed : s.subscribedEventSources.count i = delivered (name i) .returned := by
    simpa [ConstructorPc.rest] using hplaces
  have hcount : (s.enabled.map Prod.fst).count i = s.subscribedEventSources.count i := by
    simpa [ConstructorPc.enabling, CallbackPc.enabling] using henabled
  split_ifs with hname
  · rw [delivered_returned hname] at hsubscribed
    rw [hsubscribed] at hcount
    exact ⟨hsubscribed, filter_eq_singleton hs.coherent.enabledLevel hcount⟩
  · rw [delivered_returned (by simpa using hname)] at hsubscribed
    rw [hsubscribed] at hcount
    refine ⟨List.count_eq_zero.mp hsubscribed, fun r hr hri => ?_⟩
    exact List.count_eq_zero.mp hcount (hri ▸ List.mem_map_of_mem hr)

end Main

/-! ### Fixed sources -/

/-- Two sources of the SDK. -/
def sdkSource : Bool → Str
  | false => "OpenTelemetry-Sdk".toList
  | true => "OpenTelemetry-Api".toList

/-- One source is there before the constructor. The callback of the other one finds the list and
loses it to the constructor before it gets the lock. -/
def aroundTake : List (Action Bool) :=
  List.replicate 3 (.callback false) ++ List.replicate 2 (.callback true) ++
    List.replicate 5 .constructor ++ List.replicate 4 (.callback true) ++
    List.replicate 3 .constructor

/-- Both are subscribed once. -/
theorem subscribed_exactlyOnce_aroundTake :
    ∃ s, exec (next (.initial .linux) sdkSource) aroundTake initial = some s ∧
      s.subscribedEventSources = [false, true] ∧
      s.subscribedEventSources.count true = 1 ∧
      s.enabled.filter (fun r => r.1 = true) = [(true, .warning)] := by
  have hrun : (exec (next (.initial .linux) sdkSource) aroundTake initial).isSome = true := rfl
  have hs := (Option.some_get hrun).symm
  exact ⟨_, hs, rfl, (subscribed_exactlyOnce _ _ _ _ hs).2 rfl true rfl⟩

/-- A source whose name does not start with the text as it is written. -/
theorem subscribed_ignoringCase :
    ∃ s, exec (next (.initial .linux) fun _ : Unit => "opentelemetry-sdk".toList)
        (List.replicate 5 .constructor ++ List.replicate 5 (.callback ())) initial = some s ∧
      s.constructor = .returned ∧ (∀ i, s.callback i = .returned) ∧
      startsWith openTelemetryEventSourceNamePrefix "opentelemetry-sdk".toList = false ∧
      s.subscribedEventSources = [()] ∧ s.enabled = [((), .warning)] := by
  have hrun : (exec (next (.initial .linux) fun _ : Unit => "opentelemetry-sdk".toList)
      (List.replicate 5 .constructor ++ List.replicate 5 (.callback ())) initial).isSome =
    true := rfl
  exact ⟨_, (Option.some_get hrun).symm, rfl, fun _ => rfl, rfl, rfl, rfl⟩

end ElasticOpenTelemetry.LoggingEventListener
