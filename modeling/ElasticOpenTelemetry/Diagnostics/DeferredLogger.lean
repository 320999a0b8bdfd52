import ElasticOpenTelemetry.Configuration.Options
import ElasticOpenTelemetry.Foundations.ProcessPool

/-!
# The deferred composite logger

A `CompositeLogger` that was created in deferred mode (`CompositeLogger.cs`) queues what is logged
until `Activate` creates the sub-loggers, takes the queue and drains it. `Log`, `Activate` and
`OnSafetyTimerElapsed` are written here one atomic step at a time: a read of a field, the
`CompareExchange` on `_activationState`, a region under `_activationLock` or `StaticLock`, a
dequeue. A choice of the environment says whether a level is enabled.

The sub-loggers are sinks: `routed` records, for each of them, the entries that a call of `Log`
has dealt with there and how. The fields of `Shared` from `winner` on are not in the source; they
record what has happened, and where a step goes does not depend on them.
-/

namespace ElasticOpenTelemetry.DeferredLogger

variable {ι : Type}

/-- The fields of `CompositeLogger` that hold a sub-logger, in the order in which `Log` uses
them. -/
inductive Slot
  | file
  | console
  | additional
  deriving DecidableEq, Repr

namespace Slot

/-- The sub-logger that `Log` goes to after this one. -/
def next : Slot → Option Slot
  | .file => some .console
  | .console => some .additional
  | .additional => none

/-- `Log` goes to this sub-logger before that one. -/
def before : Slot → Slot → Bool
  | .file, .console | .file, .additional | .console, .additional => true
  | _, _ => false

end Slot

/-- The calls that work on one logger: `Log`, `Activate` and `OnSafetyTimerElapsed`. -/
inductive Process (ι : Type)
  | log (i : ι)
  | activate (i : ι)
  | safetyTimer (i : ι)
  deriving DecidableEq

/-- The entries: the one that the constructor logs, and the one that a call logs. A call of
`Activate` logs its report. -/
inductive Entry (ι : Type)
  | created
  | of (p : Process ι)
  deriving DecidableEq

/-- How a sub-logger was found when an entry came to it. -/
inductive Verdict
  /-- the field was null -/
  | absent
  | filtered
  | logged
  deriving DecidableEq, Repr

/-- Whether a call of `Log` routes its own entry, or `Activate` one from the queue. -/
inductive Route
  | direct
  | drained
  deriving DecidableEq, Repr

/-- An entry that was dealt with at a sub-logger. -/
structure Routing (ι : Type) where
  entry : Entry ι
  route : Route
  verdict : Verdict

/-- The fields of the logger. A sub-logger that was created is named by its options. -/
structure Shared (ι : Type) where
  isDisposed : Bool
  options : Option CompositeElasticOpenTelemetryOptions
  /-- 0 = pending, 1 = claimed -/
  activationState : ℕ
  deferredQueue : Option (List (Entry ι))
  fileLogger : Option CompositeElasticOpenTelemetryOptions
  consoleLogger : Option CompositeElasticOpenTelemetryOptions
  additionalLogger : Option LoggerRef
  /-- the static `PreActivationInstance` refers to this logger -/
  isPreActivationInstance : Bool
  /-- `_safetyTimer` is not null -/
  safetyTimer : Bool
  /-- the queue object that `Activate` has taken -/
  capturedQueue : List (Entry ι)
  /-- the call whose `CompareExchange` has succeeded -/
  winner : Option (Process ι)
  /-- how often the sub-loggers were created -/
  creations : ℕ
  /-- every entry that was ever enqueued, in order -/
  enqueued : List (Entry ι)
  /-- the entry that `Activate` has dequeued, while it has not come past the sub-logger -/
  inHand : Slot → Option (Entry ι)
  /-- the entries dealt with at the sub-logger, in order -/
  routed : Slot → List (Routing ι)

namespace Shared

/-- The constructor in deferred mode: it logs one entry and starts the timer. -/
def deferred (options : Option CompositeElasticOpenTelemetryOptions) : Shared ι where
  isDisposed := false
  options := options
  activationState := 0
  deferredQueue := some [.created]
  fileLogger := none
  consoleLogger := none
  additionalLogger := none
  isPreActivationInstance := true
  safetyTimer := true
  capturedQueue := []
  winner := none
  creations := 0
  enqueued := [.created]
  inHand := fun _ => none
  routed := fun _ => []

/-- The field of the sub-logger is not null. -/
def isAssigned (s : Shared ι) : Slot → Bool
  | .file => s.fileLogger.isSome
  | .console => s.consoleLogger.isSome
  | .additional => s.additionalLogger.isSome

/-- The entries that calls of `Log` have routed themselves. -/
def direct (s : Shared ι) (slot : Slot) : List (Entry ι) :=
  ((s.routed slot).filter fun r => r.route = .direct).map Routing.entry

/-- The entries that `Activate` has routed from the queue. -/
def drained (s : Shared ι) (slot : Slot) : List (Entry ι) :=
  ((s.routed slot).filter fun r => r.route = .drained).map Routing.entry

/-- `queue.Enqueue`. -/
def enqueue (s : Shared ι) (queue : List (Entry ι)) (entry : Entry ι) : Shared ι :=
  { s with deferredQueue := some (queue ++ [entry]), enqueued := s.enqueued ++ [entry] }

/-- An entry comes past a sub-logger. -/
def record (s : Shared ι) (slot : Slot) (r : Routing ι) : Shared ι :=
  { s with
    routed := Function.update s.routed slot (s.routed slot ++ [r])
    inHand := if r.route = .drained then Function.update s.inHand slot none else s.inHand }

/-- The region of `Activate` under `_activationLock`. -/
def assign (s : Shared ι) (options : CompositeElasticOpenTelemetryOptions) : Shared ι :=
  { s with
    fileLogger := some options
    consoleLogger := some options
    additionalLogger := options.additionalLogger
    options := none
    capturedQueue := s.deferredQueue.getD []
    deferredQueue := none
    creations := s.creations + 1 }

end Shared

/-! ### `Log` -/

/-- Where a call of `Log` is. -/
inductive LogPc
  /-- `if (_isDisposed) return` -/
  | readIsDisposed
  /-- `if (_deferredQueue is not null)`, outside the lock -/
  | readDeferredQueue
  /-- the region under `_activationLock` -/
  | enqueueLocked
  /-- `_fileLogger is not null`, and so for the other two -/
  | test (slot : Slot)
  /-- `_fileLogger.IsEnabled(logLevel)` -/
  | isEnabled (slot : Slot)
  /-- `_fileLogger.Log(…)` -/
  | log (slot : Slot)
  | returned
  /-- a `NullReferenceException` -/
  | threw
  deriving DecidableEq, Repr

namespace LogPc

/-- `Log` has come past a sub-logger. -/
def after (slot : Slot) : LogPc :=
  match slot.next with
  | some slot => .test slot
  | none => .returned

/-- The call routes its entry to the sub-loggers. -/
def OnActivePath : LogPc → Prop
  | .test _ | .isEnabled _ | .log _ => True
  | _ => False

/-- The call has taken effect at a sub-logger: it has enqueued its entry or come past it. -/
def took : LogPc → Slot → Bool
  | .test current, slot | .isEnabled current, slot | .log current, slot => slot.before current
  | .returned, _ => true
  | _, _ => false

end LogPc

/-- `Log` with the entry `entry`. -/
def logStep (entry : Entry ι) (route : Route) (enabled : Bool) (s : Shared ι) :
    LogPc → Option (Shared ι × LogPc)
  | .readIsDisposed => if s.isDisposed then some (s, .returned) else some (s, .readDeferredQueue)
  | .readDeferredQueue =>
    if s.deferredQueue.isSome then some (s, .enqueueLocked) else some (s, .test .file)
  -- under the lock the queue is read again; it may have been taken meanwhile
  | .enqueueLocked =>
    match s.deferredQueue with
    | some queue => some (s.enqueue queue entry, .returned)
    | none => some (s, .test .file)
  | .test slot =>
    if s.isAssigned slot then some (s, .isEnabled slot)
    else some (s.record slot ⟨entry, route, .absent⟩, .after slot)
  | .isEnabled slot =>
    if s.isAssigned slot = false then some (s, .threw)
    else if enabled then some (s, .log slot)
    else some (s.record slot ⟨entry, route, .filtered⟩, .after slot)
  | .log slot =>
    if s.isAssigned slot = false then some (s, .threw)
    else some (s.record slot ⟨entry, route, .logged⟩, .after slot)
  | .returned => none
  | .threw => none

/-! ### `Activate` -/

/-- Where a call of `Activate` is. -/
inductive ActivatePc (ι : Type)
  | compareExchange
  /-- clear the static reference and return; another call has claimed the activation -/
  | clearStaticAndReturn
  /-- the region under `_activationLock` -/
  | assign
  | clearStatic
  /-- `capturedQueue.TryDequeue` -/
  | dequeue
  /-- `Log` with an entry from the queue -/
  | drain (entry : Entry ι) (pc : LogPc)
  /-- the test of `IsEnabled` in `LogCompositeLoggerActivated` -/
  | reportIsEnabled
  | report (pc : LogPc)
  | disposeTimer (reported : Bool)
  | returned (reported : Bool)
  deriving DecidableEq

namespace ActivatePc

/-- Where `Activate` is when the `Log` of an entry from the queue is at `pc`. -/
def ofDrain (entry : Entry ι) : LogPc → ActivatePc ι
  | .returned => .dequeue
  | pc => .drain entry pc

/-- Where `Activate` is when the `Log` of its report is at `pc`. -/
def ofReport : LogPc → ActivatePc ι
  | .returned => .disposeTimer true
  | pc => .report pc

theorem ofDrain_eq {entry : Entry ι} {pc : LogPc} (h : pc ≠ .returned) :
    ofDrain entry pc = .drain entry pc := by
  cases pc <;> first | rfl | exact absurd rfl h

theorem ofReport_eq {pc : LogPc} (h : pc ≠ .returned) :
    (ofReport pc : ActivatePc ι) = .report pc := by
  cases pc <;> first | rfl | exact absurd rfl h

/-- Where the `Log` of an entry, from the queue or the report, is. -/
def logPc : ActivatePc ι → Option LogPc
  | .drain _ pc | .report pc => some pc
  | _ => none

/-- The report has taken effect at a sub-logger. -/
def took : ActivatePc ι → Slot → Bool
  | .report pc, slot => pc.took slot
  | .disposeTimer reported, _ | .returned reported, _ => reported
  | _, _ => false

theorem took_ofDrain (entry : Entry ι) (pc : LogPc) (slot : Slot) :
    (ofDrain entry pc).took slot = false := by
  cases pc <;> rfl

theorem took_ofReport (pc : LogPc) (slot : Slot) :
    (ofReport pc : ActivatePc ι).took slot = pc.took slot := by
  cases pc <;> rfl

end ActivatePc

/-- `Activate(options)` by the process `p`. -/
def activateStep (p : Process ι) (options : CompositeElasticOpenTelemetryOptions) (enabled : Bool)
    (s : Shared ι) : ActivatePc ι → Option (Shared ι × ActivatePc ι)
  -- one call at most sees 0
  | .compareExchange =>
    if s.activationState = 0 then
      some ({ s with activationState := 1, winner := some p }, .assign)
    else some (s, .clearStaticAndReturn)
  | .clearStaticAndReturn => some ({ s with isPreActivationInstance := false }, .returned false)
  | .assign => some (s.assign options, .clearStatic)
  | .clearStatic => some ({ s with isPreActivationInstance := false }, .dequeue)
  | .dequeue =>
    match s.capturedQueue with
    | entry :: capturedQueue =>
      some ({ s with capturedQueue := capturedQueue, inHand := fun _ => some entry },
        .drain entry .readIsDisposed)
    | [] => some (s, .reportIsEnabled)
  | .drain entry pc =>
    (logStep entry .drained enabled s pc).map fun r => (r.1, .ofDrain entry r.2)
  | .reportIsEnabled =>
    if s.deferredQueue.isSome || enabled then some (s, .report .readIsDisposed)
    else some (s, .disposeTimer false)
  | .report pc => (logStep (.of p) .direct enabled s pc).map fun r => (r.1, .ofReport r.2)
  | .disposeTimer reported => some ({ s with safetyTimer := false }, .returned reported)
  | .returned _ => none

/-! ### `OnSafetyTimerElapsed` -/

/-- Where a call of `OnSafetyTimerElapsed` is. -/
inductive SafetyTimerPc (ι : Type)
  | readIsDisposed
  /-- `var options = _options` -/
  | readOptions
  | activate (options : CompositeElasticOpenTelemetryOptions) (pc : ActivatePc ι)
  /-- the region under `_activationLock` that discards the queue -/
  | discard
  | clearStatic
  | disposeTimer
  | returned

/-- `OnSafetyTimerElapsed`. -/
def safetyTimerStep (p : Process ι) (enabled : Bool) (s : Shared ι) :
    SafetyTimerPc ι → Option (Shared ι × SafetyTimerPc ι)
  | .readIsDisposed => if s.isDisposed then some (s, .returned) else some (s, .readOptions)
  -- the options are kept in a local; `Activate` may null the field meanwhile
  | .readOptions =>
    match s.options with
    | some options => some (s, .activate options .compareExchange)
    | none => some (s, .discard)
  | .activate options pc =>
    (activateStep p options enabled s pc).map fun r => (r.1, .activate options r.2)
  -- what was queued is lost here
  | .discard =>
    if s.deferredQueue.isSome then some ({ s with deferredQueue := none }, .clearStatic)
    else some (s, .returned)
  | .clearStatic => some ({ s with isPreActivationInstance := false }, .disposeTimer)
  | .disposeTimer => some ({ s with safetyTimer := false }, .returned)
  | .returned => none

/-! ### The system -/

/-- Where a process is. -/
inductive Pc (ι : Type)
  | log (pc : LogPc)
  | activate (pc : ActivatePc ι)
  | safetyTimer (pc : SafetyTimerPc ι)

namespace Pc

/-- Where the call of `Log` that the process is in is. -/
def logPc : Pc ι → Option LogPc
  | .log pc => some pc
  | .activate pc | .safetyTimer (.activate _ pc) => pc.logPc
  | _ => none

/-- What the process itself logs has taken effect at a sub-logger. -/
def took : Pc ι → Slot → Bool
  | .log pc, slot => pc.took slot
  | .activate pc, slot | .safetyTimer (.activate _ pc), slot => pc.took slot
  | _, _ => false

/-- The process is a call of `Activate` that has returned, made explicitly or by the timer. -/
def HasActivated : Pc ι → Prop
  | .activate (.returned _) | .safetyTimer (.activate _ (.returned _)) => True
  | _ => False

end Pc

/-- A configuration of the logger and the processes around it. -/
abbrev Config (ι : Type) := Pool (Process ι) (Shared ι) (Pc ι)

/-- One step of a process; `arg i` is the argument of the call `i` of `Activate`. -/
def step (arg : ι → CompositeElasticOpenTelemetryOptions) :
    Pool.Program (Process ι) (Shared ι) (Pc ι) Bool :=
  fun p enabled s pc =>
    match p, pc with
    | .log i, .log pc =>
      (logStep (.of (.log i)) .direct enabled s pc).map fun r => (r.1, .log r.2)
    | .activate i, .activate pc =>
      (activateStep (.activate i) (arg i) enabled s pc).map fun r => (r.1, .activate r.2)
    | .safetyTimer i, .safetyTimer pc =>
      (safetyTimerStep (.safetyTimer i) enabled s pc).map fun r => (r.1, .safetyTimer r.2)
    | _, _ => none

/-- A logger in deferred mode; no call has been made. -/
def initial (options : Option CompositeElasticOpenTelemetryOptions) : Config ι where
  shared := .deferred options
  pc := fun p =>
    match p with
    | .log _ => .log .readIsDisposed
    | .activate _ => .activate .compareExchange
    | .safetyTimer _ => .safetyTimer .readIsDisposed

/-! ### What a step is -/

/-- A step is one of the call that makes it. -/
inductive StepBy (arg : ι → CompositeElasticOpenTelemetryOptions) (enabled : Bool)
    (s t : Shared ι) : Process ι → Pc ι → Pc ι → Prop
  | log (i : ι) {pc pc' : LogPc}
      (step : logStep (.of (.log i)) .direct enabled s pc = some (t, pc')) :
      StepBy arg enabled s t (.log i) (.log pc) (.log pc')
  | activate (i : ι) {pc pc' : ActivatePc ι}
      (step : activateStep (.activate i) (arg i) enabled s pc = some (t, pc')) :
      StepBy arg enabled s t (.activate i) (.activate pc) (.activate pc')
  | safetyTimer (i : ι) {pc pc' : SafetyTimerPc ι}
      (step : safetyTimerStep (.safetyTimer i) enabled s pc = some (t, pc')) :
      StepBy arg enabled s t (.safetyTimer i) (.safetyTimer pc) (.safetyTimer pc')

theorem stepBy_of_step {arg : ι → CompositeElasticOpenTelemetryOptions} {enabled : Bool}
    {s t : Shared ι} {p : Process ι} {pc pc' : Pc ι}
    (h : step arg p enabled s pc = some (t, pc')) : StepBy arg enabled s t p pc pc' := by
  cases p <;> cases pc <;> simp only [step, reduceCtorEq, Option.map_eq_some_iff] at h
  case log.log i pc =>
    obtain ⟨r, hr, hrt⟩ := h
    obtain ⟨rfl, rfl⟩ := Prod.mk.inj hrt
    exact .log i hr
  case activate.activate i pc =>
    obtain ⟨r, hr, hrt⟩ := h
    obtain ⟨rfl, rfl⟩ := Prod.mk.inj hrt
    exact .activate i hr
  case safetyTimer.safetyTimer i pc =>
    obtain ⟨r, hr, hrt⟩ := h
    obtain ⟨rfl, rfl⟩ := Prod.mk.inj hrt
    exact .safetyTimer i hr

/-! ### What the steps of `Log` are -/

/-- `Log` is at a sub-logger. -/
def LogPc.At (pc : LogPc) (slot : Slot) : Prop :=
  pc = .test slot ∨ pc = .isEnabled slot ∨ pc = .log slot

/-- A step of `Log` on a logger that is not disposed. -/
inductive LogMove (entry : Entry ι) (route : Route) (s : Shared ι) :
    LogPc → Shared ι → LogPc → Prop
  | notDisposed : LogMove entry route s .readIsDisposed s .readDeferredQueue
  | slowPath : LogMove entry route s .readDeferredQueue s .enqueueLocked
  | activePath {pc : LogPc} (from_read : pc = .readDeferredQueue ∨ pc = .enqueueLocked)
      (active : s.deferredQueue = none) : LogMove entry route s pc s (.test .file)
  | enqueued (queue : List (Entry ι)) (deferred : s.deferredQueue = some queue) :
      LogMove entry route s .enqueueLocked (s.enqueue queue entry) .returned
  | found {pc pc' : LogPc} (slot : Slot) (at_slot : pc.At slot)
      (assigned : s.isAssigned slot = true) (stays : pc' = .isEnabled slot ∨ pc' = .log slot) :
      LogMove entry route s pc s pc'
  | past {pc : LogPc} (slot : Slot) (verdict : Verdict) (at_slot : pc.At slot)
      (absent : verdict = .absent → s.isAssigned slot = false) :
      LogMove entry route s pc (s.record slot ⟨entry, route, verdict⟩) (.after slot)
  | missing {pc : LogPc} (slot : Slot) (used : pc = .isEnabled slot ∨ pc = .log slot)
      (absent : s.isAssigned slot = false) : LogMove entry route s pc s .threw

theorem logMove_of_logStep {entry : Entry ι} {route : Route} {enabled : Bool} {s t : Shared ι}
    {pc pc' : LogPc} (hdisposed : s.isDisposed = false)
    (h : logStep entry route enabled s pc = some (t, pc')) : LogMove entry route s pc t pc' := by
  cases pc <;> simp only [logStep, hdisposed, Bool.false_eq_true, if_false] at h
  case readIsDisposed =>
    cases h
    exact .notDisposed
  case readDeferredQueue =>
    split_ifs at h with hqueue <;> cases h
    · exact .slowPath
    · exact .activePath (.inl rfl) (by simpa using hqueue)
  case enqueueLocked =>
    split at h <;> cases h
    · exact .enqueued _ ‹_›
    · exact .activePath (.inr rfl) ‹_›
  case test slot =>
    split_ifs at h with hassigned <;> cases h
    · exact .found slot (.inl rfl) hassigned (.inl rfl)
    · exact .past slot .absent (.inl rfl) fun _ => by simpa using hassigned
  case isEnabled slot =>
    split_ifs at h with hassigned <;> cases h
    · exact .missing slot (.inl rfl) hassigned
    · exact .found slot (.inr (.inl rfl)) (by simpa using hassigned) (.inr rfl)
    · exact .past slot .filtered (.inr (.inl rfl)) nofun
  case log slot =>
    split_ifs at h with hassigned <;> cases h
    · exact .missing slot (.inr rfl) hassigned
    · exact .past slot .logged (.inr (.inr rfl)) nofun
  all_goals cases h

/-! ### What the updates leave alone -/

namespace Shared

variable (s : Shared ι) (slot : Slot) (r : Routing ι)

theorem direct_record (slot' : Slot) :
    (s.record slot r).direct slot' =
      if slot' = slot ∧ r.route = .direct then s.direct slot' ++ [r.entry]
      else s.direct slot' := by
  by_cases hslot : slot' = slot
  · subst hslot
    cases hroute : r.route <;> simp [direct, record, hroute]
  · simp [direct, record, hslot]

theorem drained_record (slot' : Slot) :
    (s.record slot r).drained slot' =
      if slot' = slot ∧ r.route = .drained then s.drained slot' ++ [r.entry]
      else s.drained slot' := by
  by_cases hslot : slot' = slot
  · subst hslot
    cases hroute : r.route <;> simp [drained, record, hroute]
  · simp [drained, record, hslot]

theorem inHand_record (slot' : Slot) :
    (s.record slot r).inHand slot' =
      if slot' = slot ∧ r.route = .drained then none else s.inHand slot' := by
  by_cases hslot : slot' = slot
  · subst hslot
    cases hroute : r.route <;> simp [record, hroute]
  · cases hroute : r.route <;> simp [record, hslot, hroute]

/-- Every entry dealt with at a sub-logger was routed directly or drained. -/
theorem count_routed [DecidableEq ι] (entry : Entry ι) :
    ((s.routed slot).map Routing.entry).count entry =
      (s.direct slot).count entry + (s.drained slot).count entry := by
  unfold direct drained
  induction s.routed slot with
  | nil => rfl
  | cons r rs ih =>
    cases hroute : r.route <;> simp [hroute, List.count_cons, ih] <;> omega

end Shared

theorem LogPc.onActivePath_of_at {pc : LogPc} {slot : Slot} (hat : pc.At slot) :
    pc.OnActivePath := by
  rcases hat with rfl | rfl | rfl <;> trivial

theorem LogPc.took_of_at {pc : LogPc} {slot : Slot} (hat : pc.At slot) : pc.took slot = false := by
  rcases hat with rfl | rfl | rfl <;> cases slot <;> rfl

/-- `Log` takes effect at one sub-logger after the other. -/
theorem LogPc.took_after {pc : LogPc} {slot : Slot} (hat : pc.At slot) (slot' : Slot) :
    (LogPc.after slot).took slot' = (pc.took slot' || slot' = slot) := by
  rcases hat with rfl | rfl | rfl <;> cases slot <;> cases slot' <;> rfl

end ElasticOpenTelemetry.DeferredLogger
