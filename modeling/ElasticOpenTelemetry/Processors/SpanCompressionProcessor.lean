import ElasticOpenTelemetry.Foundations.Execution
import ElasticOpenTelemetry.Processors.ActivityExtensions

/-!
# The buffer of the span compression

`SpanCompressionProcessor.cs` keeps a buffered span for each parent, into which it compresses the
siblings that end after it. In `OnEnd` an `else` that was meant for the outer `if` belongs to the
inner one: a span is put into the buffer only where the buffer holds one already. It starts empty
and so stays empty (`neverSeeded`), and no run of siblings is ever compressed
(`onEnd_neverCompresses`).

Between the calls the activities change in any way (`Action.change`).
-/

namespace ElasticOpenTelemetry.SpanCompressionProcessor

open DotNet Execution ActivityExtensions

variable {Ref ω : Type}

/-- A span that `FlushBuffer` has started and stopped, with the parent whose context it has. It
has no `Parent` itself, so that its own `OnEnd` returns at once. -/
structure Replacement (Ref ω : Type) where
  parentContext : Ref
  activity : Activity Ref ω

/-- The processor and the activities. -/
structure State (Ref ω : Type) where
  heap : Heap Ref ω
  /-- `_compressionBuffer` -/
  compressionBuffer : Ref → Option Ref
  emitted : List (Replacement Ref ω)

/-- A new processor. -/
def initial (heap : Heap Ref ω) : State Ref ω where
  heap := heap
  compressionBuffer := fun _ => none
  emitted := []

/-- The display name of an exit span. -/
def childSpanCompression : Str := "ChildSpanCompression".toList

def strategyTag : Str := "span_compression.strategy".toList
def countTag : Str := "span_compression.count".toList
def durationTag : Str := "span_compression.duration".toList

/-- The first two lines of `OnStart`. -/
def markExitSpan (activity : Activity Ref ω) : Activity Ref ω :=
  if activity.displayName = childSpanCompression then { activity with isExitSpan := true }
  else activity

/-- `IsCompressionEligible` -/
def isCompressionEligible (activity : Activity Ref ω) : Bool :=
  activity.isExitSpan && (activity.status = .ok || activity.status = .unset)

/-- The three `SetTag` of `FlushBuffer`. -/
def setCompositeTags (tags : Tags ω) : Option Composite → Tags ω
  | some composite =>
    ((tags.set strategyTag (.string composite.compressionStrategy)).set countTag
      (.int composite.count)).set durationTag (.double composite.durationSum)
  | none => tags

/-- The span that replaces a buffered one: started with its name, kind, tags and start, by a
listener that samples everything, and stopped at its end. -/
def replacement (buffered : Activity Ref ω) : Activity Ref ω :=
  let started : Activity Ref ω :=
    { kind := buffered.kind
      operationName := buffered.displayName
      displayName := buffered.displayName
      parent := none
      isStopped := false
      status := .unset
      startTimeUtc := buffered.startTimeUtc
      duration := 0
      activityTraceFlags := recorded
      tags := buffered.tags
      isExitSpan := false
      composite := none }
  let activity := markExitSpan started
  let activity := { activity with tags := setCompositeTags activity.tags buffered.composite }
  { setEndTime activity (buffered.startTimeUtc + buffered.duration) with isStopped := true }

section Methods

variable [DecidableEq Ref]

/-- `OnStart` -/
def onStart (s : State Ref ω) (data : Ref) : State Ref ω :=
  { s with heap := s.heap.modify data markExitSpan }

/-- `FlushBuffer`. Where it throws, the error is the state: `compressionBuffer.Parent` is
dereferenced. -/
def flushBuffer (s : State Ref ω) (data : Ref) :
    Except (State Ref ω) (State Ref ω) :=
  match s.compressionBuffer data with
  | none => .ok s
  | some buffered =>
    match (s.heap buffered).parent with
    | none => .error s
    | some parent =>
      .ok { s with
        emitted := s.emitted ++
          [{ parentContext := parent, activity := replacement (s.heap buffered) }]
        compressionBuffer := Function.update s.compressionBuffer data none }

/-- `ConditionalWeakTable.Add`, which throws when the key is there. -/
def add (s : State Ref ω) (key value : Ref) : Except (State Ref ω) (State Ref ω) :=
  match s.compressionBuffer key with
  | some _ => .error s
  | none =>
    .ok { s with compressionBuffer := Function.update s.compressionBuffer key (some value) }

/-- `OnEnd` -/
def onEnd (s : State Ref ω) (data : Ref) : Except (State Ref ω) (State Ref ω) :=
  match (s.heap data).parent with
  | none => .ok s
  | some parent =>
    if !isCompressionEligible (s.heap data) || (s.heap parent).isStopped then
      flushBuffer s parent
    else
      match s.compressionBuffer parent with
      | some buffered => do
        let (compressed, heap) := tryCompress s.heap buffered data
        let s := { s with heap := heap }
        if !compressed then
          let s ← flushBuffer s parent
          add s parent data
        else
          let s ← add s parent data
          .ok { s with
            heap := s.heap.modify data fun activity =>
              { activity with
                activityTraceFlags := activity.activityTraceFlags &&& ~~~recorded } }
      -- the `else` is the one of the inner `if`
      | none => .ok s

/-- What happens to the processor. -/
inductive Action (Ref ω : Type)
  | onStart (data : Ref)
  | onEnd (data : Ref)
  | change (heap : Heap Ref ω)

/-- An action; a call that throws leaves its state. -/
def next : Action Ref ω → State Ref ω → Option (State Ref ω)
  | .onStart data, s => some (onStart s data)
  | .onEnd data, s =>
    match onEnd s data with
    | .ok t => some t
    | .error t => some t
  | .change heap, s => some { s with heap := heap }

/-- An `OnEnd` that returns. -/
def returned (data : Ref) (s : State Ref ω) : Option (State Ref ω) := (onEnd s data).toOption

end Methods

/-! ### Runs of siblings -/

/-- Two or more children of a running parent that are eligible and of one kind, and then one that
is not eligible. -/
structure SiblingRun (heap : Heap Ref ω) (parent : Ref) (children : List Ref) (last : Ref) :
    Prop where
  running : (heap parent).isStopped = false
  two_le : 2 ≤ children.length
  distinct : (children ++ [last]).Nodup
  parent_eq : ∀ r ∈ children ++ [last], (heap r).parent = some parent
  eligible : ∀ r ∈ children, isCompressionEligible (heap r) = true
  sameKind : ∀ r ∈ children, ∀ r' ∈ children, (heap r).kind = (heap r').kind
  not_eligible : isCompressionEligible (heap last) = false

section Main

variable [DecidableEq Ref]

/-- No `OnEnd` of the run throws, and the last one emits one span that replaces the run. -/
def Compresses (s : State Ref ω) (parent : Ref) (children : List Ref) (last : Ref) : Prop :=
  ∃ t u r, exec returned children s = some t ∧ returned last t = some u ∧
    u.emitted = t.emitted ++ [r] ∧ r.parentContext = parent ∧
    r.activity.tags.lookup countTag = some (.int (Int32.ofNat children.length))

variable {s t : State Ref ω} {heap : Heap Ref ω}

/-- Nothing is buffered for any parent. -/
def Unseeded (s : State Ref ω) : Prop := ∀ parent, s.compressionBuffer parent = none

/-- With an empty buffer there is nothing to flush and nothing to compress into, and nothing is
put into it. -/
theorem onEnd_of_unseeded (h : Unseeded s) (data : Ref) : onEnd s data = .ok s := by
  rw [onEnd]
  cases (s.heap data).parent with
  | none => rfl
  | some parent =>
    simp only [flushBuffer, h parent]
    split <;> rfl

theorem unseeded_next (action : Action Ref ω) (hs : Unseeded s ∧ s.emitted = [])
    (h : next action s = some t) : Unseeded t ∧ t.emitted = [] := by
  cases action with
  | onStart data =>
    obtain rfl : onStart s data = t := Option.some.inj h
    exact hs
  | onEnd data =>
    rw [next, onEnd_of_unseeded hs.1] at h
    obtain rfl : s = t := Option.some.inj h
    exact hs
  | change heap =>
    obtain rfl : { s with heap := heap } = t := Option.some.inj h
    exact hs

/-- In every state that is reached the buffer is empty, and nothing has been emitted. -/
theorem neverSeeded {actions : List (Action Ref ω)}
    (h : exec next actions (initial heap) = some s) : Unseeded s ∧ s.emitted = [] :=
  exec_invariant (fun action _ _ => unseeded_next action) ⟨fun _ => rfl, rfl⟩ h

/-- With an empty buffer every `OnEnd` returns and changes nothing; by induction on the run. -/
theorem exec_returned_of_unseeded (h : Unseeded s) (children : List Ref) :
    exec returned children s = some s := by
  induction children with
  | nil => rfl
  | cons child children ih =>
    rw [exec_cons, returned, onEnd_of_unseeded h]
    exact ih

/-- From no state that is reached is any run of spans compressed: every `OnEnd` returns, and none
emits a span. -/
theorem onEnd_neverCompresses {actions : List (Action Ref ω)}
    (h : exec next actions (initial heap) = some s) (parent : Ref) (children : List Ref)
    (last : Ref) :
    exec returned (children ++ [last]) s = some s ∧ ¬Compresses s parent children last := by
  have hs := (neverSeeded h).1
  refine ⟨exec_returned_of_unseeded hs _, ?_⟩
  rintro ⟨t, u, r, ht, hu, hemitted, -⟩
  obtain rfl : s = t := Option.some.inj ((exec_returned_of_unseeded hs children).symm.trans ht)
  have hlast : returned last s = some s := by
    rw [returned, onEnd_of_unseeded hs]
    rfl
  obtain rfl : s = u := Option.some.inj (hlast.symm.trans hu)
  exact List.cons_ne_nil r [] (List.append_right_eq_self.mp hemitted.symm)

end Main

/-! ### A run of three children -/

/-- A parent, and three children of which the third is not an exit span. -/
def family : Heap (Fin 4) Empty := fun r =>
  { kind := .client
    operationName := "GET".toList
    displayName := if r = 3 then "GET".toList else childSpanCompression
    parent := if r = 0 then none else some 0
    isStopped := r ≠ 0
    status := .unset
    startTimeUtc := 0
    duration := ticksPerMillisecond
    activityTraceFlags := recorded
    tags := KeyedList.empty
    isExitSpan := false
    composite := none }

/-- The children have started. -/
def started : State (Fin 4) Empty := [1, 2, 3].foldl onStart (initial family)

theorem siblingRun_started : SiblingRun started.heap 0 [1, 2] 3 where
  running := rfl
  two_le := le_rfl
  distinct := by decide
  parent_eq := by decide
  eligible := by decide
  sameKind := by decide
  not_eligible := rfl

theorem onEnd_neverCompresses_started :
    exec returned [1, 2, 3] started = some started ∧ ¬Compresses started 0 [1, 2] 3 := by
  have hrun : exec next [.onStart 1, .onStart 2, .onStart 3] (initial family) = some started := rfl
  exact onEnd_neverCompresses hrun 0 [1, 2] 3

/-- Two eligible children of one kind end and then one that is not eligible, and no span is
emitted. -/
theorem onEnd_emitsNothing :
    SiblingRun started.heap 0 [1, 2] 3 ∧
      (exec returned [1, 2, 3] started).map State.emitted = some [] ∧
      ¬Compresses started 0 [1, 2] 3 := by
  refine ⟨siblingRun_started, rfl, ?_⟩
  rintro ⟨t, u, r, ht, hu, hemitted, -⟩
  obtain rfl : started = t := Option.some.inj ht
  obtain rfl : started = u := Option.some.inj hu
  cases hemitted

end ElasticOpenTelemetry.SpanCompressionProcessor
