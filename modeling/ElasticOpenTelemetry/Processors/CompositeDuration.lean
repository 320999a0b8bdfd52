import ElasticOpenTelemetry.Processors.ActivityExtensions
import Mathlib.Algebra.Order.BigOperators.Group.List

/-!
# The duration of a composite

`TryCompress` (`ActivityExtensions.cs`) adds up durations as `TimeSpan.Milliseconds`, which is the
component of a time span below the second and not its length in milliseconds. So
`Composite.DurationSum`, by its summary the sum of the durations, lacks the whole seconds.

The sum is a `double`. `durationSum_offerAll` states what it is as long as no addition rounds, and
`durationSum_iff` when that is the sum of the durations.
-/

namespace ElasticOpenTelemetry.ActivityExtensions

variable {Ref ω : Type} {heap : Heap Ref ω} {buffered : Ref} {siblings : List Ref}

/-- Sums of terms that are ordered one by one are equal only term by term. -/
theorem sum_map_eq_iff {α : Type} {f g : α → ℕ} (hle : ∀ a, f a ≤ g a) (l : List α) :
    (l.map f).sum = (l.map g).sum ↔ ∀ a ∈ l, f a = g a := by
  induction l with
  | nil => simp
  | cons a l ih =>
    have hrest : (l.map f).sum ≤ (l.map g).sum := List.sum_le_sum fun a _ => hle a
    have hfirst := hle a
    rw [List.map_cons, List.map_cons, List.sum_cons, List.sum_cons, List.forall_mem_cons, ← ih]
    omega

theorem milliseconds_le (ticks : ℕ) : milliseconds ticks ≤ totalMilliseconds ticks :=
  Nat.mod_le _ _

/-- The component is the whole of a time span below one second. -/
theorem milliseconds_eq_iff (ticks : ℕ) :
    milliseconds ticks = totalMilliseconds ticks ↔ ticks < ticksPerSecond := by
  simp only [milliseconds, totalMilliseconds, ticksPerSecond, ticksPerMillisecond]
  omega

theorem roundToDouble_of_le {n : ℕ} (h : n ≤ 2 ^ 53) : roundToDouble n = n := if_pos h

/-! ### The sum -/

section Sum

variable [DecidableEq Ref] {sibling : Ref}

/-- If all siblings are accepted, the first is taken and the others are accepted after it. -/
theorem compresses_of_forall
    (h : ∀ answer ∈ (offerAll heap buffered (sibling :: siblings)).1, answer.2 = true) :
    compresses (heap buffered) (heap sibling) = true ∧
      ∀ answer ∈ (offerAll (take heap buffered sibling) buffered siblings).1,
        answer.2 = true := by
  cases hc : compresses (heap buffered) (heap sibling) with
  | false =>
    rw [offerAll_cons_of_refused hc] at h
    exact absurd (h _ List.mem_cons_self) Bool.false_ne_true
  | true =>
    rw [offerAll_cons_of_compresses hc] at h
    exact ⟨rfl, fun answer hanswer => h answer (List.mem_cons_of_mem _ hanswer)⟩

/-- The durations of the siblings that are left are as they were. -/
theorem map_take_duration (h : buffered ∉ siblings) :
    (siblings.map fun r => milliseconds (take heap buffered sibling r).duration) =
      siblings.map fun r => milliseconds (heap r).duration := by
  refine List.map_congr_left fun r hr => ?_
  rw [take_duration]
  rintro rfl
  exact h hr

/-- The sum so far, which before the first sibling is the share of the span itself. -/
def sumSoFar (activity : Activity Ref ω) : ℕ :=
  match activity.composite with
  | some c => c.durationSum
  | none => milliseconds activity.duration

omit [DecidableEq Ref] in
theorem durationSum_merged (buffered sibling : Activity Ref ω) :
    (merged buffered sibling).durationSum =
      roundToDouble (sumSoFar buffered + milliseconds sibling.duration) := by
  rw [merged, sumSoFar]
  cases buffered.composite with
  | none => rfl
  | some c => rfl

/-- The sum of the components, as long as no addition rounds; by induction on the siblings. -/
theorem sumSoFar_offerAll (hself : buffered ∉ siblings)
    (hall : ∀ answer ∈ (offerAll heap buffered siblings).1, answer.2 = true)
    (hexact : sumSoFar (heap buffered) +
      (siblings.map fun r => milliseconds (heap r).duration).sum ≤ 2 ^ 53) :
    sumSoFar ((offerAll heap buffered siblings).2 buffered) =
      sumSoFar (heap buffered) + (siblings.map fun r => milliseconds (heap r).duration).sum := by
  induction siblings generalizing heap with
  | nil => rfl
  | cons sibling siblings ih =>
    obtain ⟨htaken, hrest⟩ := compresses_of_forall hall
    have hself' : buffered ∉ siblings := fun h => hself (List.mem_cons_of_mem _ h)
    rw [List.map_cons, List.sum_cons] at hexact ⊢
    have hfirst : sumSoFar (take heap buffered sibling buffered) =
        sumSoFar (heap buffered) + milliseconds (heap sibling).duration := by
      rw [sumSoFar, take_composite]
      exact (durationSum_merged _ _).trans (roundToDouble_of_le (by omega))
    rw [offerAll_cons_of_compresses htaken, ih hself' hrest, hfirst, map_take_duration hself',
      Nat.add_assoc]
    rw [hfirst, map_take_duration hself']
    omega

/-- The first sibling brings the share of the buffered span with it. -/
theorem durationSum_offerAll (hfresh : (heap buffered).composite = none)
    (hne : siblings ≠ []) (hself : buffered ∉ siblings)
    (hall : ∀ answer ∈ (offerAll heap buffered siblings).1, answer.2 = true)
    (hexact : ((buffered :: siblings).map fun r => milliseconds (heap r).duration).sum ≤ 2 ^ 53) :
    ∃ c, ((offerAll heap buffered siblings).2 buffered).composite = some c ∧
      c.durationSum =
        ((buffered :: siblings).map fun r => milliseconds (heap r).duration).sum := by
  have hshare : sumSoFar (heap buffered) = milliseconds (heap buffered).duration := by
    rw [sumSoFar, hfresh]
  rw [List.map_cons, List.sum_cons, ← hshare] at hexact ⊢
  have hsum := sumSoFar_offerAll hself hall hexact
  obtain ⟨sibling, rest, rfl⟩ := List.exists_cons_of_ne_nil hne
  have hfollows : Follows heap (offerAll heap buffered (sibling :: rest)).2 buffered
      ([] ++ accepted (offerAll heap buffered (sibling :: rest)).1) :=
    follows_offerAll (follows_initial hfresh)
  rw [offerAll_cons_of_compresses (compresses_of_forall hall).1] at hfollows hsum ⊢
  obtain ⟨c, hc, -⟩ := hfollows.composite sibling rfl
  refine ⟨c, hc, ?_⟩
  rwa [sumSoFar, hc] at hsum

/-- The sum is the sum of the durations exactly when each of them is below one second. -/
theorem durationSum_iff (hfresh : (heap buffered).composite = none) (hne : siblings ≠ [])
    (hself : buffered ∉ siblings)
    (hall : ∀ answer ∈ (offerAll heap buffered siblings).1, answer.2 = true)
    (hexact : ((buffered :: siblings).map fun r => milliseconds (heap r).duration).sum ≤ 2 ^ 53) :
    (∃ c, ((offerAll heap buffered siblings).2 buffered).composite = some c ∧
      c.durationSum =
        ((buffered :: siblings).map fun r => totalMilliseconds (heap r).duration).sum) ↔
    ∀ r ∈ buffered :: siblings, (heap r).duration < ticksPerSecond := by
  obtain ⟨c, hc, hsum⟩ := durationSum_offerAll hfresh hne hself hall hexact
  have hiff : (∃ c', ((offerAll heap buffered siblings).2 buffered).composite = some c' ∧
      c'.durationSum =
        ((buffered :: siblings).map fun r => totalMilliseconds (heap r).duration).sum) ↔
      c.durationSum =
        ((buffered :: siblings).map fun r => totalMilliseconds (heap r).duration).sum := by
    simp [hc]
  rw [hiff, hsum, sum_map_eq_iff fun r => milliseconds_le (heap r).duration]
  simp only [milliseconds_eq_iff]

end Sum

/-- Spans of one millisecond. -/
theorem durationSum_iff_everyThird :
    ∃ c, ((offerAll everyThird 0 [3, 6]).2 0).composite = some c ∧ c.durationSum = 3 :=
  (durationSum_iff rfl (by decide) (by decide) (by decide) (by decide)).mpr (by decide)

/-- Spans of one second and a half. -/
def slow : Heap ℕ Empty := fun _ => { clientSpan "GET".toList with duration := 15000000 }

/-- Two of them last three seconds, of which one is counted. -/
theorem durationSum_lacks_seconds :
    (slow 0).composite = none ∧ (offerAll slow 0 [1]).1 = [(1, true)] ∧
      (((offerAll slow 0 [1]).2 0).composite.map Composite.durationSum) = some 1000 ∧
      ([0, 1].map fun r => totalMilliseconds (slow r).duration).sum = 3000 := by
  decide

end ElasticOpenTelemetry.ActivityExtensions
