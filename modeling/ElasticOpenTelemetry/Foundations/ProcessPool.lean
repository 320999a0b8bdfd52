import Mathlib.Logic.Function.Basic
import ElasticOpenTelemetry.Foundations.Execution

/-!
# Pools of sequential processes over a shared memory

A `Pool ι σ π` is a shared memory `σ` together with the program counter of each process of an
index type `ι`, which may be infinite. A `Program` gives the one atomic step that a process can
take from its program counter; the extra argument is the environment's choice (which of
several outcomes a foreign call has, whether a wait times out). `Pool.next` interleaves the
processes: an action names the process that moves and the environment's choice.

`Pool.Outline` is a proof outline in the style of Owicki and Gries: a global assertion about the
memory, and for each process a local assertion about the memory and its program counter. A
step has to establish the global assertion and its own local one, and must not *interfere*
with the local assertion of any other process. `Outline.exec` then carries the outline along
every schedule.
-/

universe u v w x

/-- A shared memory and the program counters of the processes that work on it. -/
@[ext]
structure Pool (ι : Type u) (σ : Type v) (π : Type w) where
  /-- the shared memory -/
  shared : σ
  /-- where each process is, local variables included -/
  pc : ι → π

namespace Pool

open Execution

variable {ι : Type u} {σ : Type v} {π : Type w} {ε : Type x}

/-- One atomic step of process `i` under the environment's choice; `none` when the process is
blocked, has ended, or the choice does not apply. -/
abbrev Program (ι : Type u) (σ : Type v) (π : Type w) (ε : Type x) :=
  ι → ε → σ → π → Option (σ × π)

variable [DecidableEq ι]

/-- Let one process move. -/
def next (prog : Program ι σ π ε) (a : ι × ε) (c : Pool ι σ π) : Option (Pool ι σ π) :=
  (prog a.1 a.2 c.shared (c.pc a.1)).map fun r => ⟨r.1, Function.update c.pc a.1 r.2⟩

variable {prog : Program ι σ π ε}

theorem next_eq_some {i : ι} {e : ε} {c d : Pool ι σ π} :
    next prog (i, e) c = some d ↔ ∃ sh l, prog i e c.shared (c.pc i) = some (sh, l) ∧
      d = ⟨sh, Function.update c.pc i l⟩ := by
  simp only [next, Option.map_eq_some_iff, Prod.exists]
  exact exists_congr fun sh => exists_congr fun l => and_congr_right fun _ => eq_comm

/-- The program counter of the moving process after its step, and of every other process. -/
theorem pc_of_next {i : ι} {e : ε} {c d : Pool ι σ π} (h : next prog (i, e) c = some d) :
    (∃ sh l, prog i e c.shared (c.pc i) = some (sh, l) ∧ d.shared = sh ∧ d.pc i = l) ∧
      ∀ j, j ≠ i → d.pc j = c.pc j := by
  obtain ⟨sh, l, hstep, rfl⟩ := next_eq_some.mp h
  exact ⟨⟨sh, l, hstep, rfl, Function.update_self i l c.pc⟩,
    fun j hj => Function.update_of_ne hj l c.pc⟩

/-- A proof outline for the steps meeting `C`: a global assertion, a local assertion for each
process, and the two obligations on a step. -/
structure Outline (prog : Program ι σ π ε) (C : ι × ε → Pool ι σ π → Prop) where
  /-- what always holds of the memory -/
  global : σ → Prop
  /-- what a process may rely on at its program counter -/
  loc : ι → σ → π → Prop
  /-- a step keeps the global assertion and establishes the mover's local one -/
  step : ∀ i e c sh l, C (i, e) c → global c.shared → loc i c.shared (c.pc i) →
    prog i e c.shared (c.pc i) = some (sh, l) → global sh ∧ loc i sh l
  /-- a step does not disturb what another process relies on -/
  interference : ∀ i e c sh l, C (i, e) c → global c.shared → loc i c.shared (c.pc i) →
    prog i e c.shared (c.pc i) = some (sh, l) →
    ∀ j, j ≠ i → loc j c.shared (c.pc j) → loc j sh (c.pc j)

namespace Outline

/-- An outline from a *guarantee*: every step of `i` changes the memory only as `guar i` allows,
and such a change keeps the local assertion of every other process. -/
def ofGuarantee {C : ι × ε → Pool ι σ π → Prop} (global : σ → Prop) (loc : ι → σ → π → Prop)
    (guar : ι → σ → σ → Prop)
    (step : ∀ i e c sh l, C (i, e) c → global c.shared → loc i c.shared (c.pc i) →
      prog i e c.shared (c.pc i) = some (sh, l) →
      global sh ∧ loc i sh l ∧ guar i c.shared sh)
    (stable : ∀ i j s s' l, j ≠ i → guar i s s' → loc j s l → loc j s' l) :
    Outline prog C where
  global := global
  loc := loc
  step := fun i e c sh l hC hg hl hstep =>
    let h := step i e c sh l hC hg hl hstep
    ⟨h.1, h.2.1⟩
  interference := fun i e c sh l hC hg hl hstep j hj hlj =>
    stable i j c.shared sh (c.pc j) hj (step i e c sh l hC hg hl hstep).2.2 hlj

variable {C : ι × ε → Pool ι σ π → Prop}

/-- The outline holds in a configuration. -/
structure Holds (o : Outline prog C) (c : Pool ι σ π) : Prop where
  global : o.global c.shared
  loc : ∀ i, o.loc i c.shared (c.pc i)

theorem holds_next (o : Outline prog C) {a : ι × ε} {c d : Pool ι σ π} (hC : C a c)
    (hc : o.Holds c) (h : next prog a c = some d) : o.Holds d := by
  obtain ⟨i, e⟩ := a
  obtain ⟨sh, l, hstep, rfl⟩ := next_eq_some.mp h
  obtain ⟨hg, hl⟩ := o.step i e c sh l hC hc.global (hc.loc i) hstep
  refine ⟨hg, fun j => ?_⟩
  by_cases hj : j = i
  · subst hj
    simpa using hl
  · simpa [hj] using o.interference i e c sh l hC hc.global (hc.loc i) hstep j hj (hc.loc j)

/-- **A proof outline holds along every schedule** whose steps meet its condition. -/
theorem exec (o : Outline prog C) {as : List (ι × ε)} {c d : Pool ι σ π}
    (hC : Along (next prog) C as c) (hc : o.Holds c)
    (h : Execution.exec (next prog) as c = some d) : o.Holds d :=
  exec_induction (fun _ _ _ hCa hI hn => o.holds_next hCa hI hn) hC hc h

/-- An outline without a condition holds along every schedule. -/
theorem exec_always (o : Outline prog fun _ _ => True) {as : List (ι × ε)} {c d : Pool ι σ π}
    (hc : o.Holds c) (h : Execution.exec (next prog) as c = some d) : o.Holds d :=
  o.exec (along_of_forall (fun _ _ => trivial) as c) hc h

end Outline

end Pool
