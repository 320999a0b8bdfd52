import Mathlib.Data.List.Basic

/-!
# Executions of a partial step function

A system is a step function `next : α → σ → Option σ`: `next a s` performs the action `a` in
the state `s`, and is `none` where `a` is disabled. A *schedule* is a list of actions;
`exec next as s` performs it from `s`. Every statement about "every interleaving" is a
statement about every schedule, and a schedule is data, so that one run can be evaluated.

* `exec_induction` is the invariant rule. It is relative to `Along next C as s`, which says
  that every step of the schedule meets the condition `C`; `exec_invariant` is the case
  without a condition.
* `exists_violation` splits a schedule at its first step that breaks a condition, which is
  how a property is shown to fail on every run that leaves the condition.
-/

namespace Execution

universe u v

variable {σ : Type u} {α : Type v} (next : α → σ → Option σ)

/-- Perform a schedule; `none` as soon as one of its actions is disabled. -/
def exec : List α → σ → Option σ
  | [], s => some s
  | a :: as, s => (next a s).bind (exec as)

theorem exec_cons (a : α) (as : List α) (s : σ) :
    exec next (a :: as) s = (next a s).bind (exec next as) := rfl

theorem exec_cons_eq_some {a : α} {as : List α} {s u : σ} :
    exec next (a :: as) s = some u ↔ ∃ t, next a s = some t ∧ exec next as t = some u := by
  rw [exec_cons, Option.bind_eq_some_iff]

/-- Every step that the schedule performs from `s` meets the condition `C`, which reads the
action and the state *before* the step. -/
def Along (C : α → σ → Prop) : List α → σ → Prop
  | [], _ => True
  | a :: as, s => C a s ∧ ∀ t, next a s = some t → Along C as t

variable {next}

theorem along_cons {C : α → σ → Prop} {a : α} {as : List α} {s t : σ}
    (h : next a s = some t) : Along next C (a :: as) s ↔ C a s ∧ Along next C as t := by
  refine and_congr_right fun _ => ⟨fun hall => hall t h, fun hrest u hu => ?_⟩
  obtain rfl : t = u := Option.some.inj (h.symm.trans hu)
  exact hrest

/-- A run of two schedules, one after the other. -/
theorem exec_append_eq_some {as bs : List α} {s u : σ} :
    exec next (as ++ bs) s = some u ↔ ∃ t, exec next as s = some t ∧ exec next bs t = some u := by
  induction as generalizing s with
  | nil => simp [exec]
  | cons a as ih =>
    simp only [List.cons_append, exec_cons_eq_some, ih]
    constructor
    · rintro ⟨r, hr, t, ht, hu⟩
      exact ⟨t, ⟨r, hr, ht⟩, hu⟩
    · rintro ⟨t, ⟨r, hr, ht⟩, hu⟩
      exact ⟨r, hr, t, ht, hu⟩

theorem along_append {C : α → σ → Prop} {as bs : List α} {s t : σ}
    (h : exec next as s = some t) :
    Along next C (as ++ bs) s ↔ Along next C as s ∧ Along next C bs t := by
  induction as generalizing s with
  | nil =>
    obtain rfl : s = t := Option.some.inj h
    simp [Along]
  | cons a as ih =>
    obtain ⟨r, hr, hrt⟩ := (exec_cons_eq_some next).mp h
    rw [List.cons_append, along_cons hr, along_cons hr, ih hrt, and_assoc]

/-- A condition that holds of every action and state holds along every schedule. -/
theorem along_of_forall {C : α → σ → Prop} (h : ∀ a s, C a s) (as : List α) (s : σ) :
    Along next C as s := by
  induction as generalizing s with
  | nil => trivial
  | cons a as ih => exact ⟨h a s, fun t _ => ih t⟩

/-- A condition on the actions alone, met by every action of the schedule. -/
theorem along_of_mem {D : α → Prop} {as : List α} (h : ∀ a ∈ as, D a) {s : σ} :
    Along next (fun a _ => D a) as s := by
  induction as generalizing s with
  | nil => trivial
  | cons a as ih =>
    exact ⟨h a List.mem_cons_self, fun t _ => ih fun b hb => h b (List.mem_cons_of_mem a hb)⟩

/-- **The invariant rule.** A property that every step meeting `C` preserves survives every
schedule whose steps meet `C`. -/
theorem exec_induction {C : α → σ → Prop} {I : σ → Prop}
    (step : ∀ a s t, C a s → I s → next a s = some t → I t)
    {as : List α} {s t : σ} (hC : Along next C as s) (hI : I s)
    (h : exec next as s = some t) : I t := by
  induction as generalizing s with
  | nil =>
    obtain rfl : s = t := Option.some.inj h
    exact hI
  | cons a as ih =>
    obtain ⟨r, hr, hrt⟩ := (exec_cons_eq_some next).mp h
    exact ih (hC.2 r hr) (step a s r hC.1 hI hr) hrt

/-- The invariant rule without a condition on the steps. -/
theorem exec_invariant {I : σ → Prop} (step : ∀ a s t, I s → next a s = some t → I t)
    {as : List α} {s t : σ} (hI : I s) (h : exec next as s = some t) : I t :=
  exec_induction (C := fun _ _ => True) (fun a s t _ => step a s t)
    (along_of_forall (fun _ _ => trivial) as s) hI h

/-- **First violation.** A complete run that does not meet `C` throughout splits at a step
that breaks `C`, all earlier steps meeting it. -/
theorem exists_violation {C : α → σ → Prop} {as : List α} {s t : σ}
    (h : exec next as s = some t) (hC : ¬ Along next C as s) :
    ∃ pre a post u v, as = pre ++ a :: post ∧ exec next pre s = some u ∧
      Along next C pre s ∧ ¬ C a u ∧ next a u = some v ∧ exec next post v = some t := by
  induction as generalizing s with
  | nil => exact absurd trivial hC
  | cons a as ih =>
    obtain ⟨r, hr, hrt⟩ := (exec_cons_eq_some next).mp h
    by_cases ha : C a s
    · have hrest : ¬ Along next C as r := fun hC' => hC ((along_cons hr).mpr ⟨ha, hC'⟩)
      obtain ⟨pre, b, post, u, v, rfl, hu, hpre, hb, hv, ht⟩ := ih hrt hrest
      exact ⟨a :: pre, b, post, u, v, rfl, (exec_cons_eq_some next).mpr ⟨r, hr, hu⟩,
        (along_cons hr).mpr ⟨ha, hpre⟩, hb, hv, ht⟩
    · exact ⟨[], a, as, s, r, rfl, rfl, trivial, ha, hr, hrt⟩

end Execution
