import Mathlib
import ElasticOpenTelemetry.Foundations.Faults

/-!
# Contracts of programs whose calls may throw

Triples of a program of `Foundations.Faults` have two postconditions, one for its result and one for
its exception. `foreign` is a call of which the environment says how it ends, and `foreign_spec` its
contract; `mvcgen` puts contracts together along a program, through its handlers.
`run_of_triple` goes from a contract to the run of the program.
-/

namespace Faults

open Std.Do

set_option mvcgen.warning false

variable {ε σ α : Type}

/-- A call that ends as the environment says, and leaves the state alone. -/
def foreign (r : Except ε α) : Program ε σ α := MonadExcept.ofExcept r

@[spec]
theorem foreign_spec (r : Except ε α) (s₀ : σ) :
    ⦃fun s => ⌜s = s₀⌝⦄ (foreign r : Program ε σ α)
    ⦃post⟨fun a s => ⌜s = s₀ ∧ r = .ok a⌝, fun e s => ⌜s = s₀ ∧ r = .error e⌝⟩⦄ := by
  unfold foreign MonadExcept.ofExcept
  cases r <;> mvcgen

/-- What a contract says of a run. -/
theorem run_of_triple {m : Program ε σ α} {P : σ → Prop} {Q : α → σ → Prop} {E : ε → σ → Prop}
    (h : ⦃fun s => ⌜P s⌝⦄ m ⦃post⟨fun a s => ⌜Q a s⌝, fun e s => ⌜E e s⌝⟩⦄) {s t : σ}
    {r : Except ε α} (hs : P s) (hrun : m.run s = (r, t)) :
    (∀ a, r = .ok a → Q a t) ∧ ∀ e, r = .error e → E e t := by
  have hwp := h s hs
  simp only [WP.wp, PredTrans.apply_pushExcept] at hwp
  refine StateM.of_wp_run_eq (show StateT.run m.run s = (r, t) from hrun) (fun p =>
    (∀ a, p.1 = .ok a → Q a p.2) ∧ ∀ e, p.1 = .error e → E e p.2) ?_
  simp only [WP.wp]
  refine fun _ => (show @SPred.entails [σ] _ _ from
    PredTrans.mono _ _ _ ⟨fun result => ?_, ?_⟩) s hwp
  · cases result with
    | ok a =>
      intro t ha
      exact ⟨by rintro _ ⟨⟩; exact ha, nofun⟩
    | error e =>
      intro t he
      exact ⟨nofun, by rintro _ ⟨⟩; exact he⟩
  · exact ExceptConds.entails.refl _

end Faults
