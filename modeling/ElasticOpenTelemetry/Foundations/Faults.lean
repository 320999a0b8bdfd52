import Mathlib.Data.List.Basic

/-!
# Programs whose calls may throw

A program runs in `ExceptT ε (StateM σ)`: what it did to the state before an exception stays
done. Calls into foreign code are named by `ε`, and a call that throws throws its own name, so
that an exception says where it came from. Which calls throw is a parameter.

`Visits throws m s calls a t` describes a run of `m` from `s` by the calls on its way, each with
the state in which it is made: the run ends at the first call that throws, in the state in which
that call is made, and otherwise in `t` with the value `a`. The rules compose it along a program,
so that one description covers every point of failure.
-/

namespace Faults

universe u v

variable {ε σ : Type u} {α β : Type u}

/-- A program whose state survives its exceptions. -/
abbrev Program (ε σ α : Type u) : Type u := ExceptT ε (StateM σ) α

/-- A call into foreign code. -/
def call (throws : ε → Bool) (e : ε) : Program ε σ PUnit :=
  if throws e then throw e else pure ⟨⟩

/-- The run of `m` from `s` makes `calls`, and gives `a` in `t` if none of them throws. -/
def Visits (throws : ε → Bool) (m : Program ε σ α) (s : σ) (calls : List (ε × σ)) (a : α)
    (t : σ) : Prop :=
  m.run s = match calls.find? fun c => throws c.1 with
    | some c => (Except.error c.1, c.2)
    | none => (Except.ok a, t)

variable {throws : ε → Bool} {m : Program ε σ α} {s t : σ} {calls : List (ε × σ)} {a : α}

theorem run_call (e : ε) (s : σ) :
    (call throws e : Program ε σ PUnit).run s =
      (if throws e then Except.error e else Except.ok ⟨⟩, s) := by
  rw [call]
  cases throws e <;> rfl

theorem run_bind (m : Program ε σ α) (k : α → Program ε σ β) (s : σ) :
    (m >>= k).run s = match m.run s with
      | (Except.ok a, t) => (k a).run t
      | (Except.error e, t) => (Except.error e, t) := by
  change (match m.run s with
    | (r, t) => ExceptT.bindCont k r t) = _
  rcases m.run s with ⟨r | r, t⟩ <;> rfl

theorem run_bind_of_ok {k : α → Program ε σ β} (h : m.run s = (Except.ok a, t)) :
    (m >>= k).run s = (k a).run t := by
  rw [run_bind, h]

theorem run_bind_of_error {k : α → Program ε σ β} {e : ε} (h : m.run s = (Except.error e, t)) :
    (m >>= k).run s = (Except.error e, t) := by
  rw [run_bind, h]

theorem run_get_bind (k : σ → Program ε σ β) (s : σ) :
    ((get : Program ε σ σ) >>= k).run s = (k s).run s := rfl

theorem Visits.run_of_none (h : Visits throws m s calls a t)
    (hnone : calls.find? (fun c => throws c.1) = none) : m.run s = (Except.ok a, t) := by
  rw [h, hnone]

theorem Visits.run_of_some (h : Visits throws m s calls a t) {c : ε × σ}
    (hsome : calls.find? (fun c => throws c.1) = some c) :
    m.run s = (Except.error c.1, c.2) := by
  rw [h, hsome]

/-- An exception comes from one of the calls. -/
theorem Visits.mem_of_error (h : Visits throws m s calls a t) {e : ε} {u : σ}
    (herror : m.run s = (Except.error e, u)) : (e, u) ∈ calls := by
  cases hfind : calls.find? fun c => throws c.1 with
  | none =>
    have hok : (Except.ok a, t) = ((Except.error e, u) : Except ε α × σ) :=
      (h.run_of_none hfind).symm.trans herror
    simp at hok
  | some c =>
    have hsome : (Except.error c.1, c.2) = ((Except.error e, u) : Except ε α × σ) :=
      (h.run_of_some hfind).symm.trans herror
    obtain rfl : c = (e, u) := by simpa [Prod.ext_iff] using hsome
    exact List.mem_of_find?_eq_some hfind

theorem visits_pure (a : α) (s : σ) : Visits throws (pure a : Program ε σ α) s [] a s := rfl

theorem visits_modify (f : σ → σ) (s : σ) :
    Visits throws (modify f : Program ε σ PUnit) s [] ⟨⟩ (f s) := rfl

theorem visits_call (e : ε) (s : σ) :
    Visits throws (call throws e : Program ε σ PUnit) s [(e, s)] ⟨⟩ s := by
  rw [Visits, run_call, List.find?_singleton]
  cases throws e <;> rfl

/-- **Composition.** The calls of one program after the other are its calls, in this order. -/
theorem Visits.bind {k : α → Program ε σ β} {calls' : List (ε × σ)} {b : β} {u : σ}
    (h : Visits throws m s calls a t) (h' : Visits throws (k a) t calls' b u) :
    Visits throws (m >>= k) s (calls ++ calls') b u := by
  rw [Visits, run_bind, List.find?_append]
  cases hfind : calls.find? fun c => throws c.1 with
  | some c => rw [h.run_of_some hfind, Option.some_or]
  | none =>
    rw [h.run_of_none hfind, Option.none_or]
    exact h'

/-! ### Calls along a sequence -/

variable {k : PUnit → Program ε σ β} {b : β}

theorem visits_call_bind {e : ε} (h : Visits throws (k ⟨⟩) s calls b t) :
    Visits throws (call throws e >>= k) s ((e, s) :: calls) b t :=
  (visits_call e s).bind h

theorem visits_modify_bind {f : σ → σ} (h : Visits throws (k ⟨⟩) (f s) calls b t) :
    Visits throws ((modify f : Program ε σ PUnit) >>= k) s calls b t :=
  (visits_modify f s).bind h

theorem visits_get_bind {k : σ → Program ε σ β} (h : Visits throws (k s) s calls b t) :
    Visits throws ((get : Program ε σ σ) >>= k) s calls b t :=
  h

/-! ### Handlers -/

/-- A handler takes over in the state in which the exception left the program. -/
theorem run_tryCatch (m : Program ε σ α) (handler : ε → Program ε σ α) (s : σ) :
    (tryCatch m handler : Program ε σ α).run s = match m.run s with
      | (Except.error e, t) => (handler e).run t
      | (Except.ok a, t) => (Except.ok a, t) := by
  change (match m.run s with
    | (r, t) => (match r with
      | Except.ok a => (pure (Except.ok a) : StateM σ (Except ε α))
      | Except.error e => handler e) t) = _
  rcases m.run s with ⟨r | r, t⟩ <;> rfl

/-- A finalizer runs either way, and an exception of its own replaces the one on its way. -/
theorem run_tryFinally (m finalizer : Program ε σ PUnit) (s : σ) :
    (tryFinally m finalizer : Program ε σ PUnit).run s = match m.run s with
      | (r, t) => match finalizer.run t with
        | (Except.error e, u) => (Except.error e, u)
        | (Except.ok _, u) => (r, u) := by
  simp only [tryFinally, tryFinally', Functor.map, ExceptT.map, ExceptT.mk, ExceptT.run,
    StateT.bind, bind, pure]
  rcases m s with ⟨r | r, t⟩ <;> rcases hf : finalizer t with ⟨r' | r', u⟩ <;>
    simp only [hf] <;> rfl

end Faults
