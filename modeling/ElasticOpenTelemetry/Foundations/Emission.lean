import ElasticOpenTelemetry.Foundations.Faults

/-!
# Programs that only append to a log

A program whose state is a list may be one that reads nothing and only appends. `Emits m r xs`
says so: from every list, `m` ends with `r` and has appended `xs`. What a program emits before an
exception stays emitted, also when the exception is caught.

The rules follow the constructs of such programs. A handler that always returns makes the body of
a loop return for every entry, so that the loop emits what its body emits for the entries, one
after the other (`emits_forM`), and one entry has no influence on the others
(`filter_flatMap_congr`).
-/

namespace Faults

universe u

variable {ε α β γ : Type u}

/-- From every list the program ends with `r` and appends `xs`. -/
def Emits (m : Program ε (List γ) α) (r : Except ε α) (xs : List γ) : Prop :=
  ∀ s, m.run s = (r, s ++ xs)

/-- Append them all. -/
def emitAll (xs : List γ) : Program ε (List γ) PUnit := modify (· ++ xs)

/-- Append one. -/
def emit (x : γ) : Program ε (List γ) PUnit := emitAll [x]

variable {m : Program ε (List γ) α} {r : Except ε α} {a : α} {e : ε} {xs ys : List γ}

theorem emits_pure (a : α) : Emits (pure a : Program ε (List γ) α) (.ok a) [] := fun s => by
  rw [List.append_nil]
  rfl

theorem emits_throw (e : ε) : Emits (throw e : Program ε (List γ) α) (.error e) [] := fun s => by
  rw [List.append_nil]
  rfl

theorem emits_emitAll (xs : List γ) :
    Emits (emitAll xs : Program ε (List γ) PUnit) (.ok ⟨⟩) xs := fun _ => rfl

theorem emits_emit (x : γ) : Emits (emit x : Program ε (List γ) PUnit) (.ok ⟨⟩) [x] :=
  emits_emitAll [x]

theorem Emits.bind {k : α → Program ε (List γ) β} {r : Except ε β} (h : Emits m (.ok a) xs)
    (h' : Emits (k a) r ys) : Emits (m >>= k) r (xs ++ ys) := fun s => by
  rw [run_bind_of_ok (h s), h' (s ++ xs), List.append_assoc]

theorem Emits.bind_error {k : α → Program ε (List γ) β} (h : Emits m (.error e) xs) :
    Emits (m >>= k) (.error e) xs := fun s => run_bind_of_error (h s)

theorem emits_emitAll_bind {k : PUnit → Program ε (List γ) β} {r : Except ε β}
    (h : Emits (k ⟨⟩) r ys) : Emits (emitAll xs >>= k) r (xs ++ ys) :=
  (emits_emitAll xs).bind h

theorem emits_emit_bind {x : γ} {k : PUnit → Program ε (List γ) β} {r : Except ε β}
    (h : Emits (k ⟨⟩) r xs) : Emits (emit x >>= k) r (x :: xs) :=
  (emits_emit x).bind h

/-- A handler that is not needed. -/
theorem Emits.tryCatch_ok {handler : ε → Program ε (List γ) α} (h : Emits m (.ok a) xs) :
    Emits (tryCatch m handler) (.ok a) xs := fun s => by
  rw [run_tryCatch, h s]

theorem Emits.tryCatch_error {handler : ε → Program ε (List γ) α} (h : Emits m (.error e) xs)
    (h' : Emits (handler e) r ys) : Emits (tryCatch m handler) r (xs ++ ys) := fun s => by
  rw [run_tryCatch, h s]
  exact (h' (s ++ xs)).trans (by rw [List.append_assoc])

theorem emits_forM {δ : Type u} {body : δ → Program ε (List γ) PUnit} {f : δ → List γ}
    (h : ∀ d, Emits (body d) (.ok ⟨⟩) (f d)) (ds : List δ) :
    Emits (ds.forM body) (.ok ⟨⟩) (ds.flatMap f) := by
  induction ds with
  | nil => exact emits_pure _
  | cons d ds ih => exact (h d).bind ih

/-- A branch emits what is emitted on the side it takes. -/
theorem emits_ite {c : Prop} [Decidable c] {m m' : Program ε (List γ) α} (h : Emits m r xs)
    (h' : Emits m' r ys) : Emits (if c then m else m') r (if c then xs else ys) := by
  split
  · exact h
  · exact h'

/-- Entries for which `p` shows nothing may emit anything else. -/
theorem filter_flatMap_congr {δ : Type*} {f g : δ → List γ} {p : γ → Bool} {ds : List δ}
    (h : ∀ d ∈ ds, f d = g d ∨ (f d).filter p = [] ∧ (g d).filter p = []) :
    (ds.flatMap f).filter p = (ds.flatMap g).filter p := by
  induction ds with
  | nil => rfl
  | cons d ds ih =>
    have htail := ih fun d' hd' => h d' (List.mem_cons_of_mem d hd')
    rw [List.flatMap_cons, List.flatMap_cons, List.filter_append, List.filter_append, htail]
    rcases h d (List.mem_cons_self ..) with heq | ⟨hf, hg⟩
    · rw [heq]
    · rw [hf, hg]

end Faults
