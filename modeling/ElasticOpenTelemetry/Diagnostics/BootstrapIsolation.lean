import ElasticOpenTelemetry.Diagnostics.PreActivation

/-!
# Isolation of bootstrap flows

Calls of `CompositeLogger.GetOrCreate` with different options belong to different bootstrap
flows, and `IsCompatible` is there to keep their loggers apart. On an instance without options it
lets every call pass, and the test and the store of `_options` come later, outside of any lock on
the fast path. Two calls can both find null before either has stored.

`isolated_iff` states in which runs of the model of `Diagnostics.PreActivation` the flows stay
apart: those in which no call reads null while a call of another flow is on its way to its store.
The invariant is `Isolating`: calls that are going to return the same instance agree on their
options, and with those of the instance.
-/

namespace ElasticOpenTelemetry.PreActivation

open DotNet Execution

variable {ι : Type}

/-- The instance that a call works with. -/
def Pc.existing : Pc → Option ℕ
  | .readStatic | .enterLock | .readStaticLocked | .createIsolated _ | .createShared => none
  | .readActivationState _ e | .readOptions _ e | .testOptions _ e | .storeOptions _ e
  | .storeStatic e | .exit _ e | .returned e => some e

/-- The instance that a call is going to return. -/
def Pc.result : Pc → Option ℕ
  | .testOptions _ e | .storeOptions _ e | .storeStatic e | .exit _ e | .returned e => some e
  | _ => none

/-- The call has come past the test and the store of `_options`. -/
def Pc.settled : Pc → Bool
  | .storeStatic _ | .exit _ _ | .returned _ => true
  | _ => false

/-- The call has found the instance compatible, and tests or stores its options. -/
def Pc.adopts (pc : Pc) (e : ℕ) : Prop :=
  pc.result = some e ∧ pc.settled = false

theorem Pc.existing_of_result {pc : Pc} {e : ℕ} (h : pc.result = some e) :
    pc.existing = some e := by
  cases pc <;> first | exact h | cases h

/-! ### The options of an instance -/

section Options

variable (s : Shared ι) (e e' : ℕ) (i : ι) (o : Option CompositeElasticOpenTelemetryOptions)

theorem options_setOptions (he : e < s.instances.length) :
    (s.setOptions e o).options e' = if e = e' then o else s.options e' := by
  by_cases h : e = e'
  · subst h
    simp [Shared.options, Shared.setOptions, he]
  · simp [Shared.options, Shared.setOptions, h]

theorem options_create (he : e ≤ s.instances.length) :
    (s.create i o).options e = if e = s.instances.length then o else s.options e := by
  by_cases h : e = s.instances.length
  · subst h
    rw [if_pos rfl, options_eq (getElem?_create_length s i o)]
    rfl
  · have hlt : e < s.instances.length := by omega
    rw [if_neg h, Shared.options, Shared.options, Shared.create, List.getElem?_append_left hlt]

end Options

/-! ### The invariant -/

/-- Calls that are going to return the same instance agree on their options, and with those of
the instance. -/
structure Isolating (arg : ι → Option CompositeElasticOpenTelemetryOptions)
    (c : Pool ι (Shared ι) Pc) : Prop where
  static : ∀ e, c.shared.preActivationInstance = some e → e < c.shared.instances.length
  existing : ∀ i e, (c.pc i).existing = some e → e < c.shared.instances.length
  agree : ∀ i j e o o', (c.pc i).result = some e → (c.pc j).result = some e → arg i = some o →
    arg j = some o' → o.equals o' = true
  held : ∀ i e o o', (c.pc i).result = some e → arg i = some o → c.shared.options e = some o' →
    o'.equals o = true
  settled : ∀ i e o, (c.pc i).result = some e → (c.pc i).settled = true → arg i = some o →
    c.shared.options e ≠ none
  storing : ∀ i locked e, c.pc i = .storeOptions locked e → arg i ≠ none

/-- When a call finds that an instance has no options yet, no call with other options is between
its own reading and its store. -/
def ReadsAlone (arg : ι → Option CompositeElasticOpenTelemetryOptions) (a : ι × Unit)
    (c : Pool ι (Shared ι) Pc) : Prop :=
  ∀ locked e o, c.pc a.1 = .readOptions locked e → arg a.1 = some o → c.shared.options e = none →
    ∀ j o', (c.pc j).adopts e → arg j = some o' → o.equals o' = true

/-- No two calls whose options differ have returned the same instance, and no instance that was
returned holds other options than the call's. -/
structure Isolated (arg : ι → Option CompositeElasticOpenTelemetryOptions)
    (c : Pool ι (Shared ι) Pc) : Prop where
  apart : ∀ i j a b o o', c.pc i = .returned a → c.pc j = .returned b → arg i = some o →
    arg j = some o' → o.equals o' = false → a ≠ b
  holds : ∀ i a o o', c.pc i = .returned a → arg i = some o → c.shared.options a = some o' →
    o'.equals o = true

variable {arg : ι → Option CompositeElasticOpenTelemetryOptions} {c d : Pool ι (Shared ι) Pc}

theorem isolated_of_isolating (h : Isolating arg c) : Isolated arg c where
  apart i j a b o o' hi hj ho ho' hdiffer hab := by
    have hagree := h.agree i j a o o' (by rw [hi]; rfl) (by rw [hj, hab]; rfl) ho ho'
    exact Bool.false_ne_true (hdiffer.symm.trans hagree)
  holds i a o o' hi ho ho' := h.held i a o o' (by rw [hi]; rfl) ho ho'

theorem isolating_initial (arg : ι → Option CompositeElasticOpenTelemetryOptions) :
    Isolating arg initial where
  static e he := by cases he
  existing i e he := by cases he
  agree i j e o o' he := by cases he
  held i e o o' he := by cases he
  settled i e o he := by cases he
  storing i locked e he := by cases he

/-! ### One step -/

/-- Options that equal the same options equal each other. -/
theorem equals_of_equals {o o₁ o₂ : CompositeElasticOpenTelemetryOptions}
    (h₁ : o.equals o₁ = true) (h₂ : o.equals o₂ = true) : o₁.equals o₂ = true := by
  rw [CompositeElasticOpenTelemetryOptions.equals_iff] at *
  exact h₁.symm.trans h₂

theorem equals_comm {o o' : CompositeElasticOpenTelemetryOptions} (h : o.equals o' = true) :
    o'.equals o = true := by
  rw [CompositeElasticOpenTelemetryOptions.equals_iff] at *
  exact h.symm

/-- What a step of the call `i` has to establish about `i` itself. -/
structure Establishes (arg : ι → Option CompositeElasticOpenTelemetryOptions)
    (c d : Pool ι (Shared ι) Pc) (i : ι) : Prop where
  existing : ∀ e, (d.pc i).existing = some e → e < d.shared.instances.length
  agree : ∀ k e o o', k ≠ i → (d.pc i).result = some e → (c.pc k).result = some e →
    arg i = some o → arg k = some o' → o.equals o' = true
  held : ∀ e o o', (d.pc i).result = some e → arg i = some o → d.shared.options e = some o' →
    o'.equals o = true
  settled : ∀ e o, (d.pc i).result = some e → (d.pc i).settled = true → arg i = some o →
    d.shared.options e ≠ none
  storing : ∀ locked e, d.pc i = .storeOptions locked e → arg i ≠ none

/-- The invariant is kept by a step that establishes it for the call `i`, and that changes the
options of no older instance, unless to those of `i` on the instance that `i` returns. -/
theorem isolating_of_establishes (h : Isolating arg c) {i : ι}
    (hothers : ∀ j, j ≠ i → d.pc j = c.pc j)
    (hlength : c.shared.instances.length ≤ d.shared.instances.length)
    (hstatic : ∀ e, d.shared.preActivationInstance = some e → e < d.shared.instances.length)
    (hoptions : ∀ e, e < c.shared.instances.length → d.shared.options e = c.shared.options e ∨
      d.shared.options e = arg i ∧ arg i ≠ none ∧ (c.pc i).result = some e)
    (hestablishes : Establishes arg c d i) : Isolating arg d where
  static := hstatic
  existing j e he := by
    by_cases hji : j = i
    · exact hestablishes.existing e (hji ▸ he)
    · rw [hothers j hji] at he
      exact (h.existing j e he).trans_le hlength
  agree j k e o o' hj hk ho ho' := by
    by_cases hji : j = i
    · subst hji
      by_cases hkj : k = j
      · subst hkj
        obtain rfl : o = o' := Option.some.inj (ho.symm.trans ho')
        exact o.equals_self
      · exact hestablishes.agree k e o o' hkj hj (hothers k hkj ▸ hk) ho ho'
    · rw [hothers j hji] at hj
      by_cases hki : k = i
      · subst hki
        exact equals_comm (hestablishes.agree j e o' o hji hk hj ho' ho)
      · exact h.agree j k e o o' hj (hothers k hki ▸ hk) ho ho'
  held j e o o' hj ho ho' := by
    by_cases hji : j = i
    · subst hji
      exact hestablishes.held e o o' hj ho ho'
    · rw [hothers j hji] at hj
      rcases hoptions e (h.existing j e (Pc.existing_of_result hj)) with heq | ⟨heq, -, hi⟩
      · exact h.held j e o o' hj ho (heq.symm.trans ho')
      · exact h.agree i j e o' o hi hj (heq.symm.trans ho') ho
  settled j e o hj hs ho := by
    by_cases hji : j = i
    · subst hji
      exact hestablishes.settled e o hj hs ho
    · rw [hothers j hji] at hj hs
      rcases hoptions e (h.existing j e (Pc.existing_of_result hj)) with heq | ⟨heq, harg, -⟩
      · rw [heq]
        exact h.settled j e o hj hs ho
      · rw [heq]
        exact harg
  storing j locked e hj := by
    by_cases hji : j = i
    · subst hji
      exact hestablishes.storing locked e hj
    · exact h.storing j locked e (hothers j hji ▸ hj)

/-- The call `i` steps without creating an instance, storing options or finding an instance
compatible. -/
theorem isolating_of_keeps (h : Isolating arg c) {i : ι}
    (hothers : ∀ j, j ≠ i → d.pc j = c.pc j)
    (hinstances : d.shared.instances = c.shared.instances)
    (hstatic : ∀ e, d.shared.preActivationInstance = some e → e < c.shared.instances.length)
    (hexisting : ∀ e, (d.pc i).existing = some e → e < c.shared.instances.length)
    (hresult : ∀ e, (d.pc i).result = some e → (c.pc i).result = some e)
    (hsettled : ∀ e o, (d.pc i).result = some e → (d.pc i).settled = true → arg i = some o →
      c.shared.options e ≠ none)
    (hstoring : ∀ locked e, d.pc i = .storeOptions locked e → arg i ≠ none) :
    Isolating arg d := by
  have hoptions : ∀ e, d.shared.options e = c.shared.options e := by
    intro e
    rw [Shared.options, Shared.options, hinstances]
  rw [← hinstances] at hstatic hexisting
  refine isolating_of_establishes h hothers (by rw [hinstances]) hstatic
    (fun e _ => Or.inl (hoptions e)) ⟨hexisting, ?_, ?_, ?_, hstoring⟩
  · intro k e o o' _ hi hk ho ho'
    exact h.agree i k e o o' (hresult e hi) hk ho ho'
  · intro e o o' hi ho ho'
    exact h.held i e o o' (hresult e hi) ho (hoptions e ▸ ho')
  · intro e o hi hs ho
    rw [hoptions]
    exact hsettled e o hi hs ho

/-- The call `i` goes on looking. -/
theorem isolating_of_looks (h : Isolating arg c) {i : ι} {s' : Shared ι} {pc' : Pc}
    (hothers : ∀ j, j ≠ i → d.pc j = c.pc j) (hs : s' = d.shared) (hp : pc' = d.pc i)
    (hinstances : s'.instances = c.shared.instances)
    (hstatic : s'.preActivationInstance = c.shared.preActivationInstance)
    (hexisting : ∀ e, pc'.existing = some e → (c.pc i).existing = some e ∨
      c.shared.preActivationInstance = some e)
    (hnone : pc'.result = none) : Isolating arg d := by
  subst hs hp
  refine isolating_of_keeps h hothers hinstances (fun e he => h.static e (hstatic ▸ he))
    (fun e he => (hexisting e he).elim (h.existing i e) (h.static e)) (fun e he => ?_)
    (fun e o he => ?_) fun l e he => ?_
  · rw [hnone] at he
    cases he
  · rw [hnone] at he
    cases he
  · rw [he] at hnone
    cases hnone

/-- The call `i` comes nearer to returning its instance. -/
theorem isolating_of_returns (h : Isolating arg c) {i : ι} {s' : Shared ι} {pc' : Pc}
    (hothers : ∀ j, j ≠ i → d.pc j = c.pc j) (hs : s' = d.shared) (hp : pc' = d.pc i)
    (hinstances : s'.instances = c.shared.instances)
    (hstatic : ∀ e, s'.preActivationInstance = some e →
      (c.pc i).result = some e ∨ c.shared.preActivationInstance = some e)
    (hresult : pc'.result = (c.pc i).result) (hexisting : pc'.existing = (c.pc i).existing)
    (hsettled : pc'.settled = true → (c.pc i).settled = true ∨
      ∀ e o, (c.pc i).result = some e → arg i = some o → c.shared.options e ≠ none)
    (hstoring : ∀ locked e, pc' = .storeOptions locked e → arg i ≠ none) : Isolating arg d := by
  subst hs hp
  refine isolating_of_keeps h hothers hinstances (fun e he => ?_)
    (fun e he => h.existing i e (hexisting ▸ he)) (fun e he => hresult ▸ he)
    (fun e o he hs ho => ?_) hstoring
  · exact (hstatic e he).elim (fun he => h.existing i e (Pc.existing_of_result he)) (h.static e)
  · exact (hsettled hs).elim (fun hs => h.settled i e o (hresult ▸ he) hs ho)
      fun hall => hall e o (hresult ▸ he) ho

/-- A call that finds an instance compatible agrees with every call that is going to return it. -/
theorem equals_of_compatible (h : Isolating arg c) {i k : ι} {locked : Bool} {e : ℕ}
    {o o' : CompositeElasticOpenTelemetryOptions} (hread : c.pc i = .readOptions locked e)
    (hcompatible : optionsCompatible (c.shared.options e) (arg i) = true)
    (halone : ReadsAlone arg (i, ()) c) (ho : arg i = some o) (hk : (c.pc k).result = some e)
    (ho' : arg k = some o') : o.equals o' = true := by
  cases hoptions : c.shared.options e with
  | some x =>
    rw [hoptions, ho] at hcompatible
    exact equals_of_equals hcompatible (h.held k e o' x hk ho' hoptions)
  | none =>
    have hadopts : (c.pc k).adopts e := by
      refine ⟨hk, ?_⟩
      by_contra hsettled
      exact h.settled k e o' hk (by simpa using hsettled) ho' hoptions
    exact halone locked e o hread ho hoptions k o' hadopts ho'

/-- The call `i` finds the instance `e` compatible. -/
theorem isolating_of_binds (h : Isolating arg c) {i : ι} {locked : Bool} {e : ℕ}
    (hothers : ∀ j, j ≠ i → d.pc j = c.pc j) (hshared : d.shared = c.shared)
    (hread : c.pc i = .readOptions locked e) (hpc : d.pc i = .testOptions locked e)
    (hcompatible : optionsCompatible (c.shared.options e) (arg i) = true)
    (halone : ReadsAlone arg (i, ()) c) : Isolating arg d := by
  have hown : ∀ e', (d.pc i).result = some e' → e' = e := by
    intro e' he'
    rw [hpc] at he'
    exact (Option.some.inj he').symm
  refine isolating_of_establishes h hothers (by rw [hshared]) (fun e' he' => ?_)
    (fun e' _ => Or.inl (by rw [hshared])) ⟨?_, ?_, ?_, ?_, ?_⟩
  · rw [hshared] at he' ⊢
    exact h.static e' he'
  · intro e' he'
    rw [hpc] at he'
    rw [hshared]
    exact h.existing i e' (by rw [hread]; exact he')
  · intro k e' o o' _ hi hk ho ho'
    obtain rfl := hown e' hi
    exact equals_of_compatible h hread hcompatible halone ho hk ho'
  · intro e' o o' hi ho ho'
    obtain rfl := hown e' hi
    rw [hshared] at ho'
    rw [ho', ho] at hcompatible
    exact hcompatible
  · intro e' o _ hs
    rw [hpc] at hs
    cases hs
  · intro l e' hi
    rw [hpc] at hi
    cases hi

/-- The call `i` stores its options on the instance `e`. -/
theorem isolating_of_stores (h : Isolating arg c) {i : ι} {locked : Bool} {e : ℕ}
    (hothers : ∀ j, j ≠ i → d.pc j = c.pc j) (hshared : d.shared = c.shared.setOptions e (arg i))
    (hstore : c.pc i = .storeOptions locked e) (hpc : d.pc i = .exit locked e) :
    Isolating arg d := by
  have hlength : d.shared.instances.length = c.shared.instances.length := by
    simp [hshared, Shared.setOptions]
  have hmine : (c.pc i).result = some e := by
    rw [hstore]
    rfl
  have he : e < c.shared.instances.length := h.existing i e (Pc.existing_of_result hmine)
  have hown : ∀ e', (d.pc i).result = some e' → e = e' := by
    intro e' he'
    rw [hpc] at he'
    exact Option.some.inj he'
  have hnew : d.shared.options e = arg i := by
    rw [hshared, options_setOptions _ _ _ _ he, if_pos rfl]
  refine isolating_of_establishes h hothers hlength.ge (fun e' he' => ?_) (fun e' _ => ?_)
    ⟨?_, ?_, ?_, ?_, ?_⟩
  · rw [hlength]
    exact h.static e' (by simpa [hshared, Shared.setOptions] using he')
  · by_cases hee : e = e'
    · subst hee
      exact Or.inr ⟨hnew, h.storing i locked e hstore, hmine⟩
    · rw [hshared, options_setOptions _ _ _ _ he, if_neg hee]
      exact Or.inl rfl
  · intro e' he'
    rw [hpc] at he'
    rw [hlength]
    exact h.existing i e' (by rw [hstore]; exact he')
  · intro k e' o o' _ hi hk ho ho'
    obtain rfl := hown e' hi
    exact h.agree i k e o o' hmine hk ho ho'
  · intro e' o o' hi ho ho'
    obtain rfl := hown e' hi
    rw [hnew, ho] at ho'
    obtain rfl : o = o' := Option.some.inj ho'
    exact o.equals_self
  · intro e' o hi _ _
    obtain rfl := hown e' hi
    rw [hnew]
    exact h.storing i locked e hstore
  · intro l e' hi
    rw [hpc] at hi
    cases hi

/-- The call `i` creates an instance. -/
theorem isolating_of_creates (h : Isolating arg c) {i : ι}
    (hothers : ∀ j, j ≠ i → d.pc j = c.pc j) (hshared : d.shared = c.shared.create i (arg i))
    (hresult : (d.pc i).result = some c.shared.instances.length)
    (hsettled : (d.pc i).settled = true) : Isolating arg d := by
  have hlength : d.shared.instances.length = c.shared.instances.length + 1 := by
    simp [hshared, Shared.create]
  have hown : ∀ e, (d.pc i).result = some e → e = c.shared.instances.length := fun e he =>
    Option.some.inj (he.symm.trans hresult)
  have hnew : d.shared.options c.shared.instances.length = arg i := by
    rw [hshared, options_create _ _ _ _ le_rfl, if_pos rfl]
  refine isolating_of_establishes h hothers (by omega) (fun e he => ?_) (fun e he => ?_)
    ⟨?_, ?_, ?_, ?_, ?_⟩
  · have hlt := h.static e (by simpa [hshared, Shared.create] using he)
    omega
  · rw [hshared, options_create _ _ _ _ he.le, if_neg he.ne]
    exact Or.inl rfl
  · intro e he
    have hsame := Pc.existing_of_result hresult
    obtain rfl : c.shared.instances.length = e := Option.some.inj (hsame.symm.trans he)
    omega
  · -- the new instance is nobody else's
    intro k e o o' _ hi hk
    have hlt := h.existing k e (Pc.existing_of_result hk)
    have heq := hown e hi
    omega
  · intro e o o' hi ho ho'
    obtain rfl := hown e hi
    rw [hnew, ho] at ho'
    obtain rfl : o = o' := Option.some.inj ho'
    exact o.equals_self
  · intro e o hi _ ho
    obtain rfl := hown e hi
    rw [hnew, ho]
    exact Option.some_ne_none o
  · intro l e hi
    rw [hi] at hsettled
    cases hsettled

section Runs

variable [DecidableEq ι]

/-- The mover of a step, and everybody else. -/
theorem getOrCreate_of_next {a : ι × Unit} (hnext : Pool.next (getOrCreate arg) a c = some d) :
    getOrCreate arg a.1 () c.shared (c.pc a.1) = some (d.shared, d.pc a.1) ∧
      ∀ j, j ≠ a.1 → d.pc j = c.pc j := by
  obtain ⟨⟨s', pc', hstep, rfl, rfl⟩, hothers⟩ := Pool.pc_of_next hnext
  exact ⟨hstep, hothers⟩

/-- **The step of the runs that keep the flows apart.** -/
theorem isolating_next {a : ι × Unit} (halone : ReadsAlone arg a c) (h : Isolating arg c)
    (hnext : Pool.next (getOrCreate arg) a c = some d) : Isolating arg d := by
  obtain ⟨i, _⟩ := a
  obtain ⟨hstep, hothers⟩ := getOrCreate_of_next hnext
  cases hpc : c.pc i <;> simp only [hpc, getOrCreate] at hstep
  case readStatic | readStaticLocked =>
    split at hstep <;> obtain ⟨hs, hp⟩ := Prod.mk.inj (Option.some.inj hstep)
    · rename_i e he
      exact isolating_of_looks h hothers hs hp rfl rfl (fun e' he' => Or.inr (he.trans he')) rfl
    · exact isolating_of_looks h hothers hs hp rfl rfl (fun e' he' => by cases he') rfl
  case enterLock =>
    split_ifs at hstep
    obtain ⟨hs, hp⟩ := Prod.mk.inj (Option.some.inj hstep)
    exact isolating_of_looks h hothers hs hp rfl rfl (fun e' he' => by cases he') rfl
  case readActivationState locked e =>
    split_ifs at hstep <;> obtain ⟨hs, hp⟩ := Prod.mk.inj (Option.some.inj hstep)
    · exact isolating_of_looks h hothers hs hp rfl rfl (fun e' he' => by cases he') rfl
    · refine isolating_of_looks h hothers hs hp rfl rfl (fun e' he' => Or.inl ?_) rfl
      rw [hpc]
      exact he'
  case readOptions locked e =>
    split_ifs at hstep with hcompatible <;> obtain ⟨hs, hp⟩ := Prod.mk.inj (Option.some.inj hstep)
    · exact isolating_of_binds h hothers hs.symm hpc hp.symm hcompatible halone
    · exact isolating_of_looks h hothers hs hp rfl rfl (fun e' he' => by cases he') rfl
  case testOptions locked e =>
    split_ifs at hstep with htest <;> obtain ⟨hs, hp⟩ := Prod.mk.inj (Option.some.inj hstep)
    · refine isolating_of_returns h hothers hs hp rfl (fun e' he' => Or.inr he') (by rw [hpc]; rfl)
        (by rw [hpc]; rfl) (fun hsettled => by cases hsettled) fun _ _ _ hnone => ?_
      simp [hnone] at htest
    · refine isolating_of_returns h hothers hs hp rfl (fun e' he' => Or.inr he') (by rw [hpc]; rfl)
        (by rw [hpc]; rfl) (fun _ => Or.inr ?_) fun l e' hstore => by cases hstore
      intro e' o he' ho hnone
      rw [hpc] at he'
      obtain rfl : e = e' := Option.some.inj he'
      exact htest ⟨by rw [ho]; rfl, hnone⟩
  case storeOptions locked e =>
    obtain ⟨hs, hp⟩ := Prod.mk.inj (Option.some.inj hstep)
    exact isolating_of_stores h hothers hs.symm hpc hp.symm
  case createIsolated | createShared =>
    obtain ⟨hs, hp⟩ := Prod.mk.inj (Option.some.inj hstep)
    exact isolating_of_creates h hothers hs.symm (by rw [← hp]; rfl) (by rw [← hp]; rfl)
  case storeStatic created =>
    obtain ⟨hs, hp⟩ := Prod.mk.inj (Option.some.inj hstep)
    refine isolating_of_returns h hothers hs hp rfl (fun e' he' => Or.inl ?_) (by rw [hpc]; rfl)
      (by rw [hpc]; rfl) (fun _ => Or.inl (by rw [hpc]; rfl)) fun l e' hstore => by cases hstore
    rw [hpc]
    exact he'
  case exit locked result =>
    obtain ⟨hs, hp⟩ := Prod.mk.inj (Option.some.inj hstep)
    refine isolating_of_returns h hothers hs hp (by split <;> rfl) (fun e' he' => Or.inr ?_)
      (by rw [hpc]; rfl) (by rw [hpc]; rfl) (fun _ => Or.inl (by rw [hpc]; rfl))
      fun l e' hstore => by cases hstore
    cases locked <;> exact he'
  case returned => cases hstep

/-! ### Runs that do not -/

/-- Two calls with different options are going to return the same instance. -/
def Collides (arg : ι → Option CompositeElasticOpenTelemetryOptions)
    (c : Pool ι (Shared ι) Pc) : Prop :=
  ∃ i j e o o', (c.pc i).result = some e ∧ (c.pc j).result = some e ∧ arg i = some o ∧
    arg j = some o' ∧ o.equals o' = false

/-- What a call is going to return is settled once and for all. -/
theorem result_next {a : ι × Unit} (hnext : Pool.next (getOrCreate arg) a c = some d)
    {i : ι} {e : ℕ} (h : (c.pc i).result = some e) : (d.pc i).result = some e := by
  obtain ⟨hstep, hothers⟩ := getOrCreate_of_next hnext
  by_cases hi : i = a.1
  · subst hi
    cases hpc : c.pc a.1 <;> rw [hpc] at h hstep <;> simp only [getOrCreate] at hstep
    case testOptions locked e' =>
      split_ifs at hstep <;> rw [← (Prod.mk.inj (Option.some.inj hstep)).2] <;> exact h
    case returned => cases hstep
    case storeOptions | storeStatic | exit =>
      rw [← (Prod.mk.inj (Option.some.inj hstep)).2]
      exact h
    all_goals cases h
  · rw [hothers i hi]
    exact h

theorem collides_next {a : ι × Unit} (h : Collides arg c)
    (hnext : Pool.next (getOrCreate arg) a c = some d) : Collides arg d := by
  obtain ⟨i, j, e, o, o', hi, hj, hrest⟩ := h
  exact ⟨i, j, e, o, o', result_next hnext hi, result_next hnext hj, hrest⟩

/-- A reading of null next to the store of another flow makes the two collide. -/
theorem collides_of_violation {a : ι × Unit} (halone : ¬ ReadsAlone arg a c)
    (hnext : Pool.next (getOrCreate arg) a c = some d) : Collides arg d := by
  obtain ⟨i, _⟩ := a
  obtain ⟨hstep, hothers⟩ := getOrCreate_of_next hnext
  simp only [ReadsAlone, not_forall] at halone
  obtain ⟨locked, e, o, hread, ho, hnone, j, o', hadopts, ho', hdiffer⟩ := halone
  have hcompatible : optionsCompatible none (arg i) = true := rfl
  rw [hread, getOrCreate, hnone, if_pos hcompatible] at hstep
  have hpc : .testOptions locked e = d.pc i := (Prod.mk.inj (Option.some.inj hstep)).2
  have hji : j ≠ i := by
    intro hji
    rw [hji, hread] at hadopts
    cases hadopts.1
  exact ⟨i, j, e, o, o', by rw [← hpc]; rfl, by rw [hothers j hji]; exact hadopts.1, ho, ho',
    by simpa using hdiffer⟩

/-- The call `i` can go on to return `e`, alone and by steps that read no options. -/
def CanReturn (arg : ι → Option CompositeElasticOpenTelemetryOptions) (i : ι) (e : ℕ)
    (c : Pool ι (Shared ι) Pc) : Prop :=
  ∃ later d, Along (Pool.next (getOrCreate arg)) (ReadsAlone arg) later c ∧
    exec (Pool.next (getOrCreate arg)) later c = some d ∧ d.pc i = .returned e ∧
      ∀ j, j ≠ i → d.pc j = c.pc j

theorem canReturn_of_next {i : ι} {e : ℕ} (hread : ∀ locked e, c.pc i ≠ .readOptions locked e)
    (hnext : Pool.next (getOrCreate arg) (i, ()) c = some d) (h : CanReturn arg i e d) :
    CanReturn arg i e c := by
  obtain ⟨later, d', hlater, hexec, hreturned, hothers⟩ := h
  refine ⟨(i, ()) :: later, d', (along_cons hnext).mpr ⟨?_, hlater⟩,
    (exec_cons_eq_some _).mpr ⟨d, hnext, hexec⟩, hreturned, fun j hj => ?_⟩
  · intro locked e' o hpc
    exact absurd hpc (hread locked e')
  · rw [hothers j hj, (getOrCreate_of_next hnext).2 j hj]

theorem exists_next (arg : ι → Option CompositeElasticOpenTelemetryOptions) {i : ι}
    {s' : Shared ι} {pc' : Pc}
    (hstep : getOrCreate arg i () c.shared (c.pc i) = some (s', pc')) :
    ∃ d, Pool.next (getOrCreate arg) (i, ()) c = some d ∧ d.pc i = pc' :=
  ⟨⟨s', Function.update c.pc i pc'⟩, Pool.next_eq_some.mpr ⟨s', pc', hstep, rfl⟩,
    Function.update_self i pc' c.pc⟩

theorem canReturn_of_exit {i : ι} {e : ℕ} {locked : Bool} (h : c.pc i = .exit locked e) :
    CanReturn arg i e c := by
  obtain ⟨d, hnext, hpc⟩ := exists_next arg (by rw [h]; rfl)
  exact canReturn_of_next (by simp [h]) hnext ⟨[], d, trivial, rfl, hpc, fun _ _ => rfl⟩

/-- **A call that is going to return `e` can do so.** -/
theorem canReturn_of_result (arg : ι → Option CompositeElasticOpenTelemetryOptions) {i : ι}
    {e : ℕ} (h : (c.pc i).result = some e) :
    CanReturn arg i e c := by
  have hstoring {c : Pool ι (Shared ι) Pc} {locked : Bool} (hpc : c.pc i = .storeOptions locked e) :
      CanReturn arg i e c := by
    obtain ⟨d, hnext, hpc'⟩ := exists_next arg (by rw [hpc]; rfl)
    exact canReturn_of_next (by simp [hpc]) hnext (canReturn_of_exit hpc')
  cases hpc : c.pc i <;> rw [hpc] at h
  case testOptions locked e' =>
    obtain rfl : e' = e := Option.some.inj h
    by_cases htest : (arg i).isSome ∧ c.shared.options e' = none
    · obtain ⟨d, hnext, hpc'⟩ := exists_next arg
        (show getOrCreate arg i () c.shared (c.pc i) = some (c.shared, .storeOptions locked e') by
          rw [hpc, getOrCreate, if_pos htest])
      exact canReturn_of_next (by simp [hpc]) hnext (hstoring hpc')
    · obtain ⟨d, hnext, hpc'⟩ := exists_next arg
        (show getOrCreate arg i () c.shared (c.pc i) = some (c.shared, .exit locked e') by
          rw [hpc, getOrCreate, if_neg htest])
      exact canReturn_of_next (by simp [hpc]) hnext (canReturn_of_exit hpc')
  case storeOptions locked e' =>
    obtain rfl : e' = e := Option.some.inj h
    exact hstoring hpc
  case storeStatic e' =>
    obtain rfl : e' = e := Option.some.inj h
    obtain ⟨d, hnext, hpc'⟩ := exists_next arg (by rw [hpc]; rfl)
    exact canReturn_of_next (by simp [hpc]) hnext (canReturn_of_exit hpc')
  case exit locked e' =>
    obtain rfl : e' = e := Option.some.inj h
    exact canReturn_of_exit hpc
  case returned e' =>
    obtain rfl : e' = e := Option.some.inj h
    exact ⟨[], c, trivial, rfl, hpc, fun _ _ => rfl⟩
  all_goals cases h

/-- **Isolation of bootstrap flows.** The flows are apart at the end of a run, and at the end of
every continuation in which no call reads null next to the store of another flow, exactly when no
call of the run has done so. -/
theorem isolated_iff (arg : ι → Option CompositeElasticOpenTelemetryOptions) (as : List (ι × Unit))
    (c : Pool ι (Shared ι) Pc) (h : exec (Pool.next (getOrCreate arg)) as initial = some c) :
    Along (Pool.next (getOrCreate arg)) (ReadsAlone arg) as initial ↔
      ∀ later d, Along (Pool.next (getOrCreate arg)) (ReadsAlone arg) later c →
        exec (Pool.next (getOrCreate arg)) later c = some d → Isolated arg d := by
  constructor
  · intro halone later d hlater hexec
    have hisolating : Isolating arg c :=
      exec_induction (fun _ _ _ => isolating_next) halone (isolating_initial arg) h
    exact isolated_of_isolating
      (exec_induction (fun _ _ _ => isolating_next) hlater hisolating hexec)
  · intro hisolated
    by_contra hviolated
    obtain ⟨pre, a, post, u, v, -, -, -, ha, hv, hpost⟩ := exists_violation h hviolated
    have hcollides : Collides arg c :=
      exec_invariant (fun _ _ _ => collides_next) (collides_of_violation ha hv) hpost
    obtain ⟨i, j, e, o, o', hi, hj, ho, ho', hdiffer⟩ := hcollides
    have hij : j ≠ i := by
      intro hij
      rw [hij, ho] at ho'
      obtain rfl : o = o' := Option.some.inj ho'
      exact Bool.false_ne_true (hdiffer.symm.trans o.equals_self)
    -- one call after the other returns, and both return `e`
    obtain ⟨later, d, hlater, hexec, hreturned, hothers⟩ := canReturn_of_result arg hi
    have hj' : (d.pc j).result = some e := by rw [hothers j hij]; exact hj
    obtain ⟨later', d', hlater', hexec', hreturned', hothers'⟩ := canReturn_of_result arg hj'
    have hi' : d'.pc i = .returned e := by rw [hothers' i hij.symm]; exact hreturned
    have hend := hisolated (later ++ later') d' ((along_append hexec).mpr ⟨hlater, hlater'⟩)
      (exec_append_eq_some.mpr ⟨d, hexec, hexec'⟩)
    exact hend.apart i j e e o o' hi' hreturned' ho ho' hdiffer rfl

end Runs

/-- Options with an OpAMP endpoint. -/
def endpointOptions (endpoint : Str) : CompositeElasticOpenTelemetryOptions :=
  CompositeElasticOpenTelemetryOptions.ofOptions .linux
    { opAmpClientOptions := { endpoint := some endpoint } } fun _ => none

/-- A call without options, and two calls with different ones. -/
def threeCalls (i : Fin 3) : Option CompositeElasticOpenTelemetryOptions :=
  if i = 0 then none
  else if i = 1 then some (endpointOptions "http://localhost:4320".toList)
  else some (endpointOptions "http://localhost:4321".toList)

/-- The first call creates the instance, the second one reads null there, the third one reads null
and stores its options, and then the second one goes on. -/
def racing : List (Fin 3 × Unit) :=
  List.replicate 6 (0, ()) ++ List.replicate 3 (1, ()) ++ List.replicate 6 (2, ()) ++
    List.replicate 2 (1, ())

/-- The two calls with different options return the same instance. -/
theorem racing_not_isolated :
    ¬ ∀ c, exec (Pool.next (getOrCreate threeCalls)) racing initial = some c →
      Isolated threeCalls c := by
  intro h
  have hrun : (exec (Pool.next (getOrCreate threeCalls)) racing initial).isSome = true := rfl
  have hdiffer : (endpointOptions "http://localhost:4320".toList).equals
      (endpointOptions "http://localhost:4321".toList) = false := by decide
  exact (h _ (Option.some_get hrun).symm).apart 1 2 0 0 _ _ rfl rfl rfl rfl hdiffer rfl

/-- Two calls with different options. -/
def twoCalls (second : Bool) : Option CompositeElasticOpenTelemetryOptions :=
  if second then some (endpointOptions "http://localhost:4321".toList)
  else some (endpointOptions "http://localhost:4320".toList)

/-- One after the other, they return different instances. -/
theorem isolated_oneAfterTheOther :
    ∃ c, exec (Pool.next (getOrCreate twoCalls)) (oneAfterTheOther 5) initial = some c ∧
      c.pc false = .returned 0 ∧ c.pc true = .returned 1 ∧ Isolated twoCalls c := by
  have hrun : (exec (Pool.next (getOrCreate twoCalls)) (oneAfterTheOther 5)
      initial).isSome = true := rfl
  refine ⟨_, (Option.some_get hrun).symm, rfl, rfl,
    (isolated_iff twoCalls _ _ (Option.some_get hrun).symm).mp ?_ [] _ trivial rfl⟩
  have hskip {c : Pool Bool (Shared Bool) Pc} {i : Bool} {as : List (Bool × Unit)}
      (hread : (c.pc i).existing = none ∨ c.shared.options 0 ≠ none ∧ (c.pc i).existing = some 0)
      (hrest : ∀ d, Pool.next (getOrCreate twoCalls) (i, ()) c = some d →
        Along (Pool.next (getOrCreate twoCalls)) (ReadsAlone twoCalls) as d) :
      Along (Pool.next (getOrCreate twoCalls)) (ReadsAlone twoCalls) ((i, ()) :: as) c := by
    refine ⟨fun locked e o hpc ho hnone => ?_, hrest⟩
    rw [hpc] at hread
    rcases hread with hread | ⟨hsome, hread⟩
    · cases hread
    · obtain rfl : e = 0 := Option.some.inj hread
      exact absurd hnone hsome
  have hstep {c d : Pool Bool (Shared Bool) Pc} {i : Bool} {as : List (Bool × Unit)}
      (hnext : Pool.next (getOrCreate twoCalls) (i, ()) c = some d)
      (hrest : Along (Pool.next (getOrCreate twoCalls)) (ReadsAlone twoCalls) as d) :
      ∀ d', Pool.next (getOrCreate twoCalls) (i, ()) c = some d' →
        Along (Pool.next (getOrCreate twoCalls)) (ReadsAlone twoCalls) as d' := by
    intro d' hd'
    obtain rfl : d = d' := Option.some.inj (hnext.symm.trans hd')
    exact hrest
  have hset {o : CompositeElasticOpenTelemetryOptions} {x : Option _} (h : x = some o) :
      x ≠ none := by
    rw [h]
    exact Option.some_ne_none o
  -- the first call creates the instance
  refine hskip (Or.inl rfl) (hstep rfl ?_)
  refine hskip (Or.inl rfl) (hstep rfl ?_)
  refine hskip (Or.inl rfl) (hstep rfl ?_)
  refine hskip (Or.inl rfl) (hstep rfl ?_)
  refine hskip (Or.inr ⟨hset rfl, rfl⟩) (hstep rfl ?_)
  refine hskip (Or.inr ⟨hset rfl, rfl⟩) (hstep rfl ?_)
  -- the second one finds it incompatible
  refine hskip (Or.inl rfl) (hstep rfl ?_)
  refine hskip (Or.inr ⟨hset rfl, rfl⟩) (hstep rfl ?_)
  refine hskip (Or.inr ⟨hset rfl, rfl⟩) (hstep rfl ?_)
  refine hskip (Or.inl rfl) (hstep rfl ?_)
  exact ⟨fun locked e o hpc => (by cases hpc), fun _ _ => trivial⟩

end ElasticOpenTelemetry.PreActivation
