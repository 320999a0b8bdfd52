import ElasticOpenTelemetry.Configuration.Options
import ElasticOpenTelemetry.Foundations.ProcessPool

/-!
# The pre-activation instance of the composite logger

`CompositeLogger.GetOrCreate` shares one logger among the calls of a bootstrap flow through the
static field `PreActivationInstance`, with an unlocked fast path and a check under `StaticLock`
(`CompositeLogger.cs`). Whether a call recognises the shared instance is decided by
`IsCompatible`, which reads the instance's activation state first: an instance that has been
activated is no longer a pre-activation singleton.

The constructor activates an instance at once when it is given options without an OpAMP
endpoint, and `GetOrCreate` stores that instance all the same. `sameInstance_iff` states the
consequence: the calls of a flow share one instance exactly when the call that creates it
defers, or when no second call has returned.

Each process is one call of `GetOrCreate`; any number of them run, with any arguments. A step is
one read or write of a shared field, or entering `StaticLock`. Under the lock the static field is
read again where the source names it again; nobody else writes it meanwhile, so the model keeps
the first value. Two references to the same options object are equal options (`equals_self`), so
`IsCompatible` is stated by `Equals` alone.
-/

namespace ElasticOpenTelemetry.PreActivation

open DotNet Execution

variable {ι : Type}

/-- The fields of a `CompositeLogger` that `GetOrCreate` reads, and the call that created it. -/
structure Instance (ι : Type) where
  options : Option CompositeElasticOpenTelemetryOptions
  /-- 0 = pending, 1 = claimed -/
  activationState : ℕ
  creator : ι

/-- Whether the constructor creates the sub-loggers at once. -/
def activeMode (options : Option CompositeElasticOpenTelemetryOptions) : Bool :=
  options.any fun o => isNullOrEmpty o.opAmpEndpoint

/-- The constructor: active mode leaves the activation claimed, deferred mode pending. -/
def Instance.new (creator : ι) (options : Option CompositeElasticOpenTelemetryOptions) :
    Instance ι where
  options := options
  activationState := if activeMode options then 1 else 0
  creator := creator

/-- The statics of `CompositeLogger`, and the instances created so far; a reference to an
instance is its position. -/
structure Shared (ι : Type) where
  preActivationInstance : Option ℕ
  staticLock : Option ι
  instances : List (Instance ι)

namespace Shared

/-- No instance exists. -/
def initial : Shared ι := ⟨none, none, []⟩

/-- `_activationState` of an instance. -/
def activationState (s : Shared ι) (e : ℕ) : ℕ := (s.instances[e]?).elim 0 Instance.activationState

/-- `_options` of an instance. -/
def options (s : Shared ι) (e : ℕ) : Option CompositeElasticOpenTelemetryOptions :=
  (s.instances[e]?).bind Instance.options

/-- Assign `_options` of an instance. -/
def setOptions (s : Shared ι) (e : ℕ)
    (options : Option CompositeElasticOpenTelemetryOptions) : Shared ι :=
  { s with instances := s.instances.modify e fun x => { x with options := options } }

/-- `new CompositeLogger(options)`; the new instance is the last one. -/
def create (s : Shared ι) (creator : ι) (options : Option CompositeElasticOpenTelemetryOptions) :
    Shared ι :=
  { s with instances := s.instances ++ [Instance.new creator options] }

end Shared

/-- The second part of `IsCompatible`, on the two options. -/
def optionsCompatible (existingOptions options : Option CompositeElasticOpenTelemetryOptions) :
    Bool :=
  match existingOptions, options with
  | some existingOptions, some options => existingOptions.equals options
  | _, _ => true

/-- Where a call of `GetOrCreate` is; `locked` tells the check under the lock from the fast
path. -/
inductive Pc
  /-- `var existing = PreActivationInstance` -/
  | readStatic
  | enterLock
  | readStaticLocked
  | readActivationState (locked : Bool) (existing : ℕ)
  | readOptions (locked : Bool) (existing : ℕ)
  /-- `options is not null && existing._options is null` -/
  | testOptions (locked : Bool) (existing : ℕ)
  | storeOptions (locked : Bool) (existing : ℕ)
  /-- `return new CompositeLogger(options)` -/
  | createIsolated (locked : Bool)
  /-- `new CompositeLogger(options)`, to be stored -/
  | createShared
  | storeStatic (created : ℕ)
  | exit (locked : Bool) (result : ℕ)
  | returned (result : ℕ)
  deriving DecidableEq, Repr

/-! ### Instances -/

section Instances

variable {s : Shared ι} {e : ℕ} {x : Instance ι}

theorem getElem?_create (h : s.instances[e]? = some x) (i : ι)
    (options : Option CompositeElasticOpenTelemetryOptions) :
    (s.create i options).instances[e]? = some x := by
  obtain ⟨hlt, -⟩ := List.getElem?_eq_some_iff.mp h
  rw [Shared.create, List.getElem?_append_left hlt, h]

theorem getElem?_create_length (s : Shared ι) (i : ι)
    (options : Option CompositeElasticOpenTelemetryOptions) :
    (s.create i options).instances[s.instances.length]? = some (Instance.new i options) := by
  rw [Shared.create, List.getElem?_append_right (le_refl _), Nat.sub_self]
  rfl

theorem activationState_eq (h : s.instances[e]? = some x) :
    s.activationState e = x.activationState := by
  rw [Shared.activationState, h]
  rfl

theorem options_eq (h : s.instances[e]? = some x) : s.options e = x.options := by
  rw [Shared.options, h]
  rfl

end Instances

/-- One step of the call `i` of `GetOrCreate(arg i)`. -/
def getOrCreate (arg : ι → Option CompositeElasticOpenTelemetryOptions) :
    Pool.Program ι (Shared ι) Pc Unit := fun i _ s pc =>
  match pc with
  | .readStatic =>
    match s.preActivationInstance with
    | some existing => some (s, .readActivationState false existing)
    | none => some (s, .enterLock)
  | .enterLock =>
    if s.staticLock.isNone then some ({ s with staticLock := some i }, .readStaticLocked)
    else none
  | .readStaticLocked =>
    match s.preActivationInstance with
    | some existing => some (s, .readActivationState true existing)
    | none => some (s, .createShared)
  | .readActivationState locked existing =>
    if s.activationState existing ≠ 0 then some (s, .createIsolated locked)
    else some (s, .readOptions locked existing)
  | .readOptions locked existing =>
    if optionsCompatible (s.options existing) (arg i) then some (s, .testOptions locked existing)
    else some (s, .createIsolated locked)
  | .testOptions locked existing =>
    if (arg i).isSome ∧ s.options existing = none then some (s, .storeOptions locked existing)
    else some (s, .exit locked existing)
  | .storeOptions locked existing => some (s.setOptions existing (arg i), .exit locked existing)
  | .createIsolated locked => some (s.create i (arg i), .exit locked s.instances.length)
  | .createShared => some (s.create i (arg i), .storeStatic s.instances.length)
  | .storeStatic created =>
    some ({ s with preActivationInstance := some created }, .exit true created)
  | .exit locked result =>
    some (if locked then { s with staticLock := none } else s, .returned result)
  | .returned _ => none

/-- No call has taken a step. -/
def initial : Pool ι (Shared ι) Pc := ⟨.initial, fun _ => .readStatic⟩

/-- All calls that have returned have returned the same instance. -/
def SameInstance (c : Pool ι (Shared ι) Pc) : Prop :=
  ∀ i j a b, c.pc i = .returned a → c.pc j = .returned b → a = b

/-- At most one call has returned. -/
def AtMostOneReturned (c : Pool ι (Shared ι) Pc) : Prop :=
  ∀ i j a b, c.pc i = .returned a → c.pc j = .returned b → i = j

/-- A call that creates the shared instance passes null or options with an OpAMP endpoint. -/
def CreatesDeferred (arg : ι → Option CompositeElasticOpenTelemetryOptions) (a : ι × Unit)
    (c : Pool ι (Shared ι) Pc) : Prop :=
  c.pc a.1 = .createShared → activeMode (arg a.1) = false

/-! ### Calls that share one instance -/

section Deferred

variable (o : CompositeElasticOpenTelemetryOptions)

/-- The instance is pending, and its options, if any, equal those of the flow. -/
def Shareable (s : Shared ι) (e : ℕ) : Prop :=
  ∃ x, s.instances[e]? = some x ∧ x.activationState = 0 ∧
    ∀ a, x.options = some a → a.equals o = true

/-- What a call relies on while the shared instance defers: an instance that it has seen is the
shared one, the lock is its own where it has taken it, and it never comes to create an isolated
instance. -/
def deferredLoc (i : ι) (s : Shared ι) : Pc → Prop
  | .readStatic | .enterLock => True
  | .readStaticLocked => s.staticLock = some i
  | .createShared => s.staticLock = some i ∧ s.preActivationInstance = none
  | .storeStatic created =>
    s.staticLock = some i ∧ s.preActivationInstance = none ∧ Shareable o s created
  | .readActivationState locked e | .readOptions locked e | .testOptions locked e
  | .storeOptions locked e | .exit locked e =>
    s.preActivationInstance = some e ∧ (locked = true → s.staticLock = some i)
  | .createIsolated _ => False
  | .returned e => s.preActivationInstance = some e

/-- A step stores the shared instance once and under the lock, leaves the lock of another call
alone, and keeps instances shareable. -/
structure DeferredStep (i : ι) (s s' : Shared ι) : Prop where
  static : s'.preActivationInstance = s.preActivationInstance ∨
    s.preActivationInstance = none ∧ s.staticLock = some i
  lock : ∀ j, j ≠ i → s.staticLock = some j → s'.staticLock = some j
  shareable : ∀ e, Shareable o s e → Shareable o s' e

variable {o}

theorem DeferredStep.refl (i : ι) (s : Shared ι) : DeferredStep o i s s :=
  ⟨Or.inl rfl, fun _ _ h => h, fun _ h => h⟩

/-- What one call relies on survives the steps of the others. -/
theorem deferredLoc_stable (i j : ι) (s s' : Shared ι) (pc : Pc) (hij : j ≠ i)
    (hstep : DeferredStep o i s s') (h : deferredLoc o j s pc) : deferredLoc o j s' pc := by
  have hsome : ∀ e, s.preActivationInstance = some e → s'.preActivationInstance = some e := by
    intro e he
    rcases hstep.static with heq | ⟨hnone, -⟩
    · rw [heq, he]
    · rw [hnone] at he
      simp at he
  -- only the holder of the lock stores the shared instance
  have hnone : s.staticLock = some j → s.preActivationInstance = none →
      s'.preActivationInstance = none := by
    intro hlock hpre
    rcases hstep.static with heq | ⟨-, hlock'⟩
    · rw [heq, hpre]
    · rw [hlock] at hlock'
      exact absurd (Option.some.inj hlock') hij
  have hlock := hstep.lock j hij
  cases pc with
  | readStatic => trivial
  | enterLock => trivial
  | readStaticLocked => exact hlock h
  | createShared => exact ⟨hlock h.1, hnone h.1 h.2⟩
  | storeStatic created => exact ⟨hlock h.1, hnone h.1 h.2.1, hstep.shareable created h.2.2⟩
  | createIsolated locked => exact h
  | returned e => exact hsome e h
  | readActivationState locked e => exact ⟨hsome e h.1, fun hl => hlock (h.2 hl)⟩
  | readOptions locked e => exact ⟨hsome e h.1, fun hl => hlock (h.2 hl)⟩
  | testOptions locked e => exact ⟨hsome e h.1, fun hl => hlock (h.2 hl)⟩
  | storeOptions locked e => exact ⟨hsome e h.1, fun hl => hlock (h.2 hl)⟩
  | exit locked e => exact ⟨hsome e h.1, fun hl => hlock (h.2 hl)⟩

theorem shareable_create {s : Shared ι} {e : ℕ} (h : Shareable o s e) (i : ι)
    (options : Option CompositeElasticOpenTelemetryOptions) :
    Shareable o (s.create i options) e := by
  obtain ⟨x, hx, hrest⟩ := h
  exact ⟨x, getElem?_create hx i options, hrest⟩

/-- Storing options of the flow keeps an instance shareable. -/
theorem shareable_setOptions {s : Shared ι} {e e' : ℕ} (h : Shareable o s e)
    {options : Option CompositeElasticOpenTelemetryOptions}
    (hoptions : ∀ a, options = some a → a.equals o = true) :
    Shareable o (s.setOptions e' options) e := by
  obtain ⟨x, hx, hstate, hequal⟩ := h
  by_cases he : e' = e
  · refine ⟨{ x with options := options }, ?_, hstate, hoptions⟩
    simp [Shared.setOptions, hx, he]
  · refine ⟨x, ?_, hstate, hequal⟩
    simp [Shared.setOptions, hx, he]

/-- A new instance in deferred mode is shareable. -/
theorem shareable_new (s : Shared ι) (i : ι)
    {options : Option CompositeElasticOpenTelemetryOptions} (hmode : activeMode options = false)
    (hoptions : ∀ a, options = some a → a.equals o = true) :
    Shareable o (s.create i options) s.instances.length :=
  ⟨_, getElem?_create_length s i options, by simp [Instance.new, hmode], hoptions⟩

/-- Options of the flow are compatible with those of a shareable instance. -/
theorem optionsCompatible_of_shareable {s : Shared ι} {e : ℕ} (h : Shareable o s e)
    {options : Option CompositeElasticOpenTelemetryOptions}
    (hoptions : ∀ a, options = some a → a.equals o = true) :
    optionsCompatible (s.options e) options = true := by
  obtain ⟨x, hx, -, hequal⟩ := h
  rw [options_eq hx]
  cases hexisting : x.options with
  | none => rfl
  | some a =>
    cases options with
    | none => rfl
    | some b =>
      have ha := CompositeElasticOpenTelemetryOptions.equals_iff.mp (hequal a hexisting)
      have hb := CompositeElasticOpenTelemetryOptions.equals_iff.mp (hoptions b rfl)
      exact CompositeElasticOpenTelemetryOptions.equals_iff.mpr (ha.trans hb.symm)

/-- One step of a call, while the shared instance defers. -/
theorem deferred_step {arg : ι → Option CompositeElasticOpenTelemetryOptions}
    (harg : ∀ i a, arg i = some a → a.equals o = true) {i : ι} {s s' : Shared ι} {pc pc' : Pc}
    (hcreates : pc = .createShared → activeMode (arg i) = false)
    (hglobal : ∀ e, s.preActivationInstance = some e → Shareable o s e)
    (hloc : deferredLoc o i s pc) (hstep : getOrCreate arg i () s pc = some (s', pc')) :
    (∀ e, s'.preActivationInstance = some e → Shareable o s' e) ∧ deferredLoc o i s' pc' ∧
      DeferredStep o i s s' := by
  cases pc <;> simp only [getOrCreate] at hstep
  case readStatic =>
    split at hstep
    case h_1 e he =>
      obtain ⟨rfl, rfl⟩ := Prod.mk.inj (Option.some.inj hstep)
      exact ⟨hglobal, ⟨he, by simp⟩, .refl i s⟩
    case h_2 =>
      obtain ⟨rfl, rfl⟩ := Prod.mk.inj (Option.some.inj hstep)
      exact ⟨hglobal, trivial, .refl i s⟩
  case enterLock =>
    split at hstep
    case isTrue hfree =>
      obtain ⟨rfl, rfl⟩ := Prod.mk.inj (Option.some.inj hstep)
      refine ⟨hglobal, rfl, ⟨Or.inl rfl, fun j _ hj => ?_, fun _ h => h⟩⟩
      simp [hj] at hfree
    case isFalse => simp at hstep
  case readStaticLocked =>
    split at hstep
    case h_1 e he =>
      obtain ⟨rfl, rfl⟩ := Prod.mk.inj (Option.some.inj hstep)
      exact ⟨hglobal, ⟨he, fun _ => hloc⟩, .refl i s⟩
    case h_2 hnone =>
      obtain ⟨rfl, rfl⟩ := Prod.mk.inj (Option.some.inj hstep)
      exact ⟨hglobal, ⟨hloc, hnone⟩, .refl i s⟩
  case readActivationState locked e =>
    -- the shared instance is pending
    obtain ⟨x, hx, hstate, -⟩ := hglobal e hloc.1
    rw [activationState_eq hx, hstate, if_neg (by simp)] at hstep
    obtain ⟨rfl, rfl⟩ := Prod.mk.inj (Option.some.inj hstep)
    exact ⟨hglobal, hloc, .refl i s⟩
  case readOptions locked e =>
    rw [if_pos (optionsCompatible_of_shareable (hglobal e hloc.1) (harg i))] at hstep
    obtain ⟨rfl, rfl⟩ := Prod.mk.inj (Option.some.inj hstep)
    exact ⟨hglobal, hloc, .refl i s⟩
  case testOptions locked e =>
    split at hstep
    all_goals
      obtain ⟨rfl, rfl⟩ := Prod.mk.inj (Option.some.inj hstep)
      exact ⟨hglobal, hloc, .refl i s⟩
  case storeOptions locked e =>
    obtain ⟨rfl, rfl⟩ := Prod.mk.inj (Option.some.inj hstep)
    have hkeeps : ∀ e', Shareable o s e' → Shareable o (s.setOptions e (arg i)) e' :=
      fun e' h => shareable_setOptions h (harg i)
    exact ⟨fun e' he' => hkeeps e' (hglobal e' he'), hloc, ⟨Or.inl rfl, fun _ _ h => h, hkeeps⟩⟩
  case createIsolated => exact absurd hloc id
  case createShared =>
    obtain ⟨rfl, rfl⟩ := Prod.mk.inj (Option.some.inj hstep)
    have hkeeps : ∀ e, Shareable o s e → Shareable o (s.create i (arg i)) e :=
      fun e h => shareable_create h i (arg i)
    refine ⟨fun e he => hkeeps e (hglobal e he), ⟨hloc.1, hloc.2, ?_⟩,
      ⟨Or.inl rfl, fun _ _ h => h, hkeeps⟩⟩
    exact shareable_new s i (hcreates rfl) (harg i)
  case storeStatic created =>
    obtain ⟨rfl, rfl⟩ := Prod.mk.inj (Option.some.inj hstep)
    refine ⟨fun e he => ?_, ⟨rfl, fun _ => hloc.1⟩,
      ⟨Or.inr ⟨hloc.2.1, hloc.1⟩, fun _ _ h => h, fun _ h => h⟩⟩
    obtain rfl : created = e := Option.some.inj he
    exact hloc.2.2
  case exit locked e =>
    obtain ⟨rfl, rfl⟩ := Prod.mk.inj (Option.some.inj hstep)
    cases locked with
    | false => exact ⟨hglobal, hloc.1, .refl i s⟩
    | true =>
      refine ⟨hglobal, hloc.1, ⟨Or.inl rfl, fun j hij hj => ?_, fun _ h => h⟩⟩
      rw [hloc.2 rfl] at hj
      exact absurd (Option.some.inj hj).symm hij
  case returned => simp at hstep

/-- The outline of the runs whose shared instance defers. -/
def deferredOutline {arg : ι → Option CompositeElasticOpenTelemetryOptions}
    (harg : ∀ i a, arg i = some a → a.equals o = true) :
    Pool.Outline (getOrCreate arg) (CreatesDeferred arg) :=
  .ofGuarantee (fun s => ∀ e, s.preActivationInstance = some e → Shareable o s e)
    (deferredLoc o) (DeferredStep o)
    (fun _ _ _ _ _ hcreates hglobal hloc hstep => deferred_step harg hcreates hglobal hloc hstep)
    deferredLoc_stable

theorem deferredOutline_initial {arg : ι → Option CompositeElasticOpenTelemetryOptions}
    (harg : ∀ i a, arg i = some a → a.equals o = true) : (deferredOutline harg).Holds initial :=
  ⟨fun _ h => by simp [initial, Shared.initial] at h, fun _ => trivial⟩

end Deferred

/-! ### Calls after an active instance was created -/

section Active

/-- The instance was created by the call. -/
def CreatedBy (s : Shared ι) (e : ℕ) (i : ι) : Prop :=
  ∃ x, s.instances[e]? = some x ∧ x.creator = i

/-- What the memory holds once the call `i₀` has created the active instance `a`: that instance,
which is shared or about to be. -/
structure ActiveGlobal (i₀ : ι) (a : ℕ) (s : Shared ι) : Prop where
  instance_active : ∃ x, s.instances[a]? = some x ∧ x.activationState ≠ 0 ∧ x.creator = i₀
  static : s.preActivationInstance = some a ∨
    s.preActivationInstance = none ∧ s.staticLock = some i₀

/-- What the creator relies on from then on: it returns its instance. -/
def creatorLoc (i₀ : ι) (a : ℕ) (s : Shared ι) (pc : Pc) : Prop :=
  pc = .storeStatic a ∧ s.preActivationInstance = none ∧ s.staticLock = some i₀ ∨
  pc = .exit true a ∧ s.preActivationInstance = some a ∧ s.staticLock = some i₀ ∨
  pc = .returned a

/-- What every other call relies on from then on: it finds that instance claimed and creates
one of its own. -/
def otherLoc (a : ℕ) (i : ι) (s : Shared ι) : Pc → Prop
  | .readStatic | .enterLock => True
  | .readStaticLocked => s.preActivationInstance = some a ∧ s.staticLock = some i
  | .readActivationState locked e => e = a ∧ (locked = true → s.staticLock = some i)
  | .createIsolated locked => locked = true → s.staticLock = some i
  | .exit locked e => CreatedBy s e i ∧ (locked = true → s.staticLock = some i)
  | .returned e => CreatedBy s e i
  | _ => False

/-- What a call relies on from then on. -/
structure ActiveLoc (i₀ : ι) (a : ℕ) (i : ι) (s : Shared ι) (pc : Pc) : Prop where
  creator : i = i₀ → creatorLoc i₀ a s pc
  other : i ≠ i₀ → otherLoc a i s pc

/-- Only the creator stores the shared instance, a step leaves the lock of another call alone,
and instances keep their creators. -/
structure ActiveStep (i₀ : ι) (a : ℕ) (i : ι) (s s' : Shared ι) : Prop where
  static : s'.preActivationInstance = s.preActivationInstance ∨
    i = i₀ ∧ s'.preActivationInstance = some a
  lock : ∀ j, j ≠ i → s.staticLock = some j → s'.staticLock = some j
  createdBy : ∀ e j, CreatedBy s e j → CreatedBy s' e j

variable {i₀ : ι} {a : ℕ}

theorem ActiveStep.refl (i : ι) (s : Shared ι) : ActiveStep i₀ a i s s :=
  ⟨Or.inl rfl, fun _ _ h => h, fun _ _ h => h⟩

theorem createdBy_create {s : Shared ι} {e : ℕ} {j : ι} (h : CreatedBy s e j) (i : ι)
    (options : Option CompositeElasticOpenTelemetryOptions) :
    CreatedBy (s.create i options) e j := by
  obtain ⟨x, hx, hcreator⟩ := h
  exact ⟨x, getElem?_create hx i options, hcreator⟩

theorem createdBy_length (s : Shared ι) (i : ι)
    (options : Option CompositeElasticOpenTelemetryOptions) :
    CreatedBy (s.create i options) s.instances.length i :=
  ⟨_, getElem?_create_length s i options, rfl⟩

/-- An instance has one creator. -/
theorem CreatedBy.unique {s : Shared ι} {e : ℕ} {i j : ι} (hi : CreatedBy s e i)
    (hj : CreatedBy s e j) : i = j := by
  obtain ⟨x, hx, rfl⟩ := hi
  obtain ⟨y, hy, rfl⟩ := hj
  rw [hx] at hy
  rw [Option.some.inj hy]

/-- What one call relies on survives the steps of the others. -/
theorem activeLoc_stable (i j : ι) (s s' : Shared ι) (pc : Pc) (hij : j ≠ i)
    (hstep : ActiveStep i₀ a i s s') (h : ActiveLoc i₀ a j s pc) : ActiveLoc i₀ a j s' pc := by
  have hlock := hstep.lock j hij
  have hsome : s.preActivationInstance = some a → s'.preActivationInstance = some a := by
    intro ha
    rcases hstep.static with heq | ⟨-, hstore⟩
    · rw [heq, ha]
    · exact hstore
  refine ⟨fun hj => ?_, fun hj => ?_⟩
  · -- the creator's own store is the only one
    have hkeep : s'.preActivationInstance = s.preActivationInstance :=
      hstep.static.resolve_right fun hstore => hij (hj.trans hstore.1.symm)
    rcases h.creator hj with ⟨rfl, hnone, hl⟩ | ⟨rfl, hs, hl⟩ | rfl
    · exact Or.inl ⟨rfl, hkeep.trans hnone, hj ▸ hlock (hj ▸ hl)⟩
    · exact Or.inr (Or.inl ⟨rfl, hkeep.trans hs, hj ▸ hlock (hj ▸ hl)⟩)
    · exact Or.inr (Or.inr rfl)
  · have hother := h.other hj
    cases pc with
    | readStatic => trivial
    | enterLock => trivial
    | readStaticLocked => exact ⟨hsome hother.1, hlock hother.2⟩
    | readActivationState locked e => exact ⟨hother.1, fun hl => hlock (hother.2 hl)⟩
    | createIsolated locked => exact fun hl => hlock (hother hl)
    | exit locked e => exact ⟨hstep.createdBy e j hother.1, fun hl => hlock (hother.2 hl)⟩
    | returned e => exact hstep.createdBy e j hother
    | _ => exact hother

/-- One step of the creator. -/
theorem active_step_creator {arg : ι → Option CompositeElasticOpenTelemetryOptions}
    {s s' : Shared ι} {pc pc' : Pc} (hglobal : ActiveGlobal i₀ a s) (hloc : creatorLoc i₀ a s pc)
    (hstep : getOrCreate arg i₀ () s pc = some (s', pc')) :
    ActiveGlobal i₀ a s' ∧ creatorLoc i₀ a s' pc' ∧ ActiveStep i₀ a i₀ s s' := by
  rcases hloc with ⟨rfl, hnone, hlock⟩ | ⟨rfl, hsome, hlock⟩ | rfl
  · obtain ⟨rfl, rfl⟩ := Prod.mk.inj (Option.some.inj hstep)
    exact ⟨⟨hglobal.instance_active, Or.inl rfl⟩, Or.inr (Or.inl ⟨rfl, rfl, hlock⟩),
      ⟨Or.inr ⟨rfl, rfl⟩, fun _ _ h => h, fun _ _ h => h⟩⟩
  · obtain ⟨rfl, rfl⟩ := Prod.mk.inj (Option.some.inj hstep)
    refine ⟨⟨hglobal.instance_active, Or.inl hsome⟩, Or.inr (Or.inr rfl),
      ⟨Or.inl rfl, fun j hj hj' => ?_, fun _ _ h => h⟩⟩
    rw [hlock] at hj'
    exact absurd (Option.some.inj hj').symm hj
  · simp [getOrCreate] at hstep

/-- One step of another call. -/
theorem active_step_other {arg : ι → Option CompositeElasticOpenTelemetryOptions} {i : ι}
    {s s' : Shared ι} {pc pc' : Pc} (hi : i ≠ i₀) (hglobal : ActiveGlobal i₀ a s)
    (hloc : otherLoc a i s pc) (hstep : getOrCreate arg i () s pc = some (s', pc')) :
    ActiveGlobal i₀ a s' ∧ otherLoc a i s' pc' ∧ ActiveStep i₀ a i s s' := by
  obtain ⟨x, hx, hactive, hcreator⟩ := hglobal.instance_active
  cases pc <;> simp only [getOrCreate] at hstep
  case readStatic =>
    split at hstep
    case h_1 e he =>
      obtain ⟨rfl, rfl⟩ := Prod.mk.inj (Option.some.inj hstep)
      have hsome : s.preActivationInstance = some a :=
        hglobal.static.resolve_right fun hnone => by simp [he] at hnone
      exact ⟨hglobal, ⟨Option.some.inj (he.symm.trans hsome), by simp⟩, .refl i s⟩
    case h_2 =>
      obtain ⟨rfl, rfl⟩ := Prod.mk.inj (Option.some.inj hstep)
      exact ⟨hglobal, trivial, .refl i s⟩
  case enterLock =>
    split at hstep
    case isTrue hfree =>
      obtain ⟨rfl, rfl⟩ := Prod.mk.inj (Option.some.inj hstep)
      -- the creator has left the lock, so its instance is shared
      have hsome : s.preActivationInstance = some a :=
        hglobal.static.resolve_right fun hnone => by simp [hnone.2] at hfree
      refine ⟨⟨⟨x, hx, hactive, hcreator⟩, Or.inl hsome⟩, ⟨hsome, rfl⟩,
        ⟨Or.inl rfl, fun j _ hj => ?_, fun _ _ h => h⟩⟩
      simp [hj] at hfree
    case isFalse => simp at hstep
  case readStaticLocked =>
    rw [hloc.1] at hstep
    obtain ⟨rfl, rfl⟩ := Prod.mk.inj (Option.some.inj hstep)
    exact ⟨hglobal, ⟨rfl, fun _ => hloc.2⟩, .refl i s⟩
  case readActivationState locked e =>
    obtain ⟨rfl, hlock⟩ := hloc
    rw [activationState_eq hx, if_pos hactive] at hstep
    obtain ⟨rfl, rfl⟩ := Prod.mk.inj (Option.some.inj hstep)
    exact ⟨hglobal, hlock, .refl i s⟩
  case createIsolated locked =>
    obtain ⟨rfl, rfl⟩ := Prod.mk.inj (Option.some.inj hstep)
    exact ⟨⟨⟨x, getElem?_create hx i (arg i), hactive, hcreator⟩, hglobal.static⟩,
      ⟨createdBy_length s i (arg i), hloc⟩,
      ⟨Or.inl rfl, fun _ _ h => h, fun e j h => createdBy_create h i (arg i)⟩⟩
  case exit locked e =>
    obtain ⟨rfl, rfl⟩ := Prod.mk.inj (Option.some.inj hstep)
    cases locked with
    | false => exact ⟨hglobal, hloc.1, .refl i s⟩
    | true =>
      have hlock := hloc.2 rfl
      refine ⟨⟨⟨x, hx, hactive, hcreator⟩, hglobal.static.imp_right fun hnone => ?_⟩, hloc.1,
        ⟨Or.inl rfl, fun j hij hj => ?_, fun _ _ h => h⟩⟩
      · rw [hlock] at hnone
        exact absurd (Option.some.inj hnone.2) hi
      · rw [hlock] at hj
        exact absurd (Option.some.inj hj).symm hij
  case returned => simp at hstep
  all_goals exact absurd hloc id

/-- The outline of a run from the creation of an active instance on. -/
def activeOutline (arg : ι → Option CompositeElasticOpenTelemetryOptions) (i₀ : ι) (a : ℕ) :
    Pool.Outline (getOrCreate arg) (fun _ _ => True) :=
  .ofGuarantee (ActiveGlobal i₀ a) (ActiveLoc i₀ a) (ActiveStep i₀ a)
    (fun i _ c s' pc' _ hglobal hloc hstep => by
      by_cases hi : i = i₀
      · subst hi
        obtain ⟨hglobal', hcreator, hguar⟩ :=
          active_step_creator hglobal (hloc.creator rfl) hstep
        exact ⟨hglobal', ⟨fun _ => hcreator, fun hne => absurd rfl hne⟩, hguar⟩
      · obtain ⟨hglobal', hother, hguar⟩ :=
          active_step_other hi hglobal (hloc.other hi) hstep
        exact ⟨hglobal', ⟨fun heq => absurd heq hi, fun _ => hother⟩, hguar⟩)
    activeLoc_stable

end Active

/-! ### Sharing -/

variable [DecidableEq ι]

/-- Creating an active instance starts the second outline: no other call has got past the lock. -/
theorem activeOutline_of_createShared {o : CompositeElasticOpenTelemetryOptions}
    {arg : ι → Option CompositeElasticOpenTelemetryOptions}
    (harg : ∀ i a, arg i = some a → a.equals o = true) {i₀ : ι} {c d : Pool ι (Shared ι) Pc}
    (hholds : (deferredOutline harg).Holds c) (hpc : c.pc i₀ = .createShared)
    (hactive : activeMode (arg i₀) = true)
    (hnext : Pool.next (getOrCreate arg) (i₀, ()) c = some d) :
    (activeOutline arg i₀ c.shared.instances.length).Holds d := by
  have hcreator : deferredLoc o i₀ c.shared (c.pc i₀) := hholds.loc i₀
  rw [hpc] at hcreator
  obtain ⟨hlock, hnone⟩ := hcreator
  obtain ⟨s', pc', hstep, rfl⟩ := Pool.next_eq_some.mp hnext
  rw [hpc] at hstep
  obtain ⟨rfl, rfl⟩ := Prod.mk.inj (Option.some.inj hstep)
  refine ⟨⟨⟨_, getElem?_create_length _ _ _, by simp [Instance.new, hactive], rfl⟩,
    Or.inr ⟨hnone, hlock⟩⟩, fun j => ⟨fun hj => ?_, fun hj => ?_⟩⟩
  · subst hj
    simp only [Function.update_self]
    exact Or.inl ⟨rfl, hnone, hlock⟩
  · simp only [Function.update_of_ne hj]
    -- nothing is shared yet, and the lock is the creator's
    have hother : deferredLoc o j c.shared (c.pc j) := hholds.loc j
    cases hpcj : c.pc j <;> simp only [hpcj, deferredLoc, hnone, hlock, Option.some.injEq] at hother
    case readStatic => trivial
    case enterLock => trivial
    case readStaticLocked => exact absurd hother.symm hj
    case createShared => exact absurd hother.1.symm hj
    case storeStatic => exact absurd hother.1.symm hj
    all_goals simp at hother

/-- An active instance is returned by its creator alone. -/
theorem atMostOneReturned_of_active {arg : ι → Option CompositeElasticOpenTelemetryOptions}
    {i₀ : ι} {e : ℕ} {c : Pool ι (Shared ι) Pc} (hholds : (activeOutline arg i₀ e).Holds c)
    (hsame : SameInstance c) : AtMostOneReturned c := by
  have hcreated : ∀ i a, c.pc i = .returned a → CreatedBy c.shared a i := by
    intro i a hi
    have hloc : ActiveLoc i₀ e i c.shared (c.pc i) := hholds.loc i
    rw [hi] at hloc
    by_cases hi₀ : i = i₀
    · obtain rfl : a = e := by simpa [creatorLoc] using hloc.creator hi₀
      obtain ⟨x, hx, -, hcreator⟩ := hholds.global.instance_active
      exact ⟨x, hx, hcreator.trans hi₀.symm⟩
    · exact hloc.other hi₀
  intro i j a b hi hj
  obtain rfl : a = b := hsame i j a b hi hj
  exact (hcreated i a hi).unique (hcreated j a hj)

/-- **The singleton of a bootstrap flow.** The calls that have returned have returned one
instance exactly when the shared instance was created in deferred mode, or at most one call has
returned. -/
theorem sameInstance_iff (o : CompositeElasticOpenTelemetryOptions)
    (arg : ι → Option CompositeElasticOpenTelemetryOptions)
    (harg : ∀ i a, arg i = some a → a.equals o = true) (as : List (ι × Unit))
    (c : Pool ι (Shared ι) Pc)
    (h : exec (Pool.next (getOrCreate arg)) as initial = some c) :
    SameInstance c ↔
      Along (Pool.next (getOrCreate arg)) (CreatesDeferred arg) as initial ∨
        AtMostOneReturned c := by
  constructor
  · intro hsame
    by_cases hdeferred : Along (Pool.next (getOrCreate arg)) (CreatesDeferred arg) as initial
    · exact Or.inl hdeferred
    · obtain ⟨pre, ⟨i₀, _⟩, post, u, v, -, hu, hpre, hactive, hv, hc⟩ :=
        exists_violation h hdeferred
      rw [CreatesDeferred, Classical.not_imp, Bool.not_eq_false] at hactive
      have hholds := (deferredOutline harg).exec hpre (deferredOutline_initial harg) hu
      have hstart := activeOutline_of_createShared harg hholds hactive.1 hactive.2 hv
      have hend := (activeOutline arg i₀ u.shared.instances.length).exec_always hstart hc
      exact Or.inr (atMostOneReturned_of_active hend hsame)
  · rintro (hdeferred | hone) i j a b hi hj
    · have hholds := (deferredOutline harg).exec hdeferred (deferredOutline_initial harg) h
      have hloci : deferredLoc o i c.shared (c.pc i) := hholds.loc i
      have hlocj : deferredLoc o j c.shared (c.pc j) := hholds.loc j
      rw [hi] at hloci
      rw [hj] at hlocj
      exact Option.some.inj (hloci.symm.trans hlocj)
    · obtain rfl : i = j := hone i j a b hi hj
      simpa [hi] using hj

/-- A first call of six steps, and a second one after it. -/
def oneAfterTheOther (second : ℕ) : List (Bool × Unit) :=
  List.replicate 6 (false, ()) ++ List.replicate second (true, ())

/-- No call has options. -/
def withoutOptions (_ : Bool) : Option CompositeElasticOpenTelemetryOptions := none

/-- Two calls without options share an instance: the first creates it in deferred mode. -/
theorem sameInstance_withoutOptions :
    ∃ c, exec (Pool.next (getOrCreate withoutOptions)) (oneAfterTheOther 5) initial = some c ∧
      c.pc false = .returned 0 ∧ c.pc true = .returned 0 ∧ SameInstance c := by
  have hrun : (exec (Pool.next (getOrCreate withoutOptions)) (oneAfterTheOther 5)
      initial).isSome = true := rfl
  have harg : ∀ i a, withoutOptions i = some a →
      a.equals (.ofEnvironment .linux fun _ => none) = true := by simp [withoutOptions]
  refine ⟨_, (Option.some_get hrun).symm, rfl, rfl, (sameInstance_iff _ withoutOptions harg _ _
    (Option.some_get hrun).symm).mpr (Or.inl ?_)⟩
  exact along_of_forall (fun _ _ _ => rfl) _ _

/-- Options without an OpAMP endpoint, passed by every call. -/
def withoutEndpoint (_ : Bool) : Option CompositeElasticOpenTelemetryOptions :=
  some (.ofEnvironment .linux fun _ => none)

/-- Two calls with such options return two instances. -/
theorem withoutEndpoint_not_sameInstance :
    ∃ c, exec (Pool.next (getOrCreate withoutEndpoint)) (oneAfterTheOther 4) initial = some c ∧
      c.pc false = .returned 0 ∧ c.pc true = .returned 1 ∧ ¬ SameInstance c := by
  have hrun : (exec (Pool.next (getOrCreate withoutEndpoint)) (oneAfterTheOther 4)
      initial).isSome = true := rfl
  refine ⟨_, (Option.some_get hrun).symm, rfl, rfl, fun hsame => ?_⟩
  exact absurd (hsame false true 0 1 rfl rfl) (by simp)

end ElasticOpenTelemetry.PreActivation
