import ElasticOpenTelemetry.Bootstrap
import ElasticOpenTelemetry.Foundations.ProcessPool
import Mathlib.Data.List.Nodup
import Mathlib.Data.List.Pairwise

/-!
# The lifetime of components

`Bootstrap` (`ElasticOpenTelemetry.cs`) runs under a static lock: it takes the components from the
`IServiceCollection`, or shared ones with equal options, or creates new ones, which it shares, and
registers what it has found. `Dispose` and `DisposeAsync` of the components
(`ElasticOpenTelemetryComponents.cs`) first pass a gate, then remove the components from the shared
ones, under the same lock, and then dispose their parts one after the other. A host disposes the
components that its service provider has when it has stopped (`ElasticOpenTelemetryService.cs`).

Any number of these calls interleave, for any number of service collections. Creating components
may throw, and so may disposing a part. What creating does besides is in `Bootstrap` and
`BootstrapFailure`, and what disposing the central configuration does in `ClientTeardown`.

`teardown_afterRemoval` states that components are torn down part by part, once, and not before
they have been removed, so that those that `Bootstrap` finds shared or creates are intact when it
returns them. Those from a service collection need not be. `bootstrap_oneInstance` states which
calls return the same components.
-/

namespace ElasticOpenTelemetry.ComponentsLifetime

open DotNet Execution

/-! ### The calls -/

section Calls

variable {ι κ S : Type}

/-- The calls of `Bootstrap`, and those that dispose components. -/
inductive Process (ι κ : Type)
  | bootstrap (i : ι)
  | dispose (j : κ)
  deriving DecidableEq

/-- The parts of components. -/
inductive Part
  | centralConfiguration
  | logger
  | loggingEventListener
  deriving DecidableEq, Repr

/-- Components that were created: their options, and whether they have a central configuration. -/
structure Instance where
  options : CompositeElasticOpenTelemetryOptions
  centralConfiguration : Bool

/-- The parts that `Dispose` disposes, in this order. -/
def Instance.parts (x : Instance) : List Part :=
  (if x.centralConfiguration then [.centralConfiguration] else []) ++
    [.logger, .loggingEventListener]

/-- Where `Bootstrap` has found what it returns. -/
inductive Source
  | services
  | shared
  | created
  deriving DecidableEq, Repr

/-- Who disposes: a host, or the caller that has the result of `Bootstrap`. -/
inductive Holder (ι S : Type)
  /-- `ElasticOpenTelemetryService.StoppedAsync` -/
  | host (services : S)
  | caller (i : ι)

/-- The arguments of the calls, and what central configuration answers to those that create. -/
structure Calls (ι κ S : Type) where
  options : ι → CompositeElasticOpenTelemetryOptions
  services : ι → Option S
  initialLevel : ι → Option Str
  holder : κ → Holder ι S

/-- The statics of `ElasticOpenTelemetry`, the service collections, and the components; a
reference to components is the position of the instance. -/
structure Memory (ι κ S : Type) where
  lock : Option (Process ι κ)
  instances : List Instance
  sharedComponents : List ℕ
  /-- the instance that is registered as a singleton -/
  registered : S → Option ℕ
  /-- what the calls of `Bootstrap` have returned -/
  handedOut : ι → Option ℕ
  /-- `_disposed`, by the call that set it -/
  disposed : ℕ → Option κ
  /-- the parts whose disposal has begun -/
  tornDown : ℕ → List Part

/-- Where a call is. -/
inductive Pc
  | enterLock
  | lookupServices
  | lookupShared
  | create
  | share (c : ℕ)
  /-- `services?.AddSingleton(components)` -/
  | register (c : ℕ) (source : Source)
  /-- leave the lock, and return -/
  | exit (c : ℕ) (source : Source)
  | bootstrapped (c : ℕ) (source : Source)
  /-- leave the lock with an exception -/
  | abort
  /-- the host asks its provider for the components, or the caller has them -/
  | resolve
  /-- `Interlocked.Exchange(ref _disposed, 1)` -/
  | exchange (c : ℕ)
  /-- `SharedComponents.Remove(this)`, under the lock -/
  | remove (c : ℕ)
  | disposePart (c : ℕ) (part : Part) (rest : List Part)
  | returned
  | threw
  deriving DecidableEq

/-- What the environment decides: creating, disposing a part, and logging may throw. -/
inductive Choice
  | ok
  | throws
  deriving DecidableEq

/-- The next part to dispose. -/
def nextPart (c : ℕ) : List Part → Pc
  | [] => .returned
  | part :: rest => .disposePart c part rest

namespace Memory

/-- The parts of an instance. -/
def parts (m : Memory ι κ S) (c : ℕ) : List Part := (m.instances[c]?).elim [] Instance.parts

/-- The instance has options that equal these. -/
def hasOptions (m : Memory ι κ S) (options : CompositeElasticOpenTelemetryOptions) (c : ℕ) : Bool :=
  (m.instances[c]?).any fun x => x.options.equals options

/-- The components that a call is to dispose, if there are any. -/
def resolve (m : Memory ι κ S) : Holder ι S → Option ℕ
  | .host services => m.registered services
  | .caller i => m.handedOut i

end Memory

variable [DecidableEq ι] [DecidableEq S] (calls : Calls ι κ S)

/-- `CreateComponents` -/
def newInstance (i : ι) : Instance where
  options := (calls.options i).applyCreation (calls.initialLevel i)
  centralConfiguration := (calls.options i).resolveOpAmpServiceIdentity.isOpAmpEnabled.1

/-- `TryGetExistingComponentsFromServiceCollection` -/
def existing (i : ι) (m : Memory ι κ S) : Option ℕ := (calls.services i).bind m.registered

/-- A step of `Bootstrap`. -/
def bootstrapStep (i : ι) (choice : Choice) (m : Memory ι κ S) : Pc → Option (Memory ι κ S × Pc)
  | .enterLock =>
    if m.lock.isNone then some ({ m with lock := some (.bootstrap i) }, .lookupServices) else none
  -- the logger of what is found is told
  | .lookupServices =>
    match existing calls i m with
    | some c => some (m, if choice = .throws then .abort else .exit c .services)
    | none => some (m, .lookupShared)
  -- the order of the source's `HashSet` is arbitrary; here the components that were shared first
  -- are tried first
  | .lookupShared =>
    match m.sharedComponents.find? (m.hasOptions (calls.options i)) with
    | some c => some (m, if choice = .throws then .abort else .register c .shared)
    | none => some (m, .create)
  | .create =>
    if choice = .throws then some (m, .abort)
    else
      some ({ m with instances := m.instances ++ [newInstance calls i] }, .share m.instances.length)
  | .share c =>
    if choice = .throws then some (m, .abort)
    else some ({ m with sharedComponents := m.sharedComponents ++ [c] }, .register c .created)
  | .register c source =>
    if choice = .throws then some (m, .abort)
    else
      match calls.services i with
      | some s =>
        some ({ m with registered := Function.update m.registered s (some c) }, .exit c source)
      | none => some (m, .exit c source)
  | .exit c source =>
    some ({ m with lock := none, handedOut := Function.update m.handedOut i (some c) },
      .bootstrapped c source)
  | .abort => some ({ m with lock := none }, .threw)
  | _ => none

/-- A step of a call that disposes. -/
def disposeStep (j : κ) (choice : Choice) (m : Memory ι κ S) : Pc → Option (Memory ι κ S × Pc)
  | .resolve =>
    match m.resolve (calls.holder j) with
    | some c => some (m, .exchange c)
    | none => some (m, .returned)
  | .exchange c =>
    if (m.disposed c).isSome then some (m, .returned)
    else some ({ m with disposed := Function.update m.disposed c (some j) }, .remove c)
  | .remove c =>
    if m.lock.isNone then
      some ({ m with sharedComponents := m.sharedComponents.erase c }, nextPart c (m.parts c))
    else none
  | .disposePart c part rest =>
    some ({ m with tornDown := Function.update m.tornDown c (m.tornDown c ++ [part]) },
      if choice = .throws then .threw else nextPart c rest)
  | _ => none

/-- A step of a call. -/
def step : Pool.Program (Process ι κ) (Memory ι κ S) Pc Choice := fun p choice m pc =>
  match p with
  | .bootstrap i => bootstrapStep calls i choice m pc
  | .dispose j => disposeStep calls j choice m pc

/-- Nothing exists. -/
def Memory.initial : Memory ι κ S where
  lock := none
  instances := []
  sharedComponents := []
  registered := fun _ => none
  handedOut := fun _ => none
  disposed := fun _ => none
  tornDown := fun _ => []

/-- Where a call begins. -/
def start : Process ι κ → Pc
  | .bootstrap _ => .enterLock
  | .dispose _ => .resolve

def initial : Pool (Process ι κ) (Memory ι κ S) Pc := ⟨.initial, start⟩

end Calls

/-! ### What holds along a run -/

section Invariant

variable {ι κ S : Type}

/-- There is such an instance, and it is shared until somebody disposes it. -/
structure Known (m : Memory ι κ S) (c : ℕ) : Prop where
  lt_length : c < m.instances.length
  shared : c ∈ m.sharedComponents ∨ m.disposed c ≠ none

/-- Components were not shared while others were whose options equal those of the call. -/
def Apart (calls : Calls ι κ S) (instances : List Instance) (sharedComponents : List ℕ) : Prop :=
  sharedComponents.Pairwise fun c d => ∃ i x, instances[c]? = some x ∧
    instances[d]? = some (newInstance calls i) ∧ x.options.equals (calls.options i) = false

/-- What holds of the shared objects. -/
structure Coherent (calls : Calls ι κ S) (m : Memory ι κ S) : Prop where
  nodup : m.sharedComponents.Nodup
  apart : Apart calls m.instances m.sharedComponents
  known : ∀ c ∈ m.sharedComponents, c < m.instances.length
  registered : ∀ s c, m.registered s = some c → Known m c
  handedOut : ∀ i c, m.handedOut i = some c → Known m c
  disposed : ∀ c, m.disposed c ≠ none → c < m.instances.length
  intact : ∀ c ∈ m.sharedComponents, m.tornDown c = []
  untouched : ∀ c, m.disposed c = none → m.tornDown c = []
  ordered : ∀ c, m.tornDown c <+: m.parts c

/-- What the options of components have to do with those of the call that has found them. -/
def Found (calls : Calls ι κ S) (i : ι) (m : Memory ι κ S) (c : ℕ) : Source → Prop
  | .services => True
  | .shared => m.hasOptions (calls.options i) c = true
  | .created => m.instances[c]? = some (newInstance calls i)

/-- What a call of `Bootstrap` relies on while it has the lock, but for the lock. -/
def BootstrapFine (calls : Calls ι κ S) (i : ι) (m : Memory ι κ S) : Pc → Prop
  | .lookupServices | .abort => True
  | .lookupShared => existing calls i m = none
  | .create => existing calls i m = none ∧
      ∀ c ∈ m.sharedComponents, m.hasOptions (calls.options i) c = false
  | .share c => existing calls i m = none ∧
      (∀ d ∈ m.sharedComponents, m.hasOptions (calls.options i) d = false) ∧
      m.instances[c]? = some (newInstance calls i) ∧ c ∉ m.sharedComponents ∧ m.disposed c = none
  | .register c source => existing calls i m = none ∧ c ∈ m.sharedComponents ∧
      Found calls i m c source
  | .exit c source => Known m c ∧ (source ≠ .services → c ∈ m.sharedComponents) ∧
      Found calls i m c source ∧ ∀ s, calls.services i = some s → m.registered s = some c
  | _ => False

/-- The call has disposed nothing but these components. -/
def OwnsOnly (j : κ) (c : ℕ) (m : Memory ι κ S) : Prop := ∀ d, m.disposed d = some j → d = c

/-- What a call relies on. -/
def Fine (calls : Calls ι κ S) (m : Memory ι κ S) (p : Process ι κ) (pc : Pc) : Prop :=
  match p, pc with
  | .bootstrap _, .enterLock | .bootstrap _, .threw => True
  | .bootstrap i, .bootstrapped c source =>
    m.handedOut i = some c ∧ Found calls i m c source ∧
      ∀ s, calls.services i = some s → m.registered s = some c
  | .bootstrap i, pc => m.lock = some p ∧ BootstrapFine calls i m pc
  | .dispose j, .resolve => ∀ d, m.disposed d ≠ some j
  | .dispose j, .exchange c => Known m c ∧ ∀ d, m.disposed d ≠ some j
  | .dispose j, .remove c => m.disposed c = some j ∧ OwnsOnly j c m ∧ m.tornDown c = []
  | .dispose j, .disposePart c part rest =>
    m.disposed c = some j ∧ OwnsOnly j c m ∧ c ∉ m.sharedComponents ∧
      m.tornDown c ++ part :: rest = m.parts c
  | .dispose j, .returned => ∀ c, m.disposed c = some j → m.tornDown c = m.parts c
  | .dispose _, .threw => True
  | .dispose _, _ => False

/-- What a step of a call may change. -/
structure Guarantee (p : Process ι κ) (m t : Memory ι κ S) : Prop where
  keeps : ∀ c, Known m c → Known t c
  instances : m.instances <+: t.instances
  shares : ∀ c ∈ t.sharedComponents, c ∈ m.sharedComponents ∨ m.disposed c = none
  parts : ∀ c, m.disposed c ≠ none → t.parts c = m.parts c
  registered : ∀ s c, m.registered s = some c → t.registered s = some c
  handedOut : ∀ i, p ≠ .bootstrap i → t.handedOut i = m.handedOut i
  disposed : ∀ c, t.disposed c = m.disposed c ∨
    m.disposed c = none ∧ c ∈ m.sharedComponents ∧ ∃ j, p = .dispose j ∧ t.disposed c = some j
  tornDown : ∀ c, t.tornDown c = m.tornDown c ∨ ∃ j, p = .dispose j ∧ m.disposed c = some j
  locked : ∀ q, q ≠ p → m.lock = some q → t.lock = some q ∧ t.instances = m.instances ∧
    t.sharedComponents = m.sharedComponents ∧ t.registered = m.registered

variable {calls : Calls ι κ S} {p q : Process ι κ} {m t : Memory ι κ S}

theorem getElem?_of_prefix {l l' : List Instance} (h : l <+: l') {c : ℕ} {x : Instance}
    (hx : l[c]? = some x) : l'[c]? = some x := by
  obtain ⟨hc, rfl⟩ := List.getElem?_eq_some_iff.mp hx
  exact List.prefix_iff_getElem?.mp h c hc

theorem Found.mono {i : ι} {c : ℕ} {source : Source} (h : Found calls i m c source)
    (hinstances : m.instances <+: t.instances) : Found calls i t c source := by
  cases source with
  | services => trivial
  | shared =>
    obtain ⟨x, hx, hequals⟩ := (Option.any_eq_true _ _).mp h
    exact (Option.any_eq_true _ _).mpr ⟨x, getElem?_of_prefix hinstances hx, hequals⟩
  | created => exact getElem?_of_prefix hinstances h

theorem Apart.mono {instances instances' : List Instance} {sharedComponents : List ℕ}
    (h : Apart calls instances sharedComponents) (hinstances : instances <+: instances') :
    Apart calls instances' sharedComponents :=
  h.imp fun ⟨i, x, hx, hnew, hequals⟩ =>
    ⟨i, x, getElem?_of_prefix hinstances hx, getElem?_of_prefix hinstances hnew, hequals⟩

section Stable

variable (h : Guarantee p m t) (hne : q ≠ p)

include h hne in
/-- Another call does not dispose in the name of this one. -/
theorem Guarantee.owned {j : κ} (hq : q = .dispose j) {c : ℕ} (hc : t.disposed c = some j) :
    m.disposed c = some j := by
  rcases h.disposed c with heq | ⟨-, -, j', hp, hj'⟩
  · rwa [← heq]
  · rw [hc] at hj'
    cases hj'
    exact absurd (hq.trans hp.symm) hne

include h in
theorem Guarantee.disposed_some {c : ℕ} {j : κ} (hc : m.disposed c = some j) :
    t.disposed c = some j := by
  rcases h.disposed c with heq | ⟨hnone, -⟩
  · rwa [heq]
  · rw [hc] at hnone
    cases hnone

include h hne in
theorem Guarantee.tornDown_eq {j : κ} (hq : q = .dispose j) {c : ℕ} (hc : m.disposed c = some j) :
    t.tornDown c = m.tornDown c := by
  rcases h.tornDown c with heq | ⟨j', hp, hj'⟩
  · exact heq
  · rw [hc] at hj'
    cases hj'
    exact absurd (hq.trans hp.symm) hne

include h in
theorem Guarantee.parts_eq {c : ℕ} {j : κ} (hc : m.disposed c = some j) :
    t.parts c = m.parts c := h.parts c (by rw [hc]; nofun)

include h hne in
/-- What a call sees under the lock does not change. -/
theorem Guarantee.bootstrapFine {i : ι} {pc : Pc} (hlock : m.lock = some q)
    (hfine : BootstrapFine calls i m pc) : BootstrapFine calls i t pc := by
  obtain ⟨-, hinstances, hshared, hregistered⟩ := h.locked q hne hlock
  have hexisting : existing calls i t = existing calls i m := by
    rw [existing, hregistered, existing]
  cases pc with
  | lookupServices => trivial
  | abort => trivial
  | lookupShared => exact hexisting.trans hfine
  | create =>
    refine ⟨hexisting.trans hfine.1, fun c hc => ?_⟩
    rw [Memory.hasOptions, hinstances]
    exact hfine.2 c (hshared ▸ hc)
  | share c =>
    obtain ⟨hnone, happart, hx, hnot, hdisposed⟩ := hfine
    refine ⟨hexisting.trans hnone, fun d hd => ?_, hinstances ▸ hx, hshared ▸ hnot, ?_⟩
    · rw [Memory.hasOptions, hinstances]
      exact happart d (hshared ▸ hd)
    rcases h.disposed c with heq | ⟨-, hmem, -⟩
    · rw [heq, hdisposed]
    · exact absurd hmem hnot
  | register c source =>
    exact ⟨hexisting.trans hfine.1, hshared ▸ hfine.2.1, hfine.2.2.mono h.instances⟩
  | exit c source =>
    exact ⟨h.keeps c hfine.1, fun hsource => hshared ▸ hfine.2.1 hsource,
      hfine.2.2.1.mono h.instances, fun s hs => h.registered s c (hfine.2.2.2 s hs)⟩
  | enterLock | bootstrapped | resolve | exchange | remove | disposePart | returned | threw =>
    exact hfine

include h hne in
theorem Guarantee.fine {pc : Pc} (hfine : Fine calls m q pc) : Fine calls t q pc := by
  cases q with
  | bootstrap i =>
    have hlocked : m.lock = some (.bootstrap i) ∧ BootstrapFine calls i m pc →
        t.lock = some (.bootstrap i) ∧ BootstrapFine calls i t pc := fun hq =>
      ⟨(h.locked _ hne hq.1).1, h.bootstrapFine hne hq.1 hq.2⟩
    cases pc with
    | enterLock => trivial
    | threw => trivial
    | bootstrapped c source =>
      exact ⟨(h.handedOut i hne.symm).trans hfine.1, hfine.2.1.mono h.instances,
        fun s hs => h.registered s c (hfine.2.2 s hs)⟩
    | lookupServices | lookupShared | create | share | register | exit | abort | resolve
    | exchange | remove | disposePart | returned => exact hlocked hfine
  | dispose j =>
    have howned := fun c => h.owned hne (j := j) rfl (c := c)
    have htorn := fun c => h.tornDown_eq hne (j := j) rfl (c := c)
    cases pc with
    | resolve => exact fun d hd => hfine d (howned d hd)
    | exchange c => exact ⟨h.keeps c hfine.1, fun d hd => hfine.2 d (howned d hd)⟩
    | remove c =>
      obtain ⟨hdisposed, honly, hintact⟩ := hfine
      exact ⟨h.disposed_some hdisposed, fun d hd => honly d (howned d hd),
        (htorn c hdisposed).trans hintact⟩
    | disposePart c part rest =>
      obtain ⟨hdisposed, honly, hnot, hparts⟩ := hfine
      refine ⟨h.disposed_some hdisposed, fun d hd => honly d (howned d hd), fun hc => ?_, ?_⟩
      · rcases h.shares c hc with hm | hnone
        · exact hnot hm
        · rw [hdisposed] at hnone
          cases hnone
      · rw [htorn c hdisposed, h.parts_eq hdisposed, hparts]
    | returned =>
      intro c hc
      have hdisposed := howned c hc
      rw [htorn c hdisposed, h.parts_eq hdisposed, hfine c hdisposed]
    | threw => trivial
    | enterLock | lookupServices | lookupShared | create | share | register | exit | bootstrapped
    | abort => exact hfine

end Stable

/-! ### What each step keeps -/

section Step

omit calls in
theorem Guarantee.refl (p : Process ι κ) (m : Memory ι κ S) : Guarantee p m m where
  keeps := fun _ h => h
  instances := List.prefix_rfl
  shares := fun _ h => .inl h
  parts := fun _ _ => rfl
  registered := fun _ _ h => h
  handedOut := fun _ _ => rfl
  disposed := fun _ => .inl rfl
  tornDown := fun _ => .inl rfl
  locked := fun _ _ h => ⟨h, rfl, rfl, rfl⟩

theorem Known.mono {c : ℕ} (h : Known m c) (hlength : m.instances.length ≤ t.instances.length)
    (hshared : c ∈ m.sharedComponents → c ∈ t.sharedComponents ∨ t.disposed c ≠ none)
    (hdisposed : m.disposed c ≠ none → t.disposed c ≠ none) : Known t c where
  lt_length := h.lt_length.trans_le hlength
  shared := h.shared.elim hshared fun hd => .inr (hdisposed hd)

section Bootstrap

variable {i : ι}

/-- Taking and leaving the lock. -/
theorem Coherent.setLock (h : Coherent calls m) (lock : Option (Process ι κ)) :
    Coherent calls { m with lock := lock } where
  nodup := h.nodup
  apart := h.apart
  known := h.known
  registered := fun s c hc => (h.registered s c hc).mono le_rfl .inl id
  handedOut := fun i c hc => (h.handedOut i c hc).mono le_rfl .inl id
  disposed := h.disposed
  intact := h.intact
  untouched := h.untouched
  ordered := h.ordered

/-- A call takes the lock that is free, or leaves the one that it has. -/
theorem Guarantee.setLock {lock : Option (Process ι κ)} (hlock : ∀ q, m.lock = some q → q = p) :
    Guarantee p m { m with lock := lock } where
  keeps := fun _ h => h.mono le_rfl .inl id
  instances := List.prefix_rfl
  shares := fun _ h => .inl h
  parts := fun _ _ => rfl
  registered := fun _ _ h => h
  handedOut := fun _ _ => rfl
  disposed := fun _ => .inl rfl
  tornDown := fun _ => .inl rfl
  locked := fun q hq h => absurd (hlock q h) hq

theorem Memory.parts_append {c : ℕ} (x : Instance) (hlt : c < m.instances.length) :
    ({ m with instances := m.instances ++ [x] } : Memory ι κ S).parts c = m.parts c := by
  rw [Memory.parts, List.getElem?_append_left hlt, Memory.parts]

/-- New components are neither shared nor disposed. -/
theorem Coherent.create (h : Coherent calls m) (x : Instance) :
    Coherent calls { m with instances := m.instances ++ [x] } where
  nodup := h.nodup
  apart := h.apart.mono (List.prefix_append _ _)
  known := fun c hc => (h.known c hc).trans_le (List.length_append ▸ Nat.le_add_right _ _)
  registered := fun s c hc => (h.registered s c hc).mono (by simp) .inl id
  handedOut := fun i c hc => (h.handedOut i c hc).mono (by simp) .inl id
  disposed := fun c hc => (h.disposed c hc).trans_le (List.length_append ▸ Nat.le_add_right _ _)
  intact := h.intact
  untouched := h.untouched
  ordered := fun c => by
    by_cases hd : m.disposed c = none
    · exact (h.untouched c hd).symm ▸ List.nil_prefix
    · rw [Memory.parts_append x (h.disposed c hd)]
      exact h.ordered c

theorem Guarantee.create (h : Coherent calls m) (hlock : m.lock = some p) (x : Instance) :
    Guarantee p m { m with instances := m.instances ++ [x] } where
  keeps := fun _ hc => hc.mono (by simp) .inl id
  instances := List.prefix_append _ _
  shares := fun _ hc => .inl hc
  parts := fun c hd => Memory.parts_append x (h.disposed c hd)
  registered := fun _ _ hc => hc
  handedOut := fun _ _ => rfl
  disposed := fun _ => .inl rfl
  tornDown := fun _ => .inl rfl
  locked := fun q hq hm => absurd (Option.some.inj (hm.symm.trans hlock)) hq

/-- `SharedComponents.Add(components)` -/
theorem Coherent.share {c : ℕ} (h : Coherent calls m)
    (happart : ∀ d ∈ m.sharedComponents, m.hasOptions (calls.options i) d = false)
    (hnew : m.instances[c]? = some (newInstance calls i)) (hnot : c ∉ m.sharedComponents)
    (hdisposed : m.disposed c = none) :
    Coherent calls { m with sharedComponents := m.sharedComponents ++ [c] } where
  nodup := List.nodup_append.mpr ⟨h.nodup, List.nodup_singleton c, fun a ha b hb hab => by
    rw [List.mem_singleton] at hb
    exact hnot (hb ▸ hab ▸ ha)⟩
  apart := List.pairwise_append.mpr ⟨h.apart, List.pairwise_singleton _ _, fun d hd a ha => by
    rw [List.mem_singleton.mp ha]
    have hx := List.getElem?_eq_getElem (h.known d hd)
    refine ⟨i, _, hx, hnew, ?_⟩
    have hequals := happart d hd
    rwa [Memory.hasOptions, hx, Option.any_some] at hequals⟩
  known := fun d hd => by
    rcases List.mem_append.mp hd with hd | hd
    · exact h.known d hd
    · exact List.mem_singleton.mp hd ▸ (List.getElem?_eq_some_iff.mp hnew).1
  registered := fun s d hd =>
    (h.registered s d hd).mono le_rfl (fun hm => .inl (List.mem_append_left _ hm)) id
  handedOut := fun i d hd =>
    (h.handedOut i d hd).mono le_rfl (fun hm => .inl (List.mem_append_left _ hm)) id
  disposed := h.disposed
  intact := fun d hd => by
    rcases List.mem_append.mp hd with hd | hd
    · exact h.intact d hd
    · exact List.mem_singleton.mp hd ▸ h.untouched c hdisposed
  untouched := h.untouched
  ordered := h.ordered

theorem Guarantee.share {c : ℕ} (hlock : m.lock = some p) (hdisposed : m.disposed c = none) :
    Guarantee p m { m with sharedComponents := m.sharedComponents ++ [c] } where
  keeps := fun _ hd => hd.mono le_rfl (fun hm => .inl (List.mem_append_left _ hm)) id
  instances := List.prefix_rfl
  shares := fun d hd => (List.mem_append.mp hd).imp_right fun hd => by
    rwa [List.mem_singleton.mp hd]
  parts := fun _ _ => rfl
  registered := fun _ _ hd => hd
  handedOut := fun _ _ => rfl
  disposed := fun _ => .inl rfl
  tornDown := fun _ => .inl rfl
  locked := fun q hq hm => absurd (Option.some.inj (hm.symm.trans hlock)) hq

section Update

/-- What a map that was updated at a key has. -/
theorem of_update_eq_some {α β : Type} [DecidableEq α] {f : α → Option β} {a b : α} {v w : β}
    (h : Function.update f a (some v) b = some w) : b = a ∧ v = w ∨ f b = some w := by
  by_cases hb : b = a
  · subst hb
    rw [Function.update_self] at h
    exact .inl ⟨rfl, Option.some.inj h⟩
  · rw [Function.update_of_ne hb] at h
    exact .inr h

variable [DecidableEq S]

theorem Coherent.register {c : ℕ} (h : Coherent calls m) (s : S) (hc : c ∈ m.sharedComponents) :
    Coherent calls { m with registered := Function.update m.registered s (some c) } where
  nodup := h.nodup
  apart := h.apart
  known := h.known
  registered := fun s' d hd => by
    rcases of_update_eq_some hd with ⟨-, rfl⟩ | hd
    · exact ⟨h.known c hc, .inl hc⟩
    · exact (h.registered s' d hd).mono le_rfl .inl id
  handedOut := fun i d hd => (h.handedOut i d hd).mono le_rfl .inl id
  disposed := h.disposed
  intact := h.intact
  untouched := h.untouched
  ordered := h.ordered

/-- Nothing is registered twice. -/
theorem Guarantee.register {s : S} {c : ℕ} (hlock : m.lock = some p)
    (hnone : m.registered s = none) :
    Guarantee p m { m with registered := Function.update m.registered s (some c) } where
  keeps := fun _ hd => hd.mono le_rfl .inl id
  instances := List.prefix_rfl
  shares := fun _ hd => .inl hd
  parts := fun _ _ => rfl
  registered := fun s' d hd => by
    have hs : s' ≠ s := by
      rintro rfl
      rw [hnone] at hd
      cases hd
    exact (Function.update_of_ne hs _ _).trans hd
  handedOut := fun _ _ => rfl
  disposed := fun _ => .inl rfl
  tornDown := fun _ => .inl rfl
  locked := fun q hq hm => absurd (Option.some.inj (hm.symm.trans hlock)) hq

end Update

variable [DecidableEq ι]

/-- A call of `Bootstrap` returns these components. -/
theorem Coherent.handOut {c : ℕ} (h : Coherent calls m) (hc : Known m c) :
    Coherent calls
      { m with lock := none, handedOut := Function.update m.handedOut i (some c) } where
  nodup := h.nodup
  apart := h.apart
  known := h.known
  registered := fun s d hd => (h.registered s d hd).mono le_rfl .inl id
  handedOut := fun i' d hd => by
    rcases of_update_eq_some hd with ⟨-, rfl⟩ | hd
    · exact hc.mono le_rfl .inl id
    · exact (h.handedOut i' d hd).mono le_rfl .inl id
  disposed := h.disposed
  intact := h.intact
  untouched := h.untouched
  ordered := h.ordered

theorem Guarantee.handOut {c : ℕ} (hlock : m.lock = some (.bootstrap i)) :
    Guarantee (.bootstrap i) m
      { m with lock := none, handedOut := Function.update m.handedOut i (some c) } where
  keeps := fun _ hd => hd.mono le_rfl .inl id
  instances := List.prefix_rfl
  shares := fun _ hd => .inl hd
  parts := fun _ _ => rfl
  registered := fun _ _ hd => hd
  handedOut := fun _ hi' => Function.update_of_ne (fun heq => hi' (congrArg _ heq.symm)) _ _
  disposed := fun _ => .inl rfl
  tornDown := fun _ => .inl rfl
  locked := fun _ hq hm => absurd (Option.some.inj (hm.symm.trans hlock)) hq

variable [DecidableEq S]

/-- **What a step of `Bootstrap` keeps.** -/
theorem bootstrapStep_keeps {choice : Choice} {pc pc' : Pc} (h : Coherent calls m)
    (hfine : Fine calls m (.bootstrap i) pc)
    (hstep : bootstrapStep calls i choice m pc = some (t, pc')) :
    Coherent calls t ∧ Fine calls t (.bootstrap i) pc' ∧ Guarantee (.bootstrap i) m t := by
  cases pc with
  | enterLock =>
    rw [bootstrapStep, Option.ite_none_right_eq_some] at hstep
    obtain ⟨hlock, hstep⟩ := hstep
    cases hstep
    rw [Option.isNone_iff_eq_none] at hlock
    exact ⟨h.setLock _, ⟨rfl, trivial⟩, .setLock fun q hq => by rw [hlock] at hq; cases hq⟩
  | lookupServices =>
    obtain ⟨hlock, -⟩ := hfine
    rw [bootstrapStep] at hstep
    split at hstep
    next c hc =>
      cases hstep
      refine ⟨h, ?_, .refl _ _⟩
      split
      · exact ⟨hlock, trivial⟩
      · obtain ⟨s, hs, hregistered⟩ := Option.bind_eq_some_iff.mp hc
        refine ⟨hlock, h.registered s c hregistered, fun hne => absurd rfl hne, trivial,
          fun s' hs' => ?_⟩
        cases hs.symm.trans hs'
        exact hregistered
    next hnone =>
      cases hstep
      exact ⟨h, ⟨hlock, hnone⟩, .refl _ _⟩
  | lookupShared =>
    obtain ⟨hlock, hnone⟩ := hfine
    rw [bootstrapStep] at hstep
    split at hstep
    next c hc =>
      cases hstep
      refine ⟨h, ?_, .refl _ _⟩
      split
      · exact ⟨hlock, trivial⟩
      · exact ⟨hlock, hnone, List.mem_of_find?_eq_some hc, List.find?_some hc⟩
    next hfind =>
      cases hstep
      refine ⟨h, ⟨hlock, hnone, fun c hc => ?_⟩, .refl _ _⟩
      exact Bool.eq_false_iff.mpr (List.find?_eq_none.mp hfind c hc)
  | create =>
    obtain ⟨hlock, hnone, happart⟩ := hfine
    rw [bootstrapStep] at hstep
    split at hstep
    · cases hstep
      exact ⟨h, ⟨hlock, trivial⟩, .refl _ _⟩
    · cases hstep
      have hfresh : m.disposed m.instances.length = none :=
        by_contra fun hd => Nat.lt_irrefl _ (h.disposed _ hd)
      refine ⟨h.create _, ⟨hlock, hnone, fun d hd => ?_, List.getElem?_concat_length,
        fun hc => Nat.lt_irrefl _ (h.known _ hc), hfresh⟩, .create h hlock _⟩
      rw [Memory.hasOptions, List.getElem?_append_left (h.known d hd)]
      exact happart d hd
  | share c =>
    obtain ⟨hlock, hnone, happart, hnew, hnot, hdisposed⟩ := hfine
    rw [bootstrapStep] at hstep
    split at hstep
    · cases hstep
      exact ⟨h, ⟨hlock, trivial⟩, .refl _ _⟩
    · cases hstep
      exact ⟨h.share happart hnew hnot hdisposed,
        ⟨hlock, hnone, List.mem_append_right _ (List.mem_singleton_self c), hnew⟩,
        .share hlock hdisposed⟩
  | register c source =>
    obtain ⟨hlock, hnone, hc, hfound⟩ := hfine
    have hknown : Known m c := ⟨h.known c hc, .inl hc⟩
    rw [bootstrapStep] at hstep
    split at hstep
    · cases hstep
      exact ⟨h, ⟨hlock, trivial⟩, .refl _ _⟩
    · split at hstep
      next s hs =>
        cases hstep
        rw [existing, hs, Option.bind_some] at hnone
        refine ⟨h.register s hc, ⟨hlock, hknown.mono le_rfl .inl id, fun _ => hc,
          hfound.mono List.prefix_rfl, ?_⟩, .register hlock hnone⟩
        intro s' hs'
        cases hs.symm.trans hs'
        exact Function.update_self ..
      next hs =>
        cases hstep
        refine ⟨h, ⟨hlock, hknown, fun _ => hc, hfound, fun s' hs' => ?_⟩, .refl _ _⟩
        rw [hs] at hs'
        cases hs'
  | exit c source =>
    obtain ⟨hlock, hknown, -, hfound, hregistered⟩ := hfine
    cases hstep
    exact ⟨h.handOut hknown,
      ⟨Function.update_self .., hfound.mono List.prefix_rfl, hregistered⟩, .handOut hlock⟩
  | abort =>
    obtain ⟨hlock, -⟩ := hfine
    cases hstep
    exact ⟨h.setLock _, trivial,
      .setLock fun q hq => (Option.some.inj (hlock.symm.trans hq)).symm⟩
  | bootstrapped | resolve | exchange | remove | disposePart | returned | threw => cases hstep

end Bootstrap

section Dispose

variable {j : κ} {c : ℕ}

theorem update_disposed_ne_none {d : ℕ} (hd : m.disposed d ≠ none) :
    Function.update m.disposed c (some j) d ≠ none := by
  by_cases hdc : d = c
  · subst hdc
    rw [Function.update_self]
    nofun
  · rwa [Function.update_of_ne hdc]

/-- `Interlocked.Exchange(ref _disposed, 1)` of the first call. -/
theorem Coherent.exchange (h : Coherent calls m) (hknown : Known m c) :
    Coherent calls { m with disposed := Function.update m.disposed c (some j) } where
  nodup := h.nodup
  apart := h.apart
  known := h.known
  registered := fun s d hd => (h.registered s d hd).mono le_rfl .inl update_disposed_ne_none
  handedOut := fun i d hd => (h.handedOut i d hd).mono le_rfl .inl update_disposed_ne_none
  disposed := fun d hd => by
    by_cases hdc : d = c
    · exact hdc ▸ hknown.lt_length
    · exact h.disposed d (by rwa [← Function.update_of_ne hdc (some j) m.disposed])
  intact := h.intact
  untouched := fun d hd => h.untouched d (by_contra fun hm => update_disposed_ne_none hm hd)
  ordered := h.ordered

theorem Guarantee.exchange (hknown : Known m c) (hnone : m.disposed c = none) :
    Guarantee (.dispose j) m { m with disposed := Function.update m.disposed c (some j) } where
  keeps := fun d hd => hd.mono le_rfl .inl update_disposed_ne_none
  instances := List.prefix_rfl
  shares := fun _ hd => .inl hd
  parts := fun _ _ => rfl
  registered := fun _ _ hd => hd
  handedOut := fun _ _ => rfl
  disposed := fun d => by
    by_cases hdc : d = c
    · subst hdc
      exact .inr ⟨hnone, hknown.shared.resolve_right fun h => h hnone, j, rfl,
        Function.update_self ..⟩
    · exact .inl (Function.update_of_ne hdc _ _)
  tornDown := fun _ => .inl rfl
  locked := fun _ _ hm => ⟨hm, rfl, rfl, rfl⟩

/-- `SharedComponents.Remove(this)` of components that are disposed. -/
theorem Known.remove {d : ℕ} (hd : Known m d) (hdisposed : m.disposed c ≠ none) :
    Known { m with sharedComponents := m.sharedComponents.erase c } d := by
  refine hd.mono le_rfl (fun hm => ?_) id
  by_cases hdc : d = c
  · exact .inr (hdc ▸ hdisposed)
  · exact .inl ((List.mem_erase_of_ne hdc).mpr hm)

theorem Coherent.remove (h : Coherent calls m) (hdisposed : m.disposed c ≠ none) :
    Coherent calls { m with sharedComponents := m.sharedComponents.erase c } where
  nodup := h.nodup.erase c
  apart := List.Pairwise.sublist List.erase_sublist h.apart
  known := fun d hd => h.known d (List.mem_of_mem_erase hd)
  registered := fun s d hd => (h.registered s d hd).remove hdisposed
  handedOut := fun i d hd => (h.handedOut i d hd).remove hdisposed
  disposed := h.disposed
  intact := fun d hd => h.intact d (List.mem_of_mem_erase hd)
  untouched := h.untouched
  ordered := h.ordered

/-- The lock is free. -/
theorem Guarantee.remove (hlock : m.lock = none) (hdisposed : m.disposed c ≠ none) :
    Guarantee p m { m with sharedComponents := m.sharedComponents.erase c } where
  keeps := fun _ hd => hd.remove hdisposed
  instances := List.prefix_rfl
  shares := fun _ hd => .inl (List.mem_of_mem_erase hd)
  parts := fun _ _ => rfl
  registered := fun _ _ hd => hd
  handedOut := fun _ _ => rfl
  disposed := fun _ => .inl rfl
  tornDown := fun _ => .inl rfl
  locked := fun q _ hm => by
    rw [hlock] at hm
    cases hm

theorem update_append {f : ℕ → List Part} (c : ℕ) (part : Part) (rest : List Part) :
    Function.update f c (f c ++ [part]) c ++ rest = f c ++ part :: rest := by
  rw [Function.update_self, List.append_assoc, List.singleton_append]

/-- The next part of components that are no longer shared. -/
theorem Coherent.disposePart {part : Part} {rest : List Part} (h : Coherent calls m)
    (hdisposed : m.disposed c = some j) (hnot : c ∉ m.sharedComponents)
    (hparts : m.tornDown c ++ part :: rest = m.parts c) :
    Coherent calls
      { m with tornDown := Function.update m.tornDown c (m.tornDown c ++ [part]) } where
  nodup := h.nodup
  apart := h.apart
  known := h.known
  registered := fun s d hd => (h.registered s d hd).mono le_rfl .inl id
  handedOut := fun i d hd => (h.handedOut i d hd).mono le_rfl .inl id
  disposed := h.disposed
  intact := fun d hd => by
    have hdc : d ≠ c := fun hdc => hnot (hdc ▸ hd)
    exact (Function.update_of_ne hdc _ _).trans (h.intact d hd)
  untouched := fun d hd => by
    refine (Function.update_of_ne ?_ _ _).trans (h.untouched d hd)
    rintro rfl
    exact nomatch hdisposed.symm.trans hd
  ordered := fun d => by
    by_cases hdc : d = c
    · subst hdc
      exact ⟨rest, (update_append d part rest).trans hparts⟩
    · obtain ⟨rest', hrest⟩ := h.ordered d
      exact ⟨rest', (congrArg (· ++ rest') (Function.update_of_ne hdc _ _)).trans hrest⟩

theorem Guarantee.disposePart {parts : List Part} (hdisposed : m.disposed c = some j) :
    Guarantee (.dispose j) m { m with tornDown := Function.update m.tornDown c parts } where
  keeps := fun _ hd => hd.mono le_rfl .inl id
  instances := List.prefix_rfl
  shares := fun _ hd => .inl hd
  parts := fun _ _ => rfl
  registered := fun _ _ hd => hd
  handedOut := fun _ _ => rfl
  disposed := fun _ => .inl rfl
  tornDown := fun d => by
    by_cases hdc : d = c
    · exact .inr ⟨j, rfl, hdc ▸ hdisposed⟩
    · exact .inl (Function.update_of_ne hdc _ _)
  locked := fun _ _ hm => ⟨hm, rfl, rfl, rfl⟩

/-- Where a call goes on when some of the parts have been disposed. -/
theorem fine_nextPart {rest : List Part} (hdisposed : m.disposed c = some j)
    (honly : OwnsOnly j c m) (hnot : c ∉ m.sharedComponents)
    (hparts : m.tornDown c ++ rest = m.parts c) : Fine calls m (.dispose j) (nextPart c rest) := by
  cases rest with
  | nil =>
    intro d hd
    cases honly d hd
    rwa [List.append_nil] at hparts
  | cons part rest => exact ⟨hdisposed, honly, hnot, hparts⟩

/-- **What a step of a call that disposes keeps.** -/
theorem disposeStep_keeps {choice : Choice} {pc pc' : Pc} (h : Coherent calls m)
    (hfine : Fine calls m (.dispose j) pc)
    (hstep : disposeStep calls j choice m pc = some (t, pc')) :
    Coherent calls t ∧ Fine calls t (.dispose j) pc' ∧ Guarantee (.dispose j) m t := by
  cases pc with
  | resolve =>
    rw [disposeStep] at hstep
    split at hstep
    next c hc =>
      cases hstep
      refine ⟨h, ⟨?_, hfine⟩, .refl _ _⟩
      cases hholder : calls.holder j with
      | host s =>
        rw [hholder] at hc
        exact h.registered s c hc
      | caller i =>
        rw [hholder] at hc
        exact h.handedOut i c hc
    next =>
      cases hstep
      exact ⟨h, fun d hd => absurd hd (hfine d), .refl _ _⟩
  | exchange c =>
    obtain ⟨hknown, hnone⟩ := hfine
    rw [disposeStep] at hstep
    split at hstep
    next =>
      cases hstep
      exact ⟨h, fun d hd => absurd hd (hnone d), .refl _ _⟩
    next hc =>
      cases hstep
      rw [Option.not_isSome_iff_eq_none] at hc
      refine ⟨h.exchange hknown, ⟨Function.update_self .., fun d hd => ?_, h.untouched c hc⟩,
        .exchange hknown hc⟩
      rcases of_update_eq_some hd with ⟨hdc, -⟩ | hd
      · exact hdc
      · exact absurd hd (hnone d)
  | remove c =>
    obtain ⟨hdisposed, honly, hintact⟩ := hfine
    rw [disposeStep, Option.ite_none_right_eq_some] at hstep
    obtain ⟨hlock, hstep⟩ := hstep
    cases hstep
    have hne : m.disposed c ≠ none := by rw [hdisposed]; nofun
    refine ⟨h.remove hne, fine_nextPart hdisposed honly h.nodup.not_mem_erase ?_,
      .remove (Option.isNone_iff_eq_none.mp hlock) hne⟩
    exact (congrArg (· ++ _) hintact).trans (List.nil_append _)
  | disposePart c part rest =>
    obtain ⟨hdisposed, honly, hnot, hparts⟩ := hfine
    rw [disposeStep] at hstep
    cases hstep
    refine ⟨h.disposePart hdisposed hnot hparts, ?_, .disposePart hdisposed⟩
    split
    · trivial
    · exact fine_nextPart hdisposed honly hnot ((update_append c part rest).trans hparts)
  | returned => cases hstep
  | threw => cases hstep
  | enterLock | lookupServices | lookupShared | create | share | register | exit | bootstrapped
  | abort => cases hstep

end Dispose

end Step

end Invariant

/-! ### Equal options -/

section Settings

variable {ι κ S : Type} {calls : Calls ι κ S} {m : Memory ι κ S}

/-- Creation keeps the settings of every call, whose options are as a constructor leaves them. -/
def Calls.SurviveCreation (calls : Calls ι κ S) : Prop :=
  ∀ i, (calls.options i).isOpAmpEnabledCache = none ∧
    (calls.options i).serviceNameCell.source ≤ .property ∧
      (calls.options i).SurvivesCreation (calls.initialLevel i)

/-- The settings of an instance. -/
def settingsOf (instances : List Instance) (c : ℕ) :
    Option CompositeElasticOpenTelemetryOptions.Settings :=
  (instances[c]?).map fun x => x.options.settings

theorem settings_newInstance (h : calls.SurviveCreation) (i : ι) :
    (newInstance calls i).options.settings = (calls.options i).settings := by
  obtain ⟨hcache, hsource, hsurvives⟩ := h i
  exact (CompositeElasticOpenTelemetryOptions.applyCreation_settings_iff hcache hsource _).mpr
    hsurvives

/-- `Bootstrap` returns components with the settings of the call. -/
theorem Found.settingsOf_eq {i : ι} {c : ℕ} {source : Source} (h : Found calls i m c source)
    (hsurvive : calls.SurviveCreation) (hsource : source ≠ .services) :
    settingsOf m.instances c = some (calls.options i).settings := by
  cases source with
  | services => exact absurd rfl hsource
  | shared =>
    obtain ⟨x, hx, hequals⟩ := (Option.any_eq_true _ _).mp h
    rw [settingsOf, hx, Option.map_some,
      CompositeElasticOpenTelemetryOptions.equals_iff.mp hequals]
  | created =>
    have hnew : m.instances[c]? = some (newInstance calls i) := h
    rw [settingsOf, hnew, Option.map_some, settings_newInstance hsurvive]

/-- No two shared instances have the same settings. -/
theorem Apart.settingsOf_ne {instances : List Instance} {sharedComponents : List ℕ}
    (h : Apart calls instances sharedComponents) (hsurvive : calls.SurviveCreation) :
    sharedComponents.Pairwise fun c d => settingsOf instances c ≠ settingsOf instances d := by
  refine h.imp fun ⟨i, x, hx, hnew, hequals⟩ heq => ?_
  rw [settingsOf, settingsOf, hx, hnew, Option.map_some, Option.map_some,
    settings_newInstance hsurvive] at heq
  rw [CompositeElasticOpenTelemetryOptions.equals_iff.mpr (Option.some.inj heq)] at hequals
  cases hequals

end Settings

/-! ### Along every run -/

section Runs

variable {ι κ S : Type} [DecidableEq ι] [DecidableEq κ] [DecidableEq S]

/-- The outline of the calls. -/
def outline (calls : Calls ι κ S) : Pool.Outline (step calls) fun _ _ => True :=
  .ofGuarantee (Coherent calls) (fun p m pc => Fine calls m p pc) Guarantee
    (fun p _ c t pc' _ hglobal hfine hstep => by
      cases p with
      | bootstrap i => exact bootstrapStep_keeps hglobal hfine hstep
      | dispose j => exact disposeStep_keeps hglobal hfine hstep)
    fun _ _ _ _ _ hne hguarantee hfine => hguarantee.fine hne hfine

omit [DecidableEq κ] in
theorem outline_initial (calls : Calls ι κ S) : (outline calls).Holds initial where
  global :=
    { nodup := List.nodup_nil
      apart := .nil
      known := nofun
      registered := nofun
      handedOut := nofun
      disposed := fun _ h => absurd rfl h
      intact := nofun
      untouched := fun _ _ => rfl
      ordered := fun _ => List.nil_prefix }
  loc := fun p => by
    cases p with
    | bootstrap i => trivial
    | dispose j => exact nofun

variable {calls : Calls ι κ S} {actions : List (Process ι κ × Choice)}
  {c : Pool (Process ι κ) (Memory ι κ S) Pc}

/-- **Teardown after removal.** In every run, the parts of components are disposed in their order
and each at most once, and only when the components are no longer shared; components that
`Bootstrap` is about to return, other than those of the service collection, are shared and
intact; and when the call that disposes them returns, all their parts have been disposed. -/
theorem teardown_afterRemoval (h : exec (Pool.next (step calls)) actions initial = some c) :
    (∀ x, c.shared.tornDown x <+: c.shared.parts x ∧
      (c.shared.tornDown x ≠ [] → x ∉ c.shared.sharedComponents)) ∧
    (∀ i x source, c.pc (.bootstrap i) = .exit x source → source ≠ .services →
      x ∈ c.shared.sharedComponents ∧ c.shared.tornDown x = []) ∧
    ∀ j x, c.pc (.dispose j) = .returned → c.shared.disposed x = some j →
      c.shared.tornDown x = c.shared.parts x := by
  obtain ⟨hcoherent, hfine⟩ := (outline calls).exec_always (outline_initial calls) h
  refine ⟨fun x => ⟨hcoherent.ordered x, fun hne hx => hne (hcoherent.intact x hx)⟩, ?_, ?_⟩
  · intro i x source hpc hsource
    have hi := hfine (.bootstrap i)
    rw [hpc] at hi
    obtain ⟨-, -, hshared, -⟩ := hi
    exact ⟨hshared hsource, hcoherent.intact x (hshared hsource)⟩
  · intro j x hpc hx
    have hj := hfine (.dispose j)
    rw [hpc] at hj
    exact hj x hx

/-- Two calls that both dispose what `Bootstrap` has returned, and two that bootstrap. -/
def twoCalls : Calls Bool Bool Unit where
  options := fun _ =>
    .ofConfigurationAndOptions .linux (fun _ => none) {} (fun _ => none)
  services := fun _ => none
  initialLevel := fun _ => none
  holder := fun _ => .caller false

/-- Components are created, and two calls dispose them; then other components are created. -/
def disposesAndCreates : List (Process Bool Bool × Choice) :=
  List.replicate 7 (.bootstrap false, .ok) ++ List.replicate 2 (.dispose false, .ok) ++
    List.replicate 2 (.dispose true, .ok) ++ List.replicate 3 (.dispose false, .ok) ++
    List.replicate 6 (.bootstrap true, .ok)

/-- The second components are intact, and the first torn down. -/
theorem teardown_afterRemoval_disposesAndCreates :
    ∃ c, exec (Pool.next (step twoCalls)) disposesAndCreates initial = some c ∧
      1 ∈ c.shared.sharedComponents ∧ c.shared.tornDown 1 = [] ∧
      c.shared.tornDown 0 = c.shared.parts 0 := by
  have hrun : (exec (Pool.next (step twoCalls)) disposesAndCreates initial).isSome = true := by
    decide +kernel
  obtain ⟨c, hc⟩ := Option.isSome_iff_exists.mp hrun
  have hpc : c.pc (.bootstrap true) = .exit 1 .created ∧ c.pc (.dispose false) = .returned ∧
      c.shared.disposed 0 = some false := by
    have hmap : (exec (Pool.next (step twoCalls)) disposesAndCreates initial).map (fun c =>
        (c.pc (.bootstrap true), c.pc (.dispose false), c.shared.disposed 0)) =
          some (.exit 1 .created, .returned, some false) := by decide +kernel
    rw [hc] at hmap
    simpa using hmap
  obtain ⟨-, hintact, hreturned⟩ := teardown_afterRemoval hc
  obtain ⟨hshared, htornDown⟩ := hintact true 1 .created hpc.1 (by decide)
  exact ⟨c, hc, hshared, htornDown, hreturned false 0 hpc.2.1 hpc.2.2⟩

/-- What a call of `Bootstrap` that has returned leaves. -/
theorem bootstrapped_of_exec (h : exec (Pool.next (step calls)) actions initial = some c)
    {i : ι} {x : ℕ} {source : Source} (hpc : c.pc (.bootstrap i) = .bootstrapped x source) :
    Known c.shared x ∧ Found calls i c.shared x source ∧
      ∀ s, calls.services i = some s → c.shared.registered s = some x := by
  obtain ⟨hcoherent, hfine⟩ := (outline calls).exec_always (outline_initial calls) h
  have hi := hfine (.bootstrap i)
  rw [hpc] at hi
  exact ⟨hcoherent.handedOut i x hi.1, hi.2⟩

/-- **One instance.** In every run, calls of `Bootstrap` with one service collection return the same
components. If creation keeps all settings, so do the calls with equal options, with or without
service collections, as far as they return components that they found shared or created, and
nobody has disposed these. -/
theorem bootstrap_oneInstance (h : exec (Pool.next (step calls)) actions initial = some c)
    {i i' : ι} {x x' : ℕ} {source source' : Source}
    (hpc : c.pc (.bootstrap i) = .bootstrapped x source)
    (hpc' : c.pc (.bootstrap i') = .bootstrapped x' source') :
    ((∃ s, calls.services i = some s ∧ calls.services i' = some s) → x = x') ∧
    (calls.SurviveCreation → source ≠ .services → source' ≠ .services →
      c.shared.disposed x = none → c.shared.disposed x' = none →
        (calls.options i).equals (calls.options i') = true → x = x') := by
  obtain ⟨hknown, hfound, hregistered⟩ := bootstrapped_of_exec h hpc
  obtain ⟨hknown', hfound', hregistered'⟩ := bootstrapped_of_exec h hpc'
  refine ⟨fun ⟨s, hs, hs'⟩ => ?_, fun hsurvive hsource hsource' hx hx' hequals => ?_⟩
  · exact Option.some.inj ((hregistered s hs).symm.trans (hregistered' s hs'))
  · have hcoherent := ((outline calls).exec_always (outline_initial calls) h).global
    have hshared := hknown.shared.resolve_right fun hne => hne hx
    have hshared' := hknown'.shared.resolve_right fun hne => hne hx'
    have hsettings : settingsOf c.shared.instances x = settingsOf c.shared.instances x' := by
      rw [hfound.settingsOf_eq hsurvive hsource, hfound'.settingsOf_eq hsurvive hsource',
        CompositeElasticOpenTelemetryOptions.equals_iff.mp hequals]
    by_contra hne
    have hsymm : Std.Symm fun x y =>
        settingsOf c.shared.instances x ≠ settingsOf c.shared.instances y := ⟨fun _ _ => Ne.symm⟩
    exact (hcoherent.apart.settingsOf_ne hsurvive).forall hshared hshared' hne hsettings

/-- Both calls with equal options return what the first has created. -/
theorem bootstrap_oneInstance_equalOptions : ∃ c x x',
    exec (Pool.next (step twoCalls)) (List.replicate 7 (.bootstrap false, .ok) ++
      List.replicate 5 (.bootstrap true, .ok)) initial = some c ∧
        c.pc (.bootstrap false) = .bootstrapped x .created ∧
        c.pc (.bootstrap true) = .bootstrapped x' .shared ∧ x = x' := by
  have hrun : (exec (Pool.next (step twoCalls)) (List.replicate 7 (.bootstrap false, .ok) ++
      List.replicate 5 (.bootstrap true, .ok)) initial).isSome = true := by decide +kernel
  obtain ⟨c, hc⟩ := Option.isSome_iff_exists.mp hrun
  have hpc : c.pc (.bootstrap false) = .bootstrapped 0 .created ∧
      c.pc (.bootstrap true) = .bootstrapped 0 .shared ∧ c.shared.disposed 0 = none := by
    have hmap : (exec (Pool.next (step twoCalls)) (List.replicate 7 (.bootstrap false, .ok) ++
        List.replicate 5 (.bootstrap true, .ok)) initial).map (fun c =>
          (c.pc (.bootstrap false), c.pc (.bootstrap true), c.shared.disposed 0)) =
            some (.bootstrapped 0 .created, .bootstrapped 0 .shared, none) := by decide +kernel
    rw [hc] at hmap
    simpa using hmap
  have hsurvive : twoCalls.SurviveCreation := fun _ =>
    ⟨rfl, Registry.source_serviceNameCell_le _ _ _ _, .inl (by decide +kernel +revert),
      .inl (by decide +kernel +revert)⟩
  exact ⟨c, 0, 0, hc, hpc.1, hpc.2.1, (bootstrap_oneInstance hc hpc.1 hpc.2.1).2 hsurvive
    (by decide) (by decide) hpc.2.2 hpc.2.2
    (CompositeElasticOpenTelemetryOptions.equals_self _)⟩

end Runs

end ElasticOpenTelemetry.ComponentsLifetime
