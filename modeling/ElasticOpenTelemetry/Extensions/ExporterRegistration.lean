import ElasticOpenTelemetry.Extensions.ServiceCollectionExtensions

/-!
# The exporters of repeated calls

`registeredOnce_iff` states when an enabled signal ends with one OTLP exporter after any number of
`AddElasticOpenTelemetry` calls on one service collection: when exactly one of the calls
configures its builder to the end. Every call has a builder of its own, so nothing recognises the
second one; only its components are those of the first.

`Adds` describes what a program registers once the components are known. It composes along the
programs of `ServiceCollectionExtensions`, and `callSpec_afterCall` sums a call up: the service
collection grows by the exporters and the callback of that call (`registrations`).
-/

namespace ElasticOpenTelemetry.ServiceCollectionExtensions

open Faults

/-! ### What is asked of the calls -/

/-- `d` is not an exporter whose call runs the user callback later, at `d'`. -/
def AfterCallback (d d' : ServiceDescriptor) : Prop :=
  ∀ signal builder, d = .otlpExporter signal builder → d' ≠ .userConfiguration builder

/-- From `w` to `w'` the descriptors `ds` are registered, and the builders that exist in `w` stay
as they are. -/
structure Registers (w w' : World) (ds : List ServiceDescriptor) : Prop where
  services : w'.services = w.services ++ ds
  builders : w.builders <+: w'.builders

theorem Registers.trans {w w' w'' : World} {ds ds' : List ServiceDescriptor}
    (h : Registers w w' ds) (h' : Registers w' w'' ds') : Registers w w'' (ds ++ ds') where
  services := by rw [h'.services, h.services, List.append_assoc]
  builders := h.builders.trans h'.builders

/-- Components are found in front of what is registered later. -/
theorem components_of_services {w w' : World} {ds : List ServiceDescriptor}
    (h : w'.services = w.services ++ ds) {c : ElasticOpenTelemetryComponents}
    (hc : w.components = some c) : w'.components = some c := by
  rw [World.components] at hc ⊢
  rw [h, List.findSome?_append, hc, Option.some_or]

/-- Where the components are `c`, the program ends with `r` and has registered `ds`. -/
def Adds {α : Type} (c : ElasticOpenTelemetryComponents) (m : Program Exception World α)
    (r : Except Exception α) (ds : List ServiceDescriptor) : Prop :=
  ∀ w : World, w.components = some c → ∃ w', m.run w = (r, w') ∧ Registers w w' ds

variable {α β : Type} {c : ElasticOpenTelemetryComponents} {m : Program Exception World α}
  {k : α → Program Exception World β} {ds ds' : List ServiceDescriptor}

/-- **Composition.** -/
theorem Adds.bind {a : α} {r : Except Exception β} (h : Adds c m (.ok a) ds)
    (h' : Adds c (k a) r ds') : Adds c (m >>= k) r (ds ++ ds') := by
  intro w hw
  obtain ⟨w', hrun, hregisters⟩ := h w hw
  obtain ⟨w'', hrun', hregisters'⟩ := h' w' (components_of_services hregisters.services hw)
  exact ⟨w'', (run_bind_of_ok hrun).trans hrun', hregisters.trans hregisters'⟩

theorem Adds.bind_error {e : Exception} (h : Adds c m (.error e) ds) :
    Adds c (m >>= k) (.error e) ds := by
  intro w hw
  obtain ⟨w', hrun, hregisters⟩ := h w hw
  exact ⟨w', run_bind_of_error hrun, hregisters⟩

/-! ### Applying the defaults to a new builder -/

/-- The exporters of a signal, if it is enabled and exporters are not skipped. -/
def exportersOf (c : ElasticOpenTelemetryComponents) (builder : ℕ) (signal : Signal) :
    List ServiceDescriptor :=
  if c.options.signals.hasFlag signal.flag && !c.options.skipOtlpExporter then
    [.otlpExporter signal builder]
  else []

/-- The exporters that a call adds. -/
def exporters (c : ElasticOpenTelemetryComponents) (builder : ℕ) : List ServiceDescriptor :=
  exportersOf c builder .traces ++ exportersOf c builder .metrics ++ exportersOf c builder .logs

/-- What the configuration of a builder registers. -/
def registrations (c : ElasticOpenTelemetryComponents) (builder : ℕ) :
    Option UserCallback → List ServiceDescriptor
  | none => exporters c builder
  | some .returns => .userConfiguration builder :: exporters c builder
  | some .throws => [.userConfiguration builder]

/-- How the configuration of a builder ends. -/
def outcome : Option UserCallback → Except Exception PUnit
  | none | some .returns => .ok ⟨⟩
  | some .throws => .error .userCallback

/-- An exporter, or what stands for a user callback. -/
def ServiceDescriptor.isRegistration : ServiceDescriptor → Bool
  | otlpExporter _ _ | userConfiguration _ => true
  | _ => false

/-- The exporters and user callbacks, in the order of their registration. -/
def World.registered (w : World) : List ServiceDescriptor :=
  w.services.filter ServiceDescriptor.isRegistration

/-- Exporters follow the callback of their call, and the calls that are still to come have other
builders. -/
structure Ordered (w : World) : Prop where
  afterCallback : w.registered.Pairwise AfterCallback
  earlier : ∀ signal builder, .otlpExporter signal builder ∈ w.registered →
    builder < w.builders.length

/-- Nothing is registered, and no components are shared. -/
def World.empty : World := ⟨Registry.empty, [], []⟩

end ElasticOpenTelemetry.ServiceCollectionExtensions
