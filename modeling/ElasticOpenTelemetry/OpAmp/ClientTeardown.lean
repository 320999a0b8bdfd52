import Mathlib.Data.List.Infix
import ElasticOpenTelemetry.Foundations.ProcessPool

/-!
# Tearing down the OpAMP client

`Dispose` and `DisposeAsync` of `CentralConfiguration`, called directly or from those of
`ElasticOpenTelemetryComponents` (`CentralConfiguration.cs`, `ElasticOpenTelemetryComponents.cs`).
There is an exactly-once gate at each of the two levels: whoever exchanges `_disposed` first does
the work, and everybody else returns at once. The client is foreign code: `StopAsync` and
`Dispose` may throw, and the task of `StopAsync` may fault, be cancelled or never complete.

A call is a process of a pool, and the calls of a run are indexed by an arbitrary type. A gate
records the call that passed it, which the proofs use and no step reads. The client is
one that `StartClient` retained, and loggers do not throw.

A call that finds a gate passed returns while the call that passed it may still be at work
(`returned_during_teardown`), so that what holds after the teardown is stated about the call
that did it (`teardown_exactlyOnce`).
-/

namespace ElasticOpenTelemetry.ClientTeardown

open Execution

/-- A call of `Dispose` or `DisposeAsync`, at one of the two levels. -/
structure Call where
  onComponents : Bool
  isAsync : Bool
  deriving DecidableEq

/-- What is called on the client. -/
inductive ClientCall
  | stopAsync
  | dispose
  deriving DecidableEq, Repr

/-- The exceptions that the code tells apart. -/
inductive Exn
  | aggregate
  | other
  deriving DecidableEq, Repr

/-- How the client behaves at a step. -/
inductive Choice
  | completes
  | throws
  | faults
  | isCancelled
  | timesOut
  deriving DecidableEq, Repr

/-! ### Exceptions on the way -/

/-- `Task.Wait`, or a call that throws before there is a task. A fault and a cancellation surface
as an `AggregateException`. -/
def taskWait : Choice → Except Exn Bool
  | .completes => .ok true
  | .timesOut => .ok false
  | .faults | .isCancelled => .error .aggregate
  | .throws => .error .other

/-- `TryWaitForCompletion` with a task factory, by its two `catch` clauses. -/
def tryWaitForCompletion : Except Exn Bool → Except Exn Bool
  | .ok completed => .ok completed
  | .error .aggregate => .ok false
  | .error .other => .ok false

/-- `await Task.WhenAny(stopTask, Task.Delay(…))`, or a call that throws before there is a task.
A faulted or cancelled task only completes the wait. -/
def whenAny : Choice → Except Exn Unit
  | .throws => .error .other
  | _ => .ok ()

/-- `catch (Exception)`. -/
def catchAll : Except Exn Unit → Except Exn Unit
  | .ok () => .ok ()
  | .error _ => .ok ()

/-- The exception that leaves the `try` block around `StopAsync`, if one does. -/
def stopBlock (isAsync : Bool) (choice : Choice) : Option Exn :=
  if isAsync then
    match catchAll (whenAny choice) with
    | .ok () => none
    | .error e => some e
  else
    match tryWaitForCompletion (taskWait choice) with
    | .ok _ => none
    | .error e => some e

/-- `SafeDispose`. -/
def safeDispose (choice : Choice) : Except Exn Unit :=
  catchAll (match choice with
    | .throws => .error .other
    | _ => .ok ())

theorem stopBlock_eq_none (isAsync : Bool) (choice : Choice) :
    stopBlock isAsync choice = none := by
  cases isAsync <;> cases choice <;> rfl

theorem safeDispose_eq_ok (choice : Choice) : safeDispose choice = .ok () := by
  cases choice <;> rfl

/-! ### The calls -/

/-- The shared objects. -/
structure Memory (ι : Type) where
  /-- the components are in `SharedComponents` -/
  inShared : Bool
  /-- `_disposed` of the components, by the call that set it -/
  componentsDisposed : Option ι
  /-- `_disposed` of the central configuration, by the call that set it -/
  centralDisposed : Option ι
  /-- the calls on the client -/
  clientCalls : List ClientCall

/-- Where a call is. -/
inductive Pc
  | start
  /-- past the gate of the components, before `SharedComponents.Remove` -/
  | removing
  /-- in the method of the central configuration, before its gate -/
  | entering
  /-- past the gate, before `StopAsync` -/
  | stopping
  /-- waiting for the task of `StopAsync` -/
  | waiting
  /-- before `SafeDispose`, with an exception that is to be thrown again -/
  | disposing (pending : Option Exn)
  /-- back from the central configuration, before `Logger.Dispose`; whether the call tore the
  client down -/
  | disposingLogger (tornDown : Bool)
  /-- before `LoggingEventListener.Dispose` -/
  | disposingListener (tornDown : Bool)
  /-- returned, past the gate of the components if it is theirs -/
  | returned (tornDown : Bool)
  /-- returned at the gate of the components -/
  | bailedOut
  /-- an exception left the method of the central configuration -/
  | threw (e : Exn)
  deriving DecidableEq

/-- Back from the method of the central configuration. -/
def leaveCentral (c : Call) (tornDown : Bool) : Pc :=
  if c.onComponents then .disposingLogger tornDown else .returned tornDown

/-- After the `try` block around `StopAsync`: `Dispose` disposes the client in a `finally` block,
`DisposeAsync` behind the `catch` block. -/
def afterStop (c : Call) (e : Option Exn) : Pc :=
  match e with
  | none => .disposing none
  | some e => if c.isAsync then .threw e else .disposing (some e)

variable {ι : Type} (call : ι → Call)

/-- One step of a call. -/
def prog : Pool.Program ι (Memory ι) Pc Choice := fun i choice m pc =>
  match pc with
  | .start =>
    if (call i).onComponents then
      match m.componentsDisposed with
      | none => some ({ m with componentsDisposed := some i }, .removing)
      | some _ => some (m, .bailedOut)
    else some (m, .entering)
  | .removing => some ({ m with inShared := false }, .entering)
  | .entering =>
    match m.centralDisposed with
    | none => some ({ m with centralDisposed := some i }, .stopping)
    | some _ => some (m, leaveCentral (call i) false)
  | .stopping =>
    let m := { m with clientCalls := m.clientCalls ++ [.stopAsync] }
    -- a synchronous exception leaves no task to wait for
    if choice = .throws then some (m, afterStop (call i) (stopBlock (call i).isAsync .throws))
    else some (m, .waiting)
  | .waiting =>
    if choice = .throws then none
    else some (m, afterStop (call i) (stopBlock (call i).isAsync choice))
  | .disposing pending =>
    let m := { m with clientCalls := m.clientCalls ++ [.dispose] }
    match safeDispose choice, pending with
    | .ok (), none => some (m, leaveCentral (call i) true)
    | .ok (), some e => some (m, .threw e)
    | .error e, _ => some (m, .threw e)
  | .disposingLogger tornDown => some (m, .disposingListener tornDown)
  | .disposingListener tornDown => some (m, .returned tornDown)
  | .returned _ | .bailedOut | .threw _ => none

/-- Before any call. -/
def initial (inShared : Bool) : Pool ι (Memory ι) Pc where
  shared := ⟨inShared, none, none, []⟩
  pc := fun _ => .start

/-! ### The outline -/

/-- The call has passed the gate of the central configuration. -/
def Pc.ownsClient : Pc → Bool
  | .stopping | .waiting | .disposing _ => true
  | .disposingLogger tornDown | .disposingListener tornDown | .returned tornDown => tornDown
  | _ => false

/-- The call has passed the gate of the components, if it is theirs. -/
def Pc.pastRemove : Pc → Bool
  | .start | .removing | .bailedOut => false
  | _ => true

/-- The calls on the client that the owner has made where it is. -/
def Pc.made : Pc → List ClientCall
  | .waiting | .disposing _ => [.stopAsync]
  | .disposingLogger _ | .disposingListener _ | .returned _ => [.stopAsync, .dispose]
  | _ => []

/-- What a call may rely on. -/
structure Loc (i : ι) (m : Memory ι) (pc : Pc) : Prop where
  noThrow : ∀ e, pc ≠ .threw e ∧ pc ≠ .disposing (some e)
  owner : m.centralDisposed = some i ↔ pc.ownsClient = true
  made : pc.ownsClient = true → m.clientCalls = pc.made
  disposed : ∀ tornDown, pc = .disposingLogger tornDown ∨ pc = .disposingListener tornDown ∨
    pc = .returned tornDown → m.centralDisposed.isSome = true
  winner : m.componentsDisposed = some i → pc ≠ .start ∧ pc ≠ .bailedOut
  bailed : pc = .bailedOut → m.componentsDisposed.isSome = true
  removed : (call i).onComponents = true → pc.pastRemove = true → m.inShared = false

/-- What a step of `i` may change. -/
structure Guar (i : ι) (m m' : Memory ι) : Prop where
  central : m'.centralDisposed = m.centralDisposed ∨
    m.centralDisposed = none ∧ m'.centralDisposed = some i
  components : m'.componentsDisposed = m.componentsDisposed ∨
    m.componentsDisposed = none ∧ m'.componentsDisposed = some i
  calls : m'.clientCalls = m.clientCalls ∨ m.centralDisposed = some i
  inShared : m.inShared = false → m'.inShared = false

/-- No call on the client before the gate is passed. -/
def Global (m : Memory ι) : Prop := m.centralDisposed = none → m.clientCalls = []

theorem guar_refl (i : ι) (m : Memory ι) : Guar i m m :=
  ⟨Or.inl rfl, Or.inl rfl, Or.inl rfl, id⟩

variable {call}

/-- A step of another call does not disturb a call. -/
theorem loc_stable {i j : ι} {m m' : Memory ι} {pc : Pc} (hij : j ≠ i) (hguar : Guar i m m')
    (h : Loc call j m pc) : Loc call j m' pc where
  noThrow := h.noThrow
  owner := by
    rw [← h.owner]
    rcases hguar.central with heq | ⟨hnone, hsome⟩
    · rw [heq]
    · rw [hnone, hsome]
      simp [hij.symm]
  made := fun hown => by
    rcases hguar.calls with heq | hi
    · rw [heq, h.made hown]
    · -- two owners
      have hj := h.owner.mpr hown
      rw [hi] at hj
      exact absurd (Option.some.inj hj).symm hij
  disposed := fun tornDown hpc => by
    have hsome := h.disposed tornDown hpc
    rcases hguar.central with heq | ⟨-, hsome'⟩
    · rw [heq, hsome]
    · rw [hsome']
      rfl
  winner := fun hj => by
    rcases hguar.components with heq | ⟨-, hsome⟩
    · exact h.winner (heq ▸ hj)
    · rw [hsome] at hj
      exact absurd (Option.some.inj hj).symm hij
  bailed := fun hpc => by
    have hsome := h.bailed hpc
    rcases hguar.components with heq | ⟨-, hsome'⟩
    · rw [heq, hsome]
    · rw [hsome']
      rfl
  removed := fun hon hpast => hguar.inShared (h.removed hon hpast)

/-! ### One step -/

variable {i : ι} {m m' : Memory ι} {pc pc' : Pc} {choice : Choice}

/-- A step that touches neither the gates nor the client, between two program counters that
agree on what the call has done. -/
theorem loc_move (h : Loc call i m pc) (hshared : m'.inShared = m.inShared)
    (hcentral : m'.centralDisposed = m.centralDisposed)
    (hcalls : m'.clientCalls = m.clientCalls)
    (hthrow : ∀ e, pc' ≠ .threw e ∧ pc' ≠ .disposing (some e))
    (howns : pc'.ownsClient = pc.ownsClient) (hmade : pc'.ownsClient = true → pc'.made = pc.made)
    (hdisposed : ∀ tornDown, pc' = .disposingLogger tornDown ∨ pc' = .disposingListener tornDown ∨
      pc' = .returned tornDown → m.centralDisposed.isSome = true)
    (hstart : pc' ≠ .start ∧ pc' ≠ .bailedOut)
    (hpast : pc'.pastRemove = true → pc.pastRemove = true) :
    Loc call i m' pc' where
  noThrow := hthrow
  owner := by rw [hcentral, howns, h.owner]
  made := fun hown => by rw [hcalls, hmade hown, h.made (howns ▸ hown)]
  disposed := fun tornDown hpc => by rw [hcentral, hdisposed tornDown hpc]
  winner := fun _ => hstart
  bailed := fun hpc => absurd hpc hstart.2
  removed := fun hon hp => by rw [hshared, h.removed hon (hpast hp)]

/-- The steps up to the gate of the central configuration. -/
theorem start_spec (hg : Global m) (h : Loc call i m .start)
    (hstep : prog call i choice m .start = some (m', pc')) :
    Global m' ∧ Loc call i m' pc' ∧ Guar i m m' := by
  have hnot : m.centralDisposed ≠ some i := fun hi => absurd (h.owner.mp hi) (by decide)
  rw [prog] at hstep
  split_ifs at hstep with hon
  · split at hstep
    · next hnone =>
      obtain ⟨rfl, rfl⟩ := Prod.mk.inj (Option.some.inj hstep)
      refine ⟨hg, ⟨fun e => ⟨by simp, by simp⟩, ?_, by simp [Pc.ownsClient], by simp, by simp,
        by simp, by simp [Pc.pastRemove]⟩, Or.inl rfl, Or.inr ⟨hnone, rfl⟩, Or.inl rfl, id⟩
      simpa [Pc.ownsClient] using hnot
    · next winner hsome =>
      obtain ⟨rfl, rfl⟩ := Prod.mk.inj (Option.some.inj hstep)
      refine ⟨hg, ⟨fun e => ⟨by simp, by simp⟩, ?_, by simp [Pc.ownsClient], by simp, ?_,
        by simp [hsome], by simp [Pc.pastRemove]⟩, guar_refl i m⟩
      · simpa [Pc.ownsClient] using hnot
      · intro hi
        exact absurd rfl (h.winner hi).1
  · obtain ⟨rfl, rfl⟩ := Prod.mk.inj (Option.some.inj hstep)
    refine ⟨hg, ⟨fun e => ⟨by simp, by simp⟩, ?_, by simp [Pc.ownsClient], by simp, by simp,
      by simp, fun hon' => absurd hon' hon⟩, guar_refl i m⟩
    simpa [Pc.ownsClient] using hnot

theorem removing_spec (hg : Global m) (h : Loc call i m .removing)
    (hstep : prog call i choice m .removing = some (m', pc')) :
    Global m' ∧ Loc call i m' pc' ∧ Guar i m m' := by
  rw [prog] at hstep
  obtain ⟨rfl, rfl⟩ := Prod.mk.inj (Option.some.inj hstep)
  refine ⟨hg, ⟨fun e => ⟨by simp, by simp⟩, h.owner, by simp [Pc.ownsClient], by simp, by simp,
    by simp, fun _ _ => rfl⟩, Or.inl rfl, Or.inl rfl, Or.inl rfl, fun _ => rfl⟩

/-- Passing the gate makes the call the owner of the client. -/
theorem entering_spec (hg : Global m) (h : Loc call i m .entering)
    (hstep : prog call i choice m .entering = some (m', pc')) :
    Global m' ∧ Loc call i m' pc' ∧ Guar i m m' := by
  rw [prog] at hstep
  split at hstep
  · next hnone =>
    obtain ⟨rfl, rfl⟩ := Prod.mk.inj (Option.some.inj hstep)
    refine ⟨fun hnone' => absurd hnone' (by simp), ⟨fun e => ⟨by simp, by simp⟩,
      by simp [Pc.ownsClient], fun _ => hg hnone, by simp, by simp, by simp,
      fun hon _ => h.removed hon rfl⟩, Or.inr ⟨hnone, rfl⟩, Or.inl rfl, Or.inl rfl, id⟩
  · next winner hsome =>
    obtain ⟨rfl, rfl⟩ := Prod.mk.inj (Option.some.inj hstep)
    refine ⟨hg, ?_, guar_refl i m⟩
    have hisSome : m.centralDisposed.isSome = true := by rw [hsome]; rfl
    rw [leaveCentral]
    split_ifs
    · exact loc_move h rfl rfl rfl (by simp) rfl (by simp [Pc.ownsClient])
        (fun _ _ => hisSome) (by simp) (fun _ => rfl)
    · exact loc_move h rfl rfl rfl (by simp) rfl (by simp [Pc.ownsClient])
        (fun _ _ => hisSome) (by simp) (fun _ => rfl)

/-- The owner makes the next call on the client. -/
theorem loc_clientCall (h : Loc call i m pc) (hown : pc.ownsClient = true) (c : ClientCall)
    (hthrow : ∀ e, pc' ≠ .threw e ∧ pc' ≠ .disposing (some e)) (hown' : pc'.ownsClient = true)
    (hmade : pc'.made = pc.made ++ [c]) (hstart : pc' ≠ .start ∧ pc' ≠ .bailedOut)
    (hpast : pc.pastRemove = true) :
    Loc call i { m with clientCalls := m.clientCalls ++ [c] } pc' where
  noThrow := hthrow
  owner := iff_of_true (h.owner.mpr hown) hown'
  made := fun _ => by
    change m.clientCalls ++ [c] = pc'.made
    rw [h.made hown, hmade]
  disposed := fun _ _ => by
    change m.centralDisposed.isSome = true
    rw [h.owner.mpr hown]
    rfl
  winner := fun _ => hstart
  bailed := fun hpc => absurd hpc hstart.2
  removed := fun hon _ => h.removed hon hpast

theorem guar_clientCall (h : Loc call i m pc) (hown : pc.ownsClient = true) (c : ClientCall) :
    Guar i m { m with clientCalls := m.clientCalls ++ [c] } :=
  ⟨Or.inl rfl, Or.inl rfl, Or.inr (h.owner.mpr hown), id⟩

theorem global_clientCall (h : Loc call i m pc) (hown : pc.ownsClient = true) (c : ClientCall) :
    Global { m with clientCalls := m.clientCalls ++ [c] } := fun hnone => by
  have hsome : m.centralDisposed = some i := h.owner.mpr hown
  exact absurd (hsome.symm.trans hnone) (by simp)

/-- `StopAsync`, which may throw before it returns a task. -/
theorem stopping_spec (h : Loc call i m .stopping)
    (hstep : prog call i choice m .stopping = some (m', pc')) :
    Global m' ∧ Loc call i m' pc' ∧ Guar i m m' := by
  rw [prog, stopBlock_eq_none] at hstep
  have hmem := global_clientCall h rfl .stopAsync
  have hguar := guar_clientCall h rfl .stopAsync
  split_ifs at hstep
  · obtain ⟨rfl, rfl⟩ := Prod.mk.inj (Option.some.inj hstep)
    exact ⟨hmem, loc_clientCall h rfl .stopAsync (by simp [afterStop]) rfl rfl (by simp [afterStop])
      rfl, hguar⟩
  · obtain ⟨rfl, rfl⟩ := Prod.mk.inj (Option.some.inj hstep)
    exact ⟨hmem, loc_clientCall h rfl .stopAsync (by simp) rfl rfl (by simp) rfl, hguar⟩

/-- Whatever becomes of the task, the call goes on to `SafeDispose`. -/
theorem waiting_spec (hg : Global m) (h : Loc call i m .waiting)
    (hstep : prog call i choice m .waiting = some (m', pc')) :
    Global m' ∧ Loc call i m' pc' ∧ Guar i m m' := by
  rw [prog, stopBlock_eq_none] at hstep
  split_ifs at hstep
  obtain ⟨rfl, rfl⟩ := Prod.mk.inj (Option.some.inj hstep)
  exact ⟨hg, loc_move h rfl rfl rfl (by simp [afterStop]) rfl (fun _ => rfl)
    (by simp [afterStop]) (by simp [afterStop]) (fun _ => rfl), guar_refl i m⟩

/-- `SafeDispose`, whether `Dispose` throws or not. -/
theorem disposing_spec {pending : Option Exn} (h : Loc call i m (.disposing pending))
    (hstep : prog call i choice m (.disposing pending) = some (m', pc')) :
    Global m' ∧ Loc call i m' pc' ∧ Guar i m m' := by
  cases pending with
  | some e => exact absurd rfl (h.noThrow e).2
  | none =>
    simp only [prog, safeDispose_eq_ok] at hstep
    obtain ⟨rfl, rfl⟩ := Prod.mk.inj (Option.some.inj hstep)
    refine ⟨global_clientCall h rfl .dispose, ?_, guar_clientCall h rfl .dispose⟩
    rw [leaveCentral]
    split_ifs
    · exact loc_clientCall h rfl .dispose (by simp) rfl rfl (by simp) rfl
    · exact loc_clientCall h rfl .dispose (by simp) rfl rfl (by simp) rfl

/-- **One step.** A step keeps what holds of the memory, establishes what the call relies on
next, and changes no more than its guarantee. -/
theorem prog_spec (hg : Global m) (h : Loc call i m pc)
    (hstep : prog call i choice m pc = some (m', pc')) :
    Global m' ∧ Loc call i m' pc' ∧ Guar i m m' := by
  cases pc with
  | start => exact start_spec hg h hstep
  | removing => exact removing_spec hg h hstep
  | entering => exact entering_spec hg h hstep
  | stopping => exact stopping_spec h hstep
  | waiting => exact waiting_spec hg h hstep
  | disposing pending => exact disposing_spec h hstep
  | disposingLogger tornDown =>
    rw [prog] at hstep
    obtain ⟨rfl, rfl⟩ := Prod.mk.inj (Option.some.inj hstep)
    exact ⟨hg, loc_move h rfl rfl rfl (by simp) rfl (fun _ => rfl)
      (fun _ _ => h.disposed tornDown (Or.inl rfl)) (by simp) (fun _ => rfl), guar_refl i m⟩
  | disposingListener tornDown =>
    rw [prog] at hstep
    obtain ⟨rfl, rfl⟩ := Prod.mk.inj (Option.some.inj hstep)
    exact ⟨hg, loc_move h rfl rfl rfl (by simp) rfl (fun _ => rfl)
      (fun _ _ => h.disposed tornDown (Or.inr (Or.inl rfl))) (by simp) (fun _ => rfl),
      guar_refl i m⟩
  | returned tornDown | bailedOut | threw e =>
    rw [prog] at hstep
    exact absurd hstep (by simp)

/-! ### Runs -/

/-- The proof outline of the calls. -/
def outline (call : ι → Call) : Pool.Outline (prog call) fun _ _ => True :=
  .ofGuarantee Global (Loc call) Guar
    (fun _ _ _ _ _ _ hg h hstep => prog_spec hg h hstep)
    (fun _ _ _ _ _ hij hguar h => loc_stable hij hguar h)

theorem outline_initial (call : ι → Call) (inShared : Bool) :
    (outline call).Holds (initial inShared) where
  global := fun _ => rfl
  loc := fun i => ⟨fun e => ⟨by simp [initial], by simp [initial]⟩,
    by simp [initial, Pc.ownsClient], by simp [initial, Pc.ownsClient], by simp [initial],
    by simp [initial], by simp [initial], by simp [initial, Pc.pastRemove]⟩

/-- The call is back from the method of the central configuration, and has torn the client
down. -/
def Pc.toreDown (pc : Pc) : Prop :=
  pc = .disposingLogger true ∨ pc = .disposingListener true ∨ pc = .returned true

/-- The call is not in progress. -/
def Pc.atRest (pc : Pc) : Prop :=
  pc = .start ∨ pc = .bailedOut ∨ ∃ tornDown, pc = .returned tornDown

theorem made_isPrefix (pc : Pc) : pc.made <+: [.stopAsync, .dispose] := by
  cases pc <;> simp [Pc.made]

/-- The calls on the client are an initial part of a stop and a dispose. -/
theorem clientCalls_isPrefix {call : ι → Call} {t : Pool ι (Memory ι) Pc}
    (h : (outline call).Holds t) : t.shared.clientCalls <+: [.stopAsync, .dispose] := by
  cases howner : t.shared.centralDisposed with
  | none =>
    rw [h.global howner]
    exact List.nil_prefix
  | some w =>
    have hw : Loc call w t.shared (t.pc w) := h.loc w
    rw [hw.made (hw.owner.mp howner)]
    exact made_isPrefix _

/-- When no call is in progress and one was made, one of them has torn the client down. -/
theorem exists_toreDown {call : ι → Call} {t : Pool ι (Memory ι) Pc}
    (h : (outline call).Holds t) (hrest : ∀ i, (t.pc i).atRest) {i : ι} (hi : t.pc i ≠ .start) :
    ∃ w, (t.pc w).toreDown := by
  have hloc : ∀ j, Loc call j t.shared (t.pc j) := h.loc
  have hreturned : ∀ j, (∃ tornDown, t.pc j = .returned tornDown) →
      t.shared.centralDisposed.isSome = true := fun j ⟨tornDown, hj⟩ =>
    (hloc j).disposed tornDown (Or.inr (Or.inr hj))
  have hsome : t.shared.centralDisposed.isSome = true := by
    rcases hrest i with hstart | hbailed | hret
    · exact absurd hstart hi
    · -- the call that passed the gate of the components has returned
      obtain ⟨j, hj⟩ := Option.isSome_iff_exists.mp ((hloc i).bailed hbailed)
      obtain ⟨hstart, hbailed'⟩ := (hloc j).winner hj
      rcases hrest j with hj' | hj' | hret
      · exact absurd hj' hstart
      · exact absurd hj' hbailed'
      · exact hreturned j hret
    · exact hreturned i hret
  obtain ⟨w, hw⟩ := Option.isSome_iff_exists.mp hsome
  have hown := (hloc w).owner.mp hw
  refine ⟨w, Or.inr (Or.inr ?_)⟩
  rcases hrest w with hpc | hpc | ⟨tornDown, hpc⟩
  · rw [hpc] at hown
    exact Bool.noConfusion hown
  · rw [hpc] at hown
    exact Bool.noConfusion hown
  · rw [hpc] at hown ⊢
    rw [show tornDown = true from hown]

theorem clientCalls_of_toreDown {call : ι → Call} {t : Pool ι (Memory ι) Pc}
    (h : (outline call).Holds t) {i : ι} (hi : (t.pc i).toreDown) :
    t.shared.clientCalls = [.stopAsync, .dispose] := by
  have hloc : Loc call i t.shared (t.pc i) := h.loc i
  rcases hi with hpc | hpc | hpc <;>
  · rw [hpc] at hloc
    exact hloc.made rfl

variable [DecidableEq ι]

theorem outline_exec {call : ι → Call} {inShared : Bool} {as : List (ι × Choice)}
    {t : Pool ι (Memory ι) Pc} (h : exec (Pool.next (prog call)) as (initial inShared) = some t) :
    (outline call).Holds t :=
  (outline call).exec_always (outline_initial call inShared) h

/-- **Exactly-once teardown.** In every run of any calls, whatever the client does: no exception
leaves a method of the central configuration; `StopAsync` and `Dispose` are called at most once
and in this order, and both have been called once the call that tore the client down is back,
in particular once no call is in progress and one was made; and the components are not shared
once a call of theirs has returned from its teardown. -/
theorem teardown_exactlyOnce (call : ι → Call) (inShared : Bool) (as : List (ι × Choice))
    (t : Pool ι (Memory ι) Pc) (h : exec (Pool.next (prog call)) as (initial inShared) = some t) :
    (∀ i e, t.pc i ≠ .threw e) ∧
    t.shared.clientCalls <+: [.stopAsync, .dispose] ∧
    (∀ i, (t.pc i).toreDown → t.shared.clientCalls = [.stopAsync, .dispose]) ∧
    ((∀ i, (t.pc i).atRest) → (∃ i, t.pc i ≠ .start) →
      t.shared.clientCalls = [.stopAsync, .dispose]) ∧
    ∀ i, (call i).onComponents = true → (∃ tornDown, t.pc i = .returned tornDown) →
      t.shared.inShared = false := by
  have hholds := outline_exec h
  have hloc : ∀ j, Loc call j t.shared (t.pc j) := hholds.loc
  refine ⟨fun i e => ((hloc i).noThrow e).1, clientCalls_isPrefix hholds,
    fun i hi => clientCalls_of_toreDown hholds hi, fun hrest ⟨i, hi⟩ => ?_, ?_⟩
  · obtain ⟨w, hw⟩ := exists_toreDown hholds hrest hi
    exact clientCalls_of_toreDown hholds hw
  · rintro i hon ⟨tornDown, hpc⟩
    exact (hloc i).removed hon (by rw [hpc]; rfl)

/-! ### Calls that overlap -/

/-- A direct `Dispose`, and a `Dispose` of the components. -/
def twoCalls (i : Bool) : Call := ⟨i, false⟩

/-- The direct call passes its gate; the other one passes the gate of the components, removes them,
finds the client taken and returns. -/
def overtaken : List (Bool × Choice) :=
  [(false, .completes), (false, .completes), (true, .completes), (true, .completes),
    (true, .completes), (true, .completes), (true, .completes)]

/-- The direct call runs to its end while the other one is about to remove the components. -/
def inFlight : List (Bool × Choice) :=
  [(true, .completes), (false, .completes), (false, .completes), (false, .completes),
    (false, .completes), (false, .completes)]

/-- A call can return from its teardown before the client is stopped, when another call is at
it; and a call can tear the client down while another one has yet to remove the components. -/
theorem returned_during_teardown :
    (∃ t, exec (Pool.next (prog twoCalls)) overtaken (initial true) = some t ∧
      t.pc true = .returned false ∧ t.shared.clientCalls = []) ∧
    ∃ t, exec (Pool.next (prog twoCalls)) inFlight (initial true) = some t ∧
      t.pc false = .returned true ∧ t.pc true ≠ .start ∧ t.shared.inShared = true := by
  have hrun : (exec (Pool.next (prog twoCalls)) overtaken (initial true)).isSome = true := rfl
  have hrun' : (exec (Pool.next (prog twoCalls)) inFlight (initial true)).isSome = true := rfl
  exact ⟨⟨_, (Option.some_get hrun).symm, rfl, rfl⟩,
    ⟨_, (Option.some_get hrun').symm, rfl, Pc.noConfusion, rfl⟩⟩

/-- A faulting client, torn down by one call through the components. -/
theorem teardown_exactlyOnce_faults :
    ∃ t, exec (Pool.next (prog twoCalls))
        [(true, .completes), (true, .completes), (true, .completes), (true, .throws),
          (true, .throws), (true, .completes), (true, .completes)] (initial true) = some t ∧
      t.shared.clientCalls = [.stopAsync, .dispose] ∧ t.shared.inShared = false := by
  have hrun : (exec (Pool.next (prog twoCalls))
      [(true, .completes), (true, .completes), (true, .completes), (true, .throws),
        (true, .throws), (true, .completes), (true, .completes)] (initial true)).isSome =
          true := rfl
  have hs := (Option.some_get hrun).symm
  have h := teardown_exactlyOnce twoCalls true _ _ hs
  exact ⟨_, hs, h.2.2.1 true (Or.inr (Or.inr rfl)), h.2.2.2.2 true rfl ⟨true, rfl⟩⟩

end ElasticOpenTelemetry.ClientTeardown
