import Mathlib.Logic.Basic
import ElasticOpenTelemetry.Foundations.Execution

/-!
# Starting the OpAMP client

`CentralConfiguration.StartClient` starts the client on a worker thread and waits for that
thread with a bounded `Join`. The comment on its threading contract names the owners: the worker
cleans the client up when it did not start, or when it started after the caller had given up;
the caller keeps a started client, and otherwise swaps `_client` for an `EmptyOpAmpClient`.

The two threads meet in two places. The caller decides by `Join` and `outcome` and then swaps;
the worker, after a successful start, reads `_client` once. `ownership_iff` states that the
client has exactly one owner at the end of a run exactly when the caller does not swap after
that read: in the window between the worker's read and its termination a timed-out caller leaves
the started client with no owner.

What a foreign call does is the environment's choice, carried by the action.
-/

namespace ElasticOpenTelemetry.StartClient

open Execution

/-- `StartOutcome`. -/
inductive StartOutcome
  | pending
  | succeeded
  | cancelled
  | faulted
  deriving DecidableEq, Repr

/-- What `_client` refers to. -/
inductive ClientRef
  | original
  | emptyOpAmpClient
  deriving DecidableEq, Repr

/-- What a run does to the original client: `StartAsync` finishes, and calls are made. -/
inductive ClientEvent
  | startAsyncFinished (outcome : StartOutcome)
  | stopAsync
  | dispose
  deriving DecidableEq, Repr

/-- How `StartAsync` can end. -/
inductive StartResult
  | succeeds
  | isCancelled
  | faults
  deriving DecidableEq, Repr

/-- The outcome that the worker's `try` and its two `catch` blocks record. -/
def StartResult.outcome : StartResult → StartOutcome
  | succeeds => .succeeded
  | isCancelled => .cancelled
  | faults => .faulted

/-- How `StopAsync` can behave while `TryWaitForCompletion` waits for it. -/
inductive StopResult
  | completes
  | faults
  | timesOut
  | throws
  deriving DecidableEq, Repr

/-- How `Dispose` can behave. -/
inductive DisposeResult
  | returns
  | throws
  deriving DecidableEq, Repr

/-- Where the calling thread is. -/
inductive CallerPc
  | join
  /-- `Join` returned true -/
  | readOutcome
  | exchangeClient
  | returned
  deriving DecidableEq, Repr

/-- Where the worker thread is. -/
inductive WorkerPc
  | startAsync
  | writeOutcome (outcome : StartOutcome)
  | checkOutcome
  | readClient
  | stopAsync
  | safeDispose
  | disposeCts
  | terminated
  deriving DecidableEq, Repr

/-- The threads, the fields that they share, and the history of the original client. -/
structure State where
  caller : CallerPc
  worker : WorkerPc
  outcome : StartOutcome
  client : ClientRef
  events : List ClientEvent
  deriving DecidableEq, Repr

/-- `thread.Start()` has just returned. -/
def initial : State := ⟨.join, .startAsync, .pending, .original, []⟩

/-- The atomic steps of the two threads. -/
inductive Action
  /-- `Join` returns true -/
  | joinReturns
  /-- `Join` returns false -/
  | joinTimesOut
  | readOutcome
  | exchangeClient
  | startAsync (result : StartResult)
  | writeOutcome
  | checkOutcome
  | readClient
  | stopAsync (result : StopResult)
  | safeDispose (result : DisposeResult)
  | disposeCts
  deriving DecidableEq, Repr

/-- One step. `Join` returns true once the worker has terminated, and false at any time before;
whatever `StopAsync` and `Dispose` do is caught. -/
def next (a : Action) (s : State) : Option State :=
  match a with
  | .joinReturns =>
    if s.caller = .join ∧ s.worker = .terminated then some { s with caller := .readOutcome }
    else none
  | .joinTimesOut =>
    if s.caller = .join ∧ s.worker ≠ .terminated then some { s with caller := .exchangeClient }
    else none
  | .readOutcome =>
    if s.caller = .readOutcome then
      some { s with
        caller := if s.outcome = .succeeded then .returned else .exchangeClient }
    else none
  | .exchangeClient =>
    if s.caller = .exchangeClient then
      some { s with caller := .returned, client := .emptyOpAmpClient }
    else none
  | .startAsync result =>
    if s.worker = .startAsync then
      some { s with
        worker := .writeOutcome result.outcome
        events := s.events ++ [.startAsyncFinished result.outcome] }
    else none
  | .writeOutcome =>
    match s.worker with
    | .writeOutcome outcome => some { s with worker := .checkOutcome, outcome := outcome }
    | _ => none
  | .checkOutcome =>
    if s.worker = .checkOutcome then
      some { s with worker := if s.outcome = .succeeded then .readClient else .stopAsync }
    else none
  | .readClient =>
    if s.worker = .readClient then
      some { s with worker := if s.client = .original then .disposeCts else .stopAsync }
    else none
  | .stopAsync _ =>
    if s.worker = .stopAsync then
      some { s with worker := .safeDispose, events := s.events ++ [.stopAsync] }
    else none
  | .safeDispose _ =>
    if s.worker = .safeDispose then
      some { s with worker := .disposeCts, events := s.events ++ [.dispose] }
    else none
  | .disposeCts =>
    if s.worker = .disposeCts then some { s with worker := .terminated } else none

/-! ### Ownership -/

/-- Both threads are done. -/
def Finished (s : State) : Prop := s.caller = .returned ∧ s.worker = .terminated

/-- The caller owns the client: it started, is in place, and was neither stopped nor disposed. -/
def Retained (s : State) : Prop :=
  .startAsyncFinished .succeeded ∈ s.events ∧ s.client = .original ∧
    .stopAsync ∉ s.events ∧ .dispose ∉ s.events

/-- The worker cleaned the client up: after `StartAsync` finished, it stopped it exactly once
and disposed it exactly once, and `_client` is empty. -/
def CleanedUp (s : State) : Prop :=
  s.client = .emptyOpAmpClient ∧ ∃ outcome cleanup,
    s.events = .startAsyncFinished outcome :: cleanup ∧
      cleanup.count .stopAsync = 1 ∧ cleanup.count .dispose = 1

/-- The worker read the original client after a successful start, and keeps it. -/
def KeepsClient (s : State) : Prop :=
  (s.worker = .disposeCts ∨ s.worker = .terminated) ∧ .stopAsync ∉ s.events

/-- The caller does not swap the client after the worker has decided to keep it. -/
def NoLateSwap (a : Action) (s : State) : Prop := a = .exchangeClient → ¬ KeepsClient s

/-! ### The invariant -/

/-- What the worker relies on: the events up to its position, and its reason for cleaning up. -/
def WorkerInv (s : State) : Prop :=
  match s.worker with
  | .startAsync => s.outcome = .pending ∧ s.events = []
  | .writeOutcome outcome => s.outcome = .pending ∧ s.events = [.startAsyncFinished outcome]
  | .checkOutcome => s.events = [.startAsyncFinished s.outcome]
  | .readClient => s.outcome = .succeeded ∧ s.events = [.startAsyncFinished .succeeded]
  | .stopAsync => s.events = [.startAsyncFinished s.outcome] ∧
      (s.outcome = .succeeded → s.client = .emptyOpAmpClient)
  | .safeDispose => s.events = [.startAsyncFinished s.outcome, .stopAsync] ∧
      (s.outcome = .succeeded → s.client = .emptyOpAmpClient)
  | .disposeCts | .terminated =>
      s.outcome = .succeeded ∧ s.events = [.startAsyncFinished .succeeded] ∨
      s.events = [.startAsyncFinished s.outcome, .stopAsync, .dispose] ∧
        (s.outcome = .succeeded → s.client = .emptyOpAmpClient)

/-- What the caller relies on: it is the only one to swap, and it returns without swapping only
when the worker has terminated after a successful start. -/
def CallerInv (s : State) : Prop :=
  match s.caller with
  | .join => s.client = .original
  | .readOutcome => s.client = .original ∧ s.worker = .terminated
  | .exchangeClient => s.client = .original
  | .returned => s.client = .emptyOpAmpClient ∨
      s.client = .original ∧ s.worker = .terminated ∧ s.outcome = .succeeded

/-- The started client has been swapped away behind the worker's back. -/
def Orphaned (s : State) : Prop := KeepsClient s ∧ s.client = .emptyOpAmpClient

theorem inv_initial : WorkerInv initial ∧ CallerInv initial := ⟨⟨rfl, rfl⟩, rfl⟩

/-- The caller relies on nothing that the worker changes before it terminates. -/
theorem CallerInv.of_worker {s t : State} (h : CallerInv s) (hworker : s.worker ≠ .terminated)
    (hcaller : t.caller = s.caller) (hclient : t.client = s.client) : CallerInv t := by
  rw [CallerInv] at h ⊢
  rw [hcaller, hclient]
  cases hpc : s.caller with
  | join => simpa only [hpc] using h
  | readOutcome =>
    simp only [hpc] at h
    exact absurd h.2 hworker
  | exchangeClient => simpa only [hpc] using h
  | returned =>
    simp only [hpc] at h
    exact h.imp_right fun hkept => absurd hkept.2.1 hworker

/-- An empty `_client` is no reason for the worker to change its mind. -/
theorem WorkerInv.of_exchange {s : State} (h : WorkerInv s) :
    WorkerInv { s with caller := .returned, client := .emptyOpAmpClient } := by
  rw [WorkerInv] at h ⊢
  cases hpc : s.worker with
  | stopAsync => simp only [hpc] at h; exact ⟨h.1, fun _ => rfl⟩
  | safeDispose => simp only [hpc] at h; exact ⟨h.1, fun _ => rfl⟩
  | disposeCts => simp only [hpc] at h; exact h.imp_right fun hc => ⟨hc.1, fun _ => rfl⟩
  | terminated => simp only [hpc] at h; exact h.imp_right fun hc => ⟨hc.1, fun _ => rfl⟩
  | _ => simpa only [hpc] using h

/-- Both parts of the invariant survive every step. -/
theorem inv_next (a : Action) (s t : State) (h : WorkerInv s ∧ CallerInv s)
    (hnext : next a s = some t) : WorkerInv t ∧ CallerInv t := by
  obtain ⟨hworker, hcaller⟩ := h
  cases a <;> simp only [next, Option.ite_none_right_eq_some, Option.some.injEq] at hnext
  case joinReturns =>
    obtain ⟨⟨hjoin, hterminated⟩, rfl⟩ := hnext
    simp only [CallerInv, hjoin] at hcaller
    exact ⟨hworker, hcaller, hterminated⟩
  case joinTimesOut =>
    obtain ⟨⟨hjoin, -⟩, rfl⟩ := hnext
    simp only [CallerInv, hjoin] at hcaller
    exact ⟨hworker, hcaller⟩
  case readOutcome =>
    obtain ⟨hread, rfl⟩ := hnext
    simp only [CallerInv, hread] at hcaller
    refine ⟨hworker, ?_⟩
    split_ifs with houtcome
    · exact Or.inr ⟨hcaller.1, hcaller.2, houtcome⟩
    · exact hcaller.1
  case exchangeClient =>
    obtain ⟨-, rfl⟩ := hnext
    exact ⟨hworker.of_exchange, Or.inl rfl⟩
  case startAsync result =>
    obtain ⟨hpc, rfl⟩ := hnext
    simp only [WorkerInv, hpc] at hworker
    refine ⟨⟨hworker.1, ?_⟩, hcaller.of_worker (by simp [hpc]) rfl rfl⟩
    rw [hworker.2, List.nil_append]
  case writeOutcome =>
    split at hnext
    case h_1 outcome hpc =>
      obtain rfl := Option.some.inj hnext
      simp only [WorkerInv, hpc] at hworker
      exact ⟨hworker.2, hcaller.of_worker (by simp [hpc]) rfl rfl⟩
    case h_2 => simp at hnext
  case checkOutcome =>
    obtain ⟨hpc, rfl⟩ := hnext
    simp only [WorkerInv, hpc] at hworker
    refine ⟨?_, hcaller.of_worker (by simp [hpc]) rfl rfl⟩
    split_ifs with houtcome
    · exact ⟨houtcome, houtcome ▸ hworker⟩
    · exact ⟨hworker, fun h => absurd h houtcome⟩
  case readClient =>
    obtain ⟨hpc, rfl⟩ := hnext
    simp only [WorkerInv, hpc] at hworker
    refine ⟨?_, hcaller.of_worker (by simp [hpc]) rfl rfl⟩
    split_ifs with hclient
    · exact Or.inl hworker
    · -- the worker sees that the caller has given up
      refine ⟨hworker.1 ▸ hworker.2, fun _ => ?_⟩
      cases h : s.client with
      | original => exact absurd h hclient
      | emptyOpAmpClient => rfl
  case stopAsync =>
    obtain ⟨hpc, rfl⟩ := hnext
    simp only [WorkerInv, hpc] at hworker
    refine ⟨⟨?_, hworker.2⟩, hcaller.of_worker (by simp [hpc]) rfl rfl⟩
    rw [hworker.1]
    rfl
  case safeDispose =>
    obtain ⟨hpc, rfl⟩ := hnext
    simp only [WorkerInv, hpc] at hworker
    refine ⟨Or.inr ⟨?_, hworker.2⟩, hcaller.of_worker (by simp [hpc]) rfl rfl⟩
    rw [hworker.1]
    rfl
  case disposeCts =>
    obtain ⟨hpc, rfl⟩ := hnext
    simp only [WorkerInv, hpc] at hworker
    exact ⟨hworker, hcaller.of_worker (by simp [hpc]) rfl rfl⟩

/-! ### Late swaps -/

/-- Only a late swap leaves a client without an owner. -/
theorem not_orphaned_next (a : Action) (s t : State) (hlate : NoLateSwap a s)
    (horphaned : ¬ Orphaned s) (hinv : WorkerInv s) (hnext : next a s = some t) :
    ¬ Orphaned t := by
  rintro ⟨⟨hpc', hevents⟩, hempty⟩
  cases a <;> simp only [next, Option.ite_none_right_eq_some, Option.some.injEq] at hnext
  case joinReturns | joinTimesOut | readOutcome =>
    obtain ⟨-, rfl⟩ := hnext
    exact horphaned ⟨⟨hpc', hevents⟩, hempty⟩
  case exchangeClient =>
    obtain ⟨-, rfl⟩ := hnext
    exact hlate rfl ⟨hpc', hevents⟩
  case startAsync | stopAsync =>
    obtain ⟨-, rfl⟩ := hnext
    simp at hpc'
  case writeOutcome =>
    split at hnext
    · obtain rfl := Option.some.inj hnext
      simp at hpc'
    · simp at hnext
  case checkOutcome =>
    obtain ⟨-, rfl⟩ := hnext
    split_ifs at hpc' <;> simp at hpc'
  case readClient =>
    obtain ⟨-, rfl⟩ := hnext
    have hclient : s.client ≠ .original := fun h => by simp [h] at hempty
    simp [hclient] at hpc'
  case safeDispose =>
    obtain ⟨hpc, rfl⟩ := hnext
    simp only [WorkerInv, hpc] at hinv
    simp [hinv.1] at hevents
  case disposeCts =>
    obtain ⟨hpc, rfl⟩ := hnext
    exact horphaned ⟨⟨Or.inl hpc, hevents⟩, hempty⟩

/-- Without an owner the client stays so. -/
theorem orphaned_next (a : Action) (s t : State) (h : Orphaned s) (hnext : next a s = some t) :
    Orphaned t := by
  obtain ⟨⟨hpc, hevents⟩, hempty⟩ := h
  cases a <;> simp only [next, Option.ite_none_right_eq_some, Option.some.injEq] at hnext
  case joinReturns | joinTimesOut | readOutcome =>
    obtain ⟨-, rfl⟩ := hnext
    exact ⟨⟨hpc, hevents⟩, hempty⟩
  case exchangeClient =>
    obtain ⟨-, rfl⟩ := hnext
    exact ⟨⟨hpc, hevents⟩, rfl⟩
  case disposeCts =>
    obtain ⟨-, rfl⟩ := hnext
    exact ⟨⟨Or.inr rfl, hevents⟩, hempty⟩
  case writeOutcome => rcases hpc with hpc | hpc <;> simp [hpc] at hnext
  -- the worker has no other step left
  all_goals
    obtain ⟨hpc', rfl⟩ := hnext
    rcases hpc with hpc | hpc <;> simp [hpc] at hpc'

/-- A late swap leaves the client without an owner. -/
theorem orphaned_of_lateSwap {a : Action} {s t : State} (h : ¬ NoLateSwap a s)
    (hnext : next a s = some t) : Orphaned t := by
  rw [NoLateSwap, Classical.not_imp, not_not] at h
  obtain ⟨rfl, hkeeps⟩ := h
  simp only [next, Option.ite_none_right_eq_some, Option.some.injEq] at hnext
  obtain ⟨-, rfl⟩ := hnext
  exact ⟨hkeeps, rfl⟩

/-- At the end of a run, exactly one of the two owners is there, or none at all. -/
theorem xor_iff_not_orphaned {s : State} (hworker : WorkerInv s) (hcaller : CallerInv s)
    (hfinished : Finished s) : Xor (Retained s) (CleanedUp s) ↔ ¬ Orphaned s := by
  obtain ⟨hreturned, hterminated⟩ := hfinished
  simp only [WorkerInv, hterminated] at hworker
  simp only [CallerInv, hreturned] at hcaller
  rcases hworker with ⟨-, hevents⟩ | ⟨hevents, hswapped⟩
  · -- the worker kept the client, so it is owned as long as it is in place
    have hkeeps : KeepsClient s := ⟨Or.inr hterminated, by simp [hevents]⟩
    have hnot : ¬ CleanedUp s := by
      rintro ⟨-, outcome, cleanup, hcleanup, hstop, -⟩
      rw [hevents, List.cons.injEq] at hcleanup
      simp [← hcleanup.2] at hstop
    rcases hcaller with hempty | ⟨horiginal, -⟩
    · refine iff_of_false ?_ (not_not.mpr ⟨hkeeps, hempty⟩)
      rintro (⟨⟨-, horiginal, -⟩, -⟩ | ⟨hclean, -⟩)
      · simp [hempty] at horiginal
      · exact hnot hclean
    · refine iff_of_true (Or.inl ⟨⟨?_, horiginal, ?_, ?_⟩, hnot⟩) fun h => ?_
      · simp [hevents]
      · simp [hevents]
      · simp [hevents]
      · exact absurd (horiginal.symm.trans h.2) (by simp)
  · -- the worker cleaned up, and the caller has swapped
    have hempty : s.client = .emptyOpAmpClient := hcaller.elim id fun h => hswapped h.2.2
    refine iff_of_true (Or.inr ⟨⟨hempty, s.outcome, _, hevents, rfl, rfl⟩, ?_⟩) ?_
    · rintro ⟨-, -, hstop, -⟩
      simp [hevents] at hstop
    · rintro ⟨⟨-, hstop⟩, -⟩
      simp [hevents] at hstop

/-- **Ownership of the OpAMP client.** When both threads have finished, the client was retained
or cleaned up, and not both, exactly when the caller did not swap it after the worker had
decided to keep it. -/
theorem ownership_iff (as : List Action) (t : State) (h : exec next as initial = some t)
    (hfinished : Finished t) :
    Xor (Retained t) (CleanedUp t) ↔ Along next NoLateSwap as initial := by
  have hinv := exec_invariant inv_next inv_initial h
  rw [xor_iff_not_orphaned hinv.1 hinv.2 hfinished]
  constructor
  · intro howned
    by_contra hlate
    obtain ⟨pre, a, post, u, v, -, -, -, ha, hv, ht⟩ := exists_violation h hlate
    exact howned (exec_invariant orphaned_next (orphaned_of_lateSwap ha hv) ht)
  · intro hlate
    have hstep : ∀ a s t, NoLateSwap a s → (WorkerInv s ∧ CallerInv s) ∧ ¬ Orphaned s →
        next a s = some t → (WorkerInv t ∧ CallerInv t) ∧ ¬ Orphaned t :=
      fun a s t ha hs hnext => ⟨inv_next a s t hs.1 hnext,
        not_orphaned_next a s t ha hs.2 hs.1.1 hnext⟩
    exact (exec_induction hstep hlate ⟨inv_initial, fun horphaned => by
      simp [Orphaned, initial] at horphaned⟩ h).2

/-- The client starts in time, and the caller keeps it. -/
def startsInTime : List Action :=
  [.startAsync .succeeds, .writeOutcome, .checkOutcome, .readClient, .disposeCts, .joinReturns,
   .readOutcome]

/-- In that run the two owners exclude each other. -/
theorem ownership_startsInTime :
    Xor (Retained ⟨.returned, .terminated, .succeeded, .original,
        [.startAsyncFinished .succeeded]⟩)
      (CleanedUp ⟨.returned, .terminated, .succeeded, .original,
        [.startAsyncFinished .succeeded]⟩) :=
  (ownership_iff startsInTime _ (by decide) ⟨rfl, rfl⟩).mpr (by
    simp [startsInTime, Along, NoLateSwap])

/-- `Join` times out after the worker has read `_client`, and before it terminates. -/
def lateSwap : List Action :=
  [.startAsync .succeeds, .writeOutcome, .checkOutcome, .readClient, .joinTimesOut,
   .exchangeClient, .disposeCts]

/-- That run leaves a started client that nobody stops. -/
theorem lateSwap_not_owned :
    ∃ t, exec next lateSwap initial = some t ∧ Finished t ∧ ¬ Xor (Retained t) (CleanedUp t) := by
  refine ⟨⟨.returned, .terminated, .succeeded, .emptyOpAmpClient,
    [.startAsyncFinished .succeeded]⟩, by decide, ⟨rfl, rfl⟩, ?_⟩
  rintro (⟨⟨-, horiginal, -⟩, -⟩ | ⟨⟨-, outcome, cleanup, hcleanup, hstop, -⟩, -⟩)
  · simp at horiginal
  · rw [List.cons.injEq] at hcleanup
    simp [← hcleanup.2] at hstop

end ElasticOpenTelemetry.StartClient
