import ElasticOpenTelemetry.Diagnostics.Handoff
import ElasticOpenTelemetry.Diagnostics.PreActivation

/-!
# The safety timer of a logger without options

A `CompositeLogger` that was created in deferred mode without options (`CompositeLogger.cs`) gets
them later: `GetOrCreate` stores options on the instance, or `Activate` is called with some.
`OnSafetyTimerElapsed` discards the queue when it has found no options; it reads `_options` before
it takes the lock, and does not look at `_activationState`. `keepsQueue_iff` states in which runs
a queue for which there were options, or an activation, is never discarded.

Calls of `Log`, `Activate` and `OnSafetyTimerElapsed` are those of `Diagnostics.DeferredLogger`.
While the queue is not discarded the invariant is that of `Diagnostics.Handoff`, read on a logger
that has some options throughout (`Shared.filled`).
-/

namespace ElasticOpenTelemetry.SafetyTimerDiscard

open Execution DeferredLogger

variable {ι : Type}

/-! ### The system -/

/-- Where a call of `GetOrCreate` is. It has nothing to do with the instance, and is at `returned`,
when it does not find it in the static field or does not recognise it. -/
inductive GetOrCreatePc
  /-- `var existing = PreActivationInstance` -/
  | readStatic
  | readActivationState
  /-- the second part of `IsCompatible` -/
  | readOptions
  /-- `options is not null && existing._options is null` -/
  | testOptions
  | storeOptions
  | returned
  deriving DecidableEq, Repr

/-- The logger with the calls on it, and the calls of `GetOrCreate`. -/
structure State (ι : Type) where
  logger : Config ι
  getOrCreate : ι → GetOrCreatePc
  /-- recorded for the statements: when the queue was discarded, no call had claimed the
  activation and no options were stored -/
  discardedUnclaimed : Bool

/-- A step of a call on the logger, or of a call of `GetOrCreate`. -/
inductive Action (ι : Type)
  | call (p : Process ι) (enabled : Bool)
  | getOrCreate (i : ι)

/-- `GetOrCreate(options)`. -/
def getOrCreateStep (options : Option CompositeElasticOpenTelemetryOptions) (s : Shared ι) :
    GetOrCreatePc → Option (Shared ι × GetOrCreatePc)
  | .readStatic =>
    if s.isPreActivationInstance then some (s, .readActivationState) else some (s, .returned)
  | .readActivationState =>
    if s.activationState ≠ 0 then some (s, .returned) else some (s, .readOptions)
  | .readOptions =>
    if PreActivation.optionsCompatible s.options options then some (s, .testOptions)
    else some (s, .returned)
  | .testOptions =>
    if options.isSome ∧ s.options = none then some (s, .storeOptions) else some (s, .returned)
  | .storeOptions => some ({ s with options := options }, .returned)
  | .returned => none

/-- The step of `p` discards the queue, and there has been neither a claim nor options. -/
def discardsUnclaimed (c : Config ι) (p : Process ι) : Bool :=
  match c.pc p with
  | .safetyTimer .discard =>
    c.shared.deferredQueue.isSome && c.shared.activationState == 0 && c.shared.options.isNone
  | _ => false

/-- One step. `arg i` is the argument of the call `i` of `Activate`, and `given i` that of the call
`i` of `GetOrCreate`. -/
def next [DecidableEq ι] (arg : ι → CompositeElasticOpenTelemetryOptions)
    (given : ι → Option CompositeElasticOpenTelemetryOptions) (a : Action ι) (c : State ι) :
    Option (State ι) :=
  match a with
  | .call p enabled =>
    (Pool.next (step arg) (p, enabled) c.logger).map fun logger =>
      { c with
        logger := logger
        discardedUnclaimed := c.discardedUnclaimed || discardsUnclaimed c.logger p }
  | .getOrCreate i =>
    (getOrCreateStep (given i) c.logger.shared (c.getOrCreate i)).map fun r =>
      { c with
        logger := { c.logger with shared := r.1 }
        getOrCreate := Function.update c.getOrCreate i r.2 }

/-- The instance has just been created in deferred mode without options. -/
def initial : State ι := ⟨DeferredLogger.initial none, fun _ => .readStatic, false⟩

/-! ### The condition and the property -/

/-- Every entry that was queued is in exactly one place, in order: past the sub-logger, in the hand
of the draining call, in the captured queue or in the queue. When all calls are over it has come
past every sub-logger exactly once, and the file and the console logger were there. -/
structure Kept [DecidableEq ι] (c : Config ι) : Prop where
  order : ∀ slot, c.shared.enqueued = c.shared.drained slot ++ (c.shared.inHand slot).toList ++
    c.shared.capturedQueue ++ c.shared.deferredQueue.getD []
  once : Finished c → ∀ slot, ∀ entry ∈ c.shared.enqueued, (c.shared.entries slot).count entry = 1
  present : ∀ slot, slot ≠ .additional → ∀ r ∈ c.shared.routed slot, r.verdict ≠ .absent

/-- Unless the queue was discarded when there had been neither a claim nor options, what was
queued is kept. -/
def KeepsQueue [DecidableEq ι] (c : State ι) : Prop :=
  c.discardedUnclaimed = true ∨ Kept c.logger

/-- A call of the timer has found no options and is about to discard the queue. -/
def TimerPending (c : Config ι) : Prop :=
  c.shared.deferredQueue ≠ none ∧ ∃ i, c.pc (.safetyTimer i) = .safetyTimer .discard

/-- Where the call of `Activate` that the process is in, or has been led to by the timer, is. -/
def activatePc : Pc ι → Option (ActivatePc ι)
  | .activate pc | .safetyTimer (.activate _ pc) => some pc
  | _ => none

/-- The step of `p` claims the activation. -/
def Claims (p : Process ι) (c : Config ι) : Prop :=
  activatePc (c.pc p) = some .compareExchange ∧ c.shared.activationState = 0

/-- The steps that come in time. No claim and no store of options comes between the read of
`_options` by the timer and its region under the lock, and the timer does not find `_options` null
between a claim and the region of `Activate` under the lock. -/
def InTime (a : Action ι) (c : State ι) : Prop :=
  match a with
  | .call p _ => (Claims p c.logger → ¬ TimerPending c.logger) ∧
      (c.logger.pc p = .safetyTimer .readOptions → c.logger.shared.options = none →
        c.logger.shared.deferredQueue ≠ none → c.logger.shared.activationState = 0)
  | .getOrCreate i => c.getOrCreate i = .storeOptions → ¬ TimerPending c.logger

/-! ### A logger that has options throughout -/

section Filled

/-- The logger with other options. -/
@[simps]
def withOptions (s : Shared ι) (options : Option CompositeElasticOpenTelemetryOptions) :
    Shared ι :=
  { s with options := options }

/-- The logger as if it had been created with options. -/
def filled (s : Shared ι) : Shared ι := withOptions s (some (s.options.getD withEndpoint))

variable {s t : Shared ι} {o : Option CompositeElasticOpenTelemetryOptions} {enabled : Bool}

theorem isAssigned_withOptions (slot : Slot) :
    (withOptions s o).isAssigned slot = s.isAssigned slot := by
  cases slot <;> rfl

/-- `Log` does not read the options. -/
theorem logStep_withOptions {entry : Entry ι} {route : Route} {pc pc' : LogPc}
    (h : logStep entry route enabled s pc = some (t, pc')) :
    logStep entry route enabled (withOptions s o) pc = some (withOptions t o, pc') := by
  cases pc <;> simp only [logStep, isAssigned_withOptions, withOptions_isDisposed,
    withOptions_deferredQueue] at h ⊢
  case enqueueLocked =>
    cases hqueue : s.deferredQueue <;> simp only [hqueue] at h ⊢ <;>
      obtain ⟨rfl, rfl⟩ := Prod.mk.inj (Option.some.inj h) <;> rfl
  case returned | threw => cases h
  all_goals
    split_ifs at h ⊢ <;> obtain ⟨rfl, rfl⟩ := Prod.mk.inj (Option.some.inj h) <;> rfl

/-- `Activate` does not read the options of the logger; it clears them when it takes the queue. -/
theorem activateStep_withOptions {p : Process ι} {options : CompositeElasticOpenTelemetryOptions}
    {pc pc' : ActivatePc ι} (h : activateStep p options enabled s pc = some (t, pc')) :
    ∃ o', activateStep p options enabled (withOptions s o) pc = some (withOptions t o', pc') := by
  cases pc <;> simp only [activateStep, withOptions_activationState, withOptions_capturedQueue,
    withOptions_deferredQueue] at h ⊢
  case compareExchange | reportIsEnabled =>
    split_ifs at h ⊢ <;> obtain ⟨rfl, rfl⟩ := Prod.mk.inj (Option.some.inj h) <;> exact ⟨o, rfl⟩
  case assign =>
    obtain ⟨rfl, rfl⟩ := Prod.mk.inj (Option.some.inj h)
    exact ⟨none, rfl⟩
  case dequeue =>
    cases hcaptured : s.capturedQueue <;> simp only [hcaptured] at h ⊢ <;>
      obtain ⟨rfl, rfl⟩ := Prod.mk.inj (Option.some.inj h) <;> exact ⟨o, rfl⟩
  case drain entry pc | report pc =>
    obtain ⟨r, hr, hrt⟩ := Option.map_eq_some_iff.mp h
    obtain ⟨rfl, rfl⟩ := Prod.mk.inj hrt
    exact ⟨o, by rw [logStep_withOptions hr]; rfl⟩
  case returned => cases h
  all_goals
    obtain ⟨rfl, rfl⟩ := Prod.mk.inj (Option.some.inj h)
    exact ⟨o, rfl⟩

theorem safetyTimerStep_withOptions {p : Process ι} {pc pc' : SafetyTimerPc ι}
    (hread : pc = .readOptions → s.options = o)
    (h : safetyTimerStep p enabled s pc = some (t, pc')) :
    ∃ o', safetyTimerStep p enabled (withOptions s o) pc = some (withOptions t o', pc') := by
  cases pc <;> simp only [safetyTimerStep, withOptions_isDisposed, withOptions_options,
    withOptions_deferredQueue] at h ⊢
  case readOptions =>
    obtain rfl := hread rfl
    cases hoptions : s.options <;> simp only [hoptions] at h ⊢ <;>
      obtain ⟨rfl, rfl⟩ := Prod.mk.inj (Option.some.inj h) <;> exact ⟨_, rfl⟩
  case activate options pc =>
    obtain ⟨r, hr, hrt⟩ := Option.map_eq_some_iff.mp h
    obtain ⟨rfl, rfl⟩ := Prod.mk.inj hrt
    obtain ⟨o', ho'⟩ := activateStep_withOptions (o := o) hr
    exact ⟨o', by rw [ho']; rfl⟩
  case returned => cases h
  case readIsDisposed | discard =>
    split_ifs at h ⊢ <;> obtain ⟨rfl, rfl⟩ := Prod.mk.inj (Option.some.inj h) <;> exact ⟨o, rfl⟩
  all_goals
    obtain ⟨rfl, rfl⟩ := Prod.mk.inj (Option.some.inj h)
    exact ⟨o, rfl⟩

/-- Every step but the read of the timer goes on the same way whatever the options are. -/
theorem step_withOptions {arg : ι → CompositeElasticOpenTelemetryOptions} {p : Process ι}
    {pc pc' : Pc ι} (hread : pc = .safetyTimer .readOptions → s.options = o)
    (h : step arg p enabled s pc = some (t, pc')) :
    ∃ o', step arg p enabled (withOptions s o) pc = some (withOptions t o', pc') := by
  cases stepBy_of_step h with
  | log i hlog => exact ⟨o, by rw [step, logStep_withOptions hlog, Option.map_some]⟩
  | activate i hactivate =>
    obtain ⟨o', ho'⟩ := activateStep_withOptions (o := o) hactivate
    exact ⟨o', by rw [step, ho', Option.map_some]⟩
  | safetyTimer i htimer =>
    obtain ⟨o', ho'⟩ := safetyTimerStep_withOptions (fun hpc => hread (congrArg _ hpc)) htimer
    exact ⟨o', by rw [step, ho', Option.map_some]⟩

end Filled

/-! ### The invariant -/

section Invariant

variable [DecidableEq ι] {s t : Shared ι} {p : Process ι} {pc pc' : Pc ι}
  {o : Option CompositeElasticOpenTelemetryOptions}

/-- Whether there are options matters to the invariant of the handoff in one clause only. -/
theorem coherent_withOptions (hs : Coherent s) (options : CompositeElasticOpenTelemetryOptions) :
    Coherent (withOptions s (some options)) :=
  { hs with hasOptions := fun _ => nofun }

theorem guarantee_withOptions (p : Process ι) (s : Shared ι)
    (o : Option CompositeElasticOpenTelemetryOptions) : Guarantee p s (withOptions s o) :=
  { Guarantee.refl p s with keepsLoggers := fun _ slot => isAssigned_withOptions slot }

/-- A process relies on nothing about the options, which any other one may change. -/
theorem loc_withOptions (hloc : Loc s p pc) : Loc (withOptions s o) p pc := by
  obtain ⟨q, hq⟩ : ∃ q, p ≠ q := by
    cases p with
    | log i => exact ⟨.activate i, nofun⟩
    | activate i => exact ⟨.log i, nofun⟩
    | safetyTimer i => exact ⟨.log i, nofun⟩
  exact ⟨(guarantee_withOptions q s o).fine hq hloc.1, hloc.2⟩

theorem loc_filled (hloc : Loc (withOptions s o) p pc) : Loc (filled s) p pc :=
  loc_withOptions (s := withOptions s o) hloc

/-- The process is a call of the timer that has found no options. -/
structure Awaits (s : Shared ι) (p : Process ι) (pc : Pc ι) : Prop where
  timer : ∃ i, p = .safetyTimer i
  at_discard : pc = .safetyTimer .discard
  notWinner : s.winner ≠ some p
  own : ∀ slot, own p s slot = 0

/-- The invariant of the handoff, but that calls of the timer may be about to discard the queue. -/
structure Sound (c : Config ι) : Prop where
  coherent : Coherent (filled c.shared)
  loc : ∀ p, Loc (filled c.shared) p (c.pc p) ∨ Awaits c.shared p (c.pc p)

/-- A step that is one of the handoff, whatever the options are. -/
theorem sound_of_guarantee {c d : Config ι} (hc : Sound c) (ht : Coherent (withOptions d.shared o))
    (hloc : Loc (withOptions d.shared o) p (d.pc p))
    (hguarantee : Guarantee p (filled c.shared) (withOptions d.shared o))
    (hsame : ∀ q, q ≠ p → d.pc q = c.pc q) : Sound d where
  coherent := coherent_withOptions ht _
  loc := fun q => by
    by_cases hq : q = p
    · subst hq
      exact .inl (loc_filled hloc)
    · rw [hsame q hq]
      rcases hc.loc q with ⟨hfine, hown⟩ | hawaits
      · have hkept : Loc (withOptions d.shared o) q (c.pc q) :=
          ⟨hguarantee.fine hq hfine, fun slot => by rw [hguarantee.keepsOwn q hq, hown]⟩
        exact .inl (loc_filled hkept)
      · exact .inr ⟨hawaits.timer, hawaits.at_discard,
          hguarantee.winner_ne hq hawaits.notWinner,
          fun slot => (hguarantee.keepsOwn q hq slot).trans (hawaits.own slot)⟩

/-- Only a place changes, or only the options. -/
theorem sound_of_place {c d : Config ι} (hc : Sound c) (hshared : d.shared = withOptions c.shared o)
    (hloc : Loc (filled c.shared) p (d.pc p) ∨ Awaits c.shared p (d.pc p))
    (hsame : ∀ q, q ≠ p → d.pc q = c.pc q) : Sound d where
  coherent := by
    rw [hshared]
    exact coherent_withOptions hc.coherent _
  loc := fun q => by
    have hq : Loc (filled c.shared) q (d.pc q) ∨ Awaits c.shared q (d.pc q) := by
      by_cases hq : q = p
      · subst hq
        exact hloc
      · rw [hsame q hq]
        exact hc.loc q
    rw [hshared]
    exact hq.imp (loc_withOptions (s := filled c.shared)) fun h =>
      ⟨h.timer, h.at_discard, h.notWinner, h.own⟩

variable {arg : ι → CompositeElasticOpenTelemetryOptions} {enabled : Bool} {c d : Config ι}

/-- A step of a call on the logger that discards no queue. -/
theorem sound_call (hc : Sound c)
    (hkeeps : c.pc p = .safetyTimer .discard → c.shared.deferredQueue = none)
    (h : Pool.next (step arg) (p, enabled) c = some d) : Sound d := by
  obtain ⟨⟨t, pc', hstep, hshared, hpc'⟩, hsame⟩ := Pool.pc_of_next h
  rcases hc.loc p with hloc | hawaits
  · by_cases hread : c.pc p = .safetyTimer .readOptions ∧ c.shared.options = none
    · -- the timer finds no options
      obtain ⟨hpc, hoptions⟩ := hread
      rw [hpc] at hstep hloc
      cases p <;> simp only [step, reduceCtorEq] at hstep
      case safetyTimer i =>
        rw [safetyTimerStep, hoptions] at hstep
        obtain ⟨rfl, rfl⟩ := Prod.mk.inj (Option.some.inj hstep)
        refine sound_of_place (o := c.shared.options) hc hshared (.inr ?_) hsame
        rw [hpc']
        exact ⟨⟨i, rfl⟩, rfl, hloc.1, hloc.2⟩
    · obtain ⟨o, ho⟩ := step_withOptions (o := some (c.shared.options.getD withEndpoint))
        (fun hpc => by
          obtain ⟨options, hoptions⟩ := Option.ne_none_iff_exists'.mp fun hnone =>
            hread ⟨hpc, hnone⟩
          rw [hoptions, Option.getD_some]) hstep
      obtain ⟨ht, hloc', hguarantee⟩ := step_loc hc.coherent hloc ho
      rw [← hshared] at ht hloc' hguarantee
      exact sound_of_guarantee hc ht (hpc'.symm ▸ hloc') hguarantee hsame
  · -- the queue has been taken in the meantime
    obtain ⟨⟨i, rfl⟩, hpc, hnotWinner, hown⟩ := hawaits
    rw [hpc] at hstep
    simp only [step, safetyTimerStep, hkeeps hpc, Option.isSome_none, Bool.false_eq_true, if_false,
      Option.map_some] at hstep
    obtain ⟨rfl, rfl⟩ := Prod.mk.inj (Option.some.inj hstep)
    refine sound_of_place (o := c.shared.options) hc hshared (.inl ?_) hsame
    rw [hpc']
    exact ⟨hnotWinner, hown⟩

end Invariant

/-! ### What a step does to the queue and its discarding -/

section Moves

variable {s t : Shared ι} {enabled : Bool}

/-- Entries that were queued stay in the queue while there is one. -/
def KeepsQueued (s t : Shared ι) : Prop :=
  ∀ queue', t.deferredQueue = some queue' → ∃ queue, s.deferredQueue = some queue ∧ queue ⊆ queue'

/-- What a step of a call on the logger, from `pc` to `pc'`, does to the fields that decide about
the queue. -/
structure Move (s t : Shared ι) (pc pc' : Pc ι) : Prop where
  queued : KeepsQueued s t
  options : t.options = s.options ∨ t.options = none
  activationState : t.activationState = s.activationState ∨
    activatePc pc = some .compareExchange ∧ s.activationState = 0 ∧ t.activationState ≠ 0
  discard : pc' = .safetyTimer .discard → t = s ∧ s.options = none ∧ pc = .safetyTimer .readOptions

theorem KeepsQueued.refl (s : Shared ι) : KeepsQueued s s := fun queue h => ⟨queue, h, fun _ => id⟩

theorem KeepsQueued.of_none (h : t.deferredQueue = none) : KeepsQueued s t := by
  intro queue' hqueue
  rw [h] at hqueue
  cases hqueue

theorem move_of_same {pc pc' : Pc ι} (hqueue : t.deferredQueue = s.deferredQueue)
    (hoptions : t.options = s.options) (hstate : t.activationState = s.activationState)
    (hpc' : pc' ≠ .safetyTimer .discard) : Move s t pc pc' where
  queued := fun queue h => ⟨queue, hqueue.symm.trans h, fun _ => id⟩
  options := .inl hoptions
  activationState := .inl hstate
  discard := fun h => absurd h hpc'

/-- `Log` leaves all but the queue as it is. -/
theorem move_of_logStep {entry : Entry ι} {route : Route} {pc pc' : LogPc} {q q' : Pc ι}
    (hq' : q' ≠ .safetyTimer .discard)
    (h : logStep entry route enabled s pc = some (t, pc')) : Move s t q q' := by
  cases pc <;> simp only [logStep] at h
  case enqueueLocked =>
    split at h
    · rename_i queue hqueue
      obtain ⟨rfl, rfl⟩ := Prod.mk.inj (Option.some.inj h)
      refine ⟨fun queue' h' => ⟨queue, hqueue, ?_⟩, .inl rfl, .inl rfl, fun h => absurd h hq'⟩
      obtain rfl := Option.some.inj h'
      exact List.subset_append_left queue [entry]
    · obtain ⟨rfl, rfl⟩ := Prod.mk.inj (Option.some.inj h)
      exact move_of_same rfl rfl rfl hq'
  case returned | threw => cases h
  all_goals
    split_ifs at h <;> obtain ⟨rfl, rfl⟩ := Prod.mk.inj (Option.some.inj h) <;>
      exact move_of_same rfl rfl rfl hq'

theorem move_of_activateStep {p : Process ι} {options : CompositeElasticOpenTelemetryOptions}
    {pc pc' : ActivatePc ι} {q q' : Pc ι} (hq : activatePc q = some pc)
    (hq' : q' ≠ .safetyTimer .discard)
    (h : activateStep p options enabled s pc = some (t, pc')) : Move s t q q' := by
  cases pc <;> simp only [activateStep] at h
  case compareExchange =>
    split_ifs at h with hstate <;> obtain ⟨rfl, rfl⟩ := Prod.mk.inj (Option.some.inj h)
    · exact ⟨.refl s, .inl rfl, .inr ⟨hq, hstate, Nat.one_ne_zero⟩, fun h => absurd h hq'⟩
    · exact move_of_same rfl rfl rfl hq'
  case assign =>
    obtain ⟨rfl, rfl⟩ := Prod.mk.inj (Option.some.inj h)
    exact ⟨.of_none rfl, .inr rfl, .inl rfl, fun h => absurd h hq'⟩
  case drain entry pc | report pc =>
    obtain ⟨r, hr, hrt⟩ := Option.map_eq_some_iff.mp h
    obtain ⟨rfl, rfl⟩ := Prod.mk.inj hrt
    exact move_of_logStep hq' hr
  case dequeue =>
    split at h <;> obtain ⟨rfl, rfl⟩ := Prod.mk.inj (Option.some.inj h) <;>
      exact move_of_same rfl rfl rfl hq'
  case reportIsEnabled =>
    split_ifs at h <;> obtain ⟨rfl, rfl⟩ := Prod.mk.inj (Option.some.inj h) <;>
      exact move_of_same rfl rfl rfl hq'
  case returned => cases h
  all_goals
    obtain ⟨rfl, rfl⟩ := Prod.mk.inj (Option.some.inj h)
    exact move_of_same rfl rfl rfl hq'

theorem move_of_safetyTimerStep {p : Process ι} {pc pc' : SafetyTimerPc ι}
    (h : safetyTimerStep p enabled s pc = some (t, pc')) :
    Move s t (.safetyTimer pc) (.safetyTimer pc') := by
  cases pc <;> simp only [safetyTimerStep] at h
  case readOptions =>
    split at h <;> obtain ⟨rfl, rfl⟩ := Prod.mk.inj (Option.some.inj h)
    · exact move_of_same rfl rfl rfl (by simp)
    · exact ⟨.refl s, .inl rfl, .inl rfl, fun _ => ⟨rfl, ‹_›, rfl⟩⟩
  case activate options pc =>
    obtain ⟨r, hr, hrt⟩ := Option.map_eq_some_iff.mp h
    obtain ⟨rfl, rfl⟩ := Prod.mk.inj hrt
    exact move_of_activateStep rfl (by simp) hr
  case discard =>
    split_ifs at h <;> obtain ⟨rfl, rfl⟩ := Prod.mk.inj (Option.some.inj h)
    · exact ⟨.of_none rfl, .inl rfl, .inl rfl, by simp⟩
    · exact move_of_same rfl rfl rfl (by simp)
  case readIsDisposed =>
    split_ifs at h <;> obtain ⟨rfl, rfl⟩ := Prod.mk.inj (Option.some.inj h) <;>
      exact move_of_same rfl rfl rfl (by simp)
  case returned => cases h
  all_goals
    obtain ⟨rfl, rfl⟩ := Prod.mk.inj (Option.some.inj h)
    exact move_of_same rfl rfl rfl (by simp)

theorem move_of_step {arg : ι → CompositeElasticOpenTelemetryOptions} {p : Process ι}
    {pc pc' : Pc ι} (h : step arg p enabled s pc = some (t, pc')) : Move s t pc pc' := by
  cases stepBy_of_step h with
  | log i hlog => exact move_of_logStep (by simp) hlog
  | activate i hactivate => exact move_of_activateStep rfl (by simp) hactivate
  | safetyTimer i htimer => exact move_of_safetyTimerStep htimer

/-- A successful `CompareExchange` leaves the queue as it is. -/
theorem claim_of_step {arg : ι → CompositeElasticOpenTelemetryOptions} {p : Process ι}
    {pc pc' : Pc ι} (hpc : activatePc pc = some .compareExchange) (hzero : s.activationState = 0)
    (h : step arg p enabled s pc = some (t, pc')) :
    t.activationState ≠ 0 ∧ t.deferredQueue = s.deferredQueue := by
  have hclaim {p : Process ι} {options : CompositeElasticOpenTelemetryOptions}
      {r : Shared ι × ActivatePc ι}
      (hr : activateStep p options enabled s .compareExchange = some r) :
      r.1.activationState ≠ 0 ∧ r.1.deferredQueue = s.deferredQueue := by
    rw [activateStep, if_pos hzero] at hr
    obtain rfl := Option.some.inj hr
    exact ⟨Nat.one_ne_zero, rfl⟩
  cases stepBy_of_step h with
  | log i hlog => cases hpc
  | @activate i pc pc' hactivate =>
    obtain rfl : pc = .compareExchange := Option.some.inj hpc
    exact hclaim hactivate
  | @safetyTimer i pc pc' htimer =>
    cases pc with
    | activate options pc =>
      obtain rfl : pc = .compareExchange := Option.some.inj hpc
      obtain ⟨r, hr, hrt⟩ := Option.map_eq_some_iff.mp htimer
      obtain ⟨rfl, -⟩ := Prod.mk.inj hrt
      exact hclaim hr
    | _ => cases hpc

/-- `GetOrCreate` comes to its store with options only, and stores them. -/
theorem getOrCreateStep_spec {options : Option CompositeElasticOpenTelemetryOptions}
    {pc pc' : GetOrCreatePc} (h : getOrCreateStep options s pc = some (t, pc')) :
    (pc = .storeOptions ∧ t = withOptions s options ∨ pc ≠ .storeOptions ∧ t = s) ∧
      (pc' = .storeOptions → options.isSome = true) := by
  cases pc <;> simp only [getOrCreateStep] at h
  case storeOptions =>
    obtain ⟨rfl, rfl⟩ := Prod.mk.inj (Option.some.inj h)
    exact ⟨.inl ⟨rfl, rfl⟩, nofun⟩
  case testOptions =>
    split_ifs at h with htest <;> obtain ⟨rfl, rfl⟩ := Prod.mk.inj (Option.some.inj h)
    · exact ⟨.inr ⟨nofun, rfl⟩, fun _ => htest.1⟩
    · exact ⟨.inr ⟨nofun, rfl⟩, nofun⟩
  case returned => cases h
  all_goals
    split_ifs at h <;> obtain ⟨rfl, rfl⟩ := Prod.mk.inj (Option.some.inj h) <;>
      exact ⟨.inr ⟨nofun, rfl⟩, nofun⟩

end Moves

/-! ### Runs -/

section Runs

variable [DecidableEq ι] {arg : ι → CompositeElasticOpenTelemetryOptions}
  {given : ι → Option CompositeElasticOpenTelemetryOptions} {a : Action ι} {c d : State ι}

/-- In every run the entry of the constructor is in the queue while there is one, and that one was
not discarded. -/
structure Queued (given : ι → Option CompositeElasticOpenTelemetryOptions) (c : State ι) :
    Prop where
  created : ∀ queue, c.logger.shared.deferredQueue = some queue → .created ∈ queue
  notDiscarded : c.logger.shared.deferredQueue ≠ none → c.discardedUnclaimed = false
  given : ∀ i, c.getOrCreate i = .storeOptions → (given i).isSome = true

/-- The activation has been claimed, or options have been stored. -/
def Announced (c : Config ι) : Prop := c.shared.activationState ≠ 0 ∨ c.shared.options ≠ none

/-- No call of the timer is about to discard a queue that can be activated. -/
structure Safe (c : State ι) : Prop where
  sound : Sound c.logger
  notPending : Announced c.logger → ¬ TimerPending c.logger

theorem call_of_next {p : Process ι} {enabled : Bool}
    (h : next arg given (.call p enabled) c = some d) :
    Pool.next (step arg) (p, enabled) c.logger = some d.logger ∧
      d.getOrCreate = c.getOrCreate ∧
      d.discardedUnclaimed = (c.discardedUnclaimed || discardsUnclaimed c.logger p) := by
  obtain ⟨logger, hlogger, rfl⟩ := Option.map_eq_some_iff.mp h
  exact ⟨hlogger, rfl, rfl⟩

/-- A step of `GetOrCreate` stores its options or leaves the logger alone. -/
theorem getOrCreate_of_next {i : ι} (h : next arg given (.getOrCreate i) c = some d) :
    (c.getOrCreate i = .storeOptions ∧ d.logger.shared = withOptions c.logger.shared (given i) ∨
      c.getOrCreate i ≠ .storeOptions ∧ d.logger.shared = c.logger.shared) ∧
    d.logger.pc = c.logger.pc ∧ d.discardedUnclaimed = c.discardedUnclaimed ∧
    ∀ j, d.getOrCreate j = .storeOptions →
      (given j).isSome = true ∨ c.getOrCreate j = .storeOptions := by
  obtain ⟨r, hr, rfl⟩ := Option.map_eq_some_iff.mp h
  obtain ⟨hshared, hgiven⟩ := getOrCreateStep_spec hr
  refine ⟨hshared, rfl, rfl, fun j hj => ?_⟩
  by_cases hji : j = i
  · subst hji
    exact .inl (hgiven (by simpa using hj))
  · exact .inr (by simpa [hji] using hj)

/-- The step that discards the queue. -/
theorem discard_of_next {c d : Config ι} {p : Process ι} {enabled : Bool}
    (hpc : c.pc p = .safetyTimer .discard)
    (h : Pool.next (step arg) (p, enabled) c = some d) :
    (∃ i, p = .safetyTimer i) ∧ d.shared = { c.shared with deferredQueue := none } := by
  obtain ⟨⟨t, pc', hstep, hshared, -⟩, -⟩ := Pool.pc_of_next h
  rw [hpc] at hstep
  cases p <;> simp only [step, reduceCtorEq, safetyTimerStep] at hstep
  case safetyTimer i =>
    refine ⟨⟨i, rfl⟩, ?_⟩
    split_ifs at hstep with hqueue <;> obtain ⟨rfl, -⟩ := Prod.mk.inj (Option.some.inj hstep)
    · exact hshared
    · rw [hshared, ← Option.not_isSome_iff_eq_none.mp hqueue]

theorem queued_next (hc : Queued given c) (h : next arg given a c = some d) : Queued given d := by
  cases a with
  | call p enabled =>
    obtain ⟨hcall, hgetOrCreate, hflag⟩ := call_of_next h
    obtain ⟨⟨t, pc', hstep, hshared, -⟩, -⟩ := Pool.pc_of_next hcall
    have hqueued : KeepsQueued c.logger.shared d.logger.shared :=
      hshared ▸ (move_of_step hstep).queued
    refine ⟨fun queue' hqueue' => ?_, fun hqueue' => ?_, fun i hi => hc.given i (hgetOrCreate ▸ hi)⟩
    · obtain ⟨queue, hqueue, hsubset⟩ := hqueued queue' hqueue'
      exact hsubset (hc.created queue hqueue)
    · obtain ⟨queue', hqueue''⟩ := Option.ne_none_iff_exists'.mp hqueue'
      obtain ⟨queue, hqueue, -⟩ := hqueued queue' hqueue''
      rw [hflag, hc.notDiscarded (by simp [hqueue]), Bool.false_or, discardsUnclaimed]
      split
      · rename_i hpc
        rw [(discard_of_next hpc hcall).2] at hqueue'
        exact absurd rfl hqueue'
      · rfl
  | getOrCreate i =>
    obtain ⟨hshared, -, hflag, hgiven⟩ := getOrCreate_of_next h
    have hqueue : d.logger.shared.deferredQueue = c.logger.shared.deferredQueue := by
      rcases hshared with ⟨-, hshared⟩ | ⟨-, hshared⟩ <;> rw [hshared]
      rfl
    refine ⟨fun queue h => hc.created queue (hqueue ▸ h), fun h => ?_, fun j hj => ?_⟩
    · rw [hflag]
      exact hc.notDiscarded (hqueue ▸ h)
    · exact (hgiven j hj).elim id (hc.given j)

/-- A step that does not discard a queue that can be activated. -/
theorem sound_next (hc : Sound c.logger)
    (hdiscard : ∀ p enabled, a = .call p enabled → c.logger.pc p = .safetyTimer .discard →
      c.logger.shared.deferredQueue ≠ none → ¬ Announced c.logger)
    (h : next arg given a c = some d) : d.discardedUnclaimed = true ∨ Sound d.logger := by
  cases a with
  | call p enabled =>
    obtain ⟨hcall, -, hflag⟩ := call_of_next h
    by_cases hloses : c.logger.pc p = .safetyTimer .discard ∧
        c.logger.shared.deferredQueue ≠ none
    · -- the queue is discarded, and rightly so
      obtain ⟨hpc, hqueue⟩ := hloses
      obtain ⟨hstate, hoptions⟩ := not_or.mp (hdiscard p enabled rfl hpc hqueue)
      refine .inl ?_
      rw [hflag, discardsUnclaimed, hpc]
      simp [not_not.mp hstate, not_not.mp hoptions, Option.isSome_iff_ne_none.mpr hqueue]
    · exact .inr (sound_call hc (fun hpc => not_not.mp fun hqueue => hloses ⟨hpc, hqueue⟩) hcall)
  | getOrCreate i =>
    obtain ⟨hshared, hpc, -, -⟩ := getOrCreate_of_next h
    have hshared' : ∃ o, d.logger.shared = withOptions c.logger.shared o := by
      rcases hshared with ⟨-, hshared⟩ | ⟨-, hshared⟩
      · exact ⟨_, hshared⟩
      · exact ⟨c.logger.shared.options, hshared⟩
    obtain ⟨o, ho⟩ := hshared'
    refine .inr (sound_of_place (p := .log i) hc ho ?_ fun q _ => congrFun hpc q)
    rw [hpc]
    exact hc.loc _

/-- **A step in time** keeps the queue safe, or discards it rightly. -/
theorem safe_next (hin : InTime a c) (hc : Safe c) (h : next arg given a c = some d) :
    d.discardedUnclaimed = true ∨ Safe d := by
  have hdiscard : ∀ p enabled, a = .call p enabled → c.logger.pc p = .safetyTimer .discard →
      c.logger.shared.deferredQueue ≠ none → ¬ Announced c.logger := by
    rintro p enabled rfl hpc hqueue hannounced
    obtain ⟨⟨i, rfl⟩, -⟩ := discard_of_next hpc (call_of_next h).1
    exact hc.notPending hannounced ⟨hqueue, i, hpc⟩
  refine (sound_next hc.sound hdiscard h).imp_right fun hsound => ⟨hsound, ?_⟩
  rintro hannounced ⟨hqueue, j, hj⟩
  cases a with
  | call p enabled =>
    obtain ⟨⟨t, pc', hstep, hshared, hpc'⟩, hsame⟩ := Pool.pc_of_next (call_of_next h).1
    have hmove := move_of_step hstep
    rw [← hshared, ← hpc'] at hmove
    obtain ⟨queue', hqueue'⟩ := Option.ne_none_iff_exists'.mp hqueue
    obtain ⟨queue, hsome, -⟩ := hmove.queued queue' hqueue'
    have hbefore : c.logger.shared.deferredQueue ≠ none := by simp [hsome]
    by_cases hmover : p = .safetyTimer j
    · -- the timer has just found no options, so there has been no claim
      obtain ⟨hshared', hoptions, hread⟩ := hmove.discard (hmover ▸ hj)
      rw [Announced, hshared'] at hannounced
      exact hannounced.elim (fun h => h (hin.2 hread hoptions hbefore)) fun h => h hoptions
    · have hpending : TimerPending c.logger :=
        ⟨hbefore, j, (hsame _ (Ne.symm hmover)).symm.trans hj⟩
      obtain ⟨hstate, hoptions⟩ := not_or.mp fun h => hc.notPending h hpending
      rcases hannounced with hclaimed | hstored
      · rcases hmove.activationState with heq | ⟨hpc, hzero, -⟩
        · exact hclaimed (heq.trans (not_not.mp hstate))
        · exact hin.1 ⟨hpc, hzero⟩ hpending
      · rcases hmove.options with heq | hnone
        · exact hstored (heq.trans (not_not.mp hoptions))
        · exact hstored hnone
  | getOrCreate i =>
    obtain ⟨hshared, hpc, -, -⟩ := getOrCreate_of_next h
    rw [hpc] at hj
    rcases hshared with ⟨hstore, hshared⟩ | ⟨-, hshared⟩
    · rw [hshared] at hqueue
      exact hin hstore ⟨hqueue, j, hj⟩
    · rw [hshared] at hqueue
      rw [Announced, hshared] at hannounced
      exact hc.notPending hannounced ⟨hqueue, j, hj⟩

omit [DecidableEq ι] in
/-- The discarding itself is neither a claim nor the read of the timer. -/
theorem inTime_of_discard {p : Process ι} {enabled : Bool}
    (hpc : c.logger.pc p = .safetyTimer .discard) : InTime (.call p enabled) c := by
  refine ⟨fun hclaims => ?_, fun hread => ?_⟩
  · rw [Claims, hpc] at hclaims
    cases hclaims.1
  · rw [hpc] at hread
    cases hread

/-- A step that is not in time leaves a queue that can be activated to be discarded. -/
theorem pending_of_violation (hviolates : ¬ InTime a c) (hc : Sound c.logger)
    (hqueued : Queued given c) (h : next arg given a c = some d) :
    Sound d.logger ∧ Announced d.logger ∧ TimerPending d.logger := by
  -- such a step does not discard
  have hsound (hnot : ∀ p enabled, a = .call p enabled → c.logger.pc p ≠ .safetyTimer .discard)
      (hpending : TimerPending d.logger) : Sound d.logger := by
    refine (sound_next hc (fun p enabled ha hpc => absurd hpc (hnot p enabled ha))
      h).resolve_left ?_
    rw [(queued_next hqueued h).notDiscarded hpending.1]
    exact Bool.false_ne_true
  cases a with
  | call p enabled =>
    obtain ⟨⟨t, pc', hstep, hshared, hpc'⟩, hsame⟩ := Pool.pc_of_next (call_of_next h).1
    have hnot : c.logger.pc p ≠ .safetyTimer .discard := fun hpc =>
      hviolates (inTime_of_discard hpc)
    have hgoal (hpending : TimerPending d.logger) (hannounced : Announced d.logger) :
        Sound d.logger ∧ Announced d.logger ∧ TimerPending d.logger := by
      refine ⟨hsound (fun q e ha => ?_) hpending, hannounced, hpending⟩
      obtain ⟨rfl, -⟩ := Action.call.inj ha
      exact hnot
    rcases not_and_or.mp hviolates with hclaim | hread
    · -- the activation is claimed while the timer is about to discard
      obtain ⟨⟨hpc, hzero⟩, hpending⟩ := Classical.not_imp.mp hclaim
      obtain ⟨hqueue, j, hj⟩ := not_not.mp hpending
      have hclaimed := claim_of_step hpc hzero hstep
      rw [← hshared] at hclaimed
      refine hgoal ⟨hclaimed.2 ▸ hqueue, j, (hsame _ ?_).trans hj⟩ (.inl hclaimed.1)
      rintro rfl
      exact hnot hj
    · -- the timer finds no options after a claim
      obtain ⟨hpc, hrest⟩ := Classical.not_imp.mp hread
      obtain ⟨hoptions, hrest⟩ := Classical.not_imp.mp hrest
      obtain ⟨hqueue, hclaimed⟩ := Classical.not_imp.mp hrest
      rw [hpc] at hstep
      cases p <;> simp only [step, reduceCtorEq] at hstep
      case safetyTimer i =>
        rw [safetyTimerStep, hoptions] at hstep
        obtain ⟨rfl, rfl⟩ := Prod.mk.inj (Option.some.inj hstep)
        exact hgoal ⟨hshared ▸ hqueue, i, hpc'⟩ (.inl (hshared ▸ hclaimed))
  | getOrCreate i =>
    obtain ⟨hstore, hpending⟩ := Classical.not_imp.mp hviolates
    obtain ⟨hqueue, j, hj⟩ := not_not.mp hpending
    obtain ⟨hshared, hpc, -, -⟩ := getOrCreate_of_next h
    obtain ⟨-, hshared⟩ := hshared.resolve_right fun hnot => hnot.1 hstore
    have hpending' : TimerPending d.logger := ⟨by rw [hshared]; exact hqueue, j, by rw [hpc, hj]⟩
    refine ⟨hsound (by simp) hpending', .inr ?_, hpending'⟩
    rw [hshared]
    exact Option.isSome_iff_ne_none.mp (hqueued.given i hstore)

/-- The timer then discards the queue, and what was in it is nowhere. -/
theorem loses_of_pending (hd : Sound d.logger) (hqueued : Queued given d)
    (hannounced : Announced d.logger) (hpending : TimerPending d.logger) :
    ∃ b e, InTime b d ∧ next arg given b d = some e ∧ ¬ KeepsQueue e := by
  obtain ⟨hqueue, j, hj⟩ := hpending
  obtain ⟨queue, hsome⟩ := Option.ne_none_iff_exists'.mp hqueue
  have hstep : step arg (.safetyTimer j) true d.logger.shared (d.logger.pc (.safetyTimer j)) =
      some ({ d.logger.shared with deferredQueue := none }, .safetyTimer .clearStatic) := by
    rw [hj]
    simp [step, safetyTimerStep, hsome]
  have hpool := Pool.next_eq_some.mpr ⟨_, _, hstep, rfl⟩
  refine ⟨.call (.safetyTimer j) true, _, inTime_of_discard hj,
    Option.map_eq_some_iff.mpr ⟨_, hpool, rfl⟩, ?_⟩
  rintro (hflag | hkept)
  · -- it is not recorded as rightly discarded
    have hunclaimed : discardsUnclaimed d.logger (.safetyTimer j) = true := by
      rw [hqueued.notDiscarded hqueue] at hflag
      simpa using hflag
    rw [discardsUnclaimed, hj] at hunclaimed
    simp only [Bool.and_eq_true, beq_iff_eq, Option.isNone_iff_eq_none] at hunclaimed
    exact hannounced.elim (fun h => h hunclaimed.1.2) fun h => h hunclaimed.2
  · -- the entry of the constructor was in the queue
    have horder := hd.coherent.order .file
    have horder' := hkept.order .file
    have hempty : queue = [] := by
      have heq := horder.symm.trans horder'
      simpa [filled, withOptions, hsome, Shared.drained] using heq
    have hcreated := hqueued.created queue hsome
    rw [hempty] at hcreated
    cases hcreated

/-- What was queued is kept while the queue is not discarded. -/
theorem kept_of_sound {c : Config ι} (hc : Sound c) : Kept c where
  order := hc.coherent.order
  present := hc.coherent.present
  once := by
    rintro ⟨⟨p, hwinner, hactivated⟩, hlogs⟩ slot entry hentry
    have hwinnerLoc : Loc (filled c.shared) p (c.pc p) :=
      (hc.loc p).resolve_right fun hawaits => hawaits.notWinner hwinner
    have hdone : HasDrained p (filled c.shared) := hwinnerLoc.1.hasDrained hwinner hactivated
    -- the queue has been taken, so a timer that has found no options does no harm
    have hloc : ∀ q, Loc (filled c.shared) q (c.pc q) := fun q => by
      refine (hc.loc q).elim id fun hawaits => ?_
      obtain ⟨i, rfl⟩ := hawaits.timer
      rw [hawaits.at_discard]
      exact ⟨⟨hawaits.notWinner, hdone.queue⟩, hawaits.own⟩
    have hplaces := count_routed_add (c := { c with shared := filled c.shared }) hc.coherent hloc
      rfl slot entry
    have htotal := count_enqueued_add_direct (c := { c with shared := filled c.shared })
      hc.coherent hloc rfl slot entry
    rw [hdone.inHand, hdone.capturedQueue, hdone.queue] at hplaces
    have hcount : 1 ≤ (filled c.shared).enqueued.count entry := List.count_pos_iff.mpr hentry
    have htook := Bool.toNat_le (TookEffect { c with shared := filled c.shared } slot entry)
    have hrouted : c.shared.entries slot = (filled c.shared).entries slot := rfl
    simp only [Option.toList_none, Option.getD_none, List.count_nil, Nat.add_zero] at hplaces
    rw [hrouted]
    omega

theorem safe_initial : Safe (initial : State ι) := by
  have hinitial : (handoffOutline fun _ : ι => withEndpoint).Holds
      (DeferredLogger.initial (some withEndpoint)) := handoffOutline_initial withEndpoint
  exact ⟨⟨hinitial.global, fun p => .inl (hinitial.loc p)⟩,
    fun h _ => h.elim (fun h => h rfl) fun h => h rfl⟩

theorem discardedUnclaimed_next (hc : c.discardedUnclaimed = true)
    (h : next arg given a c = some d) : d.discardedUnclaimed = true := by
  cases a with
  | call p enabled => rw [(call_of_next h).2.2, hc, Bool.true_or]
  | getOrCreate i => rw [(getOrCreate_of_next h).2.2.1, hc]

/-- A run whose steps are in time is safe while the queue is not rightly discarded. -/
theorem safe_exec {as : List (Action ι)} (hin : Along (next arg given) InTime as c)
    (hc : c.discardedUnclaimed = true ∨ Safe c) (h : exec (next arg given) as c = some d) :
    d.discardedUnclaimed = true ∨ Safe d :=
  exec_induction (I := fun c => c.discardedUnclaimed = true ∨ Safe c)
    (fun _ _ _ hin hc h => hc.elim (fun hc => .inl (discardedUnclaimed_next hc h))
    fun hc => safe_next hin hc h) hin hc h

/-- **What there are options for is not discarded.** Every step of a run comes in time if and only
if the run, stopped anywhere and continued by steps that come in time, keeps what was queued:
unless the queue was discarded before there were a claim or options, every entry is in exactly one
place, and at the end has come past every sub-logger exactly once. -/
theorem keepsQueue_iff (arg : ι → CompositeElasticOpenTelemetryOptions)
    (given : ι → Option CompositeElasticOpenTelemetryOptions) {as : List (Action ι)} {c : State ι}
    (hexec : exec (next arg given) as initial = some c) :
    Along (next arg given) InTime as initial ↔
      ∀ pre d, pre <+: as → exec (next arg given) pre initial = some d →
        ∀ later e, Along (next arg given) InTime later d →
          exec (next arg given) later d = some e → KeepsQueue e := by
  constructor
  · rintro hall pre d ⟨post, rfl⟩ hpre later e hlater hexec'
    obtain ⟨hin, -⟩ := (along_append hpre).mp hall
    exact (safe_exec hlater (safe_exec hin (.inr safe_initial) hpre) hexec').imp_right
      fun hsafe => kept_of_sound hsafe.sound
  · intro hkeeps
    by_contra hviolated
    obtain ⟨pre, a, post, u, v, rfl, hu, hin, ha, hv, -⟩ := exists_violation hexec hviolated
    have hinitial : Queued given (initial : State ι) :=
      ⟨fun queue h => by
        obtain rfl := Option.some.inj h
        exact List.mem_singleton_self _, fun _ => rfl, nofun⟩
    have hqueued : Queued given u :=
      exec_invariant (fun _ _ _ h hnext => queued_next h hnext) hinitial hu
    have hrun : exec (next arg given) (pre ++ [a]) initial = some v :=
      exec_append_eq_some.mpr ⟨u, hu, (exec_cons_eq_some _).mpr ⟨v, hv, rfl⟩⟩
    rcases safe_exec hin (.inr safe_initial) hu with hdiscarded | hsafe
    · -- the queue is gone, so that every step is in time
      refine ha ?_
      have hgone : u.logger.shared.deferredQueue = none := by
        by_contra hqueue
        rw [hqueued.notDiscarded hqueue] at hdiscarded
        cases hdiscarded
      cases a with
      | call p enabled => exact ⟨fun _ h => h.1 hgone, fun _ _ h => absurd hgone h⟩
      | getOrCreate i => exact fun _ h => h.1 hgone
    · obtain ⟨hsound, hannounced, hpending⟩ := pending_of_violation ha hsafe.sound hqueued hv
      obtain ⟨b, e, hb, he, hlost⟩ :=
        loses_of_pending hsound (queued_next hqueued hv) hannounced hpending
      exact hlost (hkeeps (pre ++ [a]) v ⟨post, by simp⟩ hrun [b] e
        ((along_cons he).mpr ⟨hb, trivial⟩) ((exec_cons_eq_some _).mpr ⟨e, he, rfl⟩))

end Runs

/-! ### Two runs -/

/-- An entry is queued, a call of `GetOrCreate` stores options, and the timer activates the
logger. -/
def storedInTime : List (Action Unit) :=
  List.replicate 3 (.call (.log ()) true) ++ List.replicate 5 (.getOrCreate ()) ++
    List.replicate 37 (.call (.safetyTimer ()) true)

/-- The options come before the timer, and the entry comes past every sub-logger. -/
theorem keepsQueue_storedInTime :
    ∃ c : State Unit,
      exec (next (fun _ => withEndpoint) fun _ => some withEndpoint) storedInTime initial =
        some c ∧
      c.discardedUnclaimed = false ∧ KeepsQueue c ∧
      ∀ slot, (c.logger.shared.entries slot).count (.of (.log ())) = 1 := by
  have hrun : (exec (next (fun _ => withEndpoint) fun _ => some withEndpoint) storedInTime
      (initial : State Unit)).isSome = true := rfl
  have hexec := (Option.some_get hrun).symm
  have hin : Along (next (fun _ => withEndpoint) fun _ => some withEndpoint) InTime storedInTime
      (initial : State Unit) := by
    iterate 3
      refine ⟨⟨?_, nofun⟩, fun t ht => ?_⟩
      · rintro - ⟨-, i, hi⟩
        cases hi
      obtain rfl := Option.some.inj ht
    iterate 5
      refine ⟨fun _ hpending => ?_, fun t ht => ?_⟩
      · obtain ⟨-, i, hi⟩ := hpending
        cases hi
      obtain rfl := Option.some.inj ht
    iterate 37
      refine ⟨⟨?_, nofun⟩, fun t ht => ?_⟩
      · rintro - ⟨-, i, hi⟩
        cases i
        cases hi
      obtain rfl := Option.some.inj ht
    trivial
  refine ⟨_, hexec, rfl,
    (keepsQueue_iff _ _ hexec).mp hin storedInTime _ ⟨[], rfl⟩ hexec [] _ trivial rfl,
    fun slot => ?_⟩
  cases slot <;> rfl

/-- An entry is queued, and the timer finds no options; then `Activate` claims the activation. -/
def claimingLate : List (Action Unit) :=
  List.replicate 3 (.call (.log ()) true) ++ List.replicate 2 (.call (.safetyTimer ()) true) ++
    [.call (.activate ()) true]

/-- The timer comes to the lock first and discards the queue; `Activate` finds none, and the entry
never comes to a sub-logger. -/
theorem claimed_discarded :
    ∃ u v e : State Unit,
      exec (next (fun _ => withEndpoint) fun _ => none) claimingLate initial = some u ∧
      u.logger.shared.activationState = 1 ∧ u.logger.shared.winner = some (.activate ()) ∧
      u.logger.shared.deferredQueue = some [.created, .of (.log ())] ∧
      next (fun _ => withEndpoint) (fun _ => none) (.call (.safetyTimer ()) true) u = some v ∧
      v.logger.shared.deferredQueue = none ∧
      exec (next (fun _ => withEndpoint) fun _ => none)
        (List.replicate 14 (.call (.activate ()) true)) v = some e ∧
      Finished e.logger ∧ ∀ slot, (e.logger.shared.entries slot).count (.of (.log ())) = 0 := by
  have hrun : (exec (next (fun _ => withEndpoint) fun _ => none) claimingLate
      (initial : State Unit)).isSome = true := rfl
  have hdiscard : (next (fun _ => withEndpoint) (fun _ => none) (.call (.safetyTimer ()) true)
      (Option.get _ hrun)).isSome = true := rfl
  have hactivate : (exec (next (fun _ => withEndpoint) fun _ => none)
      (List.replicate 14 (.call (.activate ()) true)) (Option.get _ hdiscard)).isSome = true := rfl
  refine ⟨_, _, _, (Option.some_get hrun).symm, rfl, rfl, rfl, (Option.some_get hdiscard).symm, rfl,
    (Option.some_get hactivate).symm, ⟨⟨.activate (), rfl, trivial⟩, fun _ => .inr rfl⟩, ?_⟩
  intro slot
  cases slot <;> rfl

end ElasticOpenTelemetry.SafetyTimerDiscard
