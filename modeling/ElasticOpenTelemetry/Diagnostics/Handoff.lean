import ElasticOpenTelemetry.Diagnostics.DeferredLogger

/-!
# The handoff from deferred to active mode

Any number of calls of `Log`, of `Activate` and of `OnSafetyTimerElapsed` on one `CompositeLogger`
that was created in deferred mode with options. `handoff_exactlyOnce` states that no entry is lost
or duplicated on the way from the queue to the sub-loggers.

The invariant is `Coherent`, about the fields of the logger, with `Fine`, about each process.
The call whose `CompareExchange` succeeds is the only one that takes the queue and drains it; so
the queue is null exactly when the sub-loggers are there, and the entries that were ever enqueued
are, in order, those that a sub-logger has got from the drain, the one in the hand of `Activate`,
the rest of the captured queue and the queue itself (`Coherent.order`).
-/

namespace ElasticOpenTelemetry.DeferredLogger

open Execution

variable {ι : Type} [DecidableEq ι]

/-! ### The invariant -/

section Invariant

/-- The sub-loggers were created, all from the same options. -/
def Assigned (s : Shared ι) : Prop :=
  ∃ options, s.fileLogger = some options ∧ s.consoleLogger = some options ∧
    s.additionalLogger = options.additionalLogger

/-- What holds of the fields of the logger. -/
structure Coherent (s : Shared ι) : Prop where
  notDisposed : s.isDisposed = false
  order : ∀ slot, s.enqueued = s.drained slot ++ (s.inHand slot).toList ++ s.capturedQueue ++
    s.deferredQueue.getD []
  waiting : s.deferredQueue ≠ none → s.capturedQueue = [] ∧ ∀ slot, s.inHand slot = none
  assigned : s.deferredQueue = none → Assigned s
  hasOptions : s.deferredQueue ≠ none → s.options ≠ none
  creations : s.creations = if s.deferredQueue.isSome then 0 else 1
  unclaimed : s.activationState = 0 → s.winner = none
  pending : s.winner = none → s.deferredQueue ≠ none
  present : ∀ slot, slot ≠ .additional → ∀ r ∈ s.routed slot, r.verdict ≠ .absent
  created : s.enqueued.count .created = 1
  notDirect : ∀ slot, (s.direct slot).count .created = 0

/-- How often what the process itself logs was enqueued or routed directly to a sub-logger. -/
def own (p : Process ι) (s : Shared ι) (slot : Slot) : ℕ :=
  s.enqueued.count (.of p) + (s.direct slot).count (.of p)

/-- What a call of `Log` relies on. -/
structure LogFine (s : Shared ι) (pc : LogPc) : Prop where
  active : pc.OnActivePath → s.deferredQueue = none
  used : ∀ slot, pc = .isEnabled slot ∨ pc = .log slot → s.isAssigned slot = true
  notThrown : pc ≠ .threw

/-- The process has claimed the activation and taken the queue, and has no entry in its hand. -/
structure HasQueue (p : Process ι) (s : Shared ι) : Prop where
  winner : s.winner = some p
  queue : s.deferredQueue = none
  inHand : ∀ slot, s.inHand slot = none

/-- The process has drained the queue. -/
structure HasDrained (p : Process ι) (s : Shared ι) : Prop extends HasQueue p s where
  capturedQueue : s.capturedQueue = []

/-- The process is in the `Log` of an entry from the queue. -/
structure IsDraining (p : Process ι) (s : Shared ι) (entry : Entry ι) (pc : LogPc) : Prop where
  winner : s.winner = some p
  queue : s.deferredQueue = none
  inHand : ∀ slot, s.inHand slot = if pc.took slot then none else some entry
  logFine : LogFine s pc
  notReturned : pc ≠ .returned

/-- What a call of `Activate` relies on. -/
def ActivateFine (p : Process ι) (s : Shared ι) : ActivatePc ι → Prop
  | .compareExchange | .clearStaticAndReturn => s.winner ≠ some p
  | .assign => s.winner = some p ∧ s.deferredQueue ≠ none
  | .clearStatic | .dequeue => HasQueue p s
  | .drain entry pc => IsDraining p s entry pc
  | .reportIsEnabled | .disposeTimer _ => HasDrained p s
  | .report pc => HasDrained p s ∧ LogFine s pc
  | .returned _ => s.winner = some p → HasDrained p s

/-- What a call of `OnSafetyTimerElapsed` relies on; it never discards the queue. -/
def SafetyTimerFine (p : Process ι) (s : Shared ι) : SafetyTimerPc ι → Prop
  | .readIsDisposed | .readOptions | .returned => s.winner ≠ some p
  | .activate _ pc => ActivateFine p s pc
  | .discard => s.winner ≠ some p ∧ s.deferredQueue = none
  | .clearStatic | .disposeTimer => False

/-- What a process relies on. -/
def Fine (s : Shared ι) (p : Process ι) (pc : Pc ι) : Prop :=
  match p, pc with
  | .log _, .log pc => LogFine s pc
  | .activate _, .activate pc => ActivateFine p s pc
  | .safetyTimer _, .safetyTimer pc => SafetyTimerFine p s pc
  | _, _ => False

/-- What a step of the process `p` may do to the fields. -/
structure Guarantee (p : Process ι) (s t : Shared ι) : Prop where
  winner : t.winner = s.winner ∨ s.winner = none ∧ t.winner = some p
  queue : s.deferredQueue = none → t.deferredQueue = none
  keepsQueue : s.winner ≠ some p → t.deferredQueue = none → s.deferredQueue = none
  keepsLoggers : s.deferredQueue = none → ∀ slot, t.isAssigned slot = s.isAssigned slot
  keepsCaptured : s.winner ≠ some p → t.capturedQueue = s.capturedQueue ∧ t.inHand = s.inHand
  keepsOwn : ∀ q, q ≠ p → ∀ slot, own q t slot = own q s slot

end Invariant

/-! ### Nothing interferes -/

section Interference

variable {p q : Process ι} {s t : Shared ι}

theorem Guarantee.logFine {pc : LogPc} (h : Guarantee p s t) (hfine : LogFine s pc) :
    LogFine t pc where
  active := fun hpc => h.queue (hfine.active hpc)
  used := fun slot hpc => by
    have hactive : pc.OnActivePath := by rcases hpc with rfl | rfl <;> trivial
    rw [h.keepsLoggers (hfine.active hactive)]
    exact hfine.used slot hpc
  notThrown := hfine.notThrown

theorem Guarantee.winner_ne (h : Guarantee p s t) (hne : q ≠ p) (hq : s.winner ≠ some q) :
    t.winner ≠ some q := by
  rcases h.winner with hsame | ⟨-, hp⟩
  · rwa [hsame]
  · rw [hp]
    exact fun heq => hne (Option.some.inj heq).symm

/-- A call that does not draw on the activation leaves the winner's fields alone. -/
theorem Guarantee.keepsWinner (h : Guarantee p s t) (hne : q ≠ p) (hq : s.winner = some q) :
    t.winner = some q ∧ t.capturedQueue = s.capturedQueue ∧ t.inHand = s.inHand := by
  have hp : s.winner ≠ some p := by
    rw [hq]
    exact fun heq => hne (Option.some.inj heq)
  refine ⟨?_, h.keepsCaptured hp⟩
  rcases h.winner with hsame | ⟨hnone, -⟩
  · exact hsame.trans hq
  · rw [hq] at hnone
    cases hnone

theorem Guarantee.hasQueue (h : Guarantee p s t) (hne : q ≠ p) (hq : HasQueue q s) :
    HasQueue q t := by
  obtain ⟨hwinner, -, hinHand⟩ := h.keepsWinner hne hq.winner
  exact ⟨hwinner, h.queue hq.queue, fun slot => by rw [hinHand, hq.inHand]⟩

theorem Guarantee.hasDrained (h : Guarantee p s t) (hne : q ≠ p) (hq : HasDrained q s) :
    HasDrained q t := by
  obtain ⟨-, hcaptured, -⟩ := h.keepsWinner hne hq.winner
  exact ⟨h.hasQueue hne hq.toHasQueue, hcaptured.trans hq.capturedQueue⟩

theorem Guarantee.activateFine {pc : ActivatePc ι} (h : Guarantee p s t) (hne : q ≠ p)
    (hfine : ActivateFine q s pc) : ActivateFine q t pc := by
  cases pc with
  | compareExchange => exact h.winner_ne hne hfine
  | clearStaticAndReturn => exact h.winner_ne hne hfine
  | assign =>
    obtain ⟨hwinner, hqueue⟩ := hfine
    have hp : s.winner ≠ some p := by
      rw [hwinner]
      exact fun heq => hne (Option.some.inj heq)
    exact ⟨(h.keepsWinner hne hwinner).1, fun hnone => hqueue (h.keepsQueue hp hnone)⟩
  | clearStatic => exact h.hasQueue hne hfine
  | dequeue => exact h.hasQueue hne hfine
  | drain entry pc =>
    obtain ⟨hwinner, -, hinHand⟩ := h.keepsWinner hne hfine.winner
    exact ⟨hwinner, h.queue hfine.queue, fun slot => by rw [hinHand, hfine.inHand],
      h.logFine hfine.logFine, hfine.notReturned⟩
  | reportIsEnabled => exact h.hasDrained hne hfine
  | report pc => exact ⟨h.hasDrained hne hfine.1, h.logFine hfine.2⟩
  | disposeTimer reported => exact h.hasDrained hne hfine
  | returned reported =>
    intro hwinner
    refine h.hasDrained hne (hfine ?_)
    by_contra hq
    exact h.winner_ne hne hq hwinner

theorem Guarantee.fine {pc : Pc ι} (h : Guarantee p s t) (hne : q ≠ p) (hfine : Fine s q pc) :
    Fine t q pc := by
  cases q <;> cases pc
  case log.log i pc => exact h.logFine hfine
  case activate.activate i pc => exact h.activateFine hne hfine
  case safetyTimer.safetyTimer i pc =>
    cases pc with
    | readIsDisposed => exact h.winner_ne hne hfine
    | readOptions => exact h.winner_ne hne hfine
    | activate options pc => exact h.activateFine hne hfine
    | discard => exact ⟨h.winner_ne hne hfine.1, h.queue hfine.2⟩
    | clearStatic => exact hfine
    | disposeTimer => exact hfine
    | returned => exact h.winner_ne hne hfine
  all_goals exact hfine

end Interference

/-! ### The steps of `Log` -/

section Log

variable {p : Process ι} {s t : Shared ι} {entry : Entry ι} {enabled : Bool} {pc pc' : LogPc}

/-- An entry other than the first is enqueued. -/
theorem Coherent.enqueue (hs : Coherent s) {queue : List (Entry ι)}
    (hqueue : s.deferredQueue = some queue) (hentry : entry ≠ .created) :
    Coherent (s.enqueue queue entry) where
  notDisposed := hs.notDisposed
  order := fun slot => by
    have horder := hs.order slot
    rw [hqueue] at horder
    simp only [Shared.enqueue, Option.getD_some] at horder ⊢
    rw [horder, ← List.append_assoc]
    rfl
  waiting := fun _ => hs.waiting (by simp [hqueue])
  assigned := nofun
  hasOptions := fun _ => hs.hasOptions (by simp [hqueue])
  creations := by
    have hcreations := hs.creations
    rw [hqueue] at hcreations
    exact hcreations
  unclaimed := hs.unclaimed
  pending := fun _ => nofun
  present := hs.present
  created := by
    have hcreated := hs.created
    simp only [Shared.enqueue, List.count_append, hcreated, List.count_singleton,
      beq_iff_eq, if_neg hentry]
  notDirect := hs.notDirect

/-- An entry comes past a sub-logger. The queue has been taken, so the file logger and the
console logger are there. -/
theorem Coherent.record (hs : Coherent s) (hqueue : s.deferredQueue = none) {slot : Slot}
    {r : Routing ι} (habsent : r.verdict = .absent → s.isAssigned slot = false)
    (hentry : r.route = .direct → r.entry ≠ .created)
    (hdrained : r.route = .drained → s.inHand slot = some r.entry) :
    Coherent (s.record slot r) where
  notDisposed := hs.notDisposed
  order := fun slot' => by
    have horder := hs.order slot'
    rw [Shared.drained_record, Shared.inHand_record]
    by_cases hroute : slot' = slot ∧ r.route = .drained
    · obtain ⟨rfl, hroute⟩ := hroute
      rw [hdrained hroute] at horder
      simpa [hroute, Shared.record] using horder
    · rw [if_neg hroute, if_neg hroute]
      exact horder
  waiting := fun h => absurd hqueue h
  assigned := fun _ => hs.assigned hqueue
  hasOptions := hs.hasOptions
  creations := hs.creations
  unclaimed := hs.unclaimed
  pending := hs.pending
  present := fun slot' hslot' r' hr' => by
    by_cases hslot : slot' = slot
    · subst hslot
      simp only [Shared.record, Function.update_self, List.mem_append, List.mem_singleton] at hr'
      rcases hr' with hr' | rfl
      · exact hs.present slot' hslot' r' hr'
      · intro hverdict
        obtain ⟨options, hfile, hconsole, -⟩ := hs.assigned hqueue
        have hnull := habsent hverdict
        cases slot' <;> simp [Shared.isAssigned, hfile, hconsole] at hnull hslot'
    · simp only [Shared.record, Function.update_of_ne hslot] at hr'
      exact hs.present slot' hslot' r' hr'
  created := hs.created
  notDirect := fun slot' => by
    have hnot := hs.notDirect slot'
    rw [Shared.direct_record]
    split_ifs with hroute
    · simp [hnot, hentry hroute.2]
    · exact hnot

omit [DecidableEq ι] in
/-- `Log` keeps what it relies on: it comes to the sub-loggers when the queue has been taken, and
uses one that it has found. -/
theorem LogFine.move {route : Route} (hfine : LogFine s pc)
    (hmove : LogMove entry route s pc t pc') : LogFine t pc' := by
  cases hmove with
  | notDisposed => exact ⟨False.elim, by simp, nofun⟩
  | slowPath => exact ⟨False.elim, by simp, nofun⟩
  | activePath _ hactive => exact ⟨fun _ => hactive, by simp, nofun⟩
  | enqueued queue _ => exact ⟨False.elim, by simp, nofun⟩
  | found slot hat hassigned hstays =>
    have hqueue : s.deferredQueue = none := hfine.active (LogPc.onActivePath_of_at hat)
    refine ⟨fun _ => hqueue, fun slot' hused => ?_, ?_⟩
    · have hslot : slot' = slot := by
        rcases hstays with rfl | rfl <;> simpa [eq_comm] using hused
      rw [hslot]
      exact hassigned
    · rcases hstays with rfl | rfl <;> nofun
  | past slot verdict hat _ =>
    have hqueue : s.deferredQueue = none := hfine.active (LogPc.onActivePath_of_at hat)
    refine ⟨fun _ => hqueue, fun slot' hused => ?_, ?_⟩
    · cases slot <;> simp [LogPc.after, Slot.next] at hused
    · cases slot <;> nofun
  | missing slot hused habsent =>
    have hassigned := hfine.used slot hused
    rw [habsent] at hassigned
    cases hassigned

theorem own_enqueue (q : Process ι) (queue : List (Entry ι)) (slot : Slot) :
    own q (s.enqueue queue entry) slot = own q s slot + if entry = .of q then 1 else 0 := by
  have hdirect : (s.enqueue queue entry).direct slot = s.direct slot := rfl
  have henqueued : (s.enqueue queue entry).enqueued = s.enqueued ++ [entry] := rfl
  rw [own, own, hdirect, henqueued, List.count_append, List.count_singleton]
  simp only [beq_iff_eq]
  omega

theorem own_record (q : Process ι) (slot : Slot) (r : Routing ι) (slot' : Slot) :
    own q (s.record slot r) slot' =
      own q s slot' + if slot' = slot ∧ r.route = .direct ∧ r.entry = .of q then 1 else 0 := by
  have henqueued : (s.record slot r).enqueued = s.enqueued := rfl
  rw [own, own, henqueued, Shared.direct_record]
  by_cases hroute : slot' = slot ∧ r.route = .direct
  · simp only [hroute, and_self, if_true, true_and, List.count_append, List.count_singleton,
      beq_iff_eq]
    omega
  · rw [if_neg hroute, if_neg fun h => hroute ⟨h.1, h.2.1⟩]
    rfl

theorem Guarantee.refl (p : Process ι) (s : Shared ι) : Guarantee p s s where
  winner := .inl rfl
  queue := id
  keepsQueue := fun _ => id
  keepsLoggers := fun _ _ => rfl
  keepsCaptured := fun _ => ⟨rfl, rfl⟩
  keepsOwn := fun _ _ _ => rfl

theorem Guarantee.enqueue {queue : List (Entry ι)} (hqueue : s.deferredQueue = some queue) :
    Guarantee p s (s.enqueue queue (.of p)) where
  winner := .inl rfl
  queue := fun hnone => by
    rw [hqueue] at hnone
    cases hnone
  keepsQueue := fun _ => nofun
  keepsLoggers := fun _ slot => by cases slot <;> rfl
  keepsCaptured := fun _ => ⟨rfl, rfl⟩
  keepsOwn := fun q hq slot => by
    rw [own_enqueue, if_neg fun h => hq (Entry.of.inj h).symm]
    rfl

theorem Guarantee.record {slot : Slot} {r : Routing ι}
    (hdirect : r.route = .direct → r.entry = .of p)
    (hdrained : r.route = .drained → s.winner = some p) : Guarantee p s (s.record slot r) where
  winner := .inl rfl
  queue := id
  keepsQueue := fun _ => id
  keepsLoggers := fun _ slot' => by cases slot' <;> rfl
  keepsCaptured := fun hp => by
    refine ⟨rfl, ?_⟩
    have hroute : r.route ≠ .drained := fun hroute => hp (hdrained hroute)
    simp only [Shared.record, if_neg hroute]
  keepsOwn := fun q hq slot' => by
    rw [own_record, if_neg]
    · rfl
    · rintro ⟨-, hroute, hentry⟩
      rw [hdirect hroute] at hentry
      exact hq (Entry.of.inj hentry).symm

/-- A call that routes its own entry. -/
theorem logMove_direct (hs : Coherent s) (hfine : LogFine s pc)
    (hown : ∀ slot, own p s slot = (pc.took slot).toNat)
    (hmove : LogMove (.of p) .direct s pc t pc') :
    Coherent t ∧ (∀ slot, own p t slot = (pc'.took slot).toNat) ∧ Guarantee p s t ∧
      t.winner = s.winner ∧ t.capturedQueue = s.capturedQueue ∧ t.inHand = s.inHand := by
  cases hmove with
  | notDisposed => exact ⟨hs, hown, .refl p s, rfl, rfl, rfl⟩
  | slowPath => exact ⟨hs, hown, .refl p s, rfl, rfl, rfl⟩
  | activePath hread _ =>
    refine ⟨hs, fun slot => ?_, .refl p s, rfl, rfl, rfl⟩
    rw [hown]
    rcases hread with rfl | rfl <;> cases slot <;> rfl
  | enqueued queue hqueue =>
    refine ⟨hs.enqueue hqueue nofun, fun slot => ?_, .enqueue hqueue, rfl, rfl, rfl⟩
    rw [own_enqueue, hown, if_pos rfl]
    rfl
  | found slot hat _ hstays =>
    refine ⟨hs, fun slot' => ?_, .refl p s, rfl, rfl, rfl⟩
    rw [hown]
    rcases hat with rfl | rfl | rfl <;> rcases hstays with rfl | rfl <;> rfl
  | past slot verdict hat habsent =>
    have hqueue := hfine.active (LogPc.onActivePath_of_at hat)
    have hinHand : (s.record slot ⟨.of p, .direct, verdict⟩).inHand = s.inHand := rfl
    refine ⟨hs.record hqueue habsent nofun nofun, fun slot' => ?_, .record (fun _ => rfl) nofun,
      rfl, rfl, hinHand⟩
    rw [own_record, hown, LogPc.took_after hat]
    by_cases hslot : slot' = slot
    · subst hslot
      simp [LogPc.took_of_at hat]
    · simp [hslot]
  | missing slot hused habsent =>
    rw [hfine.used slot hused] at habsent
    cases habsent

/-- `Activate` routes an entry from the queue. -/
theorem logMove_drained (hs : Coherent s) (hdraining : IsDraining p s entry pc)
    (hmove : LogMove entry .drained s pc t pc') :
    Coherent t ∧ (∀ slot, own p t slot = own p s slot) ∧ Guarantee p s t ∧
      t.winner = s.winner ∧ ∀ slot, t.inHand slot = if pc'.took slot then none else some entry := by
  have hinHand := hdraining.inHand
  cases hmove with
  | notDisposed => exact ⟨hs, fun _ => rfl, .refl p s, rfl, hinHand⟩
  | slowPath => exact ⟨hs, fun _ => rfl, .refl p s, rfl, hinHand⟩
  | activePath hread _ =>
    refine ⟨hs, fun _ => rfl, .refl p s, rfl, fun slot => ?_⟩
    rw [hinHand]
    rcases hread with rfl | rfl <;> cases slot <;> rfl
  | enqueued queue hqueue =>
    rw [hdraining.queue] at hqueue
    cases hqueue
  | found slot hat _ hstays =>
    refine ⟨hs, fun _ => rfl, .refl p s, rfl, fun slot' => ?_⟩
    rw [hinHand]
    rcases hat with rfl | rfl | rfl <;> rcases hstays with rfl | rfl <;> rfl
  | past slot verdict hat habsent =>
    have hentry : s.inHand slot = some entry := by
      rw [hinHand, LogPc.took_of_at hat]
      rfl
    refine ⟨hs.record hdraining.queue habsent nofun fun _ => hentry, fun slot' => ?_,
      .record nofun fun _ => hdraining.winner, rfl, fun slot' => ?_⟩
    · rw [own_record, if_neg (by simp)]
      rfl
    · rw [Shared.inHand_record, LogPc.took_after hat, hinHand]
      by_cases hslot : slot' = slot <;> simp [hslot]
  | missing slot hused habsent =>
    rw [hdraining.logFine.used slot hused] at habsent
    cases habsent

end Log

/-! ### The steps of `Activate` and of the timer -/

section Activate

variable {p : Process ι} {s t : Shared ι} {enabled : Bool}
  {options : CompositeElasticOpenTelemetryOptions}

/-- The region of `Activate` under `_activationLock`. -/
theorem Coherent.assign (hs : Coherent s) (hqueue : s.deferredQueue ≠ none)
    (hwinner : s.winner ≠ none) : Coherent (s.assign options) where
  notDisposed := hs.notDisposed
  order := fun slot => by
    have horder := hs.order slot
    rw [(hs.waiting hqueue).1] at horder
    simpa [Shared.assign, Shared.drained] using horder
  waiting := fun h => absurd rfl h
  assigned := fun _ => ⟨options, rfl, rfl, rfl⟩
  hasOptions := fun h => absurd rfl h
  creations := by
    have hcreations := hs.creations
    rw [if_pos (Option.isSome_iff_ne_none.mpr hqueue)] at hcreations
    simp [Shared.assign, hcreations]
  unclaimed := hs.unclaimed
  pending := fun h => absurd h hwinner
  present := hs.present
  created := hs.created
  notDirect := hs.notDirect

/-- `Activate` takes an entry from the queue into its hand. -/
theorem Coherent.dequeue (hs : Coherent s) (hp : HasQueue p s) {entry : Entry ι}
    {capturedQueue : List (Entry ι)} (hcaptured : s.capturedQueue = entry :: capturedQueue) :
    Coherent { s with capturedQueue := capturedQueue, inHand := fun _ => some entry } :=
  { hs with
    order := fun slot => by
      have horder := hs.order slot
      rw [hcaptured, hp.inHand] at horder
      simpa [Shared.drained] using horder
    waiting := fun h => absurd hp.queue h }

/-- The two steps that touch neither the queue nor the sub-loggers. -/
theorem Guarantee.clearStatic : Guarantee p s { s with isPreActivationInstance := false } :=
  { Guarantee.refl p s with keepsLoggers := fun _ slot => by cases slot <;> rfl }

theorem Guarantee.disposeTimer : Guarantee p s { s with safetyTimer := false } :=
  { Guarantee.refl p s with keepsLoggers := fun _ slot => by cases slot <;> rfl }

/-- A successful `CompareExchange`. -/
theorem Guarantee.claim (hnone : s.winner = none) :
    Guarantee p s { s with activationState := 1, winner := some p } :=
  { Guarantee.refl p s with
    winner := .inr ⟨hnone, rfl⟩
    keepsLoggers := fun _ slot => by cases slot <;> rfl }

theorem Guarantee.assign (hwinner : s.winner = some p) (hqueue : s.deferredQueue ≠ none) :
    Guarantee p s (s.assign options) where
  winner := .inl rfl
  queue := fun _ => rfl
  keepsQueue := fun hp => absurd hwinner hp
  keepsLoggers := fun hnone => absurd hnone hqueue
  keepsCaptured := fun hp => absurd hwinner hp
  keepsOwn := fun _ _ _ => rfl

theorem Guarantee.dequeue (hwinner : s.winner = some p) (entry : Entry ι)
    (capturedQueue : List (Entry ι)) :
    Guarantee p s { s with capturedQueue := capturedQueue, inHand := fun _ => some entry } :=
  { Guarantee.refl p s with
    keepsLoggers := fun _ slot => by cases slot <;> rfl
    keepsCaptured := fun hp => absurd hwinner hp }

/-- A step of `Activate` in the `Log` of an entry from the queue. -/
theorem drain_fine {entry : Entry ι} {pc q : LogPc} (hs : Coherent s)
    (hdraining : IsDraining p s entry pc) (hown : ∀ slot, own p s slot = 0)
    (h : logStep entry .drained enabled s pc = some (t, q)) :
    Coherent t ∧ ActivateFine p t (.ofDrain entry q) ∧ (∀ slot, own p t slot = 0) ∧
      Guarantee p s t := by
  have hmove := logMove_of_logStep hs.notDisposed h
  obtain ⟨ht, hown', hguarantee, hwinner, hinHand⟩ := logMove_drained hs hdraining hmove
  have hfine' := hdraining.logFine.move hmove
  have hqueue := hguarantee.queue hdraining.queue
  refine ⟨ht, ?_, fun slot => by rw [hown', hown], hguarantee⟩
  by_cases hq : q = .returned
  · -- the entry has come past every sub-logger
    subst hq
    exact ⟨hwinner.trans hdraining.winner, hqueue, fun slot => (hinHand slot).trans (if_pos rfl)⟩
  · rw [ActivatePc.ofDrain_eq hq]
    exact ⟨hwinner.trans hdraining.winner, hqueue, hinHand, hfine', hq⟩

/-- A step of `Activate` in the `Log` of its report. -/
theorem report_fine {pc q : LogPc} (hs : Coherent s) (hdrained : HasDrained p s)
    (hlogFine : LogFine s pc) (hown : ∀ slot, own p s slot = (pc.took slot).toNat)
    (h : logStep (.of p) .direct enabled s pc = some (t, q)) :
    Coherent t ∧ ActivateFine p t (.ofReport q) ∧
      (∀ slot, own p t slot = (q.took slot).toNat) ∧ Guarantee p s t := by
  have hmove := logMove_of_logStep hs.notDisposed h
  obtain ⟨ht, hown', hguarantee, hwinner, hcaptured, hinHand⟩ :=
    logMove_direct hs hlogFine hown hmove
  have hdrained' : HasDrained p t :=
    ⟨⟨hwinner.trans hdrained.winner, hguarantee.queue hdrained.queue,
      fun slot => by rw [hinHand, hdrained.inHand]⟩, hcaptured.trans hdrained.capturedQueue⟩
  refine ⟨ht, ?_, hown', hguarantee⟩
  by_cases hq : q = .returned
  · subst hq
    exact hdrained'
  · rw [ActivatePc.ofReport_eq hq]
    exact ⟨hdrained', hlogFine.move hmove⟩

theorem activateStep_fine {pc pc' : ActivatePc ι} (hs : Coherent s)
    (hfine : ActivateFine p s pc) (hown : ∀ slot, own p s slot = (pc.took slot).toNat)
    (h : activateStep p options enabled s pc = some (t, pc')) :
    Coherent t ∧ ActivateFine p t pc' ∧ (∀ slot, own p t slot = (pc'.took slot).toNat) ∧
      Guarantee p s t := by
  cases pc <;> simp only [activateStep] at h
  case compareExchange =>
    split_ifs at h with hstate <;> cases h
    · -- nobody has claimed the activation, so the queue is still there
      have hnone := hs.unclaimed hstate
      have hqueue := hs.pending hnone
      exact ⟨{ hs with unclaimed := nofun, pending := nofun }, ⟨rfl, hqueue⟩, hown, .claim hnone⟩
    · exact ⟨hs, hfine, hown, .refl p s⟩
  case clearStaticAndReturn =>
    cases h
    exact ⟨{ hs with }, fun hwinner => absurd hwinner hfine, hown, .clearStatic⟩
  case assign =>
    cases h
    obtain ⟨hwinner, hqueue⟩ := hfine
    have hne : s.winner ≠ none := by simp [hwinner]
    have hinHand := (hs.waiting hqueue).2
    exact ⟨hs.assign hqueue hne, ⟨hwinner, rfl, hinHand⟩, hown, .assign hwinner hqueue⟩
  case clearStatic =>
    cases h
    exact ⟨{ hs with }, ⟨hfine.winner, hfine.queue, hfine.inHand⟩, hown, .clearStatic⟩
  case dequeue =>
    split at h <;> cases h
    · rename_i entry capturedQueue hcaptured
      exact ⟨hs.dequeue hfine hcaptured, ⟨hfine.winner, hfine.queue, fun _ => rfl,
        ⟨False.elim, by simp, nofun⟩, nofun⟩, hown, .dequeue hfine.winner _ _⟩
    · rename_i hcaptured
      exact ⟨hs, ⟨hfine, hcaptured⟩, hown, .refl p s⟩
  case drain entry pc =>
    obtain ⟨⟨u, q⟩, hlog, hr⟩ := Option.map_eq_some_iff.mp h
    cases hr
    obtain ⟨ht, hfine', hown', hguarantee⟩ := drain_fine hs hfine hown hlog
    refine ⟨ht, hfine', fun slot => ?_, hguarantee⟩
    rw [hown', ActivatePc.took_ofDrain]
    rfl
  case reportIsEnabled =>
    split_ifs at h <;> cases h
    · exact ⟨hs, ⟨hfine, ⟨False.elim, by simp, nofun⟩⟩, hown, .refl p s⟩
    · exact ⟨hs, hfine, hown, .refl p s⟩
  case report pc =>
    obtain ⟨⟨u, q⟩, hlog, hr⟩ := Option.map_eq_some_iff.mp h
    cases hr
    obtain ⟨ht, hfine', hown', hguarantee⟩ := report_fine hs hfine.1 hfine.2 hown hlog
    refine ⟨ht, hfine', fun slot => ?_, hguarantee⟩
    rw [hown', ActivatePc.took_ofReport]
  case disposeTimer reported =>
    cases h
    exact ⟨{ hs with }, fun _ => ⟨⟨hfine.winner, hfine.queue, hfine.inHand⟩,
      hfine.capturedQueue⟩, hown, .disposeTimer⟩
  case returned reported => cases h

theorem safetyTimerStep_fine {pc pc' : SafetyTimerPc ι} (hs : Coherent s)
    (hfine : SafetyTimerFine p s pc)
    (hown : ∀ slot, own p s slot = ((Pc.safetyTimer pc).took slot).toNat)
    (h : safetyTimerStep p enabled s pc = some (t, pc')) :
    Coherent t ∧ SafetyTimerFine p t pc' ∧
      (∀ slot, own p t slot = ((Pc.safetyTimer pc').took slot).toNat) ∧ Guarantee p s t := by
  cases pc <;> simp only [safetyTimerStep, hs.notDisposed, Bool.false_eq_true, if_false] at h
  case readIsDisposed =>
    cases h
    exact ⟨hs, hfine, hown, .refl p s⟩
  case readOptions =>
    split at h <;> cases h
    · exact ⟨hs, hfine, hown, .refl p s⟩
    · -- the options are null only after the queue has been taken
      rename_i hoptions
      have hqueue : s.deferredQueue = none := by
        by_contra hqueue
        exact hs.hasOptions hqueue hoptions
      exact ⟨hs, ⟨hfine, hqueue⟩, hown, .refl p s⟩
  case activate options pc =>
    obtain ⟨⟨u, q⟩, hactivate, hr⟩ := Option.map_eq_some_iff.mp h
    cases hr
    exact activateStep_fine hs hfine hown hactivate
  case discard =>
    obtain ⟨hwinner, hqueue⟩ := hfine
    rw [hqueue] at h
    cases h
    exact ⟨hs, hwinner, hown, .refl p s⟩
  case clearStatic => exact hfine.elim
  case disposeTimer => exact hfine.elim
  case returned => cases h

end Activate

/-! ### The outline -/

section Outline

variable {arg : ι → CompositeElasticOpenTelemetryOptions} {p : Process ι} {enabled : Bool}
  {s t : Shared ι} {pc pc' : Pc ι}

/-- What a process relies on, and how often what it logs itself has taken effect. -/
def Loc (s : Shared ι) (p : Process ι) (pc : Pc ι) : Prop :=
  Fine s p pc ∧ ∀ slot, own p s slot = (pc.took slot).toNat

theorem step_loc (hs : Coherent s) (hloc : Loc s p pc)
    (h : step arg p enabled s pc = some (t, pc')) :
    Coherent t ∧ Loc t p pc' ∧ Guarantee p s t := by
  obtain ⟨hfine, hown⟩ := hloc
  cases stepBy_of_step h with
  | log i hlog =>
    have hmove := logMove_of_logStep hs.notDisposed hlog
    obtain ⟨ht, hown', hguarantee, -⟩ := logMove_direct hs hfine hown hmove
    exact ⟨ht, ⟨LogFine.move hfine hmove, hown'⟩, hguarantee⟩
  | activate i hactivate =>
    obtain ⟨ht, hfine', hown', hguarantee⟩ := activateStep_fine hs hfine hown hactivate
    exact ⟨ht, ⟨hfine', hown'⟩, hguarantee⟩
  | safetyTimer i htimer =>
    obtain ⟨ht, hfine', hown', hguarantee⟩ := safetyTimerStep_fine hs hfine hown htimer
    exact ⟨ht, ⟨hfine', hown'⟩, hguarantee⟩

/-- **The outline of the handoff.** -/
def handoffOutline (arg : ι → CompositeElasticOpenTelemetryOptions) :
    Pool.Outline (step arg) fun _ _ => True :=
  .ofGuarantee Coherent (fun p s pc => Loc s p pc) Guarantee
    (fun _ _ _ _ _ _ hs hloc hstep => step_loc hs hloc hstep)
    (by
      rintro p q s t pc hne hguarantee ⟨hfine, hown⟩
      exact ⟨hguarantee.fine hne hfine, fun slot => by rw [hguarantee.keepsOwn q hne, hown]⟩)

theorem handoffOutline_initial (options : CompositeElasticOpenTelemetryOptions) :
    (handoffOutline arg).Holds (initial (some options)) where
  global :=
    { notDisposed := rfl
      order := fun _ => rfl
      waiting := fun _ => ⟨rfl, fun _ => rfl⟩
      assigned := nofun
      hasOptions := nofun
      creations := rfl
      unclaimed := fun _ => rfl
      pending := nofun
      present := nofun
      created := by simp [initial, Shared.deferred]
      notDirect := fun _ => rfl }
  loc := fun p => by
    refine ⟨?_, fun slot => ?_⟩
    · cases p with
      | log i => exact ⟨False.elim, by simp, nofun⟩
      | activate i => nofun
      | safetyTimer i => nofun
    · cases p <;> rfl

end Outline

/-! ### What a step routes -/

section Routed

/-- What a step of a process, in which `IsEnabled` is `enabled`, can route. -/
structure RoutedBy (p : Process ι) (enabled : Bool) (r : Routing ι) : Prop where
  filtered : r.verdict = .filtered → enabled = false
  direct : r.route = .direct → r.entry = .of p

omit [DecidableEq ι] in
theorem logStep_routed {p : Process ι} {entry : Entry ι} {route : Route} {enabled : Bool}
    {s t : Shared ι} {pc pc' : LogPc} (hentry : route = .direct → entry = .of p)
    (h : logStep entry route enabled s pc = some (t, pc')) {slot : Slot} {r : Routing ι}
    (hr : r ∈ t.routed slot) : r ∈ s.routed slot ∨ RoutedBy p enabled r := by
  have hrecord : ∀ slot' verdict, (verdict = .filtered → enabled = false) →
      r ∈ (s.record slot' ⟨entry, route, verdict⟩).routed slot →
        r ∈ s.routed slot ∨ RoutedBy p enabled r := by
    intro slot' verdict hverdict hr
    change r ∈ Function.update s.routed slot' (s.routed slot' ++ [_]) slot at hr
    by_cases hslot : slot = slot'
    · subst hslot
      rw [Function.update_self] at hr
      refine (List.mem_append.mp hr).imp_right fun hr => ?_
      rw [List.mem_singleton.mp hr]
      exact ⟨hverdict, hentry⟩
    · rw [Function.update_of_ne hslot] at hr
      exact .inl hr
  cases pc <;> simp only [logStep] at h
  case readIsDisposed => split_ifs at h <;> cases h <;> exact .inl hr
  case readDeferredQueue => split_ifs at h <;> cases h <;> exact .inl hr
  case enqueueLocked => split at h <;> cases h <;> exact .inl hr
  case test slot' =>
    split_ifs at h <;> cases h
    · exact .inl hr
    · exact hrecord slot' .absent (fun h => by cases h) hr
  case isEnabled slot' =>
    split_ifs at h with hassigned henabled <;> cases h
    · exact .inl hr
    · exact .inl hr
    · exact hrecord slot' .filtered (fun _ => by simpa using henabled) hr
  case log slot' =>
    split_ifs at h <;> cases h
    · exact .inl hr
    · exact hrecord slot' .logged (fun h => by cases h) hr
  all_goals cases h

omit [DecidableEq ι] in
theorem activateStep_routed {p : Process ι} {options : CompositeElasticOpenTelemetryOptions}
    {enabled : Bool} {s t : Shared ι} {pc pc' : ActivatePc ι}
    (h : activateStep p options enabled s pc = some (t, pc')) {slot : Slot} {r : Routing ι}
    (hr : r ∈ t.routed slot) : r ∈ s.routed slot ∨ RoutedBy p enabled r := by
  cases pc <;> simp only [activateStep] at h
  case compareExchange => split_ifs at h <;> cases h <;> exact .inl hr
  case dequeue => split at h <;> cases h <;> exact .inl hr
  case drain entry pc =>
    obtain ⟨⟨t', pc''⟩, hlog, heq⟩ := Option.map_eq_some_iff.mp h
    obtain ⟨rfl, rfl⟩ := Prod.mk.inj heq
    have hroute : Route.drained = .direct → entry = .of p := fun h => by cases h
    exact logStep_routed hroute hlog hr
  case reportIsEnabled => split_ifs at h <;> cases h <;> exact .inl hr
  case report pc =>
    obtain ⟨⟨t', pc''⟩, hlog, heq⟩ := Option.map_eq_some_iff.mp h
    obtain ⟨rfl, rfl⟩ := Prod.mk.inj heq
    exact logStep_routed (fun _ => rfl) hlog hr
  case returned => cases h
  all_goals
    cases h
    exact .inl hr

omit [DecidableEq ι] in
theorem step_routed {arg : ι → CompositeElasticOpenTelemetryOptions} {p : Process ι}
    {enabled : Bool} {s t : Shared ι} {pc pc' : Pc ι}
    (h : step arg p enabled s pc = some (t, pc')) {slot : Slot} {r : Routing ι}
    (hr : r ∈ t.routed slot) : r ∈ s.routed slot ∨ RoutedBy p enabled r := by
  cases stepBy_of_step h with
  | log i hlog => exact logStep_routed (fun _ => rfl) hlog hr
  | activate i hactivate => exact activateStep_routed hactivate hr
  | @safetyTimer i pc pc' htimer =>
    cases pc <;> simp only [safetyTimerStep] at htimer
    case readIsDisposed => split_ifs at htimer <;> cases htimer <;> exact .inl hr
    case readOptions => split at htimer <;> cases htimer <;> exact .inl hr
    case activate options pc =>
      obtain ⟨⟨t', pc''⟩, hactivate, heq⟩ := Option.map_eq_some_iff.mp htimer
      obtain ⟨rfl, rfl⟩ := Prod.mk.inj heq
      exact activateStep_routed hactivate hr
    case discard => split_ifs at htimer <;> cases htimer <;> exact .inl hr
    case returned => cases htimer
    all_goals
      cases htimer
      exact .inl hr

/-- Every entry that has come past a sub-logger has done so at a step of the run. -/
theorem routedBy_of_exec {arg : ι → CompositeElasticOpenTelemetryOptions}
    {options : Option CompositeElasticOpenTelemetryOptions} {as : List (Process ι × Bool)}
    {c : Config ι} (h : exec (Pool.next (step arg)) as (initial options) = some c) (slot : Slot) :
    ∀ r ∈ c.shared.routed slot, ∃ a ∈ as, RoutedBy a.1 a.2 r :=
  exec_induction (C := fun a _ => a ∈ as)
    (I := fun d : Config ι => ∀ r ∈ d.shared.routed slot, ∃ a ∈ as, RoutedBy a.1 a.2 r)
    (fun a s t ha hs hnext r hr => by
      obtain ⟨t', pc, hstep, rfl⟩ := Pool.next_eq_some.mp hnext
      exact (step_routed hstep hr).elim (hs r) fun hrouted => ⟨a, ha, hrouted⟩)
    (along_of_mem fun _ ha => ha) (fun r hr => by cases hr) h

end Routed

/-! ### The main result -/

section Handoff

variable {s : Shared ι} {c : Config ι}

omit [DecidableEq ι] in
theorem Fine.logFine {p : Process ι} {pc : Pc ι} {q : LogPc} (hfine : Fine s p pc)
    (hq : pc.logPc = some q) : LogFine s q := by
  have hactivate : ∀ a : ActivatePc ι, ActivateFine p s a → a.logPc = some q → LogFine s q := by
    intro a hfine hq
    cases a <;> cases hq
    · exact hfine.logFine
    · exact hfine.2
  cases p <;> cases pc
  case log.log i pc =>
    cases hq
    exact hfine
  case activate.activate i pc => exact hactivate pc hfine hq
  case safetyTimer.safetyTimer i pc =>
    cases pc with
    | activate options pc => exact hactivate pc hfine hq
    | _ => cases hq
  all_goals exact hfine.elim

omit [DecidableEq ι] in
theorem Fine.hasDrained {p : Process ι} {pc : Pc ι} (hfine : Fine s p pc)
    (hwinner : s.winner = some p) (hactivated : pc.HasActivated) : HasDrained p s := by
  have hactivate : ∀ a : ActivatePc ι, ActivateFine p s a → (Pc.activate a).HasActivated →
      HasDrained p s := by
    intro a hfine hactivated
    cases a <;> try exact hactivated.elim
    exact hfine hwinner
  cases p <;> cases pc
  case log.log i pc => exact hactivated.elim
  case activate.activate i pc => exact hactivate pc hfine hactivated
  case safetyTimer.safetyTimer i pc =>
    cases pc with
    | activate options pc =>
      refine hactivate pc hfine ?_
      cases pc <;> exact hactivated
    | _ => exact hactivated.elim
  all_goals exact hfine.elim

/-- The call that logs the entry has taken effect at a sub-logger. -/
def TookEffect (c : Config ι) (slot : Slot) : Entry ι → Bool
  | .created => true
  | .of p => (c.pc p).took slot

/-- The call of `Activate` that has claimed the activation has returned, and so has every call of
`Log` that was made. -/
def Finished (c : Config ι) : Prop :=
  (∃ p, c.shared.winner = some p ∧ (c.pc p).HasActivated) ∧
    ∀ i, c.pc (.log i) = .log .readIsDisposed ∨ c.pc (.log i) = .log .returned

/-- The entries that came past a sub-logger, in order. -/
def Shared.entries (s : Shared ι) (slot : Slot) : List (Entry ι) :=
  (s.routed slot).map Routing.entry

/-- Every entry was enqueued or routed directly, as often as its call has taken effect. -/
theorem count_enqueued_add_direct (hs : Coherent s) (hloc : ∀ p, Loc c.shared p (c.pc p))
    (hshared : c.shared = s) (slot : Slot) (entry : Entry ι) :
    s.enqueued.count entry + (s.direct slot).count entry = (TookEffect c slot entry).toNat := by
  subst hshared
  cases entry with
  | created =>
    rw [hs.created, hs.notDirect]
    rfl
  | of p => exact (hloc p).2 slot

/-- Every entry whose call has taken effect is in exactly one place. -/
theorem count_routed_add (hs : Coherent s) (hloc : ∀ p, Loc c.shared p (c.pc p))
    (hshared : c.shared = s) (slot : Slot) (entry : Entry ι) :
    (s.entries slot).count entry + (s.inHand slot).toList.count entry +
      s.capturedQueue.count entry + (s.deferredQueue.getD []).count entry =
      (TookEffect c slot entry).toNat := by
  -- the entries that were enqueued are split by `order`, the others were routed directly
  have htotal := count_enqueued_add_direct hs hloc hshared slot entry
  have horder := congrArg (List.count entry) (hs.order slot)
  simp only [List.count_append] at horder
  have hrouted := s.count_routed slot entry
  rw [Shared.entries]
  omega

/-- The entries that were enqueued come past a sub-logger in the order of the queue. -/
theorem entries_filter_enqueued (hs : Coherent s) (hloc : ∀ p, Loc c.shared p (c.pc p))
    (hshared : c.shared = s) {slot : Slot} (hdrained : s.drained slot = s.enqueued) :
    (s.entries slot).filter (· ∈ s.enqueued) = s.enqueued := by
  have hroute : ∀ r ∈ s.routed slot, (r.entry ∈ s.enqueued ↔ r.route = .drained) := by
    intro r hr
    constructor
    · intro henqueued
      by_contra hnot
      have hdirect : r.route = .direct := by
        cases hr' : r.route
        · rfl
        · exact absurd hr' hnot
      -- it would have been enqueued and routed directly
      have hmem : r.entry ∈ s.direct slot :=
        List.mem_map_of_mem (List.mem_filter.mpr ⟨hr, by simp [hdirect]⟩)
      have htotal := count_enqueued_add_direct hs hloc hshared slot r.entry
      have h₁ := List.count_pos_iff.mpr henqueued
      have h₂ := List.count_pos_iff.mpr hmem
      have h₃ := Bool.toNat_le (TookEffect c slot r.entry)
      omega
    · intro hroute
      rw [← hdrained]
      exact List.mem_map_of_mem (List.mem_filter.mpr ⟨hr, by simp [hroute]⟩)
  rw [Shared.entries, List.filter_map]
  conv_rhs => rw [← hdrained]
  refine congrArg (List.map Routing.entry) (List.filter_congr fun r hr => ?_)
  simp only [Function.comp_apply, decide_eq_decide]
  exact hroute r hr

/-- **The handoff loses and duplicates nothing.** In every state that any interleaving of calls of
`Log`, `Activate` and `OnSafetyTimerElapsed` reaches from a logger created in deferred mode with
options, every entry whose call has taken effect at a sub-logger is in exactly one place: past the
sub-logger, in the hand of the draining call, in the captured queue or in the queue. The
sub-loggers are created at most once, and a call on the active path finds them. When the winning
`Activate` and all calls of `Log` that were made have returned, every entry has come past every
sub-logger exactly once, the enqueued ones in the order of the queue. What comes past a sub-logger
that is there is logged by it, unless `IsEnabled` was false when the entry was routed. -/
theorem handoff_exactlyOnce (arg : ι → CompositeElasticOpenTelemetryOptions)
    (options : CompositeElasticOpenTelemetryOptions) (as : List (Process ι × Bool)) (c : Config ι)
    (h : exec (Pool.next (step arg)) as (initial (some options)) = some c) :
    (∀ slot entry, (c.shared.entries slot).count entry +
      (c.shared.inHand slot).toList.count entry + c.shared.capturedQueue.count entry +
      (c.shared.deferredQueue.getD []).count entry = (TookEffect c slot entry).toNat) ∧
    c.shared.creations ≤ 1 ∧
    (∀ p pc, (c.pc p).logPc = some pc → pc.OnActivePath → Assigned c.shared) ∧
    (Finished c → ∀ slot,
      (∀ entry, (c.shared.entries slot).count entry = (TookEffect c slot entry).toNat) ∧
      (∀ i, c.pc (.log i) ≠ .log .readIsDisposed →
        (c.shared.entries slot).count (.of (.log i)) = 1) ∧
      (c.shared.entries slot).filter (· ∈ c.shared.enqueued) = c.shared.enqueued) ∧
    ∀ slot, ∀ r ∈ c.shared.routed slot, (slot ≠ .additional → r.verdict ≠ .absent) ∧
      (r.verdict = .filtered →
        ∃ p, (p, false) ∈ as ∧ (r.route = .direct → r.entry = .of p)) := by
  have hc := (handoffOutline arg).exec_always (handoffOutline_initial options) h
  have hs : Coherent c.shared := hc.global
  have hloc : ∀ p, Loc c.shared p (c.pc p) := hc.loc
  have hplaces := count_routed_add hs hloc rfl
  refine ⟨hplaces, ?_, fun p pc hpc hactive => ?_, ?_, fun slot r hr =>
    ⟨fun hslot => hs.present slot hslot r hr, fun hfiltered => ?_⟩⟩
  -- the sub-loggers are created when the queue is taken, and it is taken once
  · rw [hs.creations]
    split_ifs <;> omega
  · exact hs.assigned (((hloc p).1.logFine hpc).active hactive)
  · -- the winner has returned, so nothing is left in its hand or in a queue
    rintro ⟨⟨p, hwinner, hactivated⟩, hlogs⟩ slot
    have hdone := (hloc p).1.hasDrained hwinner hactivated
    have hcount : ∀ entry, (c.shared.entries slot).count entry =
        (TookEffect c slot entry).toNat := by
      intro entry
      have hplace := hplaces slot entry
      rw [hdone.inHand, hdone.capturedQueue, hdone.queue] at hplace
      simpa using hplace
    refine ⟨hcount, fun i hmade => ?_, entries_filter_enqueued hs hloc rfl ?_⟩
    · have hreturned := (hlogs i).resolve_left hmade
      rw [hcount, TookEffect, hreturned]
      rfl
    · have horder := hs.order slot
      rw [hdone.inHand, hdone.capturedQueue, hdone.queue] at horder
      simpa using horder.symm
  · obtain ⟨⟨p, enabled⟩, hmem, hrouted⟩ := routedBy_of_exec h slot r hr
    obtain rfl : enabled = false := hrouted.filtered hfiltered
    exact ⟨p, hmem, hrouted.direct⟩

end Handoff

/-! ### A handoff -/

/-- Options with an OpAMP endpoint. -/
def withEndpoint : CompositeElasticOpenTelemetryOptions :=
  .ofEnvironment .linux fun key =>
    if key = EnvironmentVariables.elasticOtelOpAmpEndpoint then
      some (some "http://localhost:4320".toList)
    else none

/-- One call of `Log` is queued; the other routes its entry after the queue was captured and
before it is drained. -/
def logsAroundCapture : List (Process Bool × Bool) :=
  List.replicate 3 (.log false, true) ++ List.replicate 3 (.activate false, true) ++
    List.replicate 9 (.log true, true) ++ List.replicate 32 (.activate false, true)

/-- Everything has come past the file logger once, and the queued entries in order. -/
theorem handoff_logsAroundCapture :
    ∃ c, exec (Pool.next (step fun _ => withEndpoint)) logsAroundCapture
        (initial (some withEndpoint)) = some c ∧ Finished c ∧
      c.shared.entries .file =
        [.of (.log true), .created, .of (.log false), .of (.activate false)] ∧
      (c.shared.entries .file).filter (· ∈ c.shared.enqueued) = c.shared.enqueued := by
  have hrun : (exec (Pool.next (step fun _ => withEndpoint)) logsAroundCapture
      (initial (some withEndpoint))).isSome = true := rfl
  have hfinished : Finished ((exec (Pool.next (step fun _ => withEndpoint)) logsAroundCapture
      (initial (some withEndpoint))).get hrun) :=
    ⟨⟨.activate false, rfl, trivial⟩, fun i => by cases i <;> exact .inr rfl⟩
  exact ⟨_, (Option.some_get hrun).symm, hfinished, rfl,
    ((handoff_exactlyOnce _ _ _ _ (Option.some_get hrun).symm).2.2.2.1 hfinished .file).2.2⟩

end ElasticOpenTelemetry.DeferredLogger
