import ElasticOpenTelemetry.Diagnostics.Handoff
import ElasticOpenTelemetry.Foundations.ListOrder

/-!
# The order of the entries of one thread

A thread logs one entry and, when that call of `Log` has returned, another. `Activate`
(`CompositeLogger.cs`) drains the captured queue outside the lock, while direct logging is open
already. So the second entry can come to a sub-logger before the first, which is still in the
captured queue or in the hand of `Activate`.

`programOrder_iff` states that this is the only way: a sub-logger receives the two entries in the
order in which they were logged unless the second call logs there while the first entry is
pending.
-/

namespace ElasticOpenTelemetry.DeferredLogger

open Execution ListOrder

variable {ι : Type}

/-- The entries that a sub-logger has received: it was there and enabled, and its `Log` was
called. -/
def Shared.received (s : Shared ι) (slot : Slot) : List (Entry ι) :=
  ((s.routed slot).filter fun r => r.verdict = .logged).map Routing.entry

/-- The entry was taken out of the queue, and has not come past the sub-logger. -/
def Pending (s : Shared ι) (slot : Slot) (entry : Entry ι) : Prop :=
  entry ∈ s.capturedQueue ∨ s.inHand slot = some entry

/-- The step is not one in which the second call logs at the sub-logger itself while the entry of
the first is pending there. -/
def NotOvertaking (slot : Slot) (i j : ι) (a : Process ι × Bool) (c : Config ι) : Prop :=
  ¬(a.1 = .log j ∧ c.pc (.log j) = .log (.log slot) ∧ Pending c.shared slot (.of (.log i)))

/-! ### What a step adds -/

/-- **What a step adds to the queue and to what has come past the sub-loggers.** At most one entry:
the one that the call logs itself, or the one in the hand of `Activate`. -/
inductive Effect (s t : Shared ι) (p : Process ι) (pc : Pc ι) : Prop
  | keeps (enqueued : t.enqueued = s.enqueued) (routed : t.routed = s.routed)
  | enqueues (queue : List (Entry ι)) (eq : t = s.enqueue queue (.of p))
  | routes (slot : Slot) (r : Routing ι) (eq : t = s.record slot r)
      (direct : r.route = .direct →
        r.entry = .of p ∧ (r.verdict = .logged → pc.logPc = some (.log slot)))
      (drained : r.route = .drained → s.inHand slot = some r.entry)

section Effects

variable {s t : Shared ι} {p : Process ι} {enabled : Bool}

theorem effect_of_logStep {entry : Entry ι} {route : Route} {q q' : LogPc} {pc : Pc ι}
    (hpc : pc.logPc = some q) (hdirect : route = .direct → entry = .of p)
    (hdrained : route = .drained →
      s.deferredQueue = none ∧ ∀ slot, q.At slot → s.inHand slot = some entry)
    (h : logStep entry route enabled s q = some (t, q')) : Effect s t p pc := by
  cases q <;> simp only [logStep] at h
  case readIsDisposed | readDeferredQueue =>
    split_ifs at h <;> cases h <;> exact .keeps rfl rfl
  case enqueueLocked =>
    split at h <;> cases h
    · rename_i queue hqueue
      have hroute : route = .direct := by
        cases route with
        | direct => rfl
        | drained =>
          rw [(hdrained rfl).1] at hqueue
          cases hqueue
      rw [hdirect hroute]
      exact .enqueues queue rfl
    · exact .keeps rfl rfl
  case test slot =>
    split_ifs at h <;> cases h
    · exact .keeps rfl rfl
    · exact .routes slot _ rfl (fun hroute => ⟨hdirect hroute, by simp⟩)
        fun hroute => (hdrained hroute).2 slot (.inl rfl)
  case isEnabled slot =>
    split_ifs at h <;> cases h
    · exact .keeps rfl rfl
    · exact .keeps rfl rfl
    · exact .routes slot _ rfl (fun hroute => ⟨hdirect hroute, by simp⟩)
        fun hroute => (hdrained hroute).2 slot (.inr (.inl rfl))
  case log slot =>
    split_ifs at h <;> cases h
    · exact .keeps rfl rfl
    · exact .routes slot _ rfl (fun hroute => ⟨hdirect hroute, fun _ => hpc⟩)
        fun hroute => (hdrained hroute).2 slot (.inr (.inr rfl))
  case returned | threw => cases h

theorem effect_of_activateStep {options : CompositeElasticOpenTelemetryOptions}
    {a a' : ActivatePc ι} {pc : Pc ι} (hpc : pc.logPc = a.logPc) (hfine : ActivateFine p s a)
    (h : activateStep p options enabled s a = some (t, a')) : Effect s t p pc := by
  cases a <;> simp only [activateStep] at h
  case drain entry q =>
    obtain ⟨⟨u, q'⟩, hlog, hr⟩ := Option.map_eq_some_iff.mp h
    cases hr
    refine effect_of_logStep hpc (by simp) (fun _ => ⟨hfine.queue, fun slot hat => ?_⟩) hlog
    rw [hfine.inHand, LogPc.took_of_at hat]
    rfl
  case report q =>
    obtain ⟨⟨u, q'⟩, hlog, hr⟩ := Option.map_eq_some_iff.mp h
    cases hr
    exact effect_of_logStep hpc (fun _ => rfl) (by simp) hlog
  case compareExchange | reportIsEnabled =>
    split_ifs at h <;> cases h <;> exact .keeps rfl rfl
  case dequeue => split at h <;> cases h <;> exact .keeps rfl rfl
  case returned => cases h
  all_goals
    cases h
    exact .keeps rfl rfl

theorem effect_of_step {arg : ι → CompositeElasticOpenTelemetryOptions} {pc pc' : Pc ι}
    (hfine : Fine s p pc) (h : step arg p enabled s pc = some (t, pc')) : Effect s t p pc := by
  cases stepBy_of_step h with
  | log i hlog => exact effect_of_logStep rfl (fun _ => rfl) (by simp) hlog
  | activate i hactivate => exact effect_of_activateStep rfl hfine hactivate
  | safetyTimer i htimer =>
    rename_i a a'
    cases a <;> simp only [safetyTimerStep] at htimer
    case activate options a =>
      obtain ⟨⟨u, q⟩, hactivate, hr⟩ := Option.map_eq_some_iff.mp htimer
      cases hr
      exact effect_of_activateStep rfl hfine hactivate
    case readIsDisposed | discard => split_ifs at htimer <;> cases htimer <;> exact .keeps rfl rfl
    case readOptions => split at htimer <;> cases htimer <;> exact .keeps rfl rfl
    case returned => cases htimer
    all_goals
      cases htimer
      exact .keeps rfl rfl

end Effects

/-! ### Where an entry is -/

section Places

variable {s : Shared ι} {slot : Slot}

theorem entries_record (slot' : Slot) (r : Routing ι) :
    (s.record slot r).entries slot' =
      if slot' = slot then s.entries slot' ++ [r.entry] else s.entries slot' := by
  by_cases hslot : slot' = slot
  · subst hslot
    simp [Shared.entries, Shared.record]
  · simp [Shared.entries, Shared.record, hslot]

theorem mem_received_record {slot' : Slot} {r : Routing ι} {entry : Entry ι}
    (h : entry ∈ (s.record slot r).received slot') :
    entry ∈ s.received slot' ∨ slot' = slot ∧ r.verdict = .logged ∧ entry = r.entry := by
  by_cases hslot : slot' = slot
  · subst hslot
    by_cases hverdict : r.verdict = .logged
    · simpa [Shared.received, Shared.record, hverdict] using h
    · left
      simpa [Shared.received, Shared.record, hverdict] using h
  · left
    simpa [Shared.received, Shared.record, hslot] using h

theorem mem_entries_of_direct {entry : Entry ι} (h : entry ∈ s.direct slot) :
    entry ∈ s.entries slot := by
  obtain ⟨r, hr, rfl⟩ := List.mem_map.mp h
  exact List.mem_map_of_mem (List.mem_filter.mp hr).1

theorem mem_entries_of_drained {entry : Entry ι} (h : entry ∈ s.drained slot) :
    entry ∈ s.entries slot := by
  obtain ⟨r, hr, rfl⟩ := List.mem_map.mp h
  exact List.mem_map_of_mem (List.mem_filter.mp hr).1

variable [DecidableEq ι]

theorem pending_iff {entry : Entry ι} :
    Pending s slot entry ↔
      0 < (s.inHand slot).toList.count entry + s.capturedQueue.count entry := by
  rw [Pending, Nat.add_comm, Nat.add_pos_iff_pos_or_pos, List.count_pos_iff, List.count_pos_iff,
    Option.mem_toList]

variable {arg : ι → CompositeElasticOpenTelemetryOptions} {c : Config ι}

theorem nodup_entries (hc : (handoffOutline arg).Holds c) (slot : Slot) :
    (c.shared.entries slot).Nodup := by
  rw [List.nodup_iff_count_le_one]
  intro entry
  have hplaces := count_routed_add hc.global hc.loc rfl slot entry
  have htook := Bool.toNat_le (TookEffect c slot entry)
  omega

theorem nodup_enqueued (hc : (handoffOutline arg).Holds c) : c.shared.enqueued.Nodup := by
  rw [List.nodup_iff_count_le_one]
  intro entry
  have htotal := count_enqueued_add_direct hc.global hc.loc rfl .file entry
  have htook := Bool.toNat_le (TookEffect c .file entry)
  omega

variable {i : ι}

omit [DecidableEq ι] in
/-- A call that has returned has taken effect everywhere. -/
theorem tookEffect_of_returned (hi : c.pc (.log i) = .log .returned) :
    TookEffect c slot (.of (.log i)) = true := by
  rw [TookEffect, hi]
  rfl

/-- What a call that has returned has logged was enqueued or routed directly. -/
theorem mem_enqueued_or_direct (hc : (handoffOutline arg).Holds c)
    (hi : c.pc (.log i) = .log .returned) (slot : Slot) :
    .of (.log i) ∈ c.shared.enqueued ∨ .of (.log i) ∈ c.shared.direct slot := by
  have htotal := count_enqueued_add_direct hc.global hc.loc rfl slot (.of (.log i))
  rw [tookEffect_of_returned hi, Bool.toNat_true] at htotal
  rw [← List.count_pos_iff, ← List.count_pos_iff]
  omega

/-- When the queue has been taken, it has come past a sub-logger unless it is pending there. -/
theorem mem_entries_iff (hc : (handoffOutline arg).Holds c)
    (hi : c.pc (.log i) = .log .returned) (hqueue : c.shared.deferredQueue = none) :
    .of (.log i) ∈ c.shared.entries slot ↔ ¬Pending c.shared slot (.of (.log i)) := by
  have hplaces := count_routed_add hc.global hc.loc rfl slot (.of (.log i))
  rw [tookEffect_of_returned hi, Bool.toNat_true, hqueue, Option.getD_none,
    List.count_nil] at hplaces
  rw [pending_iff, ← List.count_pos_iff]
  omega

end Places

/-! ### Two calls, one after the other -/

section TwoCalls

variable [DecidableEq ι] {arg : ι → CompositeElasticOpenTelemetryOptions} {c d : Config ι}
  {slot : Slot} {i j : ι} {a : Process ι × Bool}

/-- The first call has returned; its entry is before that of the second in the queue, unless it was
routed directly, and has come past the sub-logger before the second was received there. -/
structure Ordered (slot : Slot) (i j : ι) (c : Config ι) : Prop where
  returned : c.pc (.log i) = .log .returned
  enqueued : .of (.log j) ∈ c.shared.enqueued → .of (.log i) ∈ c.shared.direct slot ∨
    Before c.shared.enqueued (.of (.log i)) (.of (.log j))
  received : .of (.log j) ∈ c.shared.received slot →
    Before (c.shared.entries slot) (.of (.log i)) (.of (.log j))

/-- A call that has returned makes no step. -/
theorem returned_next (hi : c.pc (.log i) = .log .returned)
    (h : Pool.next (step arg) a c = some d) : d.pc (.log i) = .log .returned := by
  obtain ⟨⟨t, pc', hstep, -⟩, hother⟩ := Pool.pc_of_next h
  by_cases hp : Process.log i = a.1
  · rw [← hp, hi] at hstep
    cases hstep
  · rw [hother _ hp, hi]

/-- When the second call logs at the sub-logger itself, the first entry has come past it unless it
is pending. -/
theorem mem_entries_of_direct_step (hc : (handoffOutline arg).Holds c)
    (hi : c.pc (.log i) = .log .returned) (hat : (c.pc (.log j)).logPc = some (.log slot))
    (hpending : c.pc (.log j) = .log (.log slot) → ¬Pending c.shared slot (.of (.log i))) :
    .of (.log i) ∈ c.shared.entries slot := by
  have hfine : Fine c.shared (.log j) (c.pc (.log j)) := (hc.loc (.log j)).1
  have hpc : c.pc (.log j) = .log (.log slot) := by
    cases hpc : c.pc (.log j) with
    | log q =>
      rw [hpc] at hat
      rw [Option.some.inj hat]
    | activate q =>
      rw [hpc] at hfine
      exact hfine.elim
    | safetyTimer q =>
      rw [hpc] at hfine
      exact hfine.elim
  exact (mem_entries_iff hc hi ((hfine.logFine hat).active trivial)).mpr (hpending hpc)

/-- When the second entry is in the hand of `Activate`, the first has come past the sub-logger. -/
theorem mem_entries_of_drained_step (hne : i ≠ j) (hc : (handoffOutline arg).Holds c)
    (ho : Ordered slot i j c) (hinHand : c.shared.inHand slot = some (.of (.log j))) :
    .of (.log i) ∈ c.shared.entries slot := by
  have horder := hc.global.order slot
  rw [hinHand, Option.toList_some, List.append_assoc, List.append_assoc,
    List.singleton_append] at horder
  have hmem : .of (.log j) ∈ c.shared.enqueued := by
    rw [horder]
    exact List.mem_append_right _ List.mem_cons_self
  rcases ho.enqueued hmem with hdirect | hbefore
  · exact mem_entries_of_direct hdirect
  · have hnodup := nodup_enqueued hc
    rw [horder] at hbefore hnodup
    exact mem_entries_of_drained (mem_of_before hnodup (by simpa using hne) hbefore)

/-- **The step lemma.** The order is kept by every step in which the second call does not overtake
the first. -/
theorem ordered_next (hne : i ≠ j) (hc : (handoffOutline arg).Holds c)
    (hovertaking : NotOvertaking slot i j a c) (ho : Ordered slot i j c)
    (h : Pool.next (step arg) a c = some d) : Ordered slot i j d := by
  have hi := returned_next ho.returned h
  obtain ⟨p, enabled⟩ := a
  obtain ⟨t, pc', hstep, rfl⟩ := Pool.next_eq_some.mp h
  have heffect := effect_of_step (hc.loc p).1 hstep
  cases heffect with
  | keeps henqueued hrouted =>
    refine ⟨hi, fun hj => ?_, fun hj => ?_⟩
    · simp only [Shared.direct, henqueued, hrouted] at hj ⊢
      exact ho.enqueued hj
    · simp only [Shared.received, Shared.entries, hrouted] at hj ⊢
      exact ho.received hj
  | enqueues queue heq =>
    subst heq
    refine ⟨hi, fun hj => ?_, ho.received⟩
    rcases List.mem_append.mp hj with hj | hj
    · exact (ho.enqueued hj).imp_right fun h => h.append _
    · -- the entry of the first call is in the queue, unless it was routed directly
      rw [List.mem_singleton] at hj
      refine (mem_enqueued_or_direct hc ho.returned slot).symm.imp_right fun hmem => ?_
      change Before (c.shared.enqueued ++ [_]) _ _
      rw [← hj]
      exact before_concat hmem
  | routes slot' r heq hdirect hdrained =>
    subst heq
    refine ⟨hi, fun hj => ?_, fun hj => ?_⟩
    · refine (ho.enqueued hj).imp_left fun hmem => ?_
      change _ ∈ (c.shared.record slot' r).direct slot
      rw [Shared.direct_record]
      split_ifs with hroute
      · exact List.mem_append_left _ hmem
      · exact hmem
    · change Before ((c.shared.record slot' r).entries slot) _ _
      rw [entries_record]
      rcases mem_received_record hj with hj | ⟨rfl, hlogged, hj⟩
      · split_ifs
        · exact (ho.received hj).append _
        · exact ho.received hj
      · rw [if_pos rfl, ← hj]
        refine before_concat ?_
        cases hroute : r.route with
        | direct =>
          -- the second call logs here itself, when the first entry is not pending
          obtain ⟨hown, hat⟩ := hdirect hroute
          obtain rfl : Process.log j = p := Entry.of.inj (hj.trans hown)
          exact mem_entries_of_direct_step hc ho.returned (hat hlogged) fun hpc hpending =>
            hovertaking ⟨rfl, hpc, hpending⟩
        | drained =>
          exact mem_entries_of_drained_step hne hc ho ((hdrained hroute).trans (by rw [hj]))

/-- Nothing of a call that has not started is anywhere. -/
theorem ordered_of_notStarted (hc : (handoffOutline arg).Holds c)
    (hi : c.pc (.log i) = .log .returned) (hj : c.pc (.log j) = .log .readIsDisposed)
    (slot : Slot) : Ordered slot i j c := by
  have htook : TookEffect c slot (.of (.log j)) = false := by
    rw [TookEffect, hj]
    rfl
  have htotal := count_enqueued_add_direct hc.global hc.loc rfl slot (.of (.log j))
  have hplaces := count_routed_add hc.global hc.loc rfl slot (.of (.log j))
  rw [htook, Bool.toNat_false] at htotal hplaces
  refine ⟨hi, fun hmem => ?_, fun hmem => ?_⟩
  · have hcount := List.count_pos_iff.mpr hmem
    omega
  · have hentries : .of (.log j) ∈ c.shared.entries slot :=
      (List.filter_sublist.map Routing.entry).subset hmem
    have hcount := List.count_pos_iff.mpr hentries
    omega

theorem ordered_exec (hne : i ≠ j) {as : List (Process ι × Bool)}
    (hc : (handoffOutline arg).Holds c ∧ Ordered slot i j c)
    (hall : Along (Pool.next (step arg)) (NotOvertaking slot i j) as c)
    (h : exec (Pool.next (step arg)) as c = some d) : Ordered slot i j d := by
  refine (exec_induction (I := fun d => (handoffOutline arg).Holds d ∧ Ordered slot i j d)
    (fun a s t hC hs hn => ?_) hall hc h).2
  exact ⟨(handoffOutline arg).holds_next trivial hs.1 hn, ordered_next hne hs.1 hC hs.2 hn⟩

/-- What has come past a sub-logger stays in its place. -/
theorem entries_exec {as : List (Process ι × Bool)} (hc : (handoffOutline arg).Holds c)
    (h : exec (Pool.next (step arg)) as c = some d) (slot : Slot) :
    c.shared.entries slot <+: d.shared.entries slot := by
  refine (exec_invariant (I := fun d => (handoffOutline arg).Holds d ∧
    c.shared.entries slot <+: d.shared.entries slot) (fun a s t hs hn => ?_)
    ⟨hc, List.prefix_rfl⟩ h).2
  refine ⟨(handoffOutline arg).holds_next trivial hs.1 hn, hs.2.trans ?_⟩
  obtain ⟨p, enabled⟩ := a
  obtain ⟨u, pc', hstep, rfl⟩ := Pool.next_eq_some.mp hn
  cases effect_of_step (hs.1.loc p).1 hstep with
  | keeps _ hrouted =>
    rw [Shared.entries, Shared.entries, hrouted]
  | enqueues queue heq =>
    rw [heq]
    exact List.prefix_rfl
  | routes slot' r heq _ _ =>
    rw [heq, entries_record]
    split_ifs
    · exact List.prefix_append _ _
    · exact List.prefix_rfl

/-- A step in which the second call overtakes the first. -/
theorem overtaking_next {enabled : Bool} (hc : (handoffOutline arg).Holds c)
    (hat : c.pc (.log j) = .log (.log slot))
    (h : Pool.next (step arg) (.log j, enabled) c = some d) :
    d.shared.entries slot = c.shared.entries slot ++ [.of (.log j)] := by
  obtain ⟨t, pc', hstep, rfl⟩ := Pool.next_eq_some.mp h
  have hfine : Fine c.shared (.log j) (.log (.log slot)) := hat ▸ (hc.loc (.log j)).1
  have hassigned : c.shared.isAssigned slot = true := hfine.used slot (.inr rfl)
  rw [hat] at hstep
  simp only [step, logStep, hassigned, Bool.true_eq_false, if_false, Option.map_some,
    Option.some.injEq, Prod.mk.injEq] at hstep
  rw [← hstep.1, entries_record, if_pos rfl]

/-- **Program order.** Of two entries that one thread logs, the second after the call of the first
has returned, a sub-logger that receives both receives the first before the second, exactly when
the second call does not log there while the first entry, which was queued, is still pending. -/
theorem programOrder_iff (options : CompositeElasticOpenTelemetryOptions)
    {as bs : List (Process ι × Bool)}
    (hc : exec (Pool.next (step arg)) as (initial (some options)) = some c)
    (hi : c.pc (.log i) = .log .returned) (hj : c.pc (.log j) = .log .readIsDisposed)
    (hd : exec (Pool.next (step arg)) bs c = some d)
    (hireceived : .of (.log i) ∈ d.shared.received slot)
    (hjreceived : .of (.log j) ∈ d.shared.received slot) :
    Before (d.shared.received slot) (.of (.log i)) (.of (.log j)) ↔
      Along (Pool.next (step arg)) (NotOvertaking slot i j) bs c := by
  have hne : i ≠ j := by
    rintro rfl
    rw [hi] at hj
    cases hj
  have houtline : (handoffOutline arg).Holds c :=
    (handoffOutline arg).exec_always (handoffOutline_initial options) hc
  have hlater : (handoffOutline arg).Holds d :=
    (handoffOutline arg).exec_always houtline hd
  have hentries : Before (d.shared.received slot) (.of (.log i)) (.of (.log j)) ↔
      Before (d.shared.entries slot) (.of (.log i)) (.of (.log j)) :=
    before_filter_iff (nodup_entries hlater slot) hireceived hjreceived
  rw [hentries]
  constructor
  · intro hbefore
    by_contra hnot
    obtain ⟨pre, ⟨p, enabled⟩, post, u, v, rfl, hu, -, hovertaking, hv, hpost⟩ :=
      exists_violation hd hnot
    obtain ⟨rfl, hat, hpending⟩ := not_not.mp hovertaking
    have houtline' : (handoffOutline arg).Holds u :=
      (handoffOutline arg).exec_always houtline hu
    have hreturned : u.pc (.log i) = .log .returned :=
      exec_invariant (I := fun u => u.pc (.log i) = .log .returned)
        (fun _ _ _ hs hn => returned_next hs hn) hi hu
    -- the second entry has come past the sub-logger, and the first has not
    have hfine : Fine u.shared (.log j) (.log (.log slot)) := hat ▸ (houtline'.loc (.log j)).1
    have hmissing : .of (.log i) ∉ u.shared.entries slot := fun hmem =>
      (mem_entries_iff houtline' hreturned (hfine.active trivial)).mp hmem hpending
    have hovertaken := overtaking_next houtline' hat hv
    obtain ⟨m, hm⟩ := entries_exec ((handoffOutline arg).holds_next trivial houtline' hv) hpost slot
    have hnodup := nodup_entries hlater slot
    rw [← hm, hovertaken] at hbefore hnodup
    refine not_before hnodup (List.mem_append_right _ List.mem_cons_self) ?_ hbefore
    simpa [hne] using hmissing
  · intro hall
    have hordered : Ordered slot i j d :=
      ordered_exec hne ⟨houtline, ordered_of_notStarted houtline hi hj slot⟩ hall hd
    exact hordered.received hjreceived

end TwoCalls

/-! ### Two entries of one thread -/

/-- The first entry is queued. -/
def firstQueued : List (Process Bool × Bool) := List.replicate 3 (.log false, true)

/-- The queue is captured, the second entry is logged directly, and the queue is drained. -/
def loggedBeforeDrain : List (Process Bool × Bool) :=
  List.replicate 3 (.activate false, true) ++ List.replicate 9 (.log true, true) ++
    List.replicate 32 (.activate false, true)

/-- The second entry is logged directly when the queue has been drained. -/
def loggedAfterDrain : List (Process Bool × Bool) :=
  List.replicate 35 (.activate false, true) ++ List.replicate 9 (.log true, true)

/-- The call that logs the first entry has returned. -/
def queued : Config Bool :=
  (exec (Pool.next (step fun _ => withEndpoint)) firstQueued (initial (some withEndpoint))).get rfl

theorem exec_firstQueued :
    exec (Pool.next (step fun _ => withEndpoint)) firstQueued (initial (some withEndpoint)) =
      some queued :=
  (Option.some_get _).symm

/-- The file logger receives both, and nothing is overtaken. -/
theorem programOrder_iff_loggedAfterDrain :
    ∃ d, exec (Pool.next (step fun _ => withEndpoint)) loggedAfterDrain queued = some d ∧
      d.shared.received .file =
        [.created, .of (.log false), .of (.activate false), .of (.log true)] ∧
      Along (Pool.next (step fun _ => withEndpoint)) (NotOvertaking .file false true)
        loggedAfterDrain queued := by
  have hrun : (exec (Pool.next (step fun _ => withEndpoint)) loggedAfterDrain queued).isSome =
    true := rfl
  have hd := (Option.some_get hrun).symm
  have hreceived : (((exec (Pool.next (step fun _ => withEndpoint)) loggedAfterDrain queued).get
      hrun).shared.received .file) =
      [.created, .of (.log false), .of (.activate false), .of (.log true)] := rfl
  refine ⟨_, hd, hreceived, (programOrder_iff _ exec_firstQueued rfl rfl hd ?_ ?_).mp ?_⟩
  · rw [hreceived]
    decide
  · rw [hreceived]
    decide
  · rw [hreceived, Before]
    decide

/-- The file logger receives both, and the second before the first. -/
theorem programOrder_reversed :
    exec (Pool.next (step fun _ => withEndpoint)) firstQueued (initial (some withEndpoint)) =
        some queued ∧
      queued.pc (.log false) = .log .returned ∧ queued.pc (.log true) = .log .readIsDisposed ∧
      ∃ d, exec (Pool.next (step fun _ => withEndpoint)) loggedBeforeDrain queued = some d ∧
        d.shared.received .file =
          [.of (.log true), .created, .of (.log false), .of (.activate false)] ∧
        ¬Before (d.shared.received .file) (.of (.log false)) (.of (.log true)) := by
  have hrun : (exec (Pool.next (step fun _ => withEndpoint)) loggedBeforeDrain queued).isSome =
    true := rfl
  have hreceived : (((exec (Pool.next (step fun _ => withEndpoint)) loggedBeforeDrain queued).get
      hrun).shared.received .file) =
      [.of (.log true), .created, .of (.log false), .of (.activate false)] := rfl
  refine ⟨exec_firstQueued, rfl, rfl, _, (Option.some_get hrun).symm, hreceived, ?_⟩
  rw [hreceived, Before]
  decide

end ElasticOpenTelemetry.DeferredLogger
