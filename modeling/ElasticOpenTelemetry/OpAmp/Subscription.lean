import ElasticOpenTelemetry.Foundations.CopyOnWrite
import ElasticOpenTelemetry.Foundations.ProcessPool
import ElasticOpenTelemetry.OpAmp.FirstConfig

/-!
# Subscribing to the remote configuration

`RemoteConfigMessageListener` (`RemoteConfigMessageListener.cs`) keeps its subscribers in an array
that is replaced by a compare-and-exchange: `Subscribe` reads the array, makes a longer copy,
exchanges the reference, and starts again when another call was faster. `HandleMessage` filters
and parses the message, reads the reference once and tells the subscribers in that array one after
the other.

Any number of calls of both run. `subscription_losesNobody` states that the array lists the calls
that have succeeded, in order, and that a message reaches every subscriber whose call had
returned when the array was read. Subscribers and loggers do not throw.
-/

namespace ElasticOpenTelemetry.Subscription

open Execution FirstConfig

variable {ι S : Type}

/-- The calls on one listener. -/
inductive Process (ι : Type)
  | subscribe (i : ι)
  | handleMessage (i : ι)
  deriving DecidableEq

/-- The field of the listener, and what the calls have done. -/
structure Shared (ι S : Type) where
  /-- `_subscribers` -/
  subscribers : CopyOnWrite S
  /-- the calls of `Subscribe` whose exchange has succeeded, in order; read by no step -/
  added : List ι
  /-- what a call of `HandleMessage` has told whom, in order; read by no step -/
  told : ι → List (S × ElasticRemoteConfig)

/-- Where a call of `Subscribe` is. -/
inductive SubscribePc
  /-- `Volatile.Read(ref _subscribers)` -/
  | read
  /-- a new array, longer by one, with the elements copied and the subscriber at its end -/
  | copy (current : ℕ)
  /-- `Interlocked.CompareExchange(ref _subscribers, updated, current)` -/
  | compareExchange (current updated : ℕ)
  /-- the exchange has succeeded, before `LogSubscriberAdded` -/
  | added
  | returned
  deriving DecidableEq, Repr

/-- Where a call of `HandleMessage` is. -/
inductive HandlePc
  /-- the filter and the parser -/
  | filter
  /-- `Volatile.Read(ref _subscribers)` -/
  | read (config : ElasticRemoteConfig)
  /-- in the loop over the array, at an index -/
  | notify (config : ElasticRemoteConfig) (subscribers index : ℕ)
  | returned
  deriving DecidableEq

/-- Where a process is. -/
inductive Pc
  | subscribe (pc : SubscribePc)
  | handleMessage (pc : HandlePc)
  deriving DecidableEq

section Steps

variable [DecidableEq ι]

/-- `Subscribe(subscriber)`, by the call `i`. -/
def subscribeStep (i : ι) (subscriber : S) (s : Shared ι S) :
    SubscribePc → Option (Shared ι S × SubscribePc)
  | .read => some (s, .copy s.subscribers.current)
  | .copy current =>
    some ({ s with subscribers := s.subscribers.alloc (s.subscribers.get current ++ [subscriber]) },
      .compareExchange current s.subscribers.arrays.length)
  | .compareExchange current updated =>
    let (subscribers, exchanged) := s.subscribers.compareExchange updated current
    if exchanged then some ({ s with subscribers := subscribers, added := s.added ++ [i] }, .added)
    else some (s, .read)
  | .added => some (s, .returned)
  | .returned => none

/-- `HandleMessage(message)`, by the call `i`. -/
def handleMessageStep (i : ι) (message : RemoteConfigMessage) (s : Shared ι S) :
    HandlePc → Option (Shared ι S × HandlePc)
  | .filter =>
    match extract message with
    | none => some (s, .returned)
    | some config => some (s, .read config)
  | .read config => some (s, .notify config s.subscribers.current 0)
  | .notify config subscribers index =>
    match (s.subscribers.get subscribers)[index]? with
    | some subscriber =>
      some ({ s with told := Function.update s.told i (s.told i ++ [(subscriber, config)]) },
        .notify config subscribers (index + 1))
    | none => some (s, .returned)
  | .returned => none

/-- One step of a process. -/
def step (subscriber : ι → S) (message : ι → RemoteConfigMessage) :
    Pool.Program (Process ι) (Shared ι S) Pc Unit :=
  fun p _ s pc =>
    match p, pc with
    | .subscribe i, .subscribe pc =>
      (subscribeStep i (subscriber i) s pc).map fun r => (r.1, .subscribe r.2)
    | .handleMessage i, .handleMessage pc =>
      (handleMessageStep i (message i) s pc).map fun r => (r.1, .handleMessage r.2)
    | _, _ => none

end Steps

/-- A configuration of the listener and the calls on it. -/
abbrev Config (ι S : Type) := Pool (Process ι) (Shared ι S) Pc

/-- A new listener; no call has been made. -/
def initial : Config ι S where
  shared := ⟨.empty, [], fun _ => []⟩
  pc := fun p =>
    match p with
    | .subscribe _ => .subscribe .read
    | .handleMessage _ => .handleMessage .filter

/-! ### The invariant -/

section Invariant

variable (subscriber : ι → S) (message : ι → RemoteConfigMessage)

/-- The array lists the calls that have succeeded, each of them once. -/
structure Coherent (s : Shared ι S) : Prop where
  allocated : s.subscribers.Allocated s.subscribers.current
  value : s.subscribers.value = s.added.map subscriber
  nodup : s.added.Nodup

/-- What a call of `Subscribe` relies on. -/
def SubscribeFine (i : ι) (s : Shared ι S) : SubscribePc → Prop
  | .read => i ∉ s.added
  | .copy current => i ∉ s.added ∧ s.subscribers.Allocated current
  | .compareExchange current updated =>
    i ∉ s.added ∧ s.subscribers.Allocated current ∧ s.subscribers.Allocated updated ∧
      s.subscribers.get updated = s.subscribers.get current ++ [subscriber i]
  | .added | .returned => i ∈ s.added

/-- `calls` are calls that have succeeded, and a message that is handled now reaches all calls in
`base`. -/
def Reaches (base : List ι) (s : Shared ι S) (calls : List ι) : Prop :=
  calls <+: s.added ∧ base <+: calls

/-- What a call of `HandleMessage` relies on; `base` are calls that had succeeded before it read
the array. -/
def HandleFine (base : List ι) (i : ι) (s : Shared ι S) : HandlePc → Prop
  | .filter => s.told i = []
  | .read config => s.told i = [] ∧ extract (message i) = some config
  | .notify config subscribers index =>
    extract (message i) = some config ∧ s.subscribers.Allocated subscribers ∧
      s.told i = ((s.subscribers.get subscribers).take index).map (·, config) ∧
      ∃ calls, Reaches base s calls ∧ s.subscribers.get subscribers = calls.map subscriber
  | .returned =>
    match extract (message i) with
    | none => s.told i = []
    | some config =>
      ∃ calls, Reaches base s calls ∧ s.told i = calls.map fun i => (subscriber i, config)

/-- What a process relies on; `base` is meant for the call `j` of `HandleMessage`, if any. -/
def Fine [DecidableEq ι] (base : List ι) (j : Option ι) (p : Process ι) (s : Shared ι S)
    (pc : Pc) : Prop :=
  match p, pc with
  | .subscribe i, .subscribe pc => SubscribeFine subscriber i s pc
  | .handleMessage i, .handleMessage pc =>
    HandleFine subscriber message (if some i = j then base else []) i s pc
  | _, _ => False

/-- What a step of the process `p` may do. -/
structure Guarantee (p : Process ι) (s t : Shared ι S) : Prop where
  grows : s.subscribers.Grows t.subscribers
  added : s.added <+: t.added
  adds : ∀ i, i ∈ t.added → i ∈ s.added ∨ p = .subscribe i
  told : ∀ i, p ≠ .handleMessage i → t.told i = s.told i

end Invariant

/-! ### Nothing interferes -/

section Interference

variable {subscriber : ι → S} {message : ι → RemoteConfigMessage} {base : List ι}
  {j : Option ι} {p q : Process ι} {s t : Shared ι S}

theorem Guarantee.refl (p : Process ι) (s : Shared ι S) : Guarantee p s s where
  grows := .refl _
  added := List.prefix_refl _
  adds := fun _ => .inl
  told := fun _ _ => rfl

theorem Guarantee.not_added {i : ι} (h : Guarantee p s t) (hp : p ≠ .subscribe i)
    (hi : i ∉ s.added) : i ∉ t.added :=
  fun hmem => (h.adds i hmem).elim hi hp

theorem Guarantee.reaches {calls : List ι} (h : Guarantee p s t) (hs : Reaches base s calls) :
    Reaches base t calls := ⟨hs.1.trans h.added, hs.2⟩

theorem Guarantee.subscribeFine {i : ι} {pc : SubscribePc} (h : Guarantee p s t)
    (hp : p ≠ .subscribe i) (hfine : SubscribeFine subscriber i s pc) :
    SubscribeFine subscriber i t pc := by
  cases pc with
  | read => exact h.not_added hp hfine
  | copy current => exact ⟨h.not_added hp hfine.1, h.grows.allocated hfine.2⟩
  | compareExchange current updated =>
    obtain ⟨hnot, hcurrent, hupdated, hcontent⟩ := hfine
    refine ⟨h.not_added hp hnot, h.grows.allocated hcurrent, h.grows.allocated hupdated, ?_⟩
    rw [h.grows.get hupdated, h.grows.get hcurrent, hcontent]
  | added => exact h.added.subset hfine
  | returned => exact h.added.subset hfine

theorem Guarantee.handleFine {i : ι} {pc : HandlePc} (h : Guarantee p s t)
    (hp : p ≠ .handleMessage i) (hfine : HandleFine subscriber message base i s pc) :
    HandleFine subscriber message base i t pc := by
  have htold := h.told i hp
  cases pc with
  | filter => exact htold.trans hfine
  | read config => exact ⟨htold.trans hfine.1, hfine.2⟩
  | notify config subscribers index =>
    obtain ⟨hvalid, hallocated, hprogress, calls, hcalls, hcontent⟩ := hfine
    refine ⟨hvalid, h.grows.allocated hallocated, ?_, calls, h.reaches hcalls, ?_⟩
    · rw [htold, h.grows.get hallocated, hprogress]
    · rw [h.grows.get hallocated, hcontent]
  | returned =>
    rw [HandleFine] at hfine ⊢
    split at hfine
    · exact htold.trans hfine
    · obtain ⟨calls, hcalls, hprogress⟩ := hfine
      exact ⟨calls, h.reaches hcalls, htold.trans hprogress⟩

theorem Guarantee.fine [DecidableEq ι] {pc : Pc} (h : Guarantee p s t) (hne : q ≠ p)
    (hfine : Fine subscriber message base j q s pc) : Fine subscriber message base j q t pc := by
  cases q <;> cases pc
  case subscribe.subscribe i pc => exact h.subscribeFine (fun heq => hne heq.symm) hfine
  case handleMessage.handleMessage i pc => exact h.handleFine (fun heq => hne heq.symm) hfine
  all_goals exact hfine

end Interference

/-! ### The steps -/

section StepSpecs

variable {subscriber : ι → S} {message : ι → RemoteConfigMessage} {base : List ι}
  {s t : Shared ι S}

/-- What a step of `Subscribe` does. -/
theorem subscribeStep_spec {i : ι} {pc pc' : SubscribePc} (hs : Coherent subscriber s)
    (hfine : SubscribeFine subscriber i s pc)
    (h : subscribeStep i (subscriber i) s pc = some (t, pc')) :
    Coherent subscriber t ∧ SubscribeFine subscriber i t pc' ∧ Guarantee (.subscribe i) s t := by
  cases pc with
  | read =>
    obtain ⟨rfl, rfl⟩ := Prod.mk.inj (Option.some.inj h)
    exact ⟨hs, ⟨hfine, hs.allocated⟩, .refl _ _⟩
  | copy current =>
    obtain ⟨rfl, rfl⟩ := Prod.mk.inj (Option.some.inj h)
    have hgrows : s.subscribers.Grows
        (s.subscribers.alloc (s.subscribers.get current ++ [subscriber i])) :=
      CopyOnWrite.grows_alloc hs.allocated
    refine ⟨⟨hgrows.allocated hs.allocated, ?_, hs.nodup⟩, ⟨hfine.1, hgrows.allocated hfine.2,
      CopyOnWrite.allocated_alloc_length, ?_⟩,
      ⟨hgrows, List.prefix_refl _, fun _ => .inl, fun _ _ => rfl⟩⟩
    · exact (hgrows.get hs.allocated).trans hs.value
    · rw [hgrows.get hfine.2]
      exact CopyOnWrite.get_alloc_length
  | compareExchange current updated =>
    obtain ⟨hnot, -, hupdated, hcontent⟩ := hfine
    rw [subscribeStep] at h
    cases hexchanged : (s.subscribers.compareExchange updated current).2 with
    | false =>
      simp only [hexchanged, Bool.false_eq_true, if_false] at h
      obtain ⟨rfl, rfl⟩ := Prod.mk.inj (Option.some.inj h)
      exact ⟨hs, hnot, .refl _ _⟩
    | true =>
      simp only [hexchanged, if_true] at h
      obtain ⟨rfl, rfl⟩ := Prod.mk.inj (Option.some.inj h)
      have hgrows := CopyOnWrite.grows_compareExchange hcontent
      refine ⟨⟨?_, ?_, ?_⟩, List.mem_append_right _ (List.mem_singleton_self i),
        ⟨hgrows, List.prefix_append .., fun i' hmem => ?_, fun _ _ => rfl⟩⟩
      · rw [(CopyOnWrite.compareExchange_eq_true hexchanged).2]
        exact hupdated
      · rw [CopyOnWrite.value_compareExchange hcontent hexchanged, hs.value, List.map_append]
        rfl
      · exact hs.nodup.append (List.nodup_singleton i) (List.disjoint_singleton.mpr hnot)
      · rcases List.mem_append.mp hmem with hmem | hmem
        · exact .inl hmem
        · exact .inr (congrArg Process.subscribe (List.mem_singleton.mp hmem).symm)
  | added =>
    obtain ⟨rfl, rfl⟩ := Prod.mk.inj (Option.some.inj h)
    exact ⟨hs, hfine, .refl _ _⟩
  | returned => cases h

/-- What a step of `HandleMessage` does. -/
theorem handleMessageStep_spec [DecidableEq ι] {i : ι} {pc pc' : HandlePc}
    (hs : Coherent subscriber s) (hbase : base <+: s.added)
    (hfine : HandleFine subscriber message base i s pc)
    (h : handleMessageStep i (message i) s pc = some (t, pc')) :
    Coherent subscriber t ∧ HandleFine subscriber message base i t pc' ∧
      Guarantee (.handleMessage i) s t := by
  cases pc with
  | filter =>
    rw [handleMessageStep] at h
    cases hvalid : extract (message i) with
    | none =>
      rw [hvalid] at h
      obtain ⟨rfl, rfl⟩ := Prod.mk.inj (Option.some.inj h)
      refine ⟨hs, ?_, .refl _ _⟩
      rw [HandleFine, hvalid]
      exact hfine
    | some config =>
      rw [hvalid] at h
      obtain ⟨rfl, rfl⟩ := Prod.mk.inj (Option.some.inj h)
      exact ⟨hs, ⟨hfine, hvalid⟩, .refl _ _⟩
  | read config =>
    obtain ⟨rfl, rfl⟩ := Prod.mk.inj (Option.some.inj h)
    exact ⟨hs, ⟨hfine.2, hs.allocated, hfine.1, s.added, ⟨List.prefix_refl _, hbase⟩, hs.value⟩,
      .refl _ _⟩
  | notify config subscribers index =>
    obtain ⟨hvalid, hallocated, hprogress, calls, hcalls, hcontent⟩ := hfine
    rw [handleMessageStep] at h
    split at h
    · next subscriber' hnext =>
      obtain ⟨rfl, rfl⟩ := Prod.mk.inj (Option.some.inj h)
      refine ⟨⟨hs.allocated, hs.value, hs.nodup⟩, ⟨hvalid, hallocated, ?_, calls, hcalls,
        hcontent⟩, ⟨.refl _, List.prefix_refl _, fun _ => .inl, fun i' hne => ?_⟩⟩
      · dsimp only
        rw [Function.update_self, hprogress, List.take_add_one, hnext, List.map_append]
        rfl
      · exact Function.update_of_ne (fun heq => hne (congrArg Process.handleMessage heq.symm)) ..
    · next hend =>
      -- the loop has come to the end of the array
      obtain ⟨rfl, rfl⟩ := Prod.mk.inj (Option.some.inj h)
      refine ⟨hs, ?_, .refl _ _⟩
      rw [HandleFine, hvalid]
      refine ⟨calls, hcalls, ?_⟩
      rw [hprogress, List.take_of_length_le (List.getElem?_eq_none_iff.mp hend), hcontent,
        List.map_map]
      rfl
  | returned => cases h

end StepSpecs

/-! ### The main result -/

section Main

variable [DecidableEq ι] (subscriber : ι → S) (message : ι → RemoteConfigMessage)

/-- The proof outline. -/
def subscriptionOutline (base : List ι) (j : Option ι) :
    Pool.Outline (step subscriber message) fun _ _ => True :=
  .ofGuarantee (fun s => Coherent subscriber s ∧ base <+: s.added)
    (fun p s pc => Fine subscriber message base j p s pc) Guarantee
    (by
      intro p e c s pc' _ hglobal hloc hstep
      obtain ⟨hs, hbase⟩ := hglobal
      revert hloc hstep
      cases p <;> cases c.pc _ <;> intro hloc hstep <;>
        simp only [step, reduceCtorEq, Option.map_eq_some_iff] at hstep
      case subscribe.subscribe i pc =>
        obtain ⟨r, hr, hrt⟩ := hstep
        obtain ⟨rfl, rfl⟩ := Prod.mk.inj hrt
        obtain ⟨ht, hfine, hguarantee⟩ := subscribeStep_spec hs hloc hr
        exact ⟨⟨ht, hbase.trans hguarantee.added⟩, hfine, hguarantee⟩
      case handleMessage.handleMessage i pc =>
        obtain ⟨r, hr, hrt⟩ := hstep
        obtain ⟨rfl, rfl⟩ := Prod.mk.inj hrt
        have hreached : (if some i = j then base else []) <+: c.shared.added := by
          split_ifs
          · exact hbase
          · exact List.nil_prefix
        obtain ⟨ht, hfine, hguarantee⟩ := handleMessageStep_spec hs hreached hloc hr
        exact ⟨⟨ht, hbase.trans hguarantee.added⟩, hfine, hguarantee⟩)
    (fun _ _ _ _ _ hne hguarantee hfine => hguarantee.fine hne hfine)

/-- The exchange of a call of `Subscribe` has succeeded. -/
def Succeeded (c : Config ι S) (i : ι) : Prop :=
  c.pc (.subscribe i) = .subscribe .added ∨ c.pc (.subscribe i) = .subscribe .returned

variable {subscriber message}

theorem subscriptionOutline_initial :
    (subscriptionOutline subscriber message [] none).Holds initial where
  global := ⟨⟨Nat.zero_lt_one, rfl, List.nodup_nil⟩, List.nil_prefix⟩
  loc := fun p => by
    cases p with
    | subscribe i => exact List.not_mem_nil
    | handleMessage i => exact rfl

/-- The calls whose exchange has succeeded are those in `added`. -/
theorem mem_added_iff {base : List ι} {j : Option ι} {c : Config ι S}
    (hc : (subscriptionOutline subscriber message base j).Holds c) (i : ι) :
    i ∈ c.shared.added ↔ Succeeded c i := by
  have hloc : Fine subscriber message base j (.subscribe i) c.shared (c.pc (.subscribe i)) :=
    hc.loc (.subscribe i)
  rw [Succeeded]
  cases hpc : c.pc (.subscribe i) with
  | handleMessage pc =>
    rw [hpc] at hloc
    exact hloc.elim
  | subscribe pc =>
    rw [hpc] at hloc
    cases pc with
    | read => exact iff_of_false hloc (by simp)
    | copy current => exact iff_of_false hloc.1 (by simp)
    | compareExchange current updated => exact iff_of_false hloc.1 (by simp)
    | added => exact iff_of_true hloc (.inl rfl)
    | returned => exact iff_of_true hloc (.inr rfl)

/-- A call of `HandleMessage` that has not read the array yet. -/
def BeforeRead (c : Config ι S) (j : ι) : Prop :=
  c.pc (.handleMessage j) = .handleMessage .filter ∨
    ∃ config, c.pc (.handleMessage j) = .handleMessage (.read config)

/-- Such a call will reach all calls that have succeeded. -/
theorem holds_base {j : Option ι} {c : Config ι S}
    (hc : (subscriptionOutline subscriber message [] none).Holds c)
    (hbefore : ∀ i, some i = j → BeforeRead c i) :
    (subscriptionOutline subscriber message c.shared.added j).Holds c where
  global := ⟨hc.global.1, List.prefix_refl _⟩
  loc := fun p => by
    have hloc : Fine subscriber message [] none p c.shared (c.pc p) := hc.loc p
    change Fine subscriber message c.shared.added j p c.shared (c.pc p)
    cases p with
    | subscribe i =>
      cases hpc : c.pc (.subscribe i) <;> rw [hpc] at hloc <;> exact hloc
    | handleMessage i =>
      by_cases hij : some i = j
      · rcases hbefore i hij with hpc | ⟨config, hpc⟩ <;> rw [hpc] at hloc ⊢ <;> exact hloc
      · cases hpc : c.pc (.handleMessage i) with
        | subscribe pc =>
          rw [hpc] at hloc
          exact hloc
        | handleMessage pc =>
          rw [hpc] at hloc
          rw [Fine, if_neg hij]
          exact hloc

/-- Where there is one call for a subscriber, the subscriber is told once. -/
theorem countP_told [DecidableEq S] {calls : List ι} (hnodup : calls.Nodup) {i : ι}
    (hi : i ∈ calls) (honly : ∀ i', subscriber i' = subscriber i → i' = i)
    (config : ElasticRemoteConfig) :
    (calls.map fun i' => (subscriber i', config)).countP (fun r => r.1 = subscriber i) = 1 := by
  rw [List.countP_map, ← List.count_eq_one_of_mem hnodup hi, List.count]
  refine List.countP_congr fun i' _ => ?_
  simpa using ⟨fun h => honly i' h, fun h => congrArg subscriber h⟩

/-- **Nobody is lost.** In every state the array lists the subscribers of the calls whose exchange
has succeeded, one entry for each call; it is a prefix of every later one. A call that handles a
valid message tells, one after the other, the subscribers of distinct calls that have succeeded,
and among them all that had returned before it read the array; so a subscriber with one
subscription is told once. -/
theorem subscription_losesNobody [DecidableEq S] (subscriber : ι → S)
    (message : ι → RemoteConfigMessage) (as bs : List (Process ι × Unit)) (c d : Config ι S)
    (hc : exec (Pool.next (step subscriber message)) as initial = some c)
    (hd : exec (Pool.next (step subscriber message)) bs c = some d) :
    (∃ calls : List ι, calls.Nodup ∧ (∀ i, i ∈ calls ↔ Succeeded c i) ∧
      c.shared.subscribers.value = calls.map subscriber) ∧
    c.shared.subscribers.value <+: d.shared.subscribers.value ∧
    ∀ j config, extract (message j) = some config → BeforeRead c j →
      d.pc (.handleMessage j) = .handleMessage .returned →
      (∃ calls : List ι, calls.Nodup ∧
        (∀ i, c.pc (.subscribe i) = .subscribe .returned → i ∈ calls) ∧
        (∀ i ∈ calls, Succeeded d i) ∧
        d.shared.told j = calls.map fun i => (subscriber i, config)) ∧
      ∀ i, c.pc (.subscribe i) = .subscribe .returned →
        (∀ i', subscriber i' = subscriber i → i' = i) →
        (d.shared.told j).countP (fun r => r.1 = subscriber i) = 1 := by
  have hholds := (subscriptionOutline subscriber message [] none).exec_always
    subscriptionOutline_initial hc
  have hlater := (subscriptionOutline subscriber message c.shared.added none).exec_always
    (holds_base hholds nofun) hd
  refine ⟨⟨c.shared.added, hholds.global.1.nodup, mem_added_iff hholds, hholds.global.1.value⟩,
    ?_, fun j config hvalid hbefore hreturned => ?_⟩
  · rw [hholds.global.1.value, hlater.global.1.value]
    exact hlater.global.2.map subscriber
  · have htold := (subscriptionOutline subscriber message c.shared.added (some j)).exec_always
      (holds_base hholds (by rintro i ⟨⟩; exact hbefore)) hd
    have hloc : Fine subscriber message c.shared.added (some j) (.handleMessage j) d.shared
      (d.pc (.handleMessage j)) := htold.loc (.handleMessage j)
    rw [hreturned, Fine, if_pos rfl, HandleFine, hvalid] at hloc
    obtain ⟨calls, ⟨hsucceeded, hreached⟩, htells⟩ := hloc
    have hnodup : calls.Nodup := htold.global.1.nodup.sublist hsucceeded.sublist
    have hmem : ∀ i, c.pc (.subscribe i) = .subscribe .returned → i ∈ calls := fun i hi =>
      hreached.subset ((mem_added_iff hholds i).mpr (.inr hi))
    refine ⟨⟨calls, hnodup, hmem, fun i hi => ?_, htells⟩, fun i hi honly => ?_⟩
    · exact (mem_added_iff htold i).mp (hsucceeded.subset hi)
    · rw [htells]
      exact countP_told hnodup (hmem i hi) honly config

end Main

/-! ### Two contending subscribers -/

/-- A message that asks for debug logging. -/
def debugMessage : RemoteConfigMessage :=
  levelMessage "\x7b\"log_level\": \"debug\"\x7d".toList

/-- The exchange of the first call fails, as the second one was faster; it tries again. -/
def contended : List (Process Bool × Unit) :=
  List.replicate 2 (.subscribe false, ()) ++ List.replicate 4 (.subscribe true, ()) ++
    List.replicate 5 (.subscribe false, ())

/-- Both are told, in the order in which they have succeeded. -/
theorem subscription_losesNobody_contended :
    ∃ c d, exec (Pool.next (step (fun i => i) fun _ => debugMessage)) contended initial = some c ∧
      exec (Pool.next (step (fun i => i) fun _ => debugMessage))
        (List.replicate 5 (.handleMessage true, ())) c = some d ∧
      (d.shared.told true).map Prod.fst = [true, false] ∧
      (d.shared.told true).countP (fun r => r.1 = false) = 1 := by
  have hrun : (exec (Pool.next (step (fun i => i) fun _ => debugMessage)) contended
      initial).isSome = true := rfl
  have hc := (Option.some_get hrun).symm
  have hlater : (exec (Pool.next (step (fun i => i) fun _ => debugMessage))
      (List.replicate 5 (.handleMessage true, ()))
      ((exec (Pool.next (step (fun i => i) fun _ => debugMessage)) contended initial).get
        hrun)).isSome = true := rfl
  have hd := (Option.some_get hlater).symm
  refine ⟨_, _, hc, hd, rfl, ?_⟩
  exact ((subscription_losesNobody (fun i => i) (fun _ => debugMessage) contended _ _ _ hc hd).2.2
    true ⟨some "debug".toList⟩ rfl (.inl rfl) rfl).2 false rfl fun _ h => h

end ElasticOpenTelemetry.Subscription
