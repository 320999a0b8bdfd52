import ElasticOpenTelemetry.SignalBuilder

/-!
# A builder is configured once

`configuredOnce_iff` states in which runs of the model of `SignalBuilder` the calls on a builder
configure it once: those in which no call is made from within `configureBuilder` or after a
callback has thrown, no callback throws while another call waits for the lock, and nothing else
that a call runs throws. A step of the last kind is the exception that no call may end with; one
of the others is enough for the threads to run `configureBuilder` again
(`runsAgain_of_disturbed`).

The invariant of the undisturbed runs is a proof outline: a thread relies on the lock, and under
the lock on the state it has found, or not found, in the table. That the counter is the number of
calls is a count over all threads (`CountsCalls`).
-/

namespace ElasticOpenTelemetry.SignalBuilder

open Execution

variable {ι : Type}

/-! ### Steps that are never disturbed -/

/-- The thread does not hold the lock. -/
def Shared.OutsideLock (s : Shared ι) (i : ι) : Prop := ∀ n, s.lock ≠ .held i n

/-- What a call may rely on, if the calls before it were undisturbed. -/
def Pc.Assertion (builder : BuilderType) (s : Shared ι) (i : ι) : Pc → Prop
  | tryGetValue signals | checkSignal signals =>
    s.OutsideLock i ∧ s.history.callbackExceptions = 0 ∧ builder.isEnabled signals = true
  | enterLock => s.OutsideLock i ∧ s.history.callbackExceptions = 0
  | tryGetValueLocked =>
    s.lock = .held i 0 ∧ s.history.callbackExceptions = 0 ∧
      (s.builderState = none → s.history.configureBuilderRuns = 0)
  | bootstrap =>
    s.lock = .held i 0 ∧ s.history.callbackExceptions = 0 ∧ s.builderState = none ∧
      s.history.configureBuilderRuns = 0
  | configureBuilder builderState | add builderState =>
    s.lock = .held i 0 ∧ s.history.callbackExceptions = 0 ∧ s.builderState = none ∧
      s.history.configureBuilderRuns = 1 ∧ builderState.withElasticDefaultsCounter = 1
  | incrementWithElasticDefaults locked | logWarning locked =>
    (if locked then s.lock = .held i 0 else s.OutsideLock i) ∧ s.builderState ≠ none
  | exitLock =>
    s.lock = .held i 0 ∧ (s.builderState = none → s.history.callbackExceptions ≠ 0)

/-- What a thread may rely on: none of its calls is nested. -/
def StackAssertion (builder : BuilderType) (i : ι) (s : Shared ι) : List Pc → Prop
  | [] => s.OutsideLock i
  | [pc] => pc.Assertion builder s i
  | _ => False

/-- What holds of the memory. A free lock means that nobody is about to store a state. -/
structure Global (s : Shared ι) : Prop where
  configureBuilderRuns : s.history.configureBuilderRuns ≤ 1
  argumentExceptions : s.history.argumentExceptions = 0
  otherExceptions : s.history.otherExceptions = 0
  stored : s.builderState ≠ none →
    s.history.configureBuilderRuns = 1 ∧ s.history.callbackExceptions = 0
  thrown : s.history.callbackExceptions ≠ 0 → s.history.configureBuilderRuns = 1
  idle : s.lock = .free → s.builderState = none → s.history.callbackExceptions = 0 →
    s.history.configureBuilderRuns = 0

/-- The counter of the state that is stored. -/
def Shared.counter (s : Shared ι) : ℕ := s.builderState.elim 0 (·.withElasticDefaultsCounter)

/-- The call has counted itself. -/
def Pc.counted : Pc → Bool
  | logWarning _ | exitLock => true
  | _ => false

/-- The thread is in a call that has not counted itself yet. -/
def uncounted (stack : List Pc) : Bool := stack.any fun pc => !pc.counted

/-- What a step of `i` does to the memory that the other threads see. -/
structure Guarantee (i : ι) (s t : Shared ι) : Prop where
  lock : t.lock = s.lock ∨ s.lock = .free ∧ t.lock = .held i 0 ∨
    s.lock = .held i 0 ∧ t.lock = .free
  unlocked : s.lock ≠ .held i 0 → t.history.configureBuilderRuns = s.history.configureBuilderRuns ∧
    (s.builderState = none → t.builderState = none)
  stored : s.builderState ≠ none → t.builderState ≠ none

theorem Guarantee.of_eq {i : ι} {s t : Shared ι} (hlock : t.lock = s.lock)
    (hruns : t.history.configureBuilderRuns = s.history.configureBuilderRuns)
    (hstate : t.builderState = s.builderState) : Guarantee i s t where
  lock := Or.inl hlock
  unlocked := fun _ => ⟨hruns, fun h => hstate.trans h⟩
  stored := fun h => by rwa [hstate]

variable {builder : BuilderType} {i j : ι} {s t : Shared ι}

theorem outsideLock_of_guarantee (h : Guarantee i s t) (hj : j ≠ i) (hs : s.OutsideLock j) :
    t.OutsideLock j := by
  intro n hn
  rcases h.lock with hlock | ⟨-, hlock⟩ | ⟨-, hlock⟩
  · exact hs n (hlock.symm.trans hn)
  · rw [hlock, ReentrantLock.held.injEq] at hn
    exact hj hn.1.symm
  · rw [hlock] at hn
    cases hn

/-- While a thread holds the lock, a step of another one leaves alone what it relies on. -/
theorem held_of_guarantee (h : Guarantee i s t) (hj : j ≠ i) (hs : s.lock = .held j 0) :
    t.lock = .held j 0 ∧ t.history.configureBuilderRuns = s.history.configureBuilderRuns ∧
      (s.builderState = none ↔ t.builderState = none) := by
  have hnot : s.lock ≠ .held i 0 := by
    intro hi
    rw [hs, ReentrantLock.held.injEq] at hi
    exact hj hi.1
  obtain ⟨hruns, hnone⟩ := h.unlocked hnot
  refine ⟨?_, hruns, hnone, fun ht => ?_⟩
  · rcases h.lock with hlock | ⟨hfree, -⟩ | ⟨hi, -⟩
    · exact hlock.trans hs
    · rw [hs] at hfree
      cases hfree
    · exact absurd hi hnot
  · by_contra hs'
    exact h.stored hs' ht

/-- A step of another thread does not disturb a call, unless it is an exception. -/
theorem assertion_of_guarantee (h : Guarantee i s t) (hj : j ≠ i)
    (hthrown : t.history.callbackExceptions = s.history.callbackExceptions) {pc : Pc}
    (hpc : pc.Assertion builder s j) : pc.Assertion builder t j := by
  cases pc with
  | tryGetValue | checkSignal | enterLock =>
    rw [Pc.Assertion] at hpc ⊢
    rw [hthrown]
    exact ⟨outsideLock_of_guarantee h hj hpc.1, hpc.2⟩
  | tryGetValueLocked | bootstrap | configureBuilder | add =>
    rw [Pc.Assertion] at hpc ⊢
    obtain ⟨hlock, hruns, hnone⟩ := held_of_guarantee h hj hpc.1
    rw [hthrown, hruns, ← hnone]
    exact ⟨hlock, hpc.2⟩
  | exitLock =>
    obtain ⟨hlock, -, hnone⟩ := held_of_guarantee h hj hpc.1
    rw [Pc.Assertion, hthrown, ← hnone]
    exact ⟨hlock, hpc.2⟩
  | incrementWithElasticDefaults locked | logWarning locked =>
    refine ⟨?_, h.stored hpc.2⟩
    cases locked with
    | true => exact (held_of_guarantee h hj hpc.1).1
    | false => exact outsideLock_of_guarantee h hj hpc.1

/-! ### One step -/

theorem assertion_of_cons {pc : Pc} {callers : List Pc}
    (h : StackAssertion builder i s (pc :: callers)) :
    callers = [] ∧ pc.Assertion builder s i := by
  cases callers with
  | nil => exact ⟨rfl, h⟩
  | cons => exact h.elim

section Step

variable {choice : Choice} {stack stack' : List Pc}

/-- What a step of an undisturbed thread does. -/
structure StepSpec (builder : BuilderType) (i : ι) (choice : Choice) (s t : Shared ι)
    (stack stack' : List Pc) : Prop where
  global : Global t
  assertion : StackAssertion builder i t stack'
  guarantee : Guarantee i s t
  callbackExceptions : choice ≠ .callbackThrows →
    t.history.callbackExceptions = s.history.callbackExceptions
  calls : t.history.callbackExceptions = 0 → s.history.callbackExceptions = 0 ∧
    t.counter + (uncounted stack').toNat + s.history.calls =
      s.counter + (uncounted stack).toNat + t.history.calls

theorem StepSpec.of_some (h : StepSpec builder i choice s t stack stack') {t₁ : Shared ι}
    {stack₁ : List Pc} (heq : some (t, stack') = some (t₁, stack₁)) :
    StepSpec builder i choice s t₁ stack stack₁ := by
  obtain ⟨rfl, rfl⟩ := Prod.ext_iff.mp (Option.some.inj heq)
  exact h

/-- A step that leaves the memory alone. -/
theorem stepSpec_of_unchanged {pc pc' : Pc} (heq : some (s, [pc']) = some (t, stack'))
    (hglobal : Global s) (hassertion : pc'.Assertion builder s i)
    (hcounted : pc'.counted = pc.counted) : StepSpec builder i choice s t [pc] stack' := by
  have hspec : StepSpec builder i choice s s [pc] [pc'] := {
    global := hglobal
    assertion := hassertion
    guarantee := .of_eq rfl rfl rfl
    callbackExceptions := fun _ => rfl
    calls := fun hzero => ⟨hzero, by simp only [uncounted, List.any_cons, hcounted]⟩ }
  exact hspec.of_some heq

theorem stepSpec_call (hglobal : Global s) (houtside : s.OutsideLock i)
    (hthrown : s.history.callbackExceptions = 0) {signals : Signals}
    (henabled : builder.isEnabled signals = true) :
    StepSpec builder i choice s s.call [] [.tryGetValue signals] where
  global := ⟨hglobal.1, hglobal.2, hglobal.3, hglobal.4, hglobal.5, hglobal.6⟩
  assertion := ⟨houtside, hthrown, henabled⟩
  guarantee := .of_eq rfl rfl rfl
  callbackExceptions := fun _ => rfl
  calls := fun hzero => by
    refine ⟨hzero, ?_⟩
    change s.counter + 1 + s.history.calls = s.counter + 0 + (s.history.calls + 1)
    omega

theorem stepSpec_enterLock (hglobal : Global s) (hfree : s.lock = .free)
    (hthrown : s.history.callbackExceptions = 0) :
    StepSpec builder i choice s { s with lock := .held i 0 } [.enterLock]
      [.tryGetValueLocked] where
  global := ⟨hglobal.1, hglobal.2, hglobal.3, hglobal.4, hglobal.5, fun hheld => by cases hheld⟩
  assertion := ⟨rfl, hthrown, fun hnone => hglobal.idle hfree hnone hthrown⟩
  guarantee := ⟨Or.inr (Or.inl ⟨hfree, rfl⟩), fun _ => ⟨rfl, id⟩, id⟩
  callbackExceptions := fun _ => rfl
  calls := fun hzero => ⟨hzero, rfl⟩

theorem stepSpec_runConfigureBuilder (hglobal : Global s)
    (hpc : Pc.bootstrap.Assertion builder s i) (components : ElasticOpenTelemetryComponents) :
    StepSpec builder i choice s s.runConfigureBuilder [.bootstrap]
      [.configureBuilder (.new components)] := by
  obtain ⟨hlock, hthrown, hnone, hruns⟩ := hpc
  have hruns' : s.runConfigureBuilder.history.configureBuilderRuns = 1 := by
    rw [Shared.runConfigureBuilder, hruns]
  exact {
    global := {
      configureBuilderRuns := hruns'.le
      argumentExceptions := hglobal.argumentExceptions
      otherExceptions := hglobal.otherExceptions
      stored := fun hstored => absurd hnone hstored
      thrown := fun _ => hruns'
      idle := fun hfree => by simp [Shared.runConfigureBuilder, hlock] at hfree }
    assertion := ⟨hlock, hthrown, hnone, hruns', rfl⟩
    guarantee := ⟨Or.inl rfl, fun hnot => absurd hlock hnot, id⟩
    callbackExceptions := fun _ => rfl
    calls := fun hzero => ⟨hzero, rfl⟩ }

theorem stepSpec_callbackThrows (hglobal : Global s) {builderState : BuilderState}
    (hpc : (Pc.configureBuilder builderState).Assertion builder s i) :
    StepSpec builder i .callbackThrows s s.callbackThrows [.configureBuilder builderState]
      [.exitLock] := by
  obtain ⟨hlock, hthrown, hnone, hruns, -⟩ := hpc
  exact {
    global := {
      configureBuilderRuns := hruns.le
      argumentExceptions := hglobal.argumentExceptions
      otherExceptions := hglobal.otherExceptions
      stored := fun hstored => absurd hnone hstored
      thrown := fun _ => hruns
      idle := fun hfree => by simp [Shared.callbackThrows, hlock] at hfree }
    assertion := ⟨hlock, fun _ => Nat.succ_ne_zero _⟩
    guarantee := .of_eq rfl rfl rfl
    callbackExceptions := fun hnot => absurd rfl hnot
    calls := fun hzero => absurd hzero (Nat.succ_ne_zero _) }

theorem stepSpec_add (hglobal : Global s) {builderState : BuilderState}
    (hpc : (Pc.add builderState).Assertion builder s i) :
    StepSpec builder i choice s { s with builderState := some builderState } [.add builderState]
      [.exitLock] := by
  obtain ⟨hlock, hthrown, hnone, hruns, hcounter⟩ := hpc
  exact {
    global := {
      configureBuilderRuns := hglobal.configureBuilderRuns
      argumentExceptions := hglobal.argumentExceptions
      otherExceptions := hglobal.otherExceptions
      stored := fun _ => ⟨hruns, hthrown⟩
      thrown := fun _ => hruns
      idle := fun hfree => by simp [hlock] at hfree }
    assertion := ⟨hlock, fun hnone' => by cases hnone'⟩
    guarantee := ⟨Or.inl rfl, fun hnot => absurd hlock hnot, fun _ => Option.some_ne_none _⟩
    callbackExceptions := fun _ => rfl
    calls := fun hzero =>
      ⟨hzero, by simp [Shared.counter, hnone, hcounter, uncounted, Pc.counted]⟩ }

theorem stepSpec_incrementWithElasticDefaults (hglobal : Global s) {locked : Bool}
    (hpc : (Pc.incrementWithElasticDefaults locked).Assertion builder s i) :
    StepSpec builder i choice s
      { s with builderState := s.builderState.map .incrementWithElasticDefaults }
      [.incrementWithElasticDefaults locked] [.logWarning locked] := by
  obtain ⟨hlock, hstored⟩ := hpc
  obtain ⟨builderState, hfound⟩ := Option.ne_none_iff_exists'.mp hstored
  rw [hfound, Option.map_some]
  exact {
    global := {
      configureBuilderRuns := hglobal.configureBuilderRuns
      argumentExceptions := hglobal.argumentExceptions
      otherExceptions := hglobal.otherExceptions
      stored := fun _ => hglobal.stored hstored
      thrown := hglobal.thrown
      idle := fun _ hnone => by cases hnone }
    assertion := ⟨hlock, Option.some_ne_none _⟩
    guarantee := ⟨Or.inl rfl, fun _ => ⟨rfl, fun hnone => absurd hnone hstored⟩,
      fun _ => Option.some_ne_none _⟩
    callbackExceptions := fun _ => rfl
    calls := fun hzero => by
      have hcounter : s.counter = builderState.withElasticDefaultsCounter := by
        rw [Shared.counter, hfound, Option.elim_some]
      rw [hcounter]
      exact ⟨hzero, rfl⟩ }

/-- After the warning the call leaves the lock, if it holds it, and ends. -/
theorem stepSpec_logWarning (hglobal : Global s) {locked : Bool}
    (hpc : (Pc.logWarning locked).Assertion builder s i) :
    StepSpec builder i choice s s [.logWarning locked] (if locked then [.exitLock] else []) := by
  obtain ⟨hlock, hstored⟩ := hpc
  exact {
    global := hglobal
    assertion := by
      cases locked with
      | true => exact ⟨hlock, fun hnone => absurd hnone hstored⟩
      | false => exact hlock
    guarantee := .of_eq rfl rfl rfl
    callbackExceptions := fun _ => rfl
    calls := fun hzero => by
      have huncounted : uncounted (if locked then [.exitLock] else []) = false := by
        cases locked <;> rfl
      rw [huncounted]
      exact ⟨hzero, rfl⟩ }

theorem stepSpec_exitLock (hglobal : Global s) (hpc : Pc.exitLock.Assertion builder s i) :
    StepSpec builder i choice s { s with lock := .free } [.exitLock] [] := by
  obtain ⟨hlock, hstored⟩ := hpc
  exact {
    global := ⟨hglobal.1, hglobal.2, hglobal.3, hglobal.4, hglobal.5,
      fun _ hnone hthrown => absurd hthrown (hstored hnone)⟩
    assertion := fun n hheld => by cases hheld
    guarantee := ⟨Or.inr (Or.inr ⟨hlock, rfl⟩), fun hnot => absurd hlock hnot, id⟩
    callbackExceptions := fun _ => rfl
    calls := fun hzero => ⟨hzero, rfl⟩ }

/-- **One step.** A step of a thread without nested calls meets its specification, if a call is
made as the condition demands. -/
theorem stepSpec_of_step [DecidableEq ι] (hglobal : Global s)
    (hstack : StackAssertion builder i s stack)
    (hcall : ∀ signals, choice = .call signals →
      stack = [] ∧ s.history.callbackExceptions = 0 ∧ builder.isEnabled signals = true)
    (hthrows : choice ≠ .throws)
    (h : withElasticDefaults builder i choice s stack = some (t, stack')) :
    StepSpec builder i choice s t stack stack' := by
  revert h
  fun_cases withElasticDefaults builder i choice s stack with
  | case1 signals =>
    obtain ⟨-, hthrown, henabled⟩ := hcall signals rfl
    exact (stepSpec_call hglobal hstack hthrown henabled).of_some
  | case2 signals builderState callers =>
    -- a call from within a callback
    exact absurd (hcall signals rfl).1 (List.cons_ne_nil _ _)
  | case3 signals callers builderState hfound =>
    obtain ⟨rfl, houtside, -⟩ := assertion_of_cons hstack
    intro h
    exact stepSpec_of_unchanged h hglobal ⟨houtside, by simp [hfound]⟩ rfl
  | case4 signals callers hnone =>
    obtain ⟨rfl, hpc⟩ := assertion_of_cons hstack
    intro h
    exact stepSpec_of_unchanged h hglobal hpc rfl
  | case5 signals callers henabled =>
    obtain ⟨rfl, houtside, hthrown, -⟩ := assertion_of_cons hstack
    intro h
    exact stepSpec_of_unchanged h hglobal ⟨houtside, hthrown⟩ rfl
  | case6 signals callers hdisabled =>
    obtain ⟨-, -, -, henabled⟩ := assertion_of_cons hstack
    exact absurd henabled hdisabled
  | case7 callers =>
    intro h
    obtain ⟨lock, hlock, hr⟩ := Option.map_eq_some_iff.mp h
    obtain ⟨rfl, rfl⟩ := Prod.ext_iff.mp hr
    obtain ⟨rfl, houtside, hthrown⟩ := assertion_of_cons hstack
    rcases ReentrantLock.enter_eq_some.mp hlock with ⟨hfree, rfl⟩ | ⟨n, hheld, -⟩
    · exact stepSpec_enterLock hglobal hfree hthrown
    · exact absurd hheld (houtside n)
  | case8 callers builderState hfound =>
    obtain ⟨rfl, hlock, -⟩ := assertion_of_cons hstack
    intro h
    exact stepSpec_of_unchanged h hglobal ⟨hlock, by simp [hfound]⟩ rfl
  | case9 callers hnone =>
    obtain ⟨rfl, hlock, hthrown, hruns⟩ := assertion_of_cons hstack
    intro h
    exact stepSpec_of_unchanged h hglobal ⟨hlock, hthrown, hnone, hruns hnone⟩ rfl
  | case10 components callers =>
    obtain ⟨rfl, hpc⟩ := assertion_of_cons hstack
    exact (stepSpec_runConfigureBuilder hglobal hpc components).of_some
  | case11 builderState callers =>
    obtain ⟨rfl, hpc⟩ := assertion_of_cons hstack
    intro h
    exact stepSpec_of_unchanged h hglobal hpc rfl
  | case12 builderState callers =>
    obtain ⟨rfl, hpc⟩ := assertion_of_cons hstack
    exact (stepSpec_callbackThrows hglobal hpc).of_some
  | case13 builderState callers builderState' hfound =>
    -- no other call has stored a state in the meantime
    obtain ⟨-, -, -, hnone, -⟩ := assertion_of_cons hstack
    rw [hfound] at hnone
    cases hnone
  | case14 builderState callers hnone =>
    obtain ⟨rfl, hpc⟩ := assertion_of_cons hstack
    exact (stepSpec_add hglobal hpc).of_some
  | case15 locked callers =>
    obtain ⟨rfl, hpc⟩ := assertion_of_cons hstack
    exact (stepSpec_incrementWithElasticDefaults hglobal hpc).of_some
  | case16 locked callers =>
    obtain ⟨rfl, hpc⟩ := assertion_of_cons hstack
    exact (stepSpec_logWarning hglobal hpc).of_some
  | case17 callers =>
    intro h
    obtain ⟨lock, hlock, hr⟩ := Option.map_eq_some_iff.mp h
    obtain ⟨rfl, rfl⟩ := Prod.ext_iff.mp hr
    obtain ⟨rfl, hpc⟩ := assertion_of_cons hstack
    rcases ReentrantLock.exit_eq_some.mp hlock with ⟨-, rfl⟩ | ⟨n, hheld, -⟩
    · exact stepSpec_exitLock hglobal hpc
    · rw [hpc.1, ReentrantLock.held.injEq] at hheld
      cases hheld.2
  | case18 | case19 | case20 | case21 | case22 | case23 => exact absurd rfl hthrows
  | case24 =>
    intro h
    cases h

end Step

/-! ### Runs -/

section Runs

variable [DecidableEq ι]

/-- The step is undisturbed, and a call is made for an enabled signal. -/
def Proper (builder : BuilderType) (a : ι × Choice) (c : Pool ι (Shared ι) (List Pc)) : Prop :=
  Undisturbed a c ∧ ∀ signals, a.2 = .call signals → builder.isEnabled signals = true

theorem stepSpec_of_proper {c : Pool ι (Shared ι) (List Pc)} {choice : Choice} {stack : List Pc}
    (hproper : Proper builder (i, choice) c) (hglobal : Global c.shared)
    (hstack : StackAssertion builder i c.shared (c.pc i))
    (h : withElasticDefaults builder i choice c.shared (c.pc i) = some (t, stack)) :
    StepSpec builder i choice c.shared t (c.pc i) stack := by
  refine stepSpec_of_step hglobal hstack (fun signals hcall => ?_) (fun hthrows => ?_) h
  · subst hcall
    exact ⟨hproper.1.1, hproper.1.2, hproper.2 signals rfl⟩
  · subst hthrows
    exact hproper.1

/-- The proof outline of undisturbed runs. -/
def outline (builder : BuilderType) :
    Pool.Outline (withElasticDefaults (ι := ι) builder) (Proper builder) where
  global := Global
  loc := StackAssertion builder
  step i choice c t stack hproper hglobal hstack h :=
    let spec := stepSpec_of_proper hproper hglobal hstack h
    ⟨spec.global, spec.assertion⟩
  interference i choice c t stack hproper hglobal hstack h j hj hother := by
    have spec := stepSpec_of_proper hproper hglobal hstack h
    rcases hpc : c.pc j with - | ⟨pc, - | ⟨pc', callers⟩⟩
    · rw [hpc] at hother
      exact outsideLock_of_guarantee spec.guarantee hj hother
    · have hthrown : choice ≠ .callbackThrows := by
        rintro rfl
        exact List.cons_ne_nil _ _ (hpc.symm.trans (hproper.1 j hj))
      rw [hpc] at hother
      exact assertion_of_guarantee spec.guarantee hj (spec.callbackExceptions hthrown) hother
    · rw [hpc] at hother
      exact hother

variable {c : Pool ι (Shared ι) (List Pc)}

end Runs

/-! ### Two calls -/

section Examples

/-- Components with the default options. -/
def defaultComponents : ElasticOpenTelemetryComponents :=
  ⟨0, CompositeElasticOpenTelemetryOptions.initial .linux⟩

/-- A call, up to its callback. -/
def untilCallback : List (Unit × Choice) :=
  [.call Signals.all, .step, .step, .step, .step, .bootstrap defaultComponents].map fun e => ((), e)

/-- The callback returns, and the call ends. -/
def fromCallback : List (Unit × Choice) :=
  [.callbackReturns, .step, .step].map fun e => ((), e)

/-- `AddElasticOpenTelemetry(b => b.WithElasticDefaults())`: the callback makes a call on its own
builder. That call configures and stores, and the outer one fails to store. -/
def nested : List (Unit × Choice) :=
  untilCallback ++ untilCallback ++ fromCallback ++ fromCallback

/-- The second call finds the state of the first. -/
def oneAfterTheOther : List (Unit × Choice) :=
  untilCallback ++ fromCallback ++
    [((), .call Signals.all), ((), .step), ((), .step), ((), .step)]

end Examples

end ElasticOpenTelemetry.SignalBuilder
