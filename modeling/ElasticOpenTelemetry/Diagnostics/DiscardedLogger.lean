import ElasticOpenTelemetry.Diagnostics.DeferredLogger

/-!
# A discarded pre-activation logger

`ClearPreActivationInstance` (`CompositeLogger.cs`) discards the pre-activation logger when
`Bootstrap` hands out existing components. It clears the static reference and nothing else: the
instance keeps its options, its queue and its running safety timer. `discarded_silent_iff` states
in which runs the instance never creates a `FileLogger` of its own, whose constructor opens the
log file that the existing components write to.

Calls of `Log`, `Activate` and `OnSafetyTimerElapsed` are those of `Diagnostics.DeferredLogger`.
Anybody who has got hold of the instance may still make them, or dispose of it.
-/

namespace ElasticOpenTelemetry.DiscardedLogger

open DotNet Execution DeferredLogger

variable {ι : Type}

/-! ### The system -/

/-- Where `CompositeLogger.Dispose` is. The `FileLogger` that it disposes of has no part here. -/
inductive DisposePc
  | setIsDisposed
  | clearAdditionalLogger
  | disposeTimer
  | returned
  deriving DecidableEq, Repr

/-- The logger with the calls on it, and a call of `Dispose`. -/
structure State (ι : Type) where
  logger : Config ι
  dispose : DisposePc

/-- A step of a call, or of `Bootstrap`, which discards the instance. -/
inductive Action (ι : Type)
  | call (p : Process ι) (enabled : Bool)
  | dispose
  /-- `GetOrCreate` stores its options on the existing instance -/
  | storeOptions (options : CompositeElasticOpenTelemetryOptions)
  | clearPreActivationInstance

/-- `Dispose`. -/
def disposeStep (s : Shared ι) : DisposePc → Option (Shared ι × DisposePc)
  | .setIsDisposed => some ({ s with isDisposed := true }, .clearAdditionalLogger)
  | .clearAdditionalLogger => some ({ s with additionalLogger := none }, .disposeTimer)
  | .disposeTimer => some ({ s with safetyTimer := false }, .returned)
  | .returned => none

/-- `ClearPreActivationInstance`. -/
def clearPreActivationInstance (s : Shared ι) : Shared ι :=
  { s with isPreActivationInstance := false }

/-- One step; `arg i` is the argument of the call `i` of `Activate`. -/
def next [DecidableEq ι] (arg : ι → CompositeElasticOpenTelemetryOptions) (a : Action ι)
    (c : State ι) : Option (State ι) :=
  match a with
  | .call p enabled =>
    (Pool.next (step arg) (p, enabled) c.logger).map fun logger => { c with logger := logger }
  | .dispose =>
    (disposeStep c.logger.shared c.dispose).map fun r =>
      ⟨{ c.logger with shared := r.1 }, r.2⟩
  | .storeOptions options =>
    some { c with
      logger := { c.logger with shared := { c.logger.shared with options := some options } } }
  | .clearPreActivationInstance =>
    some { c with
      logger := { c.logger with shared := clearPreActivationInstance c.logger.shared } }

/-- The instance has just been created in deferred mode. -/
def initial (options : Option CompositeElasticOpenTelemetryOptions) : State ι :=
  ⟨DeferredLogger.initial options, .setIsDisposed⟩

/-- The `FileLogger`s there are for the log file: that of the existing components, and the one
that the instance has created. -/
def fileLoggers (existing : CompositeElasticOpenTelemetryOptions) (c : State ι) :
    List CompositeElasticOpenTelemetryOptions :=
  existing :: c.logger.shared.fileLogger.toList

/-- From `c` to `d` the instance has created no sub-loggers, and the `FileLogger` of the existing
components is the only one. -/
structure Silent (existing : CompositeElasticOpenTelemetryOptions) (c d : State ι) : Prop where
  creations : d.logger.shared.creations = c.logger.shared.creations
  fileLoggers : fileLoggers existing d = [existing]

/-- The steps that leave the instance alone: `Activate` is not called on it, and the safety timer
does not get to read options of it, as the instance is disposed of first or has none yet. -/
def LeavesAlone (a : Action ι) (c : State ι) : Prop :=
  match a with
  | .call (.activate i) _ => c.logger.pc (.activate i) ≠ .activate .compareExchange
  | .call (.safetyTimer i) _ =>
    c.logger.pc (.safetyTimer i) = .safetyTimer .readOptions → c.logger.shared.options = none
  | .call (.log _) _ | .dispose | .storeOptions _ | .clearPreActivationInstance => True

/-! ### What a step does to the instance -/

/-- The fields that decide about an activation are as they were. -/
structure Keeps (s t : Shared ι) : Prop where
  activationState : t.activationState = s.activationState
  fileLogger : t.fileLogger = s.fileLogger
  creations : t.creations = s.creations
  deferredQueue : t.deferredQueue.isSome = true → s.deferredQueue.isSome = true

theorem Keeps.refl (s : Shared ι) : Keeps s s := ⟨rfl, rfl, rfl, id⟩

theorem keeps_logStep {entry : Entry ι} {route : Route} {enabled : Bool} {s t : Shared ι}
    {pc pc' : LogPc} (h : logStep entry route enabled s pc = some (t, pc')) : Keeps s t := by
  cases pc <;> simp only [logStep] at h
  case enqueueLocked =>
    split at h
    · rename_i queue hqueue
      obtain ⟨rfl, rfl⟩ := Prod.ext_iff.mp (Option.some.inj h)
      exact ⟨rfl, rfl, rfl, fun _ => by rw [hqueue]; rfl⟩
    · obtain ⟨rfl, rfl⟩ := Prod.ext_iff.mp (Option.some.inj h)
      exact .refl s
  case returned => cases h
  case threw => cases h
  all_goals
    split_ifs at h <;> obtain ⟨rfl, rfl⟩ := Prod.ext_iff.mp (Option.some.inj h) <;>
      exact ⟨rfl, rfl, rfl, id⟩

/-- The process goes on to create the sub-loggers unless another one does. -/
def Committed (s : Shared ι) : Process ι → Pc ι → Prop
  | .activate _, .activate .assign => True
  | .safetyTimer _, .safetyTimer (.activate _ .assign) => True
  | .safetyTimer _, .safetyTimer (.activate _ .compareExchange) => s.activationState = 0
  | _, _ => False

theorem committed_of_keeps {s t : Shared ι} (h : Keeps s t) {p : Process ι} {pc : Pc ι}
    (hcommitted : Committed s p pc) : Committed t p pc := by
  unfold Committed at hcommitted ⊢
  rw [h.activationState]
  exact hcommitted

/-- **What one step can do.** It keeps the fields that decide about an activation, claims the
activation, or creates the sub-loggers; a committed process stays committed until then. -/
inductive Move (s t : Shared ι) (p : Process ι) (pc pc' : Pc ι) : Prop
  | keeps (keeps : Keeps s t) (committed : Committed s p pc → Committed t p pc')
  | claims (committed : Committed t p pc') (fileLogger : t.fileLogger = s.fileLogger)
      (creations : t.creations = s.creations) (deferredQueue : t.deferredQueue = s.deferredQueue)
  | creates (options : CompositeElasticOpenTelemetryOptions) (assigned : t = s.assign options)

section Moves

variable {s t : Shared ι} {p : Process ι} {enabled : Bool}

/-- A step of `Activate` by a process whose place `wrap` tells. -/
theorem move_of_activateStep (wrap : ActivatePc ι → Pc ι)
    {options : CompositeElasticOpenTelemetryOptions} {q : Process ι} {pc pc' : ActivatePc ι}
    (hassign : ∀ u, Committed u p (wrap .assign))
    (hcompare : ∀ u, Committed u p (wrap .compareExchange) → u.activationState = 0)
    (hother : ∀ u pc, Committed u p (wrap pc) → pc = .assign ∨ pc = .compareExchange)
    (h : activateStep q options enabled s pc = some (t, pc')) :
    Move s t p (wrap pc) (wrap pc') := by
  have hno (hpc : pc ≠ .assign) (hpc' : pc ≠ .compareExchange) :
      Committed s p (wrap pc) → Committed t p (wrap pc') := fun hcommitted =>
    ((hother s pc hcommitted).elim hpc hpc').elim
  cases pc <;> simp only [activateStep] at h
  case compareExchange =>
    split_ifs at h with hclaim <;> obtain ⟨rfl, rfl⟩ := Prod.ext_iff.mp (Option.some.inj h)
    · exact .claims (hassign _) rfl rfl rfl
    · exact .keeps (.refl s) fun hcommitted => absurd (hcompare s hcommitted) hclaim
  case assign =>
    obtain ⟨rfl, rfl⟩ := Prod.ext_iff.mp (Option.some.inj h)
    exact .creates options rfl
  case drain entry pc =>
    obtain ⟨r, hr, hrt⟩ := Option.map_eq_some_iff.mp h
    obtain ⟨rfl, rfl⟩ := Prod.ext_iff.mp hrt
    exact .keeps (keeps_logStep hr) (hno (by simp) (by simp))
  case report pc =>
    obtain ⟨r, hr, hrt⟩ := Option.map_eq_some_iff.mp h
    obtain ⟨rfl, rfl⟩ := Prod.ext_iff.mp hrt
    exact .keeps (keeps_logStep hr) (hno (by simp) (by simp))
  case dequeue =>
    split at h <;> obtain ⟨rfl, rfl⟩ := Prod.ext_iff.mp (Option.some.inj h) <;>
      exact .keeps ⟨rfl, rfl, rfl, id⟩ (hno (by simp) (by simp))
  case reportIsEnabled =>
    split_ifs at h <;> obtain ⟨rfl, rfl⟩ := Prod.ext_iff.mp (Option.some.inj h) <;>
      exact .keeps (.refl s) (hno (by simp) (by simp))
  case returned => cases h
  all_goals
    obtain ⟨rfl, rfl⟩ := Prod.ext_iff.mp (Option.some.inj h)
    exact .keeps ⟨rfl, rfl, rfl, id⟩ (hno (by simp) (by simp))

theorem move_of_safetyTimerStep {i : ι} {q : Process ι} {pc pc' : SafetyTimerPc ι}
    (h : safetyTimerStep q enabled s pc = some (t, pc')) :
    Move s t (.safetyTimer i) (.safetyTimer pc) (.safetyTimer pc') := by
  cases pc <;> simp only [safetyTimerStep] at h
  case activate options pc =>
    obtain ⟨r, hr, hrt⟩ := Option.map_eq_some_iff.mp h
    obtain ⟨rfl, rfl⟩ := Prod.ext_iff.mp hrt
    refine move_of_activateStep (fun pc => .safetyTimer (.activate options pc)) ?_ ?_ ?_ hr
    · exact fun _ => trivial
    · exact fun _ hcommitted => hcommitted
    · intro u pc hcommitted
      cases pc <;> first | exact Or.inl rfl | exact Or.inr rfl | exact hcommitted.elim
  case readOptions =>
    split at h <;> obtain ⟨rfl, rfl⟩ := Prod.ext_iff.mp (Option.some.inj h) <;>
      exact .keeps (.refl s) False.elim
  case discard =>
    split_ifs at h <;> obtain ⟨rfl, rfl⟩ := Prod.ext_iff.mp (Option.some.inj h)
    · exact .keeps ⟨rfl, rfl, rfl, by simp⟩ False.elim
    · exact .keeps (.refl s) False.elim
  case readIsDisposed =>
    split_ifs at h <;> obtain ⟨rfl, rfl⟩ := Prod.ext_iff.mp (Option.some.inj h) <;>
      exact .keeps (.refl s) False.elim
  case returned => cases h
  all_goals
    obtain ⟨rfl, rfl⟩ := Prod.ext_iff.mp (Option.some.inj h)
    exact .keeps ⟨rfl, rfl, rfl, id⟩ False.elim

theorem move_of_step {arg : ι → CompositeElasticOpenTelemetryOptions} {pc pc' : Pc ι}
    (h : step arg p enabled s pc = some (t, pc')) : Move s t p pc pc' := by
  cases stepBy_of_step h with
  | log i hlog => exact .keeps (keeps_logStep hlog) False.elim
  | activate i hactivate =>
    refine move_of_activateStep Pc.activate ?_ ?_ ?_ hactivate
    · exact fun _ => trivial
    · exact fun _ hcommitted => hcommitted.elim
    · intro u pc hcommitted
      cases pc <;> first | exact Or.inl rfl | exact hcommitted.elim
  | safetyTimer i htimer => exact move_of_safetyTimerStep htimer

/-- While entries are deferred, no sub-loggers have been created. -/
theorem deferred_of_move {pc pc' : Pc ι} (h : Move s t p pc pc')
    (hdeferred : t.deferredQueue.isSome = true) :
    s.deferredQueue.isSome = true ∧ t.creations = s.creations := by
  cases h with
  | keeps hkeeps _ => exact ⟨hkeeps.deferredQueue hdeferred, hkeeps.creations⟩
  | claims _ _ hcreations hqueue => exact ⟨hqueue ▸ hdeferred, hcreations⟩
  | creates options hassigned =>
    subst hassigned
    cases hdeferred

end Moves

/-! ### Runs that leave the instance alone -/

/-- Neither `Activate` nor the safety timer has started to activate the instance. -/
structure Untouched (c : State ι) : Prop where
  activationState : c.logger.shared.activationState = 0
  fileLogger : c.logger.shared.fileLogger = none
  creations : c.logger.shared.creations = 0
  activate : ∀ i, c.logger.pc (.activate i) = .activate .compareExchange
  safetyTimer : ∀ i o pc, c.logger.pc (.safetyTimer i) ≠ .safetyTimer (.activate o pc)

theorem untouched_initial (options : Option CompositeElasticOpenTelemetryOptions) :
    Untouched (initial options : State ι) :=
  ⟨rfl, rfl, rfl, fun _ => rfl, fun _ _ _ => by simp [initial, DeferredLogger.initial]⟩

variable {existing : CompositeElasticOpenTelemetryOptions} {c d : State ι}

theorem untouched_of_keeps (h : Untouched c) (hkeeps : Keeps c.logger.shared d.logger.shared)
    (hactivate : ∀ i, d.logger.pc (.activate i) = c.logger.pc (.activate i))
    (htimer : ∀ i, d.logger.pc (.safetyTimer i) = c.logger.pc (.safetyTimer i) ∨
      ∀ o pc, d.logger.pc (.safetyTimer i) ≠ .safetyTimer (.activate o pc)) : Untouched d where
  activationState := hkeeps.activationState.trans h.activationState
  fileLogger := hkeeps.fileLogger.trans h.fileLogger
  creations := hkeeps.creations.trans h.creations
  activate i := (hactivate i).trans (h.activate i)
  safetyTimer i := (htimer i).elim (fun hsame => hsame ▸ h.safetyTimer i) id

/-- A callback of the timer that finds no options activates nothing. -/
theorem keeps_safetyTimerStep {q : Process ι} {enabled : Bool} {s t : Shared ι}
    {pc pc' : SafetyTimerPc ι} (hpc : ∀ o pc₀, pc ≠ .activate o pc₀)
    (hoptions : pc = .readOptions → s.options = none)
    (h : safetyTimerStep q enabled s pc = some (t, pc')) :
    Keeps s t ∧ ∀ o pc₀, pc' ≠ .activate o pc₀ := by
  cases pc <;> simp only [safetyTimerStep] at h
  case activate o pc₀ => exact absurd rfl (hpc o pc₀)
  case readOptions =>
    rw [hoptions rfl] at h
    obtain ⟨rfl, rfl⟩ := Prod.ext_iff.mp (Option.some.inj h)
    exact ⟨.refl s, by simp⟩
  case discard =>
    split_ifs at h <;> obtain ⟨rfl, rfl⟩ := Prod.ext_iff.mp (Option.some.inj h)
    · exact ⟨⟨rfl, rfl, rfl, by simp⟩, by simp⟩
    · exact ⟨.refl s, by simp⟩
  case readIsDisposed =>
    split_ifs at h <;> obtain ⟨rfl, rfl⟩ := Prod.ext_iff.mp (Option.some.inj h) <;>
      exact ⟨.refl s, by simp⟩
  case returned => cases h
  all_goals
    obtain ⟨rfl, rfl⟩ := Prod.ext_iff.mp (Option.some.inj h)
    exact ⟨⟨rfl, rfl, rfl, id⟩, by simp⟩

variable [DecidableEq ι] {arg : ι → CompositeElasticOpenTelemetryOptions} {a : Action ι}

/-- `Dispose`, new options and the discarding of the instance move no call. -/
theorem keeps_of_next (hnext : next arg a c = some d) (hcall : ∀ p enabled, a ≠ .call p enabled) :
    Keeps c.logger.shared d.logger.shared ∧ d.logger.pc = c.logger.pc := by
  cases a with
  | call p enabled => exact absurd rfl (hcall p enabled)
  | dispose =>
    obtain ⟨r, hr, rfl⟩ := Option.map_eq_some_iff.mp hnext
    refine ⟨?_, rfl⟩
    cases hpc : c.dispose <;> rw [hpc] at hr <;> cases hr <;> exact ⟨rfl, rfl, rfl, id⟩
  | storeOptions _ | clearPreActivationInstance =>
    obtain rfl := Option.some.inj hnext
    exact ⟨⟨rfl, rfl, rfl, id⟩, rfl⟩

/-- A step of a call moves that call only. -/
theorem move_of_next {p : Process ι} {enabled : Bool}
    (hnext : next arg (.call p enabled) c = some d) :
    step arg p enabled c.logger.shared (c.logger.pc p) = some (d.logger.shared, d.logger.pc p) ∧
      ∀ q, q ≠ p → d.logger.pc q = c.logger.pc q := by
  obtain ⟨logger, hlogger, rfl⟩ := Option.map_eq_some_iff.mp hnext
  obtain ⟨⟨t, pc', hstep, rfl, rfl⟩, hothers⟩ := Pool.pc_of_next hlogger
  exact ⟨hstep, hothers⟩

/-- **The step of the quiet runs.** A step that leaves the instance alone starts no activation. -/
theorem untouched_next (hC : LeavesAlone a c) (h : Untouched c) (hnext : next arg a c = some d) :
    Untouched d := by
  by_cases hcall : ∃ p enabled, a = .call p enabled
  · obtain ⟨p, enabled, rfl⟩ := hcall
    obtain ⟨hstep, hothers⟩ := move_of_next hnext
    cases p with
    | log i =>
      have hkeeps : Keeps c.logger.shared d.logger.shared := by
        cases hpc : c.logger.pc (.log i) with
        | log pc =>
          rw [hpc] at hstep
          obtain ⟨r, hr, hrt⟩ := Option.map_eq_some_iff.mp hstep
          have hshared : r.1 = d.logger.shared := congrArg Prod.fst hrt
          exact hshared ▸ keeps_logStep hr
        | _ =>
          rw [hpc] at hstep
          cases hstep
      exact untouched_of_keeps h hkeeps (fun i => hothers _ (by simp))
        fun i => Or.inl (hothers _ (by simp))
    | activate i => exact absurd (h.activate i) hC
    | safetyTimer i =>
      cases hpc : c.logger.pc (.safetyTimer i) with
      | safetyTimer pc =>
        rw [hpc] at hstep
        obtain ⟨r, hr, hrt⟩ := Option.map_eq_some_iff.mp hstep
        have hshared : r.1 = d.logger.shared := congrArg Prod.fst hrt
        have hpc' : .safetyTimer r.2 = d.logger.pc (.safetyTimer i) := congrArg Prod.snd hrt
        obtain ⟨hkeeps, hmoved⟩ := keeps_safetyTimerStep
          (fun o pc₀ hactivate => h.safetyTimer i o pc₀ (by rw [hpc, hactivate]))
          (fun hread => hC (by rw [hpc, hread])) hr
        refine untouched_of_keeps h (hshared ▸ hkeeps) (fun j => hothers _ (by simp)) fun j => ?_
        by_cases hj : j = i
        · subst hj
          exact Or.inr fun o pc₀ => by simpa [← hpc'] using hmoved o pc₀
        · exact Or.inl (hothers _ (by simpa using hj))
      | _ =>
        rw [hpc] at hstep
        cases hstep
  · have hother : ∀ p enabled, a ≠ .call p enabled := fun p enabled ha => hcall ⟨p, enabled, ha⟩
    obtain ⟨hkeeps, hpc⟩ := keeps_of_next hnext hother
    exact untouched_of_keeps h hkeeps (fun _ => by rw [hpc]) fun _ => Or.inl (by rw [hpc])

/-! ### Runs that do not -/

/-- A process is committed to an activation, or the sub-loggers have been created. -/
def Begun (c : State ι) : Prop :=
  1 ≤ c.logger.shared.creations ∨ ∃ p, Committed c.logger.shared p (c.logger.pc p)

omit [DecidableEq ι] in
theorem begun_of_keeps (h : Begun c) (hkeeps : Keeps c.logger.shared d.logger.shared)
    (hcommitted : ∀ p, Committed c.logger.shared p (c.logger.pc p) →
      Committed d.logger.shared p (d.logger.pc p)) : Begun d := by
  rcases h with hcreated | ⟨p, hp⟩
  · exact Or.inl (hkeeps.creations ▸ hcreated)
  · exact Or.inr ⟨p, hcommitted p hp⟩

/-- What was begun stays begun. -/
theorem begun_next (h : Begun c) (hnext : next arg a c = some d) : Begun d := by
  by_cases hcall : ∃ p enabled, a = .call p enabled
  · obtain ⟨p, enabled, rfl⟩ := hcall
    obtain ⟨hstep, hothers⟩ := move_of_next hnext
    cases move_of_step hstep with
    | keeps hkeeps hcommitted =>
      refine begun_of_keeps h hkeeps fun q hq => ?_
      by_cases hqp : q = p
      · subst hqp
        exact hcommitted hq
      · exact hothers q hqp ▸ committed_of_keeps hkeeps hq
    | claims hcommitted _ _ _ => exact Or.inr ⟨p, hcommitted⟩
    | creates options hassigned =>
      left
      rw [hassigned]
      exact Nat.le_add_left 1 _
  · have hother : ∀ p enabled, a ≠ .call p enabled := fun p enabled ha => hcall ⟨p, enabled, ha⟩
    obtain ⟨hkeeps, hpc⟩ := keeps_of_next hnext hother
    exact begun_of_keeps h hkeeps fun q hq => hpc ▸ committed_of_keeps hkeeps hq

/-- A step that does not leave an untouched instance alone begins an activation. -/
theorem begun_of_violation (h : Untouched c) (hC : ¬ LeavesAlone a c)
    (hnext : next arg a c = some d) : Begun d := by
  cases a with
  | call p enabled =>
    obtain ⟨hstep, -⟩ := move_of_next hnext
    cases p with
    | log i => exact absurd trivial hC
    | activate i =>
      rw [h.activate i] at hstep
      obtain ⟨r, hr, hrt⟩ := Option.map_eq_some_iff.mp hstep
      rw [activateStep, if_pos h.activationState] at hr
      obtain rfl := Option.some.inj hr
      have hpc : .activate .assign = d.logger.pc (.activate i) := congrArg Prod.snd hrt
      refine Or.inr ⟨.activate i, ?_⟩
      rw [← hpc]
      trivial
    | safetyTimer i =>
      obtain ⟨hread, hoptions⟩ := Classical.not_imp.mp hC
      obtain ⟨o, ho⟩ := Option.ne_none_iff_exists'.mp hoptions
      rw [hread] at hstep
      obtain ⟨r, hr, hrt⟩ := Option.map_eq_some_iff.mp hstep
      rw [safetyTimerStep, ho] at hr
      obtain rfl := Option.some.inj hr
      have hshared : c.logger.shared = d.logger.shared := congrArg Prod.fst hrt
      have hpc : .safetyTimer (.activate o .compareExchange) = d.logger.pc (.safetyTimer i) :=
        congrArg Prod.snd hrt
      refine Or.inr ⟨.safetyTimer i, ?_⟩
      rw [← hpc, ← hshared]
      exact h.activationState
  | dispose => exact absurd trivial hC
  | storeOptions _ => exact absurd trivial hC
  | clearPreActivationInstance => exact absurd trivial hC

/-- Some continuation that leaves the instance alone creates the sub-loggers. -/
def CanCreate (arg : ι → CompositeElasticOpenTelemetryOptions) (c : State ι) : Prop :=
  ∃ later d, Along (next arg) LeavesAlone later c ∧ exec (next arg) later c = some d ∧
    1 ≤ d.logger.shared.creations

theorem canCreate_of_next (hC : LeavesAlone a c) (hnext : next arg a c = some d)
    (h : CanCreate arg d) : CanCreate arg c := by
  obtain ⟨later, e, hlater, hexec, hcreated⟩ := h
  exact ⟨a :: later, e, (along_cons hnext).mpr ⟨hC, hlater⟩,
    (exec_cons_eq_some _).mpr ⟨d, hnext, hexec⟩, hcreated⟩

/-- A call that is past its first step can take its next one. -/
theorem exists_next {p : Process ι} {t : Shared ι} {pc' : Pc ι}
    (hstep : step arg p true c.logger.shared (c.logger.pc p) = some (t, pc')) :
    ∃ d, next arg (.call p true) c = some d ∧ d.logger.shared = t ∧ d.logger.pc p = pc' := by
  refine ⟨{ c with logger := ⟨t, Function.update c.logger.pc p pc'⟩ }, ?_, rfl, ?_⟩
  · have hpool := Pool.next_eq_some.mpr ⟨t, pc', hstep, rfl⟩
    exact Option.map_eq_some_iff.mpr ⟨_, hpool, rfl⟩
  · exact Function.update_self p pc' c.logger.pc

/-- The sub-loggers are created by the next step of a process that is about to. -/
theorem canCreate_of_assign {p : Process ι} {o : CompositeElasticOpenTelemetryOptions} {pc' : Pc ι}
    (hC : LeavesAlone (.call p true) c)
    (hstep : step arg p true c.logger.shared (c.logger.pc p) =
      some (c.logger.shared.assign o, pc')) : CanCreate arg c := by
  obtain ⟨d, hnext, hshared, -⟩ := exists_next hstep
  refine canCreate_of_next hC hnext ⟨[], d, trivial, rfl, ?_⟩
  rw [hshared]
  exact Nat.le_add_left 1 _

theorem canCreate_of_timer_assign {i : ι} {o : CompositeElasticOpenTelemetryOptions}
    (h : c.logger.pc (.safetyTimer i) = .safetyTimer (.activate o .assign)) :
    CanCreate arg c := by
  have hC : LeavesAlone (.call (.safetyTimer i) true) c := fun hread => by simp [h] at hread
  exact canCreate_of_assign (o := o) hC (by rw [h]; rfl)

theorem canCreate_of_compareExchange {i : ι} {o : CompositeElasticOpenTelemetryOptions}
    (h : c.logger.pc (.safetyTimer i) = .safetyTimer (.activate o .compareExchange))
    (hunclaimed : c.logger.shared.activationState = 0) : CanCreate arg c := by
  have hC : LeavesAlone (.call (.safetyTimer i) true) c := fun hread => by simp [h] at hread
  have hstep : step arg (.safetyTimer i) true c.logger.shared (c.logger.pc (.safetyTimer i)) =
      some ({ c.logger.shared with activationState := 1, winner := some (.safetyTimer i) },
        .safetyTimer (.activate o .assign)) := by
    rw [h]
    simp [step, safetyTimerStep, activateStep, hunclaimed]
  obtain ⟨d, hnext, -, hpc⟩ := exists_next hstep
  exact canCreate_of_next hC hnext (canCreate_of_timer_assign hpc)

/-- **What was begun can be finished** by steps that begin nothing. -/
theorem canCreate_of_begun (arg : ι → CompositeElasticOpenTelemetryOptions) (h : Begun c) :
    CanCreate arg c := by
  rcases h with hcreated | ⟨p, hp⟩
  · exact ⟨[], c, trivial, rfl, hcreated⟩
  · unfold Committed at hp
    split at hp
    · rename_i i hpc
      have hC : LeavesAlone (.call (.activate i) true) c := by
        change c.logger.pc (.activate i) ≠ _
        rw [hpc]
        simp
      exact canCreate_of_assign (o := arg i) hC (by rw [hpc]; rfl)
    · rename_i i o hpc
      exact canCreate_of_timer_assign hpc
    · rename_i i o hpc
      exact canCreate_of_compareExchange hpc hp
    · exact hp.elim

/-! ### Discarding the instance -/

/-- What the instance has created while entries are still deferred. -/
def Deferring (c : State ι) : Prop :=
  c.logger.shared.deferredQueue.isSome = true → c.logger.shared.creations = 0

theorem deferring_next (h : Deferring c) (hnext : next arg a c = some d) : Deferring d := by
  intro hdeferred
  by_cases hcall : ∃ p enabled, a = .call p enabled
  · obtain ⟨p, enabled, rfl⟩ := hcall
    obtain ⟨hbefore, hcreations⟩ := deferred_of_move (move_of_step (move_of_next hnext).1) hdeferred
    exact hcreations.trans (h hbefore)
  · have hother : ∀ p enabled, a ≠ .call p enabled := fun p enabled ha => hcall ⟨p, enabled, ha⟩
    obtain ⟨hkeeps, -⟩ := keeps_of_next hnext hother
    exact hkeeps.creations.trans (h (hkeeps.deferredQueue hdeferred))

/-- **A discarded logger.** The instance is still deferred when `Bootstrap` discards it in `c`. It
stays silent from then on, whatever continues the run by leaving it alone, exactly when every step
of the run has left it alone. -/
theorem discarded_silent_iff (arg : ι → CompositeElasticOpenTelemetryOptions)
    (options : Option CompositeElasticOpenTelemetryOptions)
    (existing : CompositeElasticOpenTelemetryOptions) {before after : List (Action ι)}
    {c d : State ι} (hbefore : exec (next arg) before (initial options) = some c)
    (hdeferred : c.logger.shared.deferredQueue.isSome = true)
    (hafter : exec (next arg) (.clearPreActivationInstance :: after) c = some d) :
    Along (next arg) LeavesAlone (before ++ .clearPreActivationInstance :: after)
        (initial options) ↔
      ∀ later e, Along (next arg) LeavesAlone later d → exec (next arg) later d = some e →
        Silent existing c e := by
  have hnone : c.logger.shared.creations = 0 :=
    exec_invariant (fun _ _ _ => deferring_next) (I := Deferring) (fun _ => rfl) hbefore hdeferred
  have hrun := exec_append_eq_some.mpr ⟨c, hbefore, hafter⟩
  constructor
  · intro hall later e hlater hexec
    have huntouched : Untouched d :=
      exec_induction (fun _ _ _ => untouched_next) hall (untouched_initial options) hrun
    have hlast : Untouched e :=
      exec_induction (fun _ _ _ => untouched_next) hlater huntouched hexec
    exact ⟨hlast.creations.trans hnone.symm, by rw [fileLoggers, hlast.fileLogger]; rfl⟩
  · intro hsilent
    by_contra hviolated
    obtain ⟨pre, a, post, u, v, -, hu, hpre, ha, hv, hpost⟩ := exists_violation hrun hviolated
    have huntouched : Untouched u :=
      exec_induction (fun _ _ _ => untouched_next) hpre (untouched_initial options) hu
    have hbegun : Begun d :=
      exec_invariant (fun _ _ _ => begun_next) (begun_of_violation huntouched ha hv) hpost
    obtain ⟨later, e, hlater, hexec, hcreated⟩ := canCreate_of_begun arg hbegun
    have hsame := (hsilent later e hlater hexec).creations
    omega

/-- Options with an OpAMP endpoint, which defer the logger, and with file logging. -/
def deferringOptions : CompositeElasticOpenTelemetryOptions :=
  CompositeElasticOpenTelemetryOptions.ofOptions .linux
    { logLevel := some .debug
      logTargets := some LogTargets.file
      opAmpClientOptions := { endpoint := some "http://localhost:4320".toList } } fun _ => none

example : isNullOrEmpty deferringOptions.opAmpEndpoint = false ∧
    deferringOptions.globalLogEnabled = true ∧
      LogTargets.hasFlag deferringOptions.logTargets LogTargets.file = true := by decide

/-- The instance is discarded, and its safety timer elapses. -/
def elapsing : List (Action Unit) :=
  .clearPreActivationInstance :: List.replicate 4 (.call (.safetyTimer ()) true)

/-- The timer activates the discarded instance, which creates a `FileLogger` of its own. -/
theorem discarded_activates :
    ¬ ∀ d, exec (next fun _ => deferringOptions) elapsing
        (initial (some deferringOptions)) = some d →
      Silent deferringOptions (initial (some deferringOptions)) d := by
  intro h
  have hrun : (exec (next fun _ => deferringOptions) elapsing
      (initial (some deferringOptions))).isSome = true := rfl
  have hcreated : ((exec (next fun _ => deferringOptions) elapsing
      (initial (some deferringOptions))).get hrun).logger.shared.creations = 1 := rfl
  have hsame := (h _ (Option.some_get hrun).symm).creations
  exact absurd (hcreated.symm.trans hsame) (by decide)

/-- The instance is discarded and disposed of before its safety timer elapses. -/
def disposing : List (Action Unit) := [.dispose, .call (.safetyTimer ()) true]

/-- Then it stays silent. -/
theorem discarded_disposed :
    ∃ d, exec (next fun _ => deferringOptions) (.clearPreActivationInstance :: disposing)
        (initial (some deferringOptions)) = some d ∧
      Silent deferringOptions (initial (some deferringOptions)) d := by
  have hrun : (exec (next fun _ => deferringOptions) (.clearPreActivationInstance :: disposing)
      (initial (some deferringOptions))).isSome = true := rfl
  have hafter := (Option.some_get hrun).symm
  refine ⟨_, hafter, ?_⟩
  have hbefore : exec (next fun _ : Unit => deferringOptions) [] (initial (some deferringOptions)) =
      some (initial (some deferringOptions)) := rfl
  refine (discarded_silent_iff _ (some deferringOptions) deferringOptions hbefore rfl hafter).mp ?_
    [] _ trivial rfl
  refine ⟨trivial, fun t ht => ?_⟩
  obtain rfl := Option.some.inj ht
  refine ⟨trivial, fun u hu => ?_⟩
  obtain rfl := Option.some.inj hu
  exact ⟨fun hread => (by cases hread), fun _ _ => trivial⟩

end ElasticOpenTelemetry.DiscardedLogger
