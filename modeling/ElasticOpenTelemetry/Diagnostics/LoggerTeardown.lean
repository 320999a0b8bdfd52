import ElasticOpenTelemetry.Diagnostics.FileLogger

/-!
# Tearing the composite logger down

An active `CompositeLogger` with file logging enabled (`CompositeLogger.cs`): any number of calls
of `Log`, the background task of the file logger, and one call of `Dispose` (or `DisposeAsync`,
which takes the same steps). `_isDisposed` is a fast exit that nothing synchronises, and the
comment on it calls a race with `Dispose` harmless.

`Log` reads `_additionalLogger` three times, and `FileLogger.Log` releases a semaphore that
`FileLogger.Dispose` disposes. `neverThrows_iff` states which steps make a call of `Log` throw,
and that without such a step none does.

A step is one read or write of a shared field or one atomic operation of the file logger. In
active mode `_deferredQueue` is null and `_fileLogger` and `_consoleLogger` are not, and nothing
changes that; the formatters, the console and the additional logger do not throw.
-/

namespace ElasticOpenTelemetry.LoggerTeardown

open Execution

variable {ι Line Additional : Type}

/-- The shared fields of the active logger. -/
structure Shared (Line Additional : Type) where
  isDisposed : Bool
  fileLogger : FileLogger Line
  additionalLogger : Option Additional

/-- Where a call of `CompositeLogger.Log` is. -/
inductive LogPc
  /-- `if (_isDisposed) return` -/
  | readIsDisposed
  /-- `_fileLogger is not null && _fileLogger.IsEnabled(logLevel)` -/
  | testFileLogger
  | fileLogger (pc : FileLogger.LogPc)
  | consoleLogger
  /-- `_additionalLogger is not null` -/
  | testAdditionalLogger
  /-- `_additionalLogger.IsEnabled(logLevel)` -/
  | isEnabledAdditionalLogger
  /-- `_additionalLogger.Log(…)` -/
  | logAdditionalLogger
  | returned
  | threw (exception : LoggerException)
  deriving DecidableEq, Repr

/-- Where `CompositeLogger.Log` is when `FileLogger.Log` is at `pc`. -/
def LogPc.ofFileLogger : FileLogger.LogPc → LogPc
  | .returned => .consoleLogger
  | .threw exception => .threw exception
  | pc => .fileLogger pc

/-- `CompositeLogger.Log`. -/
def logStep (logLine : Line) (choice : Choice) (s : Shared Line Additional) :
    LogPc → Option (Shared Line Additional × LogPc)
  | .readIsDisposed => if s.isDisposed then some (s, .returned) else some (s, .testFileLogger)
  | .testFileLogger =>
    match choice with
    | .ok =>
      if s.fileLogger.fileLoggingEnabled then some (s, .fileLogger .isEnabled)
      else some (s, .consoleLogger)
    | .filtered => some (s, .consoleLogger)
    | _ => none
  | .fileLogger pc =>
    (FileLogger.logStep logLine choice s.fileLogger pc).map fun r =>
      ({ s with fileLogger := r.1 }, .ofFileLogger r.2)
  | .consoleLogger => some (s, .testAdditionalLogger)
  | .testAdditionalLogger =>
    match s.additionalLogger with
    | some _ => some (s, .isEnabledAdditionalLogger)
    | none => some (s, .returned)
  -- the field is read again, not the value that was tested
  | .isEnabledAdditionalLogger =>
    match s.additionalLogger, choice with
    | none, _ => some (s, .threw .nullReference)
    | some _, .ok => some (s, .logAdditionalLogger)
    | some _, .filtered => some (s, .returned)
    | _, _ => none
  | .logAdditionalLogger =>
    match s.additionalLogger with
    | some _ => some (s, .returned)
    | none => some (s, .threw .nullReference)
  | .returned => none
  | .threw _ => none

/-- Where the call of `CompositeLogger.Dispose` is. -/
inductive DisposePc
  /-- `_isDisposed = true` -/
  | setIsDisposed
  /-- `_additionalLogger = null` -/
  | clearAdditionalLogger
  | fileLogger (pc : FileLogger.DisposePc)
  /-- `Interlocked.Exchange(ref _safetyTimer, null)`, null already in active mode -/
  | safetyTimer
  | returned
  | threw (exception : LoggerException)
  deriving DecidableEq, Repr

/-- Where `CompositeLogger.Dispose` is when `FileLogger.Dispose` is at `pc`. -/
def DisposePc.ofFileLogger : FileLogger.DisposePc → DisposePc
  | .returned => .safetyTimer
  | .threw exception => .threw exception
  | pc => .fileLogger pc

/-- `CompositeLogger.Dispose`. -/
def disposeStep (choice : Choice) (s : Shared Line Additional) :
    DisposePc → Option (Shared Line Additional × DisposePc)
  | .setIsDisposed => some ({ s with isDisposed := true }, .clearAdditionalLogger)
  | .clearAdditionalLogger => some ({ s with additionalLogger := none }, .fileLogger .exchange)
  | .fileLogger pc =>
    (FileLogger.disposeStep choice s.fileLogger pc).map fun r =>
      ({ s with fileLogger := r.1 }, .ofFileLogger r.2)
  | .safetyTimer => some (s, .returned)
  | .returned => none
  | .threw _ => none

/-- The sequential processes around one active logger. -/
inductive Process (ι : Type)
  | log (i : ι)
  | writer
  | dispose
  deriving DecidableEq

/-- Where a process is. -/
inductive Pc (Line : Type)
  | log (pc : LogPc)
  | writer (pc : FileLogger.WriterPc Line)
  | dispose (pc : DisposePc)
  deriving DecidableEq

/-- A configuration of the logger and the processes around it. -/
abbrev Config (ι Line Additional : Type) := Pool (Process ι) (Shared Line Additional) (Pc Line)

/-- One step of a process; `line i` is what the call `i` of `Log` logs. -/
def step (line : ι → Line) :
    Pool.Program (Process ι) (Shared Line Additional) (Pc Line) Choice :=
  fun p choice s pc =>
    match p, pc with
    | .log i, .log pc => (logStep (line i) choice s pc).map fun r => (r.1, .log r.2)
    | .writer, .writer pc =>
      (FileLogger.writerStep choice s.fileLogger pc).map fun r =>
        ({ s with fileLogger := r.1 }, .writer r.2)
    | .dispose, .dispose pc => (disposeStep choice s pc).map fun r => (r.1, .dispose r.2)
    | _, _ => none

/-- An active logger with file logging; no call has been made. -/
def initial (additionalLogger : Option Additional) : Config ι Line Additional where
  shared := ⟨false, .new, additionalLogger⟩
  pc := fun p =>
    match p with
    | .log _ => .log .readIsDisposed
    | .writer => .writer .start
    | .dispose => .dispose .setIsDisposed

/-- The call `i` of `Log` has ended with an exception. -/
def Threw (c : Config ι Line Additional) (i : ι) : Prop :=
  ∃ exception, c.pc (.log i) = .log (.threw exception)

/-- No call of `Log` has ended with an exception. -/
def NeverThrows (c : Config ι Line Additional) : Prop := ∀ i, ¬ Threw c i

/-- Every call of `Log` that was made has ended. -/
def Settled (c : Config ι Line Additional) : Prop :=
  ∀ i, c.pc (.log i) = .log .readIsDisposed ∨ c.pc (.log i) = .log .returned ∨ Threw c i

/-! ### The steps that matter -/

/-- The call is between its null test of `_additionalLogger` and its last read of it. -/
def UsesAdditional (pc : LogPc) : Prop :=
  pc = .isEnabledAdditionalLogger ∨ pc = .logAdditionalLogger

/-- The call is past the level check of `FileLogger.Log` and has not released the semaphore. -/
def UsesSemaphore (pc : LogPc) : Prop :=
  pc = .fileLogger .enqueue ∨ pc = .fileLogger .release

/-- The step meets no race: `Dispose` does not null `_additionalLogger`, and does not dispose the
semaphore, while a call of `Log` uses it; no call passes the level check of `FileLogger.Log`
after the semaphore was disposed; and the semaphore is not released at its maximum count. -/
structure RaceFree (a : Process ι × Choice) (c : Config ι Line Additional) : Prop where
  additional : a.1 = .dispose → c.pc .dispose = .dispose .clearAdditionalLogger →
    ∀ i pc, c.pc (.log i) = .log pc → ¬ UsesAdditional pc
  semaphore : a.1 = .dispose → c.pc .dispose = .dispose (.fileLogger .disposeSemaphore) →
    ∀ i pc, c.pc (.log i) = .log pc → ¬ UsesSemaphore pc
  levelCheck : ∀ i, a = (.log i, .ok) → c.pc (.log i) = .log (.fileLogger .isEnabled) →
    c.shared.fileLogger.fileLoggingEnabled = true →
    c.shared.fileLogger.logSemaphore.disposed = false
  maximum : ∀ i, a.1 = .log i → c.pc (.log i) = .log (.fileLogger .release) →
    c.shared.fileLogger.logSemaphore.count ≠ SemaphoreSlim.maxCount

/-! ### What the steps change -/

section Steps

variable {line : ι → Line} {logLine : Line} {choice : Choice} {s t : Shared Line Additional}

theorem step_eq_some {p : Process ι} {pc pc' : Pc Line}
    (h : step line p choice s pc = some (t, pc')) :
    (∃ i q q', p = .log i ∧ pc = .log q ∧ pc' = .log q' ∧
      logStep (line i) choice s q = some (t, q')) ∨
    (∃ w w' f, p = .writer ∧ pc = .writer w ∧ pc' = .writer w' ∧
      t = { s with fileLogger := f } ∧
      FileLogger.writerStep choice s.fileLogger w = some (f, w')) ∨
    ∃ q q', p = .dispose ∧ pc = .dispose q ∧ pc' = .dispose q' ∧
      disposeStep choice s q = some (t, q') := by
  cases p <;> cases pc <;> simp only [step, reduceCtorEq, Option.map_eq_some_iff] at h
  case log.log i q =>
    obtain ⟨⟨t, q'⟩, hstep, hr⟩ := h
    cases hr
    exact .inl ⟨i, q, q', rfl, rfl, rfl, hstep⟩
  case writer.writer w =>
    obtain ⟨⟨f, w'⟩, hstep, hr⟩ := h
    cases hr
    exact .inr (.inl ⟨w, w', f, rfl, rfl, rfl, rfl, hstep⟩)
  case dispose.dispose q =>
    obtain ⟨⟨t, q'⟩, hstep, hr⟩ := h
    cases hr
    exact .inr (.inr ⟨q, q', rfl, rfl, rfl, hstep⟩)

/-- What a call of `Log` uses is still there, or still gone. -/
structure SameResources (s t : Shared Line Additional) : Prop where
  additionalLogger : t.additionalLogger = s.additionalLogger
  semaphore : t.fileLogger.logSemaphore.disposed = s.fileLogger.logSemaphore.disposed

theorem logStep_sameResources {pc pc' : LogPc}
    (h : logStep logLine choice s pc = some (t, pc')) : SameResources s t := by
  cases pc <;> simp only [logStep] at h
  case fileLogger pc =>
    obtain ⟨⟨f, q⟩, hstep, hr⟩ := Option.map_eq_some_iff.mp h
    cases hr
    exact ⟨rfl, (FileLogger.logStep_sameLifecycle hstep).semaphore⟩
  case readIsDisposed =>
    split_ifs at h <;> (cases h; exact ⟨rfl, rfl⟩)
  all_goals
    try split at h
    all_goals try split_ifs at h
    all_goals (cases h; try exact ⟨rfl, rfl⟩)

/-- `Dispose` clears `_additionalLogger` and disposes the semaphore at two steps of its own. -/
theorem disposeStep_resources {pc pc' : DisposePc}
    (h : disposeStep choice s pc = some (t, pc')) :
    (t.additionalLogger = s.additionalLogger ∨
      pc = .clearAdditionalLogger ∧ t.additionalLogger = none) ∧
    (t.fileLogger.logSemaphore.disposed = s.fileLogger.logSemaphore.disposed ∨
      pc = .fileLogger .disposeSemaphore ∧ t.fileLogger.logSemaphore.disposed = true) := by
  cases pc <;> simp only [disposeStep] at h
  case fileLogger pc =>
    obtain ⟨⟨f, q⟩, hstep, hr⟩ := Option.map_eq_some_iff.mp h
    cases hr
    refine ⟨.inl rfl, (FileLogger.disposeStep_semaphore hstep).imp_right ?_⟩
    rintro ⟨rfl, hdisposed⟩
    exact ⟨rfl, hdisposed⟩
  case clearAdditionalLogger =>
    cases h
    exact ⟨.inr ⟨rfl, rfl⟩, .inl rfl⟩
  all_goals (cases h; try exact ⟨.inl rfl, .inl rfl⟩)

/-- A call of `Log` comes to use the additional logger only where it has found it. -/
theorem logStep_usesAdditional {pc pc' : LogPc}
    (h : logStep logLine choice s pc = some (t, pc')) (huses : UsesAdditional pc') :
    s.additionalLogger ≠ none := by
  intro hnone
  have hpc' : pc' ≠ .isEnabledAdditionalLogger ∧ pc' ≠ .logAdditionalLogger := by
    cases pc <;> simp only [logStep, hnone] at h
    case fileLogger pc =>
      obtain ⟨⟨f, q⟩, -, hr⟩ := Option.map_eq_some_iff.mp h
      cases hr
      cases q <;> exact ⟨nofun, nofun⟩
    case readIsDisposed =>
      split_ifs at h <;> (cases h; exact ⟨nofun, nofun⟩)
    case testFileLogger =>
      split at h <;> try split_ifs at h
      all_goals (cases h; try exact ⟨nofun, nofun⟩)
    all_goals (cases h; try exact ⟨nofun, nofun⟩)
  exact huses.elim hpc'.1 hpc'.2

/-- A call of `Log` comes to use the semaphore by passing the level check. -/
theorem logStep_usesSemaphore {pc pc' : LogPc}
    (h : logStep logLine choice s pc = some (t, pc')) (huses : UsesSemaphore pc') :
    UsesSemaphore pc ∨ pc = .fileLogger .isEnabled ∧ choice = .ok ∧
      s.fileLogger.fileLoggingEnabled = true := by
  cases pc <;> simp only [logStep] at h
  case fileLogger pc =>
    obtain ⟨⟨f, q⟩, hstep, hr⟩ := Option.map_eq_some_iff.mp h
    cases hr
    cases pc <;> simp only [FileLogger.logStep] at hstep
    case isEnabled =>
      cases choice <;> simp only at hstep <;> try split_ifs at hstep with henabled
      all_goals cases hstep
      · exact .inr ⟨rfl, rfl, henabled⟩
      · exact absurd huses (by simp [UsesSemaphore, LogPc.ofFileLogger])
      · exact absurd huses (by simp [UsesSemaphore, LogPc.ofFileLogger])
    case enqueue => exact .inl (.inl rfl)
    case release => exact .inl (.inr rfl)
    all_goals cases hstep
  case readIsDisposed =>
    split_ifs at h <;> (cases h; exact absurd huses (by simp [UsesSemaphore]))
  all_goals
    try split at h
    all_goals try split_ifs at h
    all_goals (cases h; try exact absurd huses (by simp [UsesSemaphore]))

/-- A call of `Log` ends with an exception only where what it uses is gone, or where the
semaphore is released at its maximum count. -/
theorem logStep_threw {pc : LogPc} {exception : LoggerException}
    (h : logStep logLine choice s pc = some (t, .threw exception)) :
    UsesAdditional pc ∧ s.additionalLogger = none ∨
      pc = .fileLogger .release ∧ (s.fileLogger.logSemaphore.disposed = true ∨
        s.fileLogger.logSemaphore.count = SemaphoreSlim.maxCount) := by
  cases pc <;> simp only [logStep] at h
  case fileLogger pc =>
    obtain ⟨⟨f, q⟩, hstep, hr⟩ := Option.map_eq_some_iff.mp h
    have hq : q = .threw exception := by
      have hq' : LogPc.ofFileLogger q = .threw exception := (Prod.mk.inj hr).2
      cases q <;> simp_all [LogPc.ofFileLogger]
    subst hq
    cases pc <;> simp only [FileLogger.logStep] at hstep
    case isEnabled =>
      cases choice <;> simp only at hstep <;> try split_ifs at hstep
      all_goals cases hstep
    case release =>
      split at hstep
      · cases hstep
      · rename_i hrelease
        exact .inr ⟨rfl, SemaphoreSlim.release_eq_error.mp ⟨_, hrelease⟩⟩
    all_goals cases hstep
  case isEnabledAdditionalLogger =>
    split at h
    · rename_i hnone
      exact .inl ⟨.inl rfl, hnone⟩
    all_goals cases h
  case logAdditionalLogger =>
    split at h
    · cases h
    · rename_i hnone
      exact .inl ⟨.inr rfl, hnone⟩
  case readIsDisposed => split_ifs at h <;> cases h
  all_goals
    try split at h
    all_goals try split_ifs at h
    all_goals cases h

/-- The call of `Log` cannot go on without an exception. -/
def Doomed (s : Shared Line Additional) (pc : LogPc) : Prop :=
  UsesAdditional pc ∧ s.additionalLogger = none ∨
    UsesSemaphore pc ∧ s.fileLogger.logSemaphore.disposed = true ∨
    ∃ exception, pc = .threw exception

/-- `Release` at the maximum count, or on a disposed semaphore, throws. -/
theorem logStep_release {pc' : LogPc}
    (h : logStep logLine choice s (.fileLogger .release) = some (t, pc'))
    (hrefused : s.fileLogger.logSemaphore.disposed = true ∨
      s.fileLogger.logSemaphore.count = SemaphoreSlim.maxCount) :
    ∃ exception, pc' = .threw exception := by
  obtain ⟨exception, hrelease⟩ := SemaphoreSlim.release_eq_error.mpr hrefused
  simp only [logStep, FileLogger.logStep, hrelease, Option.map_some] at h
  cases h
  exact ⟨exception, rfl⟩

theorem logStep_doomed {pc pc' : LogPc} (h : logStep logLine choice s pc = some (t, pc'))
    (hdoomed : Doomed s pc) : Doomed t pc' := by
  have hsame := logStep_sameResources h
  rcases hdoomed with ⟨rfl | rfl, hnone⟩ | ⟨rfl | rfl, hdisposed⟩ | ⟨exception, rfl⟩
  · simp only [logStep, hnone] at h
    cases h
    exact .inr (.inr ⟨_, rfl⟩)
  · simp only [logStep, hnone] at h
    cases h
    exact .inr (.inr ⟨_, rfl⟩)
  · -- the enqueue succeeds, and the release is still to come
    have hpc' : UsesSemaphore pc' := by
      cases h
      exact .inr rfl
    exact .inr (.inl ⟨hpc', hsame.semaphore.trans hdisposed⟩)
  · exact .inr (.inr (logStep_release h (.inl hdisposed)))
  · cases h

end Steps

/-! ### A run that meets no race -/

section Safe

/-- What a call of `Log` relies on. -/
structure Safe (s : Shared Line Additional) (pc : LogPc) : Prop where
  additional : UsesAdditional pc → s.additionalLogger ≠ none
  semaphore : UsesSemaphore pc → s.fileLogger.logSemaphore.disposed = false
  notThrown : ∀ exception, pc ≠ .threw exception

/-- What a process relies on. -/
def safeLoc (s : Shared Line Additional) : Process ι → Pc Line → Prop
  | .log _, pc => ∃ q, pc = .log q ∧ Safe s q
  | _, _ => True

theorem safe_logStep {line : ι → Line} {i : ι} {choice : Choice} {c : Config ι Line Additional}
    {t : Shared Line Additional} {pc pc' : LogPc} (hfree : RaceFree (.log i, choice) c)
    (hpc : c.pc (.log i) = .log pc) (hsafe : Safe c.shared pc)
    (h : logStep (line i) choice c.shared pc = some (t, pc')) : Safe t pc' := by
  have hsame := logStep_sameResources h
  refine ⟨fun huses => ?_, fun huses => ?_, ?_⟩
  · rw [hsame.additionalLogger]
    exact logStep_usesAdditional h huses
  · rw [hsame.semaphore]
    rcases logStep_usesSemaphore h huses with hbefore | ⟨rfl, rfl, henabled⟩
    · exact hsafe.semaphore hbefore
    · exact hfree.levelCheck i rfl hpc henabled
  · rintro exception rfl
    rcases logStep_threw h with ⟨huses, hnone⟩ | ⟨rfl, hdisposed | hmax⟩
    · exact hsafe.additional huses hnone
    · rw [hsafe.semaphore (.inr rfl)] at hdisposed
      cases hdisposed
    · exact hfree.maximum i rfl hpc hmax

/-- A step of another process leaves what a call of `Log` relies on in place. -/
theorem safe_of_sameResources {s t : Shared Line Additional} {pc : LogPc} (hsafe : Safe s pc)
    (hsame : SameResources s t) : Safe t pc where
  additional := fun huses => by
    rw [hsame.additionalLogger]
    exact hsafe.additional huses
  semaphore := fun huses => hsame.semaphore.trans (hsafe.semaphore huses)
  notThrown := hsafe.notThrown

theorem safe_disposeStep {choice : Choice} {c : Config ι Line Additional}
    {t : Shared Line Additional} {q q' : DisposePc} {i : ι} {pc : LogPc}
    (hfree : RaceFree (.dispose, choice) c) (hq : c.pc .dispose = .dispose q)
    (hpc : c.pc (.log i) = .log pc) (hsafe : Safe c.shared pc)
    (h : disposeStep choice c.shared q = some (t, q')) : Safe t pc := by
  obtain ⟨hadditional, hsemaphore⟩ := disposeStep_resources h
  refine ⟨fun huses => ?_, fun huses => ?_, hsafe.notThrown⟩
  · rcases hadditional with hsame | ⟨rfl, -⟩
    · rw [hsame]
      exact hsafe.additional huses
    · exact absurd huses (hfree.additional rfl hq i pc hpc)
  · rcases hsemaphore with hsame | ⟨rfl, -⟩
    · exact hsame.trans (hsafe.semaphore huses)
    · exact absurd huses (hfree.semaphore rfl hq i pc hpc)

/-- **Without a race no call of `Log` throws.** -/
def safeOutline [DecidableEq ι] (line : ι → Line) :
    Pool.Outline (step line : Pool.Program _ (Shared Line Additional) _ _) RaceFree where
  global := fun _ => True
  loc := fun p s pc => safeLoc s p pc
  step := by
    intro p choice c t pc' hC _ hloc hstep
    refine ⟨trivial, ?_⟩
    obtain ⟨i, q, q', rfl, hpc, rfl, hlog⟩ | ⟨w, w', f, rfl, -⟩ | ⟨q, q', rfl, -⟩ :=
      step_eq_some hstep
    · obtain ⟨r, hr, hsafe⟩ := hloc
      obtain rfl : r = q := Pc.log.inj (hr.symm.trans hpc)
      exact ⟨q', rfl, safe_logStep hC hpc hsafe hlog⟩
    · trivial
    · trivial
  interference := by
    intro p choice c t pc' hC _ _ hstep p' _ hloc
    cases p' with
    | writer => trivial
    | dispose => trivial
    | log k =>
      obtain ⟨r, hr, hsafe⟩ := hloc
      refine ⟨r, hr, ?_⟩
      obtain ⟨i, q, q', rfl, -, rfl, hlog⟩ | ⟨w, w', f, rfl, -, -, rfl, hwriter⟩ |
        ⟨q, q', rfl, hq, -, hdispose⟩ := step_eq_some hstep
      · exact safe_of_sameResources hsafe (logStep_sameResources hlog)
      · have hlife := (FileLogger.writerMove_of_writerStep hwriter).2.sameLifecycle
        exact safe_of_sameResources hsafe ⟨rfl, hlife.semaphore⟩
      · exact safe_disposeStep hC hq hr hsafe hdispose

theorem safeOutline_initial [DecidableEq ι] (line : ι → Line)
    (additionalLogger : Option Additional) :
    (safeOutline line).Holds (initial additionalLogger : Config ι Line Additional) where
  global := trivial
  loc := fun p => by
    cases p with
    | log i => exact ⟨_, rfl, ⟨by simp [UsesAdditional], by simp [UsesSemaphore], nofun⟩⟩
    | writer => trivial
    | dispose => trivial

end Safe

/-! ### A run that meets a race -/

section Race

variable {line : ι → Line} {a : Process ι × Choice} {c d : Config ι Line Additional} {i : ι}

/-- Some call of `Log` cannot go on without an exception. -/
def DoomedCall (c : Config ι Line Additional) (i : ι) : Prop :=
  ∃ pc, c.pc (.log i) = .log pc ∧ Doomed c.shared pc

/-- What is gone does not come back. -/
theorem doomed_of_gone {s t : Shared Line Additional} {pc : LogPc} (hdoomed : Doomed s pc)
    (hadditional : s.additionalLogger = none → t.additionalLogger = none)
    (hsemaphore : s.fileLogger.logSemaphore.disposed = true →
      t.fileLogger.logSemaphore.disposed = true) : Doomed t pc :=
  hdoomed.imp (And.imp_right hadditional) (Or.imp_left (And.imp_right hsemaphore))

/-- When every call of `Log` has ended, a doomed one has thrown. -/
theorem threw_of_doomedCall (hsettled : Settled c) (hdoomed : DoomedCall c i) : Threw c i := by
  obtain ⟨pc, hpc, hdoomed⟩ := hdoomed
  have hnot : ∀ pc' : LogPc, pc' = .readIsDisposed ∨ pc' = .returned → ¬ Doomed c.shared pc' := by
    rintro pc' (rfl | rfl) (⟨huses | huses, -⟩ | ⟨huses | huses, -⟩ | ⟨exception, huses⟩) <;>
      cases huses
  rcases hsettled i with hstart | hreturned | hthrew
  · obtain rfl : pc = .readIsDisposed := Pc.log.inj (hpc.symm.trans hstart)
    exact absurd hdoomed (hnot _ (.inl rfl))
  · obtain rfl : pc = .returned := Pc.log.inj (hpc.symm.trans hreturned)
    exact absurd hdoomed (hnot _ (.inr rfl))
  · exact hthrew

variable [DecidableEq ι]

theorem doomedCall_next (hdoomed : DoomedCall c i) (h : Pool.next (step line) a c = some d) :
    DoomedCall d i := by
  obtain ⟨p, choice⟩ := a
  obtain ⟨pc, hpc, hdoomed⟩ := hdoomed
  obtain ⟨⟨t, l, hstep, rfl, hl⟩, hother⟩ := Pool.pc_of_next h
  by_cases hp : p = .log i
  · subst hp
    obtain ⟨j, q, q', hj, hq, rfl, hlog⟩ | ⟨w, w', f, hw, -⟩ | ⟨q, q', hq, -⟩ :=
      step_eq_some hstep
    · obtain rfl : i = j := Process.log.inj hj
      obtain rfl : pc = q := Pc.log.inj (hpc.symm.trans hq)
      exact ⟨q', hl, logStep_doomed hlog hdoomed⟩
    · cases hw
    · cases hq
  · refine ⟨pc, (hother (.log i) (Ne.symm hp)).trans hpc, ?_⟩
    obtain ⟨j, q, q', -, -, -, hlog⟩ | ⟨w, w', f, -, -, -, ht, hwriter⟩ |
      ⟨q, q', -, -, -, hdispose⟩ := step_eq_some hstep
    · have hsame := logStep_sameResources hlog
      exact doomed_of_gone hdoomed hsame.additionalLogger.trans hsame.semaphore.trans
    · have hlife := (FileLogger.writerMove_of_writerStep hwriter).2.sameLifecycle
      rw [ht]
      exact doomed_of_gone hdoomed id hlife.semaphore.trans
    · obtain ⟨hadditional, hsemaphore⟩ := disposeStep_resources hdispose
      refine doomed_of_gone hdoomed (fun hnone => ?_) (fun hdisposed => ?_)
      · exact hadditional.elim (fun hsame => hsame.trans hnone) And.right
      · exact hsemaphore.elim (fun hsame => hsame.trans hdisposed) And.right

/-- A step that meets a race dooms a call. -/
theorem doomedCall_of_race (hrace : ¬ RaceFree a c) (h : Pool.next (step line) a c = some d) :
    ∃ i, DoomedCall d i := by
  by_contra hnone
  apply hrace
  obtain ⟨p, choice⟩ := a
  obtain ⟨t, l, hstep, rfl⟩ := Pool.next_eq_some.mp h
  refine ⟨?_, ?_, ?_, ?_⟩
  · -- `Dispose` nulls `_additionalLogger`
    rintro rfl hpc i pc hi huses
    simp only [hpc] at hstep
    cases hstep
    exact hnone ⟨i, pc, by simpa using hi, .inl ⟨huses, rfl⟩⟩
  · -- `Dispose` disposes the semaphore
    rintro rfl hpc i pc hi huses
    simp only [hpc] at hstep
    cases hstep
    exact hnone ⟨i, pc, by simpa using hi, .inr (.inl ⟨huses, rfl⟩)⟩
  · -- a call passes the level check
    intro i hi hpc henabled
    obtain ⟨rfl, rfl⟩ := Prod.mk.inj hi
    by_contra hdisposed
    simp only [hpc, step, logStep, FileLogger.logStep, henabled, if_true, Option.map_some] at hstep
    cases hstep
    exact hnone ⟨i, .fileLogger .enqueue, by simp [LogPc.ofFileLogger],
      .inr (.inl ⟨.inl rfl, by simpa using hdisposed⟩)⟩
  · -- a call releases the semaphore at its maximum count
    rintro i rfl hpc hmax
    simp only [hpc] at hstep
    obtain ⟨⟨u, pc'⟩, hlog, hr⟩ := Option.map_eq_some_iff.mp hstep
    cases hr
    exact hnone ⟨i, pc', by simp, .inr (.inr (logStep_release hlog (.inr hmax)))⟩

end Race

/-! ### The main result -/

section Main

variable [DecidableEq ι]

/-- **Logging throws during teardown exactly through a race.** In a run whose steps meet no
race, no call of `Log` has thrown in the state reached; and when every call that was made has
ended without an exception, the run has met no race. -/
theorem neverThrows_iff (line : ι → Line) (additionalLogger : Option Additional)
    (as : List (Process ι × Choice)) (t : Config ι Line Additional)
    (h : exec (Pool.next (step line)) as (initial additionalLogger) = some t) :
    (Along (Pool.next (step line)) RaceFree as (initial additionalLogger) → NeverThrows t) ∧
      (Settled t → NeverThrows t →
        Along (Pool.next (step line)) RaceFree as (initial additionalLogger)) := by
  constructor
  · rintro hfree i ⟨exception, hthrew⟩
    have ht := (safeOutline line).exec hfree (safeOutline_initial line additionalLogger) h
    obtain ⟨pc, hpc, hsafe⟩ := ht.loc (.log i)
    obtain rfl : pc = .threw exception := Pc.log.inj (hpc.symm.trans hthrew)
    exact hsafe.notThrown exception rfl
  · intro hsettled hnever
    by_contra hrace
    obtain ⟨pre, a, post, u, v, -, -, -, ha, hv, ht⟩ := exists_violation h hrace
    obtain ⟨i, hdoomed⟩ := doomedCall_of_race ha hv
    have hdoomed' : DoomedCall t i :=
      exec_invariant (fun _ _ _ hc hn => doomedCall_next hc hn) hdoomed ht
    exact hnever i (threw_of_doomedCall hsettled hdoomed')

end Main

/-! ### Two teardowns -/

/-- A call of `Log` returns from the additional logger before `Dispose` begins. -/
def logThenDispose : List (Process Unit × Choice) :=
  List.replicate 9 (.log (), .ok) ++ List.replicate 3 (.dispose, .ok)

/-- Nothing is thrown in that run, so it meets no race. -/
theorem logThenDispose_raceFree :
    ∃ t : Config Unit Char Unit,
      exec (Pool.next (step fun _ => 'x')) logThenDispose (initial (some ())) = some t ∧
      t.pc (.log ()) = .log .returned ∧ t.shared.isDisposed = true ∧
      Along (Pool.next (step fun _ => 'x')) RaceFree logThenDispose
        (initial (some ()) : Config Unit Char Unit) := by
  have hrun : (exec (Pool.next (step fun _ => 'x')) logThenDispose
      (initial (some ()) : Config Unit Char Unit)).isSome = true := rfl
  refine ⟨_, (Option.some_get hrun).symm, rfl, rfl,
    (neverThrows_iff _ _ _ _ (Option.some_get hrun).symm).2 (fun _ => .inr (.inl rfl)) ?_⟩
  rintro i ⟨exception, hthrew⟩
  have hreturned : (Pc.log .returned : Pc Char) = .log (.threw exception) := hthrew
  cases hreturned

/-- `Dispose` begins when a call of `Log` has found the additional logger. -/
def clearedInBetween : List (Process Unit × Choice) :=
  List.replicate 7 (.log (), .ok) ++ List.replicate 2 (.dispose, .ok) ++ [(.log (), .ok)]

/-- The call ends with a `NullReferenceException`. -/
theorem clearedInBetween_throws :
    ∃ t : Config Unit Char Unit,
      exec (Pool.next (step fun _ => 'x')) clearedInBetween (initial (some ())) = some t ∧
      t.pc (.log ()) = .log (.threw .nullReference) ∧ ¬ NeverThrows t := by
  have hrun : (exec (Pool.next (step fun _ => 'x')) clearedInBetween
      (initial (some ()) : Config Unit Char Unit)).isSome = true := rfl
  exact ⟨_, (Option.some_get hrun).symm, rfl, fun hnever => hnever () ⟨_, rfl⟩⟩

end ElasticOpenTelemetry.LoggerTeardown
