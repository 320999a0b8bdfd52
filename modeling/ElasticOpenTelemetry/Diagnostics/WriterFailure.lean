import ElasticOpenTelemetry.Diagnostics.FileLoggerShutdown

/-!
# Disposal of the file logger after a failed write

The writing task of the file logger catches an `ObjectDisposedException` of `WriteLineAsync` and no
other exception, so that any other one is what the task ends with. `Dispose` and `DisposeAsync`
(`FileLogger.cs`) wait for the task and each catch some of what the wait throws; what they let
through skips the three releases behind the wait. The first of these, the disposal of the stream
writer, may throw as well: it flushes, and refuses to while a write is in flight, which is what a
wait that has timed out may leave behind. The stream is closed then, and the other two releases
are skipped.

`Diagnostics.FileLogger` does not tell the exceptions of a write apart. Here a write that fails does
so with a `WriteException`, and the wait of each method has its own catch clauses; all other steps
are those of `Diagnostics.FileLogger`. `released_iff` states in which runs the first call of the two
methods returns, everything being released.
-/

namespace ElasticOpenTelemetry.WriterFailure

open Execution FileLogger FileLoggerShutdown

variable {ι Line : Type}

/-! ### The steps -/

/-- What `WriteLineAsync` throws, as far as a catch clause tells it apart. -/
inductive WriteException
  | objectDisposed
  /-- it ends the task as canceled -/
  | operationCanceled
  | timeout
  | other
  deriving DecidableEq, Repr

/-- The two methods that dispose of the logger. -/
inductive DisposeMethod
  | dispose
  | disposeAsync
  deriving DecidableEq, Repr

/-- The catch clauses around the wait for the task. `Dispose` catches an `AggregateException` by its
inner exception. The `TimeoutException` that `DisposeAsync` expects of the wait may come from the
task as well. -/
def DisposeMethod.catches : DisposeMethod → WriteException → Bool
  | _, .operationCanceled => true
  | .disposeAsync, .timeout => true
  | _, _ => false

/-- The logger, and the exception that its writing task has ended with. The call that has set
`_disposed` is recorded for the statements; no step reads it. -/
structure State (ι Line : Type) where
  fileLogger : FileLogger Line
  taskException : Option WriteException
  first : Option ι

namespace State

/-- `WriteLineAsync` throws. -/
def failWrite (s : State ι Line) (exception : WriteException) : State ι Line :=
  if exception = .objectDisposed then
    { s with fileLogger := { s.fileLogger with writingTask := .ranToCompletion } }
  else
    { s with
      fileLogger := { s.fileLogger with writingTask := .faulted }
      taskException := some exception }

/-- A step of the task that does not fail in a write; what else it fails with is that the source of
its token or its semaphore is disposed of. -/
def setByTask (s : State ι Line) (f : FileLogger Line) : State ι Line :=
  { s with
    fileLogger := f
    taskException :=
      if f.writingTask = .faulted then some .objectDisposed else s.taskException }

end State

/-- The writing task; a write that fails does so with `exception`. -/
def writerStep (choice : Choice) (exception : WriteException) (s : State ι Line) :
    WriterPc Line → Option (State ι Line × WriterPc Line)
  | .write logEntry =>
    if choice = .writeFails then some (s.failWrite exception, .ended)
    else (FileLogger.writerStep choice s.fileLogger (.write logEntry)).map fun r =>
      (s.setByTask r.1, r.2)
  | .flushWrite logEntry =>
    if choice = .writeFails then some (s.failWrite exception, .ended)
    else (FileLogger.writerStep choice s.fileLogger (.flushWrite logEntry)).map fun r =>
      (s.setByTask r.1, r.2)
  | pc => (FileLogger.writerStep choice s.fileLogger pc).map fun r => (s.setByTask r.1, r.2)

/-- The wait for the writing task, at most five seconds, with the catch clauses of the method. -/
def waitStep (method : DisposeMethod) (choice : Choice) (s : State ι Line) :
    Option (State ι Line × DisposePc) :=
  match s.fileLogger.writingTask with
  | .running => if choice = .timeout then some (s, .disposeStreamWriter) else none
  | .ranToCompletion => some (s, .disposeStreamWriter)
  | .faulted =>
    if s.taskException.any method.catches then some (s, .disposeStreamWriter)
    else some (s, .threw .taskFaulted)

/-- `Dispose` or `DisposeAsync`, by the call `j`. -/
def disposeStep (method : DisposeMethod) (j : ι) (choice : Choice) (s : State ι Line) :
    DisposePc → Option (State ι Line × DisposePc)
  | .exchange =>
    (FileLogger.disposeStep choice s.fileLogger .exchange).map fun r =>
      ({ s with
        fileLogger := r.1
        first := if s.fileLogger.disposed then s.first else some j }, r.2)
  | .wait => waitStep method choice s
  | pc =>
    (FileLogger.disposeStep choice s.fileLogger pc).map fun r =>
      ({ s with fileLogger := r.1 }, r.2)

/-- One step of a process; `line i` is what the call `i` of `Log` logs, and `method j` the method
that the call `j` is of. -/
def step (line : ι → Line) (method : ι → DisposeMethod) :
    Pool.Program (Process ι) (State ι Line) (Pc Line) (Choice × WriteException) :=
  fun p e s pc =>
    match p, pc with
    | .log i, .log pc =>
      (logStep (line i) e.1 s.fileLogger pc).map fun r =>
        ({ s with fileLogger := r.1 }, .log r.2)
    | .writer, .writer pc => (writerStep e.1 e.2 s pc).map fun r => (r.1, .writer r.2)
    | .dispose j, .dispose pc =>
      (disposeStep (method j) j e.1 s pc).map fun r => (r.1, .dispose r.2)
    | _, _ => none

/-- A configuration of the logger and the processes around it. -/
abbrev Config (ι Line : Type) := Pool (Process ι) (State ι Line) (Pc Line)

/-- A new logger; no call has been made. -/
def initial : Config ι Line where
  shared := ⟨.new, none, none⟩
  pc := FileLoggerShutdown.initial.pc

/-! ### The condition and the result -/

/-- Which of the stream writer, the semaphore and the cancellation source are disposed of. -/
def released (f : FileLogger Line) : Bool × Bool × Bool :=
  (f.streamWriterDisposed, f.logSemaphore.disposed, f.cancellationTokenSourceDisposed)

/-- The wait of the call is over, and it has not thrown. -/
def PastWait : DisposePc → Bool
  | .disposeStreamWriter | .disposeSemaphore | .disposeCancellationTokenSource | .returned
  | .threw .streamWriter => true
  | _ => false

/-- The call has come to an end. -/
def Ended (pc : Pc Line) : Prop :=
  pc = .dispose .returned ∨ ∃ exception, pc = .dispose (.threw exception)

/-- The call `d` has returned, and the stream writer, the semaphore and the cancellation source
are disposed of. -/
def ReturnedReleased (c : Config ι Line) (d : ι) : Prop :=
  c.pc (.dispose d) = .dispose .returned ∧ released c.shared.fileLogger = (true, true, true)

/-- The writer is at a write. -/
def AtWrite (c : Config ι Line) : Prop :=
  ∃ logEntry, c.pc .writer = .writer (.write logEntry) ∨
    c.pc .writer = .writer (.flushWrite logEntry)

/-- The steps that do no harm to the call `d`: a write that fails before the wait of `d` is over
does so with an exception that the task or the method of `d` catches, the semaphore is not at its
maximum count when `d` releases it, and the stream writer does not fail when `d` disposes of it. -/
structure Harmless (method : ι → DisposeMethod) (d : ι) (a : Process ι × Choice × WriteException)
    (c : Config ι Line) : Prop where
  write : a.1 = .writer → a.2.1 = .writeFails → AtWrite c →
    a.2.2 = .objectDisposed ∨ (method d).catches a.2.2 = true ∨
      ∃ q, c.pc (.dispose d) = .dispose q ∧ PastWait q = true
  release : a.1 = .dispose d → c.pc (.dispose d) = .dispose .release →
    c.shared.fileLogger.logSemaphore.count ≠ SemaphoreSlim.maxCount
  streamWriter : a.1 = .dispose d → c.pc (.dispose d) = .dispose .disposeStreamWriter →
    a.2.1 ≠ .writeFails

/-! ### What the steps do -/

section Steps

variable {s t : State ι Line} {choice : Choice} {exception : WriteException}

/-- A task that goes on is running. One that fails does so in a write, or has found its token or
its semaphore disposed of. -/
inductive TaskMove (choice : Choice) (exception : WriteException) (s t : State ι Line)
    (pc pc' : WriterPc Line) : Prop
  | runs (running : t.fileLogger.writingTask = .running)
  | completes (completed : t.fileLogger.writingTask = .ranToCompletion) (ended : pc' = .ended)
  | failsWrite (fails : choice = .writeFails) (uncaught : exception ≠ .objectDisposed)
      (at_write : ∃ logEntry, pc = .write logEntry ∨ pc = .flushWrite logEntry)
      (result : t = s.failWrite exception) (ended : pc' = .ended)
  | failsOtherwise (disposed : released s.fileLogger ≠ (false, false, false)) (ended : pc' = .ended)

/-- The steps of the task but a failing write. -/
theorem taskMove_of_setByTask {g : FileLogger Line} {pc pc' : WriterPc Line}
    (hrunning : s.fileLogger.writingTask = .running)
    (hchoice : (∃ logEntry, pc = .write logEntry ∨ pc = .flushWrite logEntry) →
      choice ≠ .writeFails)
    (h : FileLogger.writerStep choice s.fileLogger pc = some (g, pc')) :
    TaskMove choice exception s (s.setByTask g) pc pc' := by
  have hwrite {logEntry : Line} {loop : WriterPc Line} (hfails : choice ≠ .writeFails)
      (h : writeLineAsync logEntry choice s.fileLogger loop = some (g, pc')) :
      TaskMove choice exception s (s.setByTask g) pc pc' := by
    cases choice <;> simp only [writeLineAsync, finish, reduceCtorEq] at h
    case ok =>
      split_ifs at h <;> obtain ⟨rfl, rfl⟩ := Prod.mk.inj (Option.some.inj h)
      · exact .completes rfl rfl
      · exact .runs hrunning
    case writeFails => exact absurd rfl hfails
  cases pc <;> simp only [FileLogger.writerStep, finish] at h
  case start =>
    split_ifs at h with hdisposed <;> obtain ⟨rfl, rfl⟩ := Prod.mk.inj (Option.some.inj h)
    · exact .failsOtherwise (by simp [released, hdisposed]) rfl
    · exact .runs hrunning
  case waitAsync =>
    split_ifs at h with hdisposed <;> obtain ⟨rfl, rfl⟩ := Prod.mk.inj (Option.some.inj h)
    · exact .failsOtherwise (by simp [released, hdisposed]) rfl
    all_goals exact .runs hrunning
  case waiting =>
    split at h <;> try split_ifs at h
    all_goals
      first
        | cases h; done
        | (obtain ⟨rfl, rfl⟩ := Prod.mk.inj (Option.some.inj h)
           exact .runs hrunning)
  case dequeue =>
    split at h <;> obtain ⟨rfl, rfl⟩ := Prod.mk.inj (Option.some.inj h) <;> exact .runs hrunning
  case flushDequeue =>
    split at h <;> obtain ⟨rfl, rfl⟩ := Prod.mk.inj (Option.some.inj h)
    · exact .runs hrunning
    · exact .completes rfl rfl
  case check logEntry | flushCheck logEntry =>
    split_ifs at h <;> obtain ⟨rfl, rfl⟩ := Prod.mk.inj (Option.some.inj h)
    · exact .completes rfl rfl
    · exact .runs hrunning
  case write logEntry => exact hwrite (hchoice ⟨_, .inl rfl⟩) h
  case flushWrite logEntry => exact hwrite (hchoice ⟨_, .inr rfl⟩) h
  case ended => cases h

/-- What a failing write does. -/
theorem taskMove_of_failWrite {pc : WriterPc Line} (hchoice : choice = .writeFails)
    (hpc : ∃ logEntry, pc = .write logEntry ∨ pc = .flushWrite logEntry) :
    TaskMove choice exception s (s.failWrite exception) pc .ended := by
  by_cases hdisposed : exception = .objectDisposed
  · refine .completes ?_ rfl
    rw [State.failWrite, if_pos hdisposed]
  · exact .failsWrite hchoice hdisposed hpc rfl rfl

theorem failWrite_sameLifecycle :
    SameLifecycle s.fileLogger (s.failWrite exception).fileLogger ∧
      (s.failWrite exception).first = s.first := by
  rw [State.failWrite]
  split_ifs <;> exact ⟨⟨rfl, rfl, rfl, rfl, rfl, rfl⟩, rfl⟩

theorem writerStep_spec {pc pc' : WriterPc Line} (hrunning : s.fileLogger.writingTask = .running)
    (h : writerStep choice exception s pc = some (t, pc')) :
    SameLifecycle s.fileLogger t.fileLogger ∧ t.first = s.first ∧
      TaskMove choice exception s t pc pc' := by
  have hbase (hchoice : (∃ logEntry, pc = .write logEntry ∨ pc = .flushWrite logEntry) →
        choice ≠ .writeFails)
      (h : (FileLogger.writerStep choice s.fileLogger pc).map (fun r => (s.setByTask r.1, r.2)) =
        some (t, pc')) :
      SameLifecycle s.fileLogger t.fileLogger ∧ t.first = s.first ∧
        TaskMove choice exception s t pc pc' := by
    obtain ⟨⟨g, q⟩, hstep, hr⟩ := Option.map_eq_some_iff.mp h
    obtain ⟨rfl, rfl⟩ := Prod.mk.inj hr
    exact ⟨(writerMove_of_writerStep hstep).2.sameLifecycle, rfl,
      taskMove_of_setByTask hrunning hchoice hstep⟩
  cases pc <;> simp only [writerStep] at h
  case write logEntry | flushWrite logEntry =>
    split_ifs at h with hchoice
    · obtain ⟨rfl, rfl⟩ := Prod.mk.inj (Option.some.inj h)
      exact ⟨failWrite_sameLifecycle.1, failWrite_sameLifecycle.2,
        taskMove_of_failWrite hchoice ⟨logEntry, by simp⟩⟩
    · exact hbase (fun _ => hchoice) h
  all_goals exact hbase (by simp) h

/-- What is disposed of when a call that has set `_disposed` is at `pc`. -/
def releasedAt : DisposePc → Bool × Bool × Bool
  | .disposeSemaphore | .threw .streamWriter => (true, false, false)
  | .disposeCancellationTokenSource => (true, true, false)
  | .returned => (true, true, true)
  | _ => (false, false, false)

/-- How many steps a call has before it. -/
def stepsLeft : DisposePc → ℕ
  | .exchange => 7
  | .cancel => 6
  | .release => 5
  | .wait => 4
  | .disposeStreamWriter => 3
  | .disposeSemaphore => 2
  | .disposeCancellationTokenSource => 1
  | .returned | .threw _ => 0

/-- What a step of a call behind its first one does. -/
structure DisposeMove (method : DisposeMethod) (choice : Choice) (s t : State ι Line)
    (q q' : DisposePc) : Prop where
  disposed : t.fileLogger.disposed = s.fileLogger.disposed
  first : t.first = s.first
  task : t.fileLogger.writingTask = s.fileLogger.writingTask
  taskException : t.taskException = s.taskException
  released : released s.fileLogger = releasedAt q → released t.fileLogger = releasedAt q'
  stepsLeft : stepsLeft q' < stepsLeft q
  begun : q' ≠ .exchange
  past : PastWait q = true → PastWait q' = true
  getsPast : PastWait q' = true → q = .wait ∨ PastWait q = true
  threw : (∃ e, q' = .threw e) ↔ q = .release ∧ (s.fileLogger.logSemaphore.disposed = true ∨
      s.fileLogger.logSemaphore.count = SemaphoreSlim.maxCount) ∨
    q = .wait ∧ s.fileLogger.writingTask = .faulted ∧
      s.taskException.any method.catches = false ∨
    q = .disposeStreamWriter ∧ choice = .writeFails

theorem waitStep_move {method : DisposeMethod} {q' : DisposePc}
    (h : waitStep method choice s = some (t, q')) : DisposeMove method choice s t .wait q' := by
  rw [waitStep] at h
  have hgoesOn (hcaught : s.fileLogger.writingTask ≠ .faulted ∨
      s.taskException.any method.catches = true) (ht : s = t) (hq : .disposeStreamWriter = q') :
      DisposeMove method choice s t .wait q' := by
    subst ht hq
    refine ⟨rfl, rfl, rfl, rfl, fun h => h, by decide, nofun, fun _ => rfl, fun _ => .inl rfl, ?_⟩
    rcases hcaught with hnot | hcaught <;> simp [*]
  split at h
  · rename_i htask
    split_ifs at h
    obtain ⟨ht, hq⟩ := Prod.mk.inj (Option.some.inj h)
    exact hgoesOn (.inl (by simp [htask])) ht hq
  · rename_i htask
    obtain ⟨ht, hq⟩ := Prod.mk.inj (Option.some.inj h)
    exact hgoesOn (.inl (by simp [htask])) ht hq
  · rename_i htask
    split_ifs at h with hcaught <;> obtain ⟨ht, hq⟩ := Prod.mk.inj (Option.some.inj h)
    · exact hgoesOn (.inr hcaught) ht hq
    · subst ht hq
      refine ⟨rfl, rfl, rfl, rfl, fun h => h, by decide, nofun, nofun, fun _ => .inl rfl, ?_⟩
      simpa [htask] using hcaught

/-- The semaphore has exceptions of its own. -/
theorem ne_streamWriter_of_release {semaphore : SemaphoreSlim} {exception : LoggerException}
    (h : semaphore.release = .error exception) : exception ≠ .streamWriter := by
  rw [SemaphoreSlim.release] at h
  split_ifs at h <;> cases h <;> decide

/-- A call that throws before it disposes of the stream writer has disposed of nothing. -/
theorem releasedAt_threw {exception : LoggerException} (h : exception ≠ .streamWriter) :
    releasedAt (.threw exception) = (false, false, false) ∧
      PastWait (.threw exception) = false := by
  cases exception with
  | streamWriter => exact absurd rfl h
  | _ => exact ⟨rfl, rfl⟩

theorem disposeStep_move {method : DisposeMethod} {j : ι} {q q' : DisposePc} (hq : q ≠ .exchange)
    (h : disposeStep method j choice s q = some (t, q')) :
    DisposeMove method choice s t q q' := by
  cases q <;> simp only [disposeStep, FileLogger.disposeStep, Option.map_some] at h
  case exchange => exact absurd rfl hq
  case wait => exact waitStep_move h
  case release =>
    have herror := @SemaphoreSlim.release_eq_error s.fileLogger.logSemaphore
    split at h <;> rename_i hrelease <;>
      obtain ⟨rfl, rfl⟩ := Prod.mk.inj (Option.some.inj h)
    · obtain ⟨hbefore, hafter⟩ := SemaphoreSlim.release_disposed hrelease
      refine ⟨rfl, rfl, rfl, rfl, fun h => ?_, by simp [stepsLeft], by simp,
        by simp [PastWait], by simp [PastWait], ?_⟩
      · simpa [released, releasedAt, hbefore, hafter] using h
      · rw [hrelease] at herror
        simpa using herror
    · obtain ⟨hnothing, hpast⟩ := releasedAt_threw (ne_streamWriter_of_release hrelease)
      refine ⟨rfl, rfl, rfl, rfl, fun h => h.trans hnothing.symm, by simp [stepsLeft], by simp,
        by simp [PastWait], by simp [hpast], ?_⟩
      rw [hrelease] at herror
      simpa using herror
  case disposeStreamWriter =>
    obtain ⟨rfl, rfl⟩ := Prod.mk.inj (Option.some.inj h)
    by_cases hfails : choice = .writeFails
    · rw [if_pos hfails]
      refine ⟨rfl, rfl, rfl, rfl, fun h => ?_, by simp [stepsLeft], by simp,
        by simp [PastWait], by simp [PastWait], by simp [hfails]⟩
      simp only [released, releasedAt, Prod.mk.injEq] at h ⊢
      simp [h]
    · rw [if_neg hfails]
      refine ⟨rfl, rfl, rfl, rfl, fun h => ?_, by simp [stepsLeft], by simp,
        by simp [PastWait], by simp [PastWait], by simp [hfails]⟩
      simp only [released, releasedAt, Prod.mk.injEq] at h ⊢
      simp [h]
  case returned => cases h
  case threw => cases h
  all_goals
    obtain ⟨rfl, rfl⟩ := Prod.mk.inj (Option.some.inj h)
    refine ⟨rfl, rfl, rfl, rfl, fun h => ?_, by simp [stepsLeft], by simp,
      by simp [PastWait], by simp [PastWait], by simp⟩
    simp only [released, releasedAt, Prod.mk.injEq] at h ⊢
    simp [SemaphoreSlim.dispose, h]

end Steps

/-! ### The invariant -/

section Invariant

/-- What holds in every state reached: one call of the two methods at most gets past its first
step, and what is disposed of is as far as that call has come. -/
structure Sound (c : Config ι Line) : Prop where
  unbegun : c.shared.first = none →
    c.shared.fileLogger.disposed = false ∧ released c.shared.fileLogger = (false, false, false)
  begun : ∀ j, c.shared.first = some j → c.shared.fileLogger.disposed = true ∧
    ∃ q, c.pc (.dispose j) = .dispose q ∧ q ≠ .exchange ∧
      released c.shared.fileLogger = releasedAt q
  others : ∀ j, c.shared.first ≠ some j →
    c.pc (.dispose j) = .dispose .exchange ∨ c.pc (.dispose j) = .dispose .returned
  running : ∀ w, c.pc .writer = .writer w → w ≠ .ended →
    c.shared.fileLogger.writingTask = .running

theorem sound_initial : Sound (initial : Config ι Line) where
  unbegun := fun _ => ⟨rfl, rfl⟩
  begun := nofun
  others := fun _ _ => .inl rfl
  running := fun _ _ _ => rfl

/-- Where the call `d` is. -/
theorem Sound.exists_pc {c : Config ι Line} (h : Sound c) (d : ι) :
    ∃ q, c.pc (.dispose d) = .dispose q := by
  by_cases hd : c.shared.first = some d
  · obtain ⟨-, q, hq, -⟩ := h.begun d hd
    exact ⟨q, hq⟩
  · exact (h.others d hd).elim (fun h => ⟨_, h⟩) fun h => ⟨_, h⟩

theorem Sound.disposed_iff {c : Config ι Line} (h : Sound c) :
    c.shared.fileLogger.disposed = true ↔ c.shared.first ≠ none := by
  cases hfirst : c.shared.first with
  | none => simp [(h.unbegun hfirst).1]
  | some j => simp [(h.begun j hfirst).1]

theorem Sound.first_eq_none {c : Config ι Line} (h : Sound c)
    (hnot : c.shared.fileLogger.disposed = false) : c.shared.first = none := by
  by_contra hfirst
  rw [h.disposed_iff.mpr hfirst] at hnot
  cases hnot

/-- A call before its first step is not the first one. -/
theorem Sound.first_ne {c : Config ι Line} (h : Sound c) {j : ι}
    (hj : c.pc (.dispose j) = .dispose .exchange) : c.shared.first ≠ some j := by
  intro hfirst
  obtain ⟨-, q, hq, hbegun, -⟩ := h.begun j hfirst
  exact hbegun (Pc.dispose.inj (hq.symm.trans hj))

/-- A call between its first step and its end is the first one. -/
theorem Sound.first_of_midway {c : Config ι Line} (h : Sound c) {j : ι} {q : DisposePc}
    (hj : c.pc (.dispose j) = .dispose q) (hq : q ≠ .exchange) (hleft : stepsLeft q ≠ 0) :
    c.shared.first = some j := by
  by_contra hnot
  rcases h.others j hnot with hexchange | hreturned
  · exact hq (Pc.dispose.inj (hj.symm.trans hexchange))
  · obtain rfl := Pc.dispose.inj (hj.symm.trans hreturned)
    exact hleft rfl

/-- The task runs on when a process other than the writer leaves it alone. -/
theorem Sound.running_of_same {c c' : Config ι Line} (h : Sound c)
    (htask : c'.shared.fileLogger.writingTask = c.shared.fileLogger.writingTask)
    (hpc : c'.pc .writer = c.pc .writer) (w : WriterPc Line) (hw : c'.pc .writer = .writer w)
    (hended : w ≠ .ended) : c'.shared.fileLogger.writingTask = .running := by
  rw [htask]
  exact h.running w (hpc.symm.trans hw) hended

variable [DecidableEq ι] {line : ι → Line} {method : ι → DisposeMethod} {c c' : Config ι Line}

/-- **What a step of the system does**, by the process that moves. -/
inductive Move (method : ι → DisposeMethod) (p : Process ι) (e : Choice × WriteException)
    (c c' : Config ι Line) : Prop
  | log (i : ι) (mover : p = .log i)
      (lifecycle : SameLifecycle c.shared.fileLogger c'.shared.fileLogger)
      (first : c'.shared.first = c.shared.first)
      (task : c'.shared.fileLogger.writingTask = c.shared.fileLogger.writingTask)
      (taskException : c'.shared.taskException = c.shared.taskException)
      (same : ∀ q, q ≠ p → c'.pc q = c.pc q)
  | writer (w w' : WriterPc Line) (mover : p = .writer) (at_w : c.pc .writer = .writer w)
      (at_w' : c'.pc .writer = .writer w') (notEnded : w ≠ .ended)
      (lifecycle : SameLifecycle c.shared.fileLogger c'.shared.fileLogger)
      (first : c'.shared.first = c.shared.first)
      (task : TaskMove e.1 e.2 c.shared c'.shared w w') (same : ∀ q, q ≠ p → c'.pc q = c.pc q)
  /-- a call finds the logger disposed of -/
  | late (j : ι) (mover : p = .dispose j) (at_j : c.pc (.dispose j) = .dispose .exchange)
      (disposed : c.shared.fileLogger.disposed = true) (shared : c'.shared = c.shared)
      (at_j' : c'.pc (.dispose j) = .dispose .returned) (same : ∀ q, q ≠ p → c'.pc q = c.pc q)
  /-- a call is the first one -/
  | begins (j : ι) (mover : p = .dispose j) (at_j : c.pc (.dispose j) = .dispose .exchange)
      (notDisposed : c.shared.fileLogger.disposed = false)
      (shared : c'.shared = { c.shared with
        fileLogger := { c.shared.fileLogger with disposed := true }, first := some j })
      (at_j' : c'.pc (.dispose j) = .dispose .cancel) (same : ∀ q, q ≠ p → c'.pc q = c.pc q)
  | disposes (j : ι) (q q' : DisposePc) (mover : p = .dispose j)
      (at_j : c.pc (.dispose j) = .dispose q) (at_j' : c'.pc (.dispose j) = .dispose q')
      (notAt : q ≠ .exchange) (move : DisposeMove (method j) e.1 c.shared c'.shared q q')
      (same : ∀ q, q ≠ p → c'.pc q = c.pc q)

theorem move_of_next {p : Process ι} {e : Choice × WriteException} (hc : Sound c)
    (h : Pool.next (step line method) (p, e) c = some c') : Move method p e c c' := by
  obtain ⟨⟨s, l, hstep, hs, hl⟩, hsame⟩ := Pool.pc_of_next h
  subst hs hl
  cases p with
  | log i =>
    cases hpc : c.pc (.log i) <;>
      simp only [hpc, step, reduceCtorEq, Option.map_eq_some_iff] at hstep
    obtain ⟨⟨g, q⟩, hlog, hr⟩ := hstep
    obtain ⟨hshared, -⟩ := Prod.mk.inj hr
    refine .log i rfl ?_ ?_ ?_ ?_ hsame <;> rw [← hshared]
    · exact logStep_sameLifecycle hlog
    · exact (logStep_appends hlog).writingTask
  | writer =>
    cases hpc : c.pc .writer <;>
      simp only [hpc, step, reduceCtorEq, Option.map_eq_some_iff] at hstep
    rename_i w
    obtain ⟨⟨t, w'⟩, hwriter, hr⟩ := hstep
    obtain ⟨rfl, hw'⟩ := Prod.mk.inj hr
    have hended : w ≠ .ended := by
      rintro rfl
      cases hwriter
    obtain ⟨hlife, hfirst, htask⟩ := writerStep_spec (hc.running w hpc hended) hwriter
    exact .writer w w' rfl hpc hw'.symm hended hlife hfirst htask hsame
  | dispose j =>
    cases hpc : c.pc (.dispose j) <;>
      simp only [hpc, step, reduceCtorEq, Option.map_eq_some_iff] at hstep
    rename_i q
    obtain ⟨⟨t, q'⟩, hdispose, hr⟩ := hstep
    obtain ⟨rfl, hq'⟩ := Prod.mk.inj hr
    by_cases hq : q = .exchange
    · subst hq
      simp only [disposeStep, FileLogger.disposeStep] at hdispose
      split_ifs at hdispose with hdisposed <;>
        obtain ⟨hshared, rfl⟩ := Prod.mk.inj (Option.some.inj hdispose)
      · exact .late j rfl hpc hdisposed (hshared.symm.trans rfl) hq'.symm hsame
      · exact .begins j rfl hpc (by simpa using hdisposed) hshared.symm hq'.symm hsame
    · exact .disposes j q q' rfl hpc hq'.symm hq (disposeStep_move hq hdispose) hsame

omit [DecidableEq ι] in
/-- What a call that has not set `_disposed` leaves alone. -/
theorem sound_of_sameLifecycle (hc : Sound c)
    (hlife : SameLifecycle c.shared.fileLogger c'.shared.fileLogger)
    (hfirst : c'.shared.first = c.shared.first)
    (hpc : ∀ j, c'.pc (.dispose j) = c.pc (.dispose j))
    (hrunning : ∀ w, c'.pc .writer = .writer w → w ≠ .ended →
      c'.shared.fileLogger.writingTask = .running) : Sound c' := by
  have hreleased : released c'.shared.fileLogger = released c.shared.fileLogger := by
    rw [released, released, hlife.streamWriter, hlife.semaphore, hlife.cancellationTokenSource]
  refine ⟨fun h => ?_, fun j h => ?_, fun j h => ?_, hrunning⟩
  · rw [hreleased, hlife.disposed]
    exact hc.unbegun (hfirst.symm.trans h)
  · rw [hreleased, hlife.disposed, hpc]
    exact hc.begun j (hfirst.symm.trans h)
  · rw [hpc]
    exact hc.others j (hfirst ▸ h)

theorem sound_of_move {p : Process ι} {e : Choice × WriteException} (hc : Sound c)
    (h : Move method p e c c') : Sound c' := by
  cases h with
  | log i mover hlife hfirst htask _ hsame =>
    subst mover
    exact sound_of_sameLifecycle hc hlife hfirst (fun j => hsame _ nofun)
      (hc.running_of_same htask (hsame .writer nofun))
  | writer w w' mover hw hw' hnotEnded hlife hfirst htask hsame =>
    subst mover
    refine sound_of_sameLifecycle hc hlife hfirst (fun j => hsame _ nofun) fun v hv hended => ?_
    obtain rfl : w' = v := Pc.writer.inj (hw'.symm.trans hv)
    cases htask with
    | runs hrunning => exact hrunning
    | completes _ hw' | failsWrite _ _ _ _ hw' | failsOtherwise _ hw' => exact absurd hw' hended
  | late j mover hj hdisposed hshared hj' hsame =>
    subst mover
    refine ⟨hshared ▸ hc.unbegun, fun k hk => ?_, fun k hk => ?_,
      hc.running_of_same (by rw [hshared]) (hsame .writer nofun)⟩
    · rw [hshared] at hk ⊢
      have hkj : k ≠ j := fun hkj => hc.first_ne hj (hkj ▸ hk)
      rw [hsame _ (by simpa using hkj)]
      exact hc.begun k hk
    · by_cases hkj : k = j
      · exact .inr (hkj ▸ hj')
      · rw [hsame _ (by simpa using hkj)]
        exact hc.others k (hshared ▸ hk)
  | begins j mover hj hnot hshared hj' hsame =>
    subst mover
    have hnone := hc.first_eq_none hnot
    have hreleased := (hc.unbegun hnone).2
    have hfirst : c'.shared.first = some j := by rw [hshared]
    refine ⟨fun h => ?_, fun k hk => ?_, fun k hk => ?_,
      hc.running_of_same (by rw [hshared]) (hsame .writer nofun)⟩
    · rw [hfirst] at h
      cases h
    · obtain rfl : j = k := Option.some.inj (hfirst.symm.trans hk)
      rw [hshared]
      exact ⟨rfl, .cancel, hj', nofun, hreleased⟩
    · have hkj : k ≠ j := by
        rintro rfl
        exact hk hfirst
      rw [hsame _ (by simpa using hkj)]
      exact hc.others k (by simp [hnone])
  | disposes j q q' mover hj hj' hq hmove hsame =>
    subst mover
    have hfirst := hc.first_of_midway hj hq (Nat.ne_zero_of_lt hmove.stepsLeft)
    obtain ⟨hdisposed, r, hr, -, hreleased⟩ := hc.begun j hfirst
    obtain rfl : r = q := Pc.dispose.inj (hr.symm.trans hj)
    refine ⟨fun h => ?_, fun k hk => ?_, fun k hk => ?_,
      hc.running_of_same hmove.task (hsame .writer nofun)⟩
    · rw [hmove.first, hfirst] at h
      cases h
    · obtain rfl : j = k := Option.some.inj (hfirst.symm.trans (hmove.first.symm.trans hk))
      exact ⟨hmove.disposed.trans hdisposed, q', hj', hmove.begun, hmove.released hreleased⟩
    · have hkj : k ≠ j := by
        rintro rfl
        exact hk (hmove.first.trans hfirst)
      rw [hsame _ (by simpa using hkj)]
      exact hc.others k (hmove.first ▸ hk)

theorem sound_next {a : Process ι × Choice × WriteException} (hc : Sound c)
    (h : Pool.next (step line method) a c = some c') : Sound c' :=
  sound_of_move hc (move_of_next hc h)

end Invariant

/-! ### Harmless runs -/

section Runs

variable [DecidableEq ι] {line : ι → Line} {method : ι → DisposeMethod} {c c' : Config ι Line}
  {a : Process ι × Choice × WriteException} {d : ι}

/-- Unless another call is the first one, what the task has failed with is caught by `d`, and `d`
has not thrown. -/
def Safe (method : ι → DisposeMethod) (d : ι) (c : Config ι Line) : Prop :=
  (∀ j, c.shared.first = some j → j = d) → ∀ q, c.pc (.dispose d) = .dispose q →
    (∀ e, q ≠ .threw e) ∧
    (c.shared.fileLogger.writingTask = .faulted → PastWait q = false →
      c.shared.taskException.any (method d).catches = true)

omit [DecidableEq ι] in
/-- When the task fails while `d` has still to wait, `d` catches what it fails with. -/
theorem caught_of_taskMove {e : Choice × WriteException} {w w' : WriterPc Line} {q : DisposePc}
    (hC : Harmless method d (.writer, e) c) (hc : Sound c) (hw : c.pc .writer = .writer w)
    (htask : TaskMove e.1 e.2 c.shared c'.shared w w')
    (hfirst : ∀ j, c.shared.first = some j → j = d) (hq : c.pc (.dispose d) = .dispose q)
    (hpast : PastWait q = false) (hfaulted : c'.shared.fileLogger.writingTask = .faulted) :
    c'.shared.taskException.any (method d).catches = true := by
  cases htask with
  | runs hrunning =>
    rw [hrunning] at hfaulted
    cases hfaulted
  | completes hcompleted =>
    rw [hcompleted] at hfaulted
    cases hfaulted
  | failsWrite hfails huncaught hat hresult _ =>
    obtain ⟨logEntry, hat⟩ := hat
    have hAtWrite : AtWrite c := ⟨logEntry, by rcases hat with rfl | rfl <;> simp [hw]⟩
    have hcatches : (method d).catches e.2 = true := by
      rcases hC.write rfl hfails hAtWrite with hdisposed | hcatches | ⟨r, hr, hrpast⟩
      · exact absurd hdisposed huncaught
      · exact hcatches
      · obtain rfl : q = r := Pc.dispose.inj (hq.symm.trans hr)
        rw [hpast] at hrpast
        cases hrpast
    rw [hresult, State.failWrite, if_neg huncaught]
    exact hcatches
  | failsOtherwise hdisposed _ =>
    -- something is disposed of, so the wait of `d` is over
    cases hfirstc : c.shared.first with
    | none => exact absurd (hc.unbegun hfirstc).2 hdisposed
    | some j =>
      obtain rfl := hfirst j hfirstc
      obtain ⟨-, r, hr, -, hreleased⟩ := hc.begun j hfirstc
      obtain rfl : q = r := Pc.dispose.inj (hq.symm.trans hr)
      rw [hreleased] at hdisposed
      cases q with
      | threw exception => cases exception <;> simp [PastWait, releasedAt] at hpast hdisposed
      | _ => simp [PastWait, releasedAt] at hpast hdisposed

omit [DecidableEq ι] in
/-- A step of `d` does not throw: the semaphore is there, the wait throws what `d` catches, and the
stream writer does not fail. -/
theorem notThrown_of_disposeMove {e : Choice × WriteException} {q q' : DisposePc}
    (hC : Harmless method d (.dispose d, e) c) (hc : Sound c)
    (hq : c.pc (.dispose d) = .dispose q) (hnot : q ≠ .exchange)
    (hcaught : c.shared.fileLogger.writingTask = .faulted → PastWait q = false →
      c.shared.taskException.any (method d).catches = true)
    (hmove : DisposeMove (method d) e.1 c.shared c'.shared q q') (exception : LoggerException) :
    q' ≠ .threw exception := by
  intro hthrew
  rcases hmove.threw.mp ⟨exception, hthrew⟩ with
    ⟨rfl, hdisposed | hmax⟩ | ⟨rfl, hfaulted, huncaught⟩ | ⟨rfl, hfails⟩
  · obtain ⟨-, r, hr, -, hreleased⟩ :=
      hc.begun d (hc.first_of_midway hq hnot (Nat.succ_ne_zero 4))
    obtain rfl : .release = r := Pc.dispose.inj (hq.symm.trans hr)
    simp [released, releasedAt, hdisposed] at hreleased
  · exact hC.release rfl hq hmax
  · rw [hcaught hfaulted rfl] at huncaught
    cases huncaught
  · exact hC.streamWriter rfl hq hfails

theorem safe_next (hC : Harmless method d a c) (hc : Sound c) (hsafe : Safe method d c)
    (h : Pool.next (step line method) a c = some c') : Safe method d c' := by
  obtain ⟨p, e⟩ := a
  intro hfirst' q hq
  cases move_of_next hc h with
  | log i mover _ hfirst htask hexception hsame =>
    subst mover
    rw [htask, hexception]
    exact hsafe (hfirst ▸ hfirst') q ((hsame (.dispose d) nofun).symm.trans hq)
  | writer w w' mover hw _ _ _ hfirst htask hsame =>
    subst mover
    have hqc := (hsame (.dispose d) nofun).symm.trans hq
    have hfirstc := hfirst ▸ hfirst'
    exact ⟨(hsafe hfirstc q hqc).1, fun hfaulted hpast =>
      caught_of_taskMove hC hc hw htask hfirstc hqc hpast hfaulted⟩
  | late j mover hj hdisposed hshared hj' hsame =>
    subst mover
    rw [hshared] at hfirst' ⊢
    by_cases hjd : j = d
    · subst hjd
      obtain rfl : .returned = q := Pc.dispose.inj (hj'.symm.trans hq)
      exact ⟨nofun, fun _ hpast => by cases hpast⟩
    · exact hsafe hfirst' q ((hsame _ (by simpa using Ne.symm hjd)).symm.trans hq)
  | begins j mover hj hnot hshared hj' hsame =>
    subst mover
    have hfirst : c'.shared.first = some j := by rw [hshared]
    obtain rfl := hfirst' j hfirst
    have hnone := hc.first_eq_none hnot
    obtain rfl : .cancel = q := Pc.dispose.inj (hj'.symm.trans hq)
    refine ⟨nofun, fun hfaulted _ => ?_⟩
    rw [hshared] at hfaulted ⊢
    exact (hsafe (by simp [hnone]) _ hj).2 hfaulted rfl
  | disposes j r r' mover hj hj' hr hmove hsame =>
    subst mover
    rw [hmove.task, hmove.taskException]
    by_cases hjd : j = d
    · subst hjd
      obtain rfl : r' = q := Pc.dispose.inj (hj'.symm.trans hq)
      have hfirst : ∀ k, c.shared.first = some k → k = j := fun k hk =>
        hfirst' k (hmove.first.trans hk)
      obtain ⟨-, hcaught⟩ := hsafe hfirst r hj
      refine ⟨notThrown_of_disposeMove hC hc hj hr hcaught hmove, fun hfaulted hpast =>
        hcaught hfaulted ?_⟩
      by_contra hnot
      rw [hmove.past (by simpa using hnot)] at hpast
      cases hpast
    · exact hsafe (hmove.first ▸ hfirst') q ((hsame _ (by simpa using Ne.symm hjd)).symm.trans hq)

/-! ### Runs that are not harmless -/

/-- Another call is the first one, or `d` has thrown, or is going to, as it does not catch what the
task has failed with. -/
def Doomed (method : ι → DisposeMethod) (d : ι) (c : Config ι Line) : Prop :=
  (∃ j, j ≠ d ∧ c.shared.first = some j) ∨ ∃ q, c.pc (.dispose d) = .dispose q ∧
    ((∃ e, q = .threw e) ∨ PastWait q = false ∧ c.shared.fileLogger.writingTask = .faulted ∧
      c.shared.taskException.any (method d).catches = false)

theorem doomed_next (hc : Sound c) (hdoomed : Doomed method d c)
    (h : Pool.next (step line method) a c = some c') : Doomed method d c' := by
  obtain ⟨p, e⟩ := a
  have hmoved := move_of_next hc h
  -- the first call stays the first one
  have hfirst (j : ι) (hj : c.shared.first = some j) : c'.shared.first = some j := by
    cases hmoved with
    | log _ _ _ hfirst => exact hfirst.trans hj
    | writer _ _ _ _ _ _ _ hfirst => exact hfirst.trans hj
    | late _ _ _ _ hshared => rw [hshared, hj]
    | begins _ _ _ hnot =>
      rw [hc.disposed_iff.mpr (by simp [hj])] at hnot
      cases hnot
    | disposes _ _ _ _ _ _ _ hmove => exact hmove.first.trans hj
  rcases hdoomed with ⟨j, hne, hj⟩ | ⟨q, hq, hdoomed⟩
  · exact .inl ⟨j, hne, hfirst j hj⟩
  · -- a call other than `d` keeps the task and its exception
    have hkeeps (hpc : c'.pc (.dispose d) = c.pc (.dispose d))
        (htask : c'.shared.fileLogger.writingTask = c.shared.fileLogger.writingTask)
        (hexception : c'.shared.taskException = c.shared.taskException) : Doomed method d c' :=
      .inr ⟨q, hpc.trans hq, by rw [htask, hexception]; exact hdoomed⟩
    cases hmoved with
    | log i mover _ _ htask hexception hsame =>
      subst mover
      exact hkeeps (hsame _ nofun) htask hexception
    | writer w w' mover hw _ hended _ _ _ hsame =>
      subst mover
      rcases hdoomed with hthrew | ⟨-, hfaulted, -⟩
      · exact .inr ⟨q, (hsame (.dispose d) nofun).trans hq, .inl hthrew⟩
      · -- the task has ended
        rw [hc.running w hw hended] at hfaulted
        cases hfaulted
    | late j mover hj hdisposed hshared _ hsame =>
      subst mover
      by_cases hjd : j = d
      · subst hjd
        obtain ⟨k, hk⟩ := Option.ne_none_iff_exists'.mp (hc.disposed_iff.mp hdisposed)
        refine .inl ⟨k, ?_, hshared ▸ hk⟩
        rintro rfl
        exact hc.first_ne hj hk
      · exact hkeeps (hsame _ (by simpa using Ne.symm hjd)) (by rw [hshared]) (by rw [hshared])
    | begins j mover hj _ hshared hj' hsame =>
      subst mover
      by_cases hjd : j = d
      · subst hjd
        obtain rfl : .exchange = q := Pc.dispose.inj (hj.symm.trans hq)
        rcases hdoomed with ⟨e', he'⟩ | ⟨-, hfaulted, huncaught⟩
        · cases he'
        · exact .inr ⟨.cancel, hj', .inr ⟨rfl, by rw [hshared]; exact hfaulted, by
            rw [hshared]
            exact huncaught⟩⟩
      · exact hkeeps (hsame _ (by simpa using Ne.symm hjd)) (by rw [hshared]) (by rw [hshared])
    | disposes j r r' mover hj hj' hr hmove hsame =>
      subst mover
      by_cases hjd : j = d
      · subst hjd
        obtain rfl : r = q := Pc.dispose.inj (hj.symm.trans hq)
        rcases hdoomed with ⟨e', rfl⟩ | ⟨hpast, hfaulted, huncaught⟩
        · exact absurd hmove.stepsLeft (Nat.not_lt_zero _)
        · refine .inr ⟨r', hj', ?_⟩
          rw [hmove.task, hmove.taskException]
          by_cases hwait : r = .wait
          · exact .inl (hmove.threw.mpr (.inr (.inl ⟨hwait, hfaulted, huncaught⟩)))
          · refine .inr ⟨?_, hfaulted, huncaught⟩
            by_contra hnot
            rcases hmove.getsPast (by simpa using hnot) with hr' | hr'
            · exact hwait hr'
            · rw [hpast] at hr'
              cases hr'
      · exact hkeeps (hsame _ (by simpa using Ne.symm hjd)) hmove.task hmove.taskException

/-- A step that does `d` harm dooms it. -/
theorem doomed_of_violation (hC : ¬ Harmless method d a c) (hc : Sound c)
    (h : Pool.next (step line method) a c = some c') : Doomed method d c' := by
  obtain ⟨p, e⟩ := a
  have hviolation : (p = .writer ∧ e.1 = .writeFails ∧ AtWrite c ∧ e.2 ≠ .objectDisposed ∧
      (method d).catches e.2 = false ∧ ∀ q, c.pc (.dispose d) = .dispose q → PastWait q = false) ∨
      (p = .dispose d ∧ c.pc (.dispose d) = .dispose .release ∧
        c.shared.fileLogger.logSemaphore.count = SemaphoreSlim.maxCount) ∨
      (p = .dispose d ∧ c.pc (.dispose d) = .dispose .disposeStreamWriter ∧
        e.1 = .writeFails) := by
    by_contra hnot
    rw [not_or, not_or] at hnot
    refine hC ⟨fun hp hfails hat => ?_, fun hp hpc hmax => hnot.2.1 ⟨hp, hpc, hmax⟩,
      fun hp hpc hfails => hnot.2.2 ⟨hp, hpc, hfails⟩⟩
    by_contra hharm
    simp only [not_or, not_exists, not_and, Bool.not_eq_true] at hharm
    exact hnot.1 ⟨hp, hfails, hat, hharm.1, hharm.2.1, hharm.2.2⟩
  obtain ⟨r, hr⟩ := hc.exists_pc d
  -- a step of `d` that throws dooms it
  have hthrows (hp : p = .dispose d) (hne : r ≠ .exchange)
      (hthrew : ∀ q', DisposeMove (method d) e.1 c.shared c'.shared r q' → ∃ e', q' = .threw e') :
      Doomed method d c' := by
    subst hp
    cases move_of_next hc h with
    | disposes j q q' mover hj hj' _ hmove =>
      obtain rfl : d = j := by simpa using mover
      obtain rfl : q = r := Pc.dispose.inj (hj.symm.trans hr)
      exact .inr ⟨q', hj', .inl (hthrew q' hmove)⟩
    | log _ mover => cases mover
    | writer _ _ mover => cases mover
    | late j mover hj | begins j mover hj =>
      obtain rfl : d = j := by simpa using mover
      exact absurd (Pc.dispose.inj (hr.symm.trans hj)) hne
  rcases hviolation with ⟨rfl, hfails, ⟨logEntry, hat⟩, huncaught, hcatches, hpast⟩ |
    ⟨hp, hrelease, hmax⟩ | ⟨hp, hstreamWriter, hfails⟩
  · obtain ⟨⟨s, l, hstep, hs, -⟩, hsame⟩ := Pool.pc_of_next h
    have hfailed : c'.shared = c.shared.failWrite e.2 := by
      rcases hat with hat | hat <;>
        simp only [hat, step, writerStep, hfails, if_true, Option.map_some, Option.some.injEq,
          Prod.mk.injEq] at hstep
      all_goals exact hs.trans hstep.1.symm
    refine .inr ⟨r, (hsame (.dispose d) nofun).trans hr, .inr ⟨hpast r hr, ?_⟩⟩
    rw [hfailed, State.failWrite, if_neg huncaught]
    exact ⟨rfl, hcatches⟩
  · obtain rfl : r = .release := Pc.dispose.inj (hr.symm.trans hrelease)
    exact hthrows hp nofun fun _ hmove => hmove.threw.mpr (.inl ⟨rfl, .inr hmax⟩)
  · obtain rfl : r = .disposeStreamWriter := Pc.dispose.inj (hr.symm.trans hstreamWriter)
    exact hthrows hp nofun fun _ hmove => hmove.threw.mpr (.inr (.inr ⟨rfl, hfails⟩))

/-! ### The main result -/

/-- A call that is not over can take its next step: the wait has a limit. -/
theorem exists_next {q : DisposePc} (hq : c.pc (.dispose d) = .dispose q)
    (hleft : stepsLeft q ≠ 0) :
    ∃ e c', Pool.next (step line method) (.dispose d, e) c = some c' := by
  have hstep : ∃ choice r, disposeStep (method d) d choice c.shared q = some r := by
    cases q <;> simp only [stepsLeft, ne_eq, not_true_eq_false] at hleft
    case exchange =>
      refine ⟨.ok, ?_⟩
      rw [disposeStep, FileLogger.disposeStep]
      split_ifs <;> exact ⟨_, rfl⟩
    case release =>
      refine ⟨.ok, ?_⟩
      simp only [disposeStep, FileLogger.disposeStep]
      split <;> exact ⟨_, rfl⟩
    case wait =>
      refine ⟨.timeout, ?_⟩
      rw [disposeStep, waitStep]
      cases c.shared.fileLogger.writingTask <;> simp only [if_true]
      · exact ⟨_, rfl⟩
      · exact ⟨_, rfl⟩
      · split_ifs <;> exact ⟨_, rfl⟩
    all_goals exact ⟨.ok, _, rfl⟩
  obtain ⟨choice, r, hr⟩ := hstep
  refine ⟨(choice, .other), _, Pool.next_eq_some.mpr ⟨r.1, .dispose r.2, ?_, rfl⟩⟩
  rw [hq]
  simp only [step, hr, Option.map_some]

/-- The call `d` is bounded: while it has not come to an end it can take a step, and each of its
steps brings it nearer to its end. -/
def Bounded (line : ι → Line) (method : ι → DisposeMethod) (d : ι) (c : Config ι Line) : Prop :=
  ∃ q, c.pc (.dispose d) = .dispose q ∧
    (stepsLeft q ≠ 0 → ∃ e c', Pool.next (step line method) (.dispose d, e) c = some c') ∧
    ∀ e c', Pool.next (step line method) (.dispose d, e) c = some c' →
      ∃ q', c'.pc (.dispose d) = .dispose q' ∧ stepsLeft q' < stepsLeft q

theorem bounded_of_sound (line : ι → Line) (method : ι → DisposeMethod) (d : ι) (hc : Sound c) :
    Bounded line method d c := by
  obtain ⟨q, hq⟩ := hc.exists_pc d
  refine ⟨q, hq, exists_next hq, fun e c' h => ?_⟩
  cases move_of_next hc h with
  | log _ mover => cases mover
  | writer _ _ mover => cases mover
  | late j mover hj _ _ hj' =>
    obtain rfl : d = j := by simpa using mover
    obtain rfl : .exchange = q := Pc.dispose.inj (hj.symm.trans hq)
    exact ⟨.returned, hj', by decide⟩
  | begins j mover hj _ _ hj' =>
    obtain rfl : d = j := by simpa using mover
    obtain rfl : .exchange = q := Pc.dispose.inj (hj.symm.trans hq)
    exact ⟨.cancel, hj', by decide⟩
  | disposes j r r' mover hj hj' _ hmove =>
    obtain rfl : d = j := by simpa using mover
    obtain rfl : r = q := Pc.dispose.inj (hj.symm.trans hq)
    exact ⟨r', hj', hmove.stepsLeft⟩

/-- Every further call does nothing. -/
theorem further_calls_nothing (hc : Sound c) (hfirst : c.shared.first = some d) {j : ι}
    (hne : j ≠ d) {e : Choice × WriteException}
    (h : Pool.next (step line method) (.dispose j, e) c = some c') :
    c'.shared = c.shared ∧ c'.pc (.dispose j) = .dispose .returned := by
  have hnot : c.shared.first ≠ some j := fun hj => hne (Option.some.inj (hj.symm.trans hfirst))
  cases move_of_next hc h with
  | log _ mover => cases mover
  | writer _ _ mover => cases mover
  | late k mover _ _ hshared hk' =>
    obtain rfl : j = k := by simpa using mover
    exact ⟨hshared, hk'⟩
  | begins k mover _ hopen =>
    rw [(hc.begun d hfirst).1] at hopen
    cases hopen
  | disposes k r r' mover hk _ hr hmove =>
    obtain rfl : j = k := by simpa using mover
    exact absurd (hc.first_of_midway hk hr (Nat.ne_zero_of_lt hmove.stepsLeft)) hnot

/-- **Disposal and failing writes.** In any run in which `d` is the first of the calls of `Dispose`
and `DisposeAsync`: `d` is bounded, and every other call does nothing. Once `d` has come to an end,
it has returned with the stream writer, the semaphore and the cancellation source disposed of if
and only if every step of the run was harmless to it. -/
theorem released_iff (line : ι → Line) (method : ι → DisposeMethod)
    {as : List (Process ι × Choice × WriteException)}
    (hexec : exec (Pool.next (step line method)) as initial = some c)
    (hfirst : c.shared.first = some d) :
    Bounded line method d c ∧
    (∀ j, j ≠ d → ∀ e c', Pool.next (step line method) (.dispose j, e) c = some c' →
      c'.shared = c.shared ∧ c'.pc (.dispose j) = .dispose .returned) ∧
    (Ended (c.pc (.dispose d)) →
      (ReturnedReleased c d ↔
        Along (Pool.next (step line method)) (Harmless method d) as initial)) := by
  have hc : Sound c := exec_invariant (fun _ _ _ => sound_next) sound_initial hexec
  refine ⟨bounded_of_sound line method d hc, fun j hne e c' => further_calls_nothing hc hfirst hne,
    fun hended => ⟨fun hreturned => ?_, fun hall => ?_⟩⟩
  · -- a harmful step would have doomed `d`
    by_contra hviolated
    obtain ⟨pre, a, post, u, v, -, hu, -, ha, hv, hpost⟩ := exists_violation hexec hviolated
    have hsound : Sound u := exec_invariant (fun _ _ _ => sound_next) sound_initial hu
    obtain ⟨-, hdoomed⟩ := exec_invariant (I := fun c => Sound c ∧ Doomed method d c)
      (fun _ _ _ h hnext => ⟨sound_next h.1 hnext, doomed_next h.1 h.2 hnext⟩)
      ⟨sound_next hsound hv, doomed_of_violation ha hsound hv⟩ hpost
    rcases hdoomed with ⟨j, hne, hj⟩ | ⟨q, hq, hdoomed⟩
    · exact hne (Option.some.inj (hj.symm.trans hfirst))
    · obtain rfl : q = .returned := Pc.dispose.inj (hq.symm.trans hreturned.1)
      rcases hdoomed with ⟨e, he⟩ | ⟨hpast, -⟩
      · cases he
      · cases hpast
  · have hinitial : Safe method d (initial : Config ι Line) := fun _ q hq => by
      obtain rfl : .exchange = q := Pc.dispose.inj hq
      exact ⟨nofun, nofun⟩
    obtain ⟨-, hsafe⟩ := exec_induction (I := fun c => Sound c ∧ Safe method d c)
      (fun _ _ _ hC h hnext => ⟨sound_next h.1 hnext, safe_next hC h.1 h.2 hnext⟩) hall
      ⟨sound_initial, hinitial⟩ hexec
    obtain ⟨-, q, hq, -, hreleased⟩ := hc.begun d hfirst
    have hnotThrown := (hsafe (fun j hj => Option.some.inj (hj.symm.trans hfirst)) q hq).1
    rcases hended with hreturned | ⟨e, hthrew⟩
    · obtain rfl : q = .returned := Pc.dispose.inj (hq.symm.trans hreturned)
      exact ⟨hreturned, hreleased⟩
    · exact absurd (Pc.dispose.inj (hq.symm.trans hthrew)) (hnotThrown e)

end Runs

/-! ### Two runs -/

/-- A call of `Log` returns, and the task takes its line up to the write, which has the outcome
`write`; then `Dispose` takes `n` steps. -/
def writeThenDispose (write : Choice × WriteException) (n : ℕ) :
    List (Process Unit × Choice × WriteException) :=
  List.replicate 3 (.log (), .ok, .other) ++ List.replicate 4 (.writer, .ok, .other) ++
    [(.writer, write)] ++ List.replicate n (.dispose (), .ok, .other)

/-- The task catches what its write has failed with; `Dispose` returns, everything released. -/
theorem released_caughtWrite :
    ∃ c : Config Unit Char,
      exec (Pool.next (step (fun _ => 'x') fun _ => .dispose))
        (writeThenDispose (.writeFails, .objectDisposed) 7) initial = some c ∧
      ReturnedReleased c () ∧
      Along (Pool.next (step (fun _ => 'x') fun _ => .dispose)) (Harmless (fun _ => .dispose) ())
        (writeThenDispose (.writeFails, .objectDisposed) 7) (initial : Config Unit Char) := by
  have hrun : (exec (Pool.next (step (fun _ => 'x') fun _ => .dispose))
      (writeThenDispose (.writeFails, .objectDisposed) 7)
      (initial : Config Unit Char)).isSome = true := rfl
  have hreleased : ReturnedReleased ((exec (Pool.next (step (fun _ => 'x') fun _ => .dispose))
      (writeThenDispose (.writeFails, .objectDisposed) 7)
      (initial : Config Unit Char)).get hrun) () := ⟨rfl, rfl⟩
  exact ⟨_, (Option.some_get hrun).symm, hreleased,
    ((released_iff _ _ (Option.some_get hrun).symm rfl).2.2 (.inl rfl)).mp hreleased⟩

/-- A write fails with an exception that is none of those caught, then `Dispose` is called: it
throws, and nothing is released. -/
theorem failedWrite_notReleased :
    ∃ c : Config Unit Char,
      exec (Pool.next (step (fun _ => 'x') fun _ => .dispose))
        (writeThenDispose (.writeFails, .other) 4) initial = some c ∧
      c.shared.first = some () ∧ c.pc (.dispose ()) = .dispose (.threw .taskFaulted) ∧
      released c.shared.fileLogger = (false, false, false) := by
  have hrun : (exec (Pool.next (step (fun _ => 'x') fun _ => .dispose))
      (writeThenDispose (.writeFails, .other) 4) (initial : Config Unit Char)).isSome = true := rfl
  exact ⟨_, (Option.some_get hrun).symm, rfl, rfl, rfl⟩

end ElasticOpenTelemetry.WriterFailure
