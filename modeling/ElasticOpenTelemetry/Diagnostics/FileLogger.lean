import ElasticOpenTelemetry.Foundations.ProcessPool

/-!
# The file logger

`FileLogger` (`FileLogger.cs`) queues log lines and writes them from a background task: `Log`
enqueues a line and releases a semaphore, the task waits for the semaphore and drains the queue,
and `Dispose` cancels the task, waits for it with a timeout and disposes what it used.
`Dispose` and `DisposeAsync` take the same steps and differ in how they wait.

This file has the state and the three sequential programs, one atomic step at a time; `logStep`,
`writerStep` and `disposeStep` are what the machines of this folder are made of. A choice of the
environment says whether a level is enabled, which way a pending wait ends and what a write does.
-/

namespace ElasticOpenTelemetry

/-- The exceptions that can leave the loggers' methods. -/
inductive LoggerException
  | objectDisposed
  | semaphoreFull
  | nullReference
  /-- the writing task's own exception, thrown by the wait for it -/
  | taskFaulted
  /-- the stream writer's, thrown by its disposal -/
  | streamWriter
  deriving DecidableEq, Repr

/-- The asynchronous wait on a semaphore; there is one waiter at most. -/
inductive AsyncWaiter
  | none
  | pending
  | granted
  deriving DecidableEq, Repr

/-- `SemaphoreSlim`, created without a maximum count. -/
structure SemaphoreSlim where
  count : ℕ
  waiter : AsyncWaiter
  disposed : Bool
  deriving DecidableEq, Repr

namespace SemaphoreSlim

/-- `int.MaxValue`, the maximum count of a semaphore that was given none. -/
def maxCount : ℕ := 2147483647

/-- `Release()`: a pending wait is granted and takes the count at once. -/
def release (s : SemaphoreSlim) : Except LoggerException SemaphoreSlim :=
  -- the count is compared before the pending wait is looked at
  if s.disposed then .error .objectDisposed
  else if s.count = maxCount then .error .semaphoreFull
  else if s.waiter = .pending then .ok { s with waiter := .granted }
  else .ok { s with count := s.count + 1 }

/-- `Dispose()`, which forgets a pending wait. -/
def dispose (s : SemaphoreSlim) : SemaphoreSlim :=
  { s with disposed := true, waiter := if s.waiter = .pending then .none else s.waiter }

theorem release_disposed {s t : SemaphoreSlim} (h : s.release = .ok t) :
    s.disposed = false ∧ t.disposed = false := by
  unfold release at h
  split_ifs at h with hdisposed <;> simp_all
  all_goals (subst h; simp)

/-- `Release` throws exactly on a disposed semaphore and at the maximum count. -/
theorem release_eq_error {s : SemaphoreSlim} :
    (∃ exception, s.release = .error exception) ↔ s.disposed = true ∨ s.count = maxCount := by
  unfold release
  split_ifs <;> simp_all

end SemaphoreSlim

/-- The status of a task. -/
inductive TaskStatus
  | running
  | ranToCompletion
  | faulted
  deriving DecidableEq, Repr

/-- The fields of a `FileLogger`, the file, and the lines accepted so far. -/
structure FileLogger (Line : Type) where
  fileLoggingEnabled : Bool
  logQueue : List Line
  logSemaphore : SemaphoreSlim
  /-- cancellation was requested -/
  cancelled : Bool
  cancellationTokenSourceDisposed : Bool
  streamWriterDisposed : Bool
  disposed : Bool
  writingTask : TaskStatus
  /-- the lines in the file -/
  written : List Line
  /-- every line that was ever enqueued, in order -/
  accepted : List Line

/-- What the environment decides at a step. -/
inductive Choice
  /-- the level is enabled; the wait is granted; the write succeeds; the awaited task is done -/
  | ok
  /-- the level is not enabled -/
  | filtered
  /-- the pending wait ends with the cancellation -/
  | canceled
  /-- the stream writer fails: the write, with an exception other than `ObjectDisposedException`,
  or its disposal, in the flush or because a write is in flight -/
  | writeFails
  /-- the wait for the task times out -/
  | timeout
  deriving DecidableEq, Repr

namespace FileLogger

variable {Line : Type}

/-- A new logger with file logging enabled; its writing task has been started. -/
def new : FileLogger Line where
  fileLoggingEnabled := true
  logQueue := []
  logSemaphore := ⟨0, .none, false⟩
  cancelled := false
  cancellationTokenSourceDisposed := false
  streamWriterDisposed := false
  disposed := false
  writingTask := .running
  written := []
  accepted := []

/-! ### `Log` -/

/-- Where a call of `Log` is. -/
inductive LogPc
  | isEnabled
  | enqueue
  | release
  | returned
  | threw (exception : LoggerException)
  deriving DecidableEq, Repr

/-- `_logQueue.Enqueue`. -/
def enqueue (f : FileLogger Line) (logLine : Line) : FileLogger Line :=
  { f with logQueue := f.logQueue ++ [logLine], accepted := f.accepted ++ [logLine] }

/-- `Log`, with the line already formatted. -/
def logStep (logLine : Line) (choice : Choice) (f : FileLogger Line) :
    LogPc → Option (FileLogger Line × LogPc)
  | .isEnabled =>
    match choice with
    | .ok => if f.fileLoggingEnabled then some (f, .enqueue) else some (f, .returned)
    | .filtered => some (f, .returned)
    | _ => none
  | .enqueue => some (f.enqueue logLine, .release)
  | .release =>
    match f.logSemaphore.release with
    | .ok semaphore => some ({ f with logSemaphore := semaphore }, .returned)
    | .error exception => some (f, .threw exception)
  | .returned => none
  | .threw _ => none

/-! ### The writing task -/

/-- Where the writing task is. -/
inductive WriterPc (Line : Type)
  /-- `var cancellationToken = _cancellationTokenSource.Token` -/
  | start
  | waitAsync
  /-- the wait is pending -/
  | waiting
  /-- `_logQueue.TryDequeue` in the main loop -/
  | dequeue
  /-- `Volatile.Read(ref _disposed)` -/
  | check (logEntry : Line)
  | write (logEntry : Line)
  /-- `_logQueue.TryDequeue` in the loop that flushes the remaining entries -/
  | flushDequeue
  | flushCheck (logEntry : Line)
  | flushWrite (logEntry : Line)
  | ended
  deriving DecidableEq, Repr

/-- The wait on `_logSemaphore` changes its state. -/
def setWaiter (f : FileLogger Line) (waiter : AsyncWaiter) : FileLogger Line :=
  { f with logSemaphore := { f.logSemaphore with waiter := waiter } }

/-- The task ends. -/
def finish (f : FileLogger Line) (status : TaskStatus) :
    Option (FileLogger Line × WriterPc Line) :=
  some ({ f with writingTask := status }, .ended)

/-- `_streamWriter.WriteLineAsync`: a disposed stream ends the task gracefully, any other
exception faults it. -/
def writeLineAsync (logEntry : Line) (choice : Choice) (f : FileLogger Line)
    (loop : WriterPc Line) : Option (FileLogger Line × WriterPc Line) :=
  match choice with
  | .ok =>
    if f.streamWriterDisposed then f.finish .ranToCompletion
    else some ({ f with written := f.written ++ [logEntry] }, loop)
  | .writeFails => f.finish .faulted
  | _ => none

/-- The writing task. -/
def writerStep (choice : Choice) (f : FileLogger Line) :
    WriterPc Line → Option (FileLogger Line × WriterPc Line)
  | .start =>
    if f.cancellationTokenSourceDisposed then f.finish .faulted else some (f, .waitAsync)
  | .waitAsync =>
    if f.logSemaphore.disposed then f.finish .faulted
    else if f.cancelled then some (f, .flushDequeue)
    else if f.logSemaphore.count = 0 then some (f.setWaiter .pending, .waiting)
    else some ({ f with
      logSemaphore := { f.logSemaphore with count := f.logSemaphore.count - 1 } }, .dequeue)
  | .waiting =>
    match choice, f.logSemaphore.waiter with
    | .ok, .granted => some (f.setWaiter .none, .dequeue)
    | .canceled, .pending =>
      if f.cancelled then some (f.setWaiter .none, .flushDequeue) else none
    | _, _ => none
  | .dequeue =>
    match f.logQueue with
    | logEntry :: logQueue => some ({ f with logQueue := logQueue }, .check logEntry)
    | [] => some (f, .waitAsync)
  -- disposal has started: the entry that was just dequeued is dropped
  | .check logEntry => if f.disposed then f.finish .ranToCompletion else some (f, .write logEntry)
  | .write logEntry => writeLineAsync logEntry choice f .dequeue
  -- the loop after the main one, entered on cancellation only
  | .flushDequeue =>
    match f.logQueue with
    | logEntry :: logQueue => some ({ f with logQueue := logQueue }, .flushCheck logEntry)
    | [] => f.finish .ranToCompletion
  | .flushCheck logEntry =>
    if f.disposed then f.finish .ranToCompletion else some (f, .flushWrite logEntry)
  | .flushWrite logEntry => writeLineAsync logEntry choice f .flushDequeue
  | .ended => none

/-! ### `Dispose` and `DisposeAsync` -/

/-- Where a call of `Dispose` or `DisposeAsync` is. -/
inductive DisposePc
  /-- `Interlocked.Exchange(ref _disposed, 1)` -/
  | exchange
  | cancel
  | release
  | wait
  | disposeStreamWriter
  | disposeSemaphore
  | disposeCancellationTokenSource
  | returned
  | threw (exception : LoggerException)
  deriving DecidableEq, Repr

/-- `Dispose`, and `DisposeAsync`: both wait for the task at most five seconds, go on when the
time is over, and let the exception of a faulted task through. -/
def disposeStep (choice : Choice) (f : FileLogger Line) :
    DisposePc → Option (FileLogger Line × DisposePc)
  -- the flag is set before the task is told to stop
  | .exchange =>
    if f.disposed then some (f, .returned) else some ({ f with disposed := true }, .cancel)
  | .cancel => some ({ f with cancelled := true }, .release)
  | .release =>
    match f.logSemaphore.release with
    | .ok semaphore => some ({ f with logSemaphore := semaphore }, .wait)
    | .error exception => some (f, .threw exception)
  | .wait =>
    -- neither method catches what a faulted task throws
    match choice, f.writingTask with
    | .timeout, _ => some (f, .disposeStreamWriter)
    | .ok, .ranToCompletion => some (f, .disposeStreamWriter)
    | .ok, .faulted => some (f, .threw .taskFaulted)
    | _, _ => none
  | .disposeStreamWriter =>
    -- the stream is closed also when the disposal of its writer throws
    some ({ f with streamWriterDisposed := true },
      if choice = .writeFails then .threw .streamWriter else .disposeSemaphore)
  | .disposeSemaphore =>
    some ({ f with logSemaphore := f.logSemaphore.dispose }, .disposeCancellationTokenSource)
  | .disposeCancellationTokenSource =>
    some ({ f with cancellationTokenSourceDisposed := true }, .returned)
  | .returned => none
  | .threw _ => none

/-! ### What the steps leave alone -/

/-- What only `Dispose` changes is the same. -/
structure SameLifecycle (f g : FileLogger Line) : Prop where
  fileLoggingEnabled : g.fileLoggingEnabled = f.fileLoggingEnabled
  disposed : g.disposed = f.disposed
  cancelled : g.cancelled = f.cancelled
  semaphore : g.logSemaphore.disposed = f.logSemaphore.disposed
  streamWriter : g.streamWriterDisposed = f.streamWriterDisposed
  cancellationTokenSource : g.cancellationTokenSourceDisposed = f.cancellationTokenSourceDisposed

/-- What `Dispose` does not change is the same. -/
structure SameContent (f g : FileLogger Line) : Prop where
  fileLoggingEnabled : g.fileLoggingEnabled = f.fileLoggingEnabled
  logQueue : g.logQueue = f.logQueue
  written : g.written = f.written
  accepted : g.accepted = f.accepted
  writingTask : g.writingTask = f.writingTask

theorem logStep_sameLifecycle {logLine : Line} {choice : Choice} {f g : FileLogger Line}
    {pc pc' : LogPc} (h : logStep logLine choice f pc = some (g, pc')) : SameLifecycle f g := by
  cases pc <;> simp only [logStep] at h
  case isEnabled =>
    cases choice <;> simp only at h <;> try split_ifs at h
    all_goals (cases h; try constructor <;> rfl)
  case release =>
    -- a successful `Release` finds the semaphore undisposed and leaves it so
    split at h
    · rename_i semaphore hrelease
      obtain ⟨hbefore, hafter⟩ := SemaphoreSlim.release_disposed hrelease
      cases h
      exact ⟨rfl, rfl, rfl, hafter.trans hbefore.symm, rfl, rfl⟩
    · cases h
      constructor <;> rfl
  all_goals (cases h; try constructor <;> rfl)

/-- The entry that the writer has in its hand and has not tested for disposal. -/
def untested : WriterPc Line → List Line
  | .check logEntry | .flushCheck logEntry => [logEntry]
  | _ => []

/-- The entry that the writer is about to write. -/
def writing : WriterPc Line → List Line
  | .write logEntry | .flushWrite logEntry => [logEntry]
  | _ => []

/-- A step of the writer, in its main loop or in the loop that flushes the remaining entries. -/
inductive WriterMove (choice : Choice) (f : FileLogger Line) (pc : WriterPc Line) :
    FileLogger Line → WriterPc Line → Prop
  | waits (semaphore : SemaphoreSlim) (pc' : WriterPc Line)
      (same : semaphore.disposed = f.logSemaphore.disposed)
      (empty : untested pc = [] ∧ writing pc = []) (empty' : untested pc' = [] ∧ writing pc' = []) :
      WriterMove choice f pc { f with logSemaphore := semaphore } pc'
  | takes (logEntry : Line) (logQueue : List Line) (pc' : WriterPc Line)
      (queue : f.logQueue = logEntry :: logQueue) (empty : untested pc = [] ∧ writing pc = [])
      (hand : untested pc' = [logEntry] ∧ writing pc' = []) :
      WriterMove choice f pc { f with logQueue := logQueue } pc'
  | passes (logEntry : Line) (pc' : WriterPc Line) (notDisposed : f.disposed = false)
      (hand : untested pc = [logEntry] ∧ writing pc = [])
      (hand' : untested pc' = [] ∧ writing pc' = [logEntry]) : WriterMove choice f pc f pc'
  | writes (logEntry : Line) (pc' : WriterPc Line)
      (hand : untested pc = [] ∧ writing pc = [logEntry])
      (empty' : untested pc' = [] ∧ writing pc' = []) :
      WriterMove choice f pc { f with written := f.written ++ [logEntry] } pc'
  /-- the task drops an entry only after disposal, or where the write of it fails -/
  | finishes (status : TaskStatus) (drops : untested pc = [] ∨ f.disposed = true)
      (fails : writing pc = [] ∨ f.streamWriterDisposed = true ∨ choice = .writeFails) :
      WriterMove choice f pc { f with writingTask := status } .ended

theorem writerMove_of_writeLineAsync {choice : Choice} {f g : FileLogger Line} {logEntry : Line}
    {loop pc pc' : WriterPc Line} (hand : untested pc = [] ∧ writing pc = [logEntry])
    (hloop : untested loop = [] ∧ writing loop = [])
    (h : writeLineAsync logEntry choice f loop = some (g, pc')) : WriterMove choice f pc g pc' := by
  cases choice <;> simp only [writeLineAsync, finish, reduceCtorEq] at h
  case ok =>
    split_ifs at h with hclosed <;> cases h
    · exact .finishes _ (.inl hand.1) (.inr (.inl hclosed))
    · exact .writes logEntry _ hand hloop
  case writeFails =>
    cases h
    exact .finishes _ (.inl hand.1) (.inr (.inr rfl))

theorem writerMove_of_writerStep {choice : Choice} {f g : FileLogger Line}
    {pc pc' : WriterPc Line} (h : writerStep choice f pc = some (g, pc')) :
    pc ≠ .ended ∧ WriterMove choice f pc g pc' := by
  have hended : pc ≠ .ended := by
    rintro rfl
    cases h
  refine ⟨hended, ?_⟩
  cases pc <;> simp only [writerStep, finish, setWaiter] at h
  case start =>
    split_ifs at h <;> cases h
    · exact .finishes _ (.inl rfl) (.inl rfl)
    · exact .waits f.logSemaphore _ rfl ⟨rfl, rfl⟩ ⟨rfl, rfl⟩
  case waitAsync =>
    split_ifs at h <;> cases h
    · exact .finishes _ (.inl rfl) (.inl rfl)
    · exact .waits f.logSemaphore _ rfl ⟨rfl, rfl⟩ ⟨rfl, rfl⟩
    · exact .waits _ _ rfl ⟨rfl, rfl⟩ ⟨rfl, rfl⟩
    · exact .waits _ _ rfl ⟨rfl, rfl⟩ ⟨rfl, rfl⟩
  case waiting =>
    split at h <;> try split_ifs at h
    all_goals cases h
    · exact .waits _ _ rfl ⟨rfl, rfl⟩ ⟨rfl, rfl⟩
    · exact .waits _ _ rfl ⟨rfl, rfl⟩ ⟨rfl, rfl⟩
  case dequeue =>
    split at h <;> cases h
    · exact .takes _ _ _ ‹_› ⟨rfl, rfl⟩ ⟨rfl, rfl⟩
    · exact .waits f.logSemaphore _ rfl ⟨rfl, rfl⟩ ⟨rfl, rfl⟩
  case flushDequeue =>
    split at h <;> cases h
    · exact .takes _ _ _ ‹_› ⟨rfl, rfl⟩ ⟨rfl, rfl⟩
    · exact .finishes _ (.inl rfl) (.inl rfl)
  case check logEntry | flushCheck logEntry =>
    split_ifs at h with hdisposed <;> cases h
    · exact .finishes _ (.inr hdisposed) (.inl rfl)
    · exact .passes logEntry _ (by simpa using hdisposed) ⟨rfl, rfl⟩ ⟨rfl, rfl⟩
  case write logEntry | flushWrite logEntry =>
    exact writerMove_of_writeLineAsync ⟨rfl, rfl⟩ ⟨rfl, rfl⟩ h
  case ended => cases h

theorem WriterMove.sameLifecycle {choice : Choice} {f g : FileLogger Line}
    {pc pc' : WriterPc Line} (h : WriterMove choice f pc g pc') : SameLifecycle f g := by
  cases h with
  | waits semaphore _ hsame => exact ⟨rfl, rfl, rfl, hsame, rfl, rfl⟩
  | _ => exact ⟨rfl, rfl, rfl, rfl, rfl, rfl⟩

theorem WriterMove.accepted {choice : Choice} {f g : FileLogger Line} {pc pc' : WriterPc Line}
    (h : WriterMove choice f pc g pc') : g.accepted = f.accepted := by
  cases h <;> rfl

theorem disposeStep_sameContent {choice : Choice} {f g : FileLogger Line} {pc pc' : DisposePc}
    (h : disposeStep choice f pc = some (g, pc')) : SameContent f g := by
  cases pc <;> simp only [disposeStep] at h
  case exchange =>
    split_ifs at h
    all_goals (cases h; constructor <;> rfl)
  case release | wait =>
    split at h
    all_goals (cases h; try constructor <;> rfl)
  all_goals (cases h; try constructor <;> rfl)

/-- `Dispose` disposes the semaphore at one step. -/
theorem disposeStep_semaphore {choice : Choice} {f g : FileLogger Line} {pc pc' : DisposePc}
    (h : disposeStep choice f pc = some (g, pc')) :
    g.logSemaphore.disposed = f.logSemaphore.disposed ∨
      pc = .disposeSemaphore ∧ g.logSemaphore.disposed = true := by
  cases pc <;> simp only [disposeStep] at h
  case exchange =>
    split_ifs at h
    all_goals (cases h; exact .inl rfl)
  case release =>
    split at h
    · rename_i semaphore hrelease
      obtain ⟨hbefore, hafter⟩ := SemaphoreSlim.release_disposed hrelease
      cases h
      exact .inl (hafter.trans hbefore.symm)
    · cases h
      exact .inl rfl
  case wait =>
    split at h
    all_goals (cases h; try exact .inl rfl)
  case disposeSemaphore =>
    cases h
    exact .inr ⟨rfl, rfl⟩
  all_goals (cases h; try exact .inl rfl)

end FileLogger

end ElasticOpenTelemetry
