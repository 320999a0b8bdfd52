import ElasticOpenTelemetry.Diagnostics.FileLogger

/-!
# Shutting the file logger down

One file logger with its writing task, any number of calls of `Log` and any number of calls of
`Dispose`. Until it is disposed it keeps every line in exactly one place: in the file, in the
writer's hand or in the queue (`beforeOutline`).

`Dispose` sets `_disposed` before it cancels the task, and the writer tests `_disposed` after
every dequeue, also in the loop that is there to flush the remaining entries. So nothing that is
still queued, or dequeued and not yet tested, when `Dispose` begins is ever written, and
`flushed_iff` states that everything is written exactly when there is no such line.
-/

namespace ElasticOpenTelemetry.FileLoggerShutdown

open Execution FileLogger

/-- The sequential processes around one file logger. -/
inductive Process (ι : Type)
  | log (i : ι)
  | writer
  | dispose (i : ι)
  deriving DecidableEq

/-- Where a process is. -/
inductive Pc (Line : Type)
  | log (pc : LogPc)
  | writer (pc : WriterPc Line)
  | dispose (pc : DisposePc)
  deriving DecidableEq

variable {ι Line : Type}

/-- One step of a process; `line i` is what the call `i` of `Log` logs. -/
def step (line : ι → Line) : Pool.Program (Process ι) (FileLogger Line) (Pc Line) Choice :=
  fun p choice f pc =>
    match p, pc with
    | .log i, .log pc => (logStep (line i) choice f pc).map fun r => (r.1, .log r.2)
    | .writer, .writer pc => (writerStep choice f pc).map fun r => (r.1, .writer r.2)
    | .dispose _, .dispose pc => (disposeStep choice f pc).map fun r => (r.1, .dispose r.2)
    | _, _ => none

theorem step_eq_some {line : ι → Line} {p : Process ι} {choice : Choice} {f g : FileLogger Line}
    {pc pc' : Pc Line} (h : step line p choice f pc = some (g, pc')) :
    (∃ i q q', p = .log i ∧ pc = .log q ∧ pc' = .log q' ∧
      logStep (line i) choice f q = some (g, q')) ∨
    (∃ w w', p = .writer ∧ pc = .writer w ∧ pc' = .writer w' ∧
      writerStep choice f w = some (g, w')) ∨
    ∃ j q q', p = .dispose j ∧ pc = .dispose q ∧ pc' = .dispose q' ∧
      disposeStep choice f q = some (g, q') := by
  cases p <;> cases pc <;> simp only [step, reduceCtorEq, Option.map_eq_some_iff] at h
  case log.log i q =>
    obtain ⟨⟨g, q'⟩, hstep, hr⟩ := h
    cases hr
    exact .inl ⟨i, q, q', rfl, rfl, rfl, hstep⟩
  case writer.writer w =>
    obtain ⟨⟨g, w'⟩, hstep, hr⟩ := h
    cases hr
    exact .inr (.inl ⟨w, w', rfl, rfl, rfl, hstep⟩)
  case dispose.dispose j q =>
    obtain ⟨⟨g, q'⟩, hstep, hr⟩ := h
    cases hr
    exact .inr (.inr ⟨j, q, q', rfl, rfl, rfl, hstep⟩)

/-- A new logger; no call has been made. -/
def initial : Pool (Process ι) (FileLogger Line) (Pc Line) where
  shared := .new
  pc := fun p =>
    match p with
    | .log _ => .log .isEnabled
    | .writer => .writer .start
    | .dispose _ => .dispose .exchange

/-- A step while the logger is in use: `Dispose` is not called, and the stream writer does not
fail. -/
structure InUse (a : Process ι × Choice) : Prop where
  noDispose : ∀ j, a.1 ≠ .dispose j
  writeSucceeds : a.2 ≠ .writeFails

/-- A step of a shutdown in time: `Log` is not called, the stream writer does not fail, and the wait
for the writing task does not time out. -/
structure InTime (a : Process ι × Choice) : Prop where
  noLog : ∀ i, a.1 ≠ .log i
  writeSucceeds : a.2 ≠ .writeFails
  noTimeout : a.2 ≠ .timeout

theorem inUse_iff {p : Process ι} {choice : Choice} :
    InUse (p, choice) ↔ (∀ j, p ≠ .dispose j) ∧ choice ≠ .writeFails :=
  ⟨fun h => ⟨h.noDispose, h.writeSucceeds⟩, fun h => ⟨h.1, h.2⟩⟩

theorem inTime_iff {p : Process ι} {choice : Choice} :
    InTime (p, choice) ↔ (∀ i, p ≠ .log i) ∧ choice ≠ .writeFails ∧ choice ≠ .timeout :=
  ⟨fun h => ⟨h.noLog, h.writeSucceeds, h.noTimeout⟩, fun h => ⟨h.1, h.2.1, h.2.2⟩⟩

/-- The writer holds an entry that it has dequeued and not yet tested for disposal. -/
def HoldsUntested (c : Pool (Process ι) (FileLogger Line) (Pc Line)) : Prop :=
  ∃ logEntry, c.pc .writer = .writer (.check logEntry) ∨
    c.pc .writer = .writer (.flushCheck logEntry)

theorem holdsUntested_iff {c : Pool (Process ι) (FileLogger Line) (Pc Line)} {w : WriterPc Line}
    (hw : c.pc .writer = .writer w) : HoldsUntested c ↔ untested w ≠ [] := by
  unfold HoldsUntested
  rw [hw]
  cases w <;> simp [untested]

/-! ### Before disposal -/

section Before

/-- Nothing has been shut down. -/
structure Running (f : FileLogger Line) : Prop where
  fileLoggingEnabled : f.fileLoggingEnabled = true
  disposed : f.disposed = false
  cancelled : f.cancelled = false
  semaphore : f.logSemaphore.disposed = false
  streamWriter : f.streamWriterDisposed = false
  cancellationTokenSource : f.cancellationTokenSourceDisposed = false

theorem Running.of_sameLifecycle {f g : FileLogger Line} (hf : Running f)
    (h : SameLifecycle f g) : Running g where
  fileLoggingEnabled := h.fileLoggingEnabled.trans hf.fileLoggingEnabled
  disposed := h.disposed.trans hf.disposed
  cancelled := h.cancelled.trans hf.cancelled
  semaphore := h.semaphore.trans hf.semaphore
  streamWriter := h.streamWriter.trans hf.streamWriter
  cancellationTokenSource := h.cancellationTokenSource.trans hf.cancellationTokenSource

/-- Where every accepted line is. -/
def Accounted (f : FileLogger Line) (w : WriterPc Line) : Prop :=
  f.accepted = f.written ++ writing w ++ untested w ++ f.logQueue

/-- The task has run to completion only when the writer has ended. -/
def EndsWithTask (f : FileLogger Line) (w : WriterPc Line) : Prop :=
  f.writingTask = .ranToCompletion → w = .ended

theorem endsWithTask_of_move {choice : Choice} {f g : FileLogger Line} {w w' : WriterPc Line}
    (hends : EndsWithTask f w) (hw : w ≠ .ended) (h : WriterMove choice f w g w') :
    EndsWithTask g w' := by
  have hrun : f.writingTask ≠ .ranToCompletion := fun htask => hw (hends htask)
  cases h with
  | finishes => exact fun _ => rfl
  | _ => exact fun htask => absurd htask hrun

theorem Accounted.written {f : FileLogger Line} {w : WriterPc Line} (h : Accounted f w) :
    f.written <+: f.accepted :=
  ⟨writing w ++ untested w ++ f.logQueue, by
    rw [h]
    simp⟩

/-- A step of the writer loses no line, unless it is its last one and something is in its hand. -/
theorem accounted_or_finishes_of_move {choice : Choice} {f g : FileLogger Line}
    {w w' : WriterPc Line} (hacc : Accounted f w) (h : WriterMove choice f w g w') :
    Accounted g w' ∨ w' = .ended ∧ g.written = f.written ∧ g.logQueue = f.logQueue ∧
      (untested w = [] ∨ f.disposed = true) ∧
      (writing w = [] ∨ f.streamWriterDisposed = true ∨ choice = .writeFails) := by
  unfold Accounted at *
  cases h with
  | finishes status hdrops hfails => exact .inr ⟨rfl, rfl, rfl, hdrops, hfails⟩
  | waits semaphore _ _ hempty hempty' =>
    left
    rw [hempty'.1, hempty'.2]
    rwa [hempty.1, hempty.2] at hacc
  | takes logEntry logQueue _ hqueue hempty hhand =>
    -- the head of the queue moves into the writer's hand
    left
    rw [hempty.1, hempty.2, hqueue] at hacc
    rw [hhand.1, hhand.2, hacc]
    simp
  | passes logEntry _ _ hhand hhand' =>
    left
    rw [hhand.1, hhand.2] at hacc
    rw [hhand'.1, hhand'.2, hacc]
    simp
  | writes logEntry _ hhand hempty' =>
    left
    rw [hhand.1, hhand.2] at hacc
    rw [hempty'.1, hempty'.2, hacc]
    simp

/-- Before disposal the writer loses no line. -/
theorem accounted_of_move {choice : Choice} {f g : FileLogger Line} {w w' : WriterPc Line}
    (hf : Running f) (hchoice : choice ≠ .writeFails) (hacc : Accounted f w)
    (h : WriterMove choice f w g w') : Accounted g w' := by
  rcases accounted_or_finishes_of_move hacc h with
    hacc' | ⟨rfl, hwritten, hqueue, hdrops, hfails⟩
  · exact hacc'
  · -- nothing has been shut down, so the writer's hand is empty
    have huntested : untested w = [] := hdrops.resolve_right (by simp [hf.disposed])
    have hwriting : writing w = [] := hfails.resolve_right (by simp [hf.streamWriter, hchoice])
    rw [Accounted, huntested, hwriting] at hacc
    rwa [Accounted, h.accepted, hwritten, hqueue]

/-- What a process relies on before disposal. -/
def beforeLoc (f : FileLogger Line) : Process ι → Pc Line → Prop
  | .log _, _ => True
  | .writer, pc => ∃ w, pc = .writer w ∧ Accounted f w ∧ EndsWithTask f w
  | .dispose _, pc => pc = .dispose .exchange

/-- What a call of `Log` changes before disposal: it may append a line to the queue. -/
structure Appends (f g : FileLogger Line) : Prop where
  appended : ∃ logLines, g.logQueue = f.logQueue ++ logLines ∧ g.accepted = f.accepted ++ logLines
  written : g.written = f.written
  writingTask : g.writingTask = f.writingTask

theorem logStep_appends {logLine : Line} {choice : Choice} {f g : FileLogger Line}
    {pc pc' : LogPc} (h : logStep logLine choice f pc = some (g, pc')) : Appends f g := by
  have hrefl : Appends f f := ⟨⟨[], by simp, by simp⟩, rfl, rfl⟩
  cases pc <;> simp only [logStep] at h
  case isEnabled =>
    cases choice <;> simp only at h <;> try split_ifs at h
    all_goals (cases h; try exact hrefl)
  case enqueue =>
    cases h
    exact ⟨⟨[logLine], rfl, rfl⟩, rfl, rfl⟩
  case release =>
    split at h
    · cases h
      exact ⟨⟨[], by simp, by simp⟩, rfl, rfl⟩
    · cases h
      exact hrefl
  all_goals cases h

theorem Appends.accounted {f g : FileLogger Line} {w : WriterPc Line} (h : Appends f g)
    (hacc : Accounted f w) : Accounted g w := by
  obtain ⟨logLines, hqueue, haccepted⟩ := h.appended
  rw [Accounted, haccepted, hqueue, h.written, hacc]
  simp

/-- **Before disposal every accepted line is in exactly one place**: in the file, in the
writer's hand or in the queue, in this order. -/
def beforeOutline [DecidableEq ι] (line : ι → Line) :
    Pool.Outline (step line) fun a _ => InUse a :=
  .ofGuarantee Running (fun p f pc => beforeLoc f p pc)
    (fun p f g => p ≠ .writer → Appends f g)
    (by
      intro p choice c g pc' hC hrunning hloc hstep
      obtain ⟨i, q, q', rfl, hpc, rfl, hlog⟩ | ⟨w, w', rfl, hpc, rfl, hwriter⟩ |
        ⟨j, q, q', rfl, -⟩ := step_eq_some hstep
      · have hlife := logStep_sameLifecycle hlog
        exact ⟨hrunning.of_sameLifecycle hlife, trivial, fun _ => logStep_appends hlog⟩
      · obtain ⟨hw, hmove⟩ := writerMove_of_writerStep hwriter
        obtain ⟨v, hv, hacc, hends⟩ := hloc
        obtain rfl : v = w := Pc.writer.inj (hv.symm.trans hpc)
        have hacc' := accounted_of_move hrunning hC.writeSucceeds hacc hmove
        have hends' := endsWithTask_of_move hends hw hmove
        exact ⟨hrunning.of_sameLifecycle hmove.sameLifecycle, ⟨w', rfl, hacc', hends'⟩,
          fun h => absurd rfl h⟩
      · exact absurd rfl (hC.noDispose j))
    (by
      intro p p' f g pc hne hguar hloc
      cases p' with
      | log i => trivial
      | dispose j => exact hloc
      | writer =>
        obtain ⟨w, rfl, hacc, hends⟩ := hloc
        have happends := hguar hne.symm
        exact ⟨w, rfl, happends.accounted hacc,
          fun htask => hends (happends.writingTask.symm.trans htask)⟩)

theorem beforeOutline_initial [DecidableEq ι] (line : ι → Line) :
    (beforeOutline line).Holds initial where
  global := ⟨rfl, rfl, rfl, rfl, rfl, rfl⟩
  loc := fun p => by
    cases p with
    | log i => trivial
    | writer => exact ⟨.start, rfl, rfl, fun htask => by cases htask⟩
    | dispose j => rfl

end Before

/-! ### After `Dispose` has begun -/

section After

/-- A call of `Dispose` has waited for the task. -/
def Waited : DisposePc → Prop
  | .disposeStreamWriter | .disposeSemaphore | .disposeCancellationTokenSource => True
  | _ => False

/-- Disposal has begun, with `accepted` the lines accepted; nothing that the task uses is
disposed before the task has run to completion. -/
structure Disposing (accepted : List Line) (f : FileLogger Line) : Prop where
  disposed : f.disposed = true
  accepted : f.accepted = accepted
  streamWriter : f.streamWriterDisposed = true → f.writingTask = .ranToCompletion

/-- Once disposal has begun, what is in the file and about to be written does not change: an
entry that the writer dequeues is dropped when it is tested. -/
theorem kept_of_move {choice : Choice} {f g : FileLogger Line} {w w' : WriterPc Line}
    (hdisposed : f.disposed = true) (hopen : f.streamWriterDisposed = false)
    (hchoice : choice ≠ .writeFails) (h : WriterMove choice f w g w') :
    g.written ++ writing w' = f.written ++ writing w := by
  cases h with
  | waits semaphore _ _ hempty hempty' => rw [hempty.2, hempty'.2]
  | takes logEntry logQueue _ _ hempty hhand => rw [hempty.2, hhand.2]
  | passes logEntry _ hnot =>
    rw [hdisposed] at hnot
    cases hnot
  | writes logEntry _ hhand hempty' =>
    rw [hhand.2, hempty'.2]
    simp
  | finishes status _ hfails =>
    rw [hfails.resolve_right (by simp [hopen, hchoice])]
    rfl

/-- What the calls of `Dispose` rely on. The call `d` has set `_disposed`; a call that has waited
for the task has seen it run to completion, and so has `d` when it returns. -/
def disposeLoc (d j : ι) (f : FileLogger Line) (q : DisposePc) : Prop :=
  (Waited q → f.writingTask = .ranToCompletion) ∧
    (j = d → q ≠ .exchange ∧ (q = .returned → f.writingTask = .ranToCompletion))

/-- Between its first step and its return, `d` relies on nothing but what it has waited for. -/
theorem disposeLoc_of_midway {d j : ι} {f : FileLogger Line} {q : DisposePc}
    (hexchange : q ≠ .exchange) (hreturned : q ≠ .returned)
    (hwaited : Waited q → f.writingTask = .ranToCompletion) : disposeLoc d j f q :=
  ⟨hwaited, fun _ => ⟨hexchange, fun h => absurd h hreturned⟩⟩

theorem disposeStep_loc {d j : ι} {accepted : List Line} {choice : Choice}
    {f g : FileLogger Line} {q q' : DisposePc} (hf : Disposing accepted f)
    (hloc : disposeLoc d j f q) (hchoice : choice ≠ .timeout)
    (h : disposeStep choice f q = some (g, q')) :
    Disposing accepted g ∧ disposeLoc d j g q' := by
  obtain ⟨hwaited, hd⟩ := hloc
  cases q <;> simp only [disposeStep] at h
  case exchange =>
    -- another call has disposed the logger: this one returns, and it is not `d`
    rw [if_pos hf.disposed] at h
    cases h
    exact ⟨hf, False.elim, fun hj => absurd rfl (hd hj).1⟩
  case cancel =>
    cases h
    exact ⟨⟨hf.disposed, hf.accepted, hf.streamWriter⟩,
      disposeLoc_of_midway (by decide) (by decide) False.elim⟩
  case release =>
    split at h
    · cases h
      exact ⟨⟨hf.disposed, hf.accepted, hf.streamWriter⟩,
        disposeLoc_of_midway (by decide) (by decide) False.elim⟩
    · cases h
      exact ⟨hf, disposeLoc_of_midway (by simp) (by simp) False.elim⟩
  case wait =>
    split at h
    · exact absurd rfl hchoice
    · rename_i htask
      cases h
      exact ⟨hf, disposeLoc_of_midway (by decide) (by decide) fun _ => htask⟩
    · cases h
      exact ⟨hf, disposeLoc_of_midway (by decide) (by decide) False.elim⟩
    · cases h
  case disposeStreamWriter =>
    have htask := hwaited trivial
    cases h
    exact ⟨⟨hf.disposed, hf.accepted, fun _ => htask⟩,
      disposeLoc_of_midway (by split_ifs <;> simp) (by split_ifs <;> simp) fun _ => htask⟩
  case disposeSemaphore =>
    have htask := hwaited trivial
    cases h
    exact ⟨⟨hf.disposed, hf.accepted, hf.streamWriter⟩,
      disposeLoc_of_midway (by decide) (by decide) fun _ => htask⟩
  case disposeCancellationTokenSource =>
    have htask := hwaited trivial
    cases h
    exact ⟨⟨hf.disposed, hf.accepted, hf.streamWriter⟩, False.elim,
      fun _ => ⟨by decide, fun _ => htask⟩⟩
  all_goals cases h

/-- What a process relies on after `d` has begun to dispose; `kept` is what is in the file or
about to be written. -/
def afterLoc (d : ι) (kept : List Line) (f : FileLogger Line) : Process ι → Pc Line → Prop
  | .log _, _ => True
  | .writer, pc => ∃ w, pc = .writer w ∧ f.written ++ writing w = kept ∧ EndsWithTask f w
  | .dispose j, pc => ∃ q, pc = .dispose q ∧ disposeLoc d j f q

/-- **After disposal has begun nothing more is kept**, and the resources of the task stay until
it has run to completion. -/
def afterOutline [DecidableEq ι] (line : ι → Line) (d : ι) (accepted kept : List Line) :
    Pool.Outline (step line) fun a _ => InTime a :=
  .ofGuarantee (Disposing accepted) (fun p f pc => afterLoc d kept f p pc)
    (fun p f g => (f.writingTask = .ranToCompletion → g.writingTask = .ranToCompletion) ∧
      (p ≠ .writer → SameContent f g))
    (by
      intro p choice c g pc' hC hdisposing hloc hstep
      obtain ⟨i, q, q', rfl, -⟩ | ⟨w, w', rfl, hpc, rfl, hwriter⟩ |
        ⟨j, q, q', rfl, hpc, rfl, hdispose⟩ := step_eq_some hstep
      · exact absurd rfl (hC.noLog i)
      · obtain ⟨hw, hmove⟩ := writerMove_of_writerStep hwriter
        have hlife := hmove.sameLifecycle
        obtain ⟨v, hv, hkept, hends⟩ := hloc
        obtain rfl : v = w := Pc.writer.inj (hv.symm.trans hpc)
        -- the writer still moves, so nothing that it uses has been disposed
        have hrunning : c.shared.writingTask ≠ .ranToCompletion := fun htask => hw (hends htask)
        have hopen : c.shared.streamWriterDisposed = false := by
          by_contra hclosed
          exact hrunning (hdisposing.streamWriter (by simpa using hclosed))
        have hkept' := kept_of_move hdisposing.disposed hopen hC.writeSucceeds hmove
        refine ⟨⟨hlife.disposed.trans hdisposing.disposed,
          hmove.accepted.trans hdisposing.accepted, fun hclosed => ?_⟩,
          ⟨w', rfl, hkept'.trans hkept, endsWithTask_of_move hends hw hmove⟩,
          fun htask => absurd htask hrunning, fun h => absurd rfl h⟩
        exact absurd (hdisposing.streamWriter (hlife.streamWriter.symm.trans hclosed)) hrunning
      · have hsame := disposeStep_sameContent hdispose
        obtain ⟨r, hr, hqloc⟩ := hloc
        obtain rfl : r = q := Pc.dispose.inj (hr.symm.trans hpc)
        obtain ⟨hdisposing', hqloc'⟩ := disposeStep_loc hdisposing hqloc hC.noTimeout hdispose
        exact ⟨hdisposing', ⟨q', rfl, hqloc'⟩, hsame.writingTask.trans, fun _ => hsame⟩)
    (by
      rintro p p' f g pc hne ⟨htask, hsame⟩ hloc
      cases p' with
      | log i => trivial
      | writer =>
        obtain ⟨w, rfl, hkept, hends⟩ := hloc
        have hsame := hsame hne.symm
        refine ⟨w, rfl, by rw [hsame.written, hkept], fun hdone => hends ?_⟩
        exact hsame.writingTask.symm.trans hdone
      | dispose j =>
        obtain ⟨q, rfl, hwaited, hd⟩ := hloc
        exact ⟨q, rfl, fun hq => htask (hwaited hq),
          fun hj => ⟨(hd hj).1, fun hq => htask ((hd hj).2 hq)⟩⟩)

/-- When `d` returns, the file has what was in it or about to be written when `d` began. -/
theorem written_of_returned [DecidableEq ι] {line : ι → Line} {d : ι}
    {accepted kept : List Line} {t : Pool (Process ι) (FileLogger Line) (Pc Line)}
    (ht : (afterOutline line d accepted kept).Holds t)
    (hreturned : t.pc (.dispose d) = .dispose .returned) :
    t.shared.accepted = accepted ∧ t.shared.written = kept := by
  obtain ⟨q, hq, -, hd⟩ := ht.loc (.dispose d)
  obtain rfl : q = .returned := Pc.dispose.inj (hq.symm.trans hreturned)
  have htask := (hd rfl).2 rfl
  obtain ⟨w, -, hkept, hends⟩ := ht.loc .writer
  rw [hends htask] at hkept
  exact ⟨ht.global.accepted, by simpa [writing] using hkept⟩

end After

/-! ### The main result -/

section Flush

variable [DecidableEq ι] {line : ι → Line}
  {s t u : Pool (Process ι) (FileLogger Line) (Pc Line)}

/-- The first step of `Dispose` sets `_disposed` and starts the second phase. -/
theorem afterOutline_of_exchange {d : ι} {choice : Choice} {w : WriterPc Line}
    (hs : (beforeOutline line).Holds s) (hw : s.pc .writer = .writer w)
    (h : Pool.next (step line) (.dispose d, choice) s = some u) :
    (afterOutline line d s.shared.accepted (s.shared.written ++ writing w)).Holds u := by
  obtain ⟨v, hv, -, hends⟩ := hs.loc .writer
  obtain rfl : v = w := Pc.writer.inj (hv.symm.trans hw)
  have hd : s.pc (.dispose d) = .dispose .exchange := hs.loc (.dispose d)
  obtain ⟨g, pc', hstep, rfl⟩ := Pool.next_eq_some.mp h
  rw [hd] at hstep
  simp only [step, disposeStep, hs.global.disposed, Bool.false_eq_true, if_false, Option.map_some,
    Option.some.injEq, Prod.mk.injEq] at hstep
  obtain ⟨rfl, rfl⟩ := hstep
  refine ⟨⟨rfl, rfl, fun hclosed => ?_⟩, fun p => ?_⟩
  · exact absurd (hs.global.streamWriter.symm.trans hclosed) Bool.false_ne_true
  · cases p with
    | log i => trivial
    | writer => exact ⟨v, by simpa using hv, rfl, hends⟩
    | dispose j =>
      by_cases hj : j = d
      · subst hj
        exact ⟨.cancel, by simp, disposeLoc_of_midway (by decide) (by decide) False.elim⟩
      · have hpc : s.pc (.dispose j) = .dispose .exchange := hs.loc (.dispose j)
        exact ⟨.exchange, by simp [hj, hpc], False.elim, fun h => absurd h hj⟩

/-- **`Dispose` flushes exactly what the writer has already tested.** The logger is used in any
way (`before`), then `Dispose` is called and shuts the logger down in time (`after`). When it
returns, the file contains the accepted lines, each once and in order, if and only if at the
call of `Dispose` the queue was empty and the writer did not hold an entry that it had still to
test. -/
theorem flushed_iff {before after : List (Process ι × Choice)} {d : ι} {choice : Choice}
    (hbefore : exec (Pool.next (step line)) before initial = some s)
    (hinUse : ∀ a ∈ before, InUse a)
    (hafter : exec (Pool.next (step line)) ((.dispose d, choice) :: after) s = some t)
    (hinTime : ∀ a ∈ after, InTime a)
    (hreturned : t.pc (.dispose d) = .dispose .returned) :
    t.shared.written = t.shared.accepted ↔ s.shared.logQueue = [] ∧ ¬ HoldsUntested s := by
  have hs : (beforeOutline line).Holds s :=
    (beforeOutline line).exec (along_of_mem hinUse) (beforeOutline_initial line) hbefore
  obtain ⟨w, hw, hacc, -⟩ := hs.loc .writer
  obtain ⟨u, hu, hut⟩ := (exec_cons_eq_some _).mp hafter
  have ht := (afterOutline line d _ _).exec (along_of_mem hinTime)
    (afterOutline_of_exchange hs hw hu) hut
  obtain ⟨haccepted, hwritten⟩ := written_of_returned ht hreturned
  rw [holdsUntested_iff hw, not_not, haccepted, hwritten, hacc, List.append_assoc,
    List.self_eq_append_right, List.append_eq_nil_iff, and_comm]

end Flush

/-! ### Two shutdowns -/

/-- One call of `Log` returns. -/
def logReturns : List (Process Unit × Choice) :=
  [(.log (), .ok), (.log (), .ok), (.log (), .ok)]

/-- The writer takes the line from the queue and writes it. -/
def writerWrites : List (Process Unit × Choice) :=
  [(.writer, .ok), (.writer, .ok), (.writer, .ok), (.writer, .ok), (.writer, .ok)]

/-- `Dispose` after its first step; it waits while the writer ends within `n` steps. -/
def disposeWaits (n : ℕ) : List (Process Unit × Choice) :=
  List.replicate 2 (.dispose (), .ok) ++ List.replicate n (.writer, .ok) ++
    List.replicate 4 (.dispose (), .ok)

/-- The line was written before `Dispose` was called, and the file is complete. -/
theorem flushed_written :
    ∃ s t : Pool (Process Unit) (FileLogger Char) (Pc Char),
      exec (Pool.next (step fun _ => 'x')) (logReturns ++ writerWrites) initial = some s ∧
      exec (Pool.next (step fun _ => 'x')) ((.dispose (), .ok) :: disposeWaits 3) s = some t ∧
      t.shared.written = t.shared.accepted := by
  have hbefore : (exec (Pool.next (step fun _ => 'x')) (logReturns ++ writerWrites)
      initial).isSome = true := rfl
  have hafter : (exec (Pool.next (step fun _ => 'x')) ((.dispose (), .ok) :: disposeWaits 3)
      (Option.get _ hbefore)).isSome = true := rfl
  refine ⟨_, _, (Option.some_get hbefore).symm, (Option.some_get hafter).symm,
    (flushed_iff (Option.some_get hbefore).symm ?_ (Option.some_get hafter).symm ?_ rfl).mpr
      ⟨rfl, ?_⟩⟩
  · simp [logReturns, writerWrites, inUse_iff]
  · simp [disposeWaits, inTime_iff]
  · exact fun h => (holdsUntested_iff (w := .dequeue) rfl).mp h rfl

/-- `Dispose` is called when the writer has not run since the call of `Log` returned: the line
is dropped. -/
theorem queued_not_flushed :
    ∃ s t : Pool (Process Unit) (FileLogger Char) (Pc Char),
      exec (Pool.next (step fun _ => 'x')) logReturns initial = some s ∧
      (∀ a ∈ logReturns, InUse a) ∧ s.pc (.log ()) = .log .returned ∧
      exec (Pool.next (step fun _ => 'x')) ((.dispose (), .ok) :: disposeWaits 4) s = some t ∧
      (∀ a ∈ disposeWaits 4, InTime a) ∧ t.pc (.dispose ()) = .dispose .returned ∧
      t.shared.accepted = ['x'] ∧ t.shared.written = [] := by
  have hbefore : (exec (Pool.next (step fun _ => 'x')) logReturns initial).isSome = true := rfl
  have hafter : (exec (Pool.next (step fun _ => 'x')) ((.dispose (), .ok) :: disposeWaits 4)
      (Option.get _ hbefore)).isSome = true := rfl
  refine ⟨_, _, (Option.some_get hbefore).symm, ?_, rfl, (Option.some_get hafter).symm, ?_, rfl,
    rfl, rfl⟩
  · simp [logReturns, inUse_iff]
  · simp [disposeWaits, inTime_iff]

end ElasticOpenTelemetry.FileLoggerShutdown
