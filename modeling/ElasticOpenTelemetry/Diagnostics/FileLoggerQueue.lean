import ElasticOpenTelemetry.Diagnostics.FileLoggerShutdown

/-!
# The queue of the file logger

The file logger in use: any number of calls of `Log` and the writing task, before `Dispose` is
called. `beforeOutline` has where every accepted line is. Here the wakeup is added: one permit of
the semaphore lets the writer drain the whole queue, so permits and entries are not one to one,
and what relates them is `Wakeful`. When the writer is about to wait and the queue is not empty,
there is a permit left, or a call of `Log` that has still to release one.
-/

namespace ElasticOpenTelemetry.FileLoggerShutdown

open Execution FileLogger

variable {ι Line : Type}

/-- A configuration of the file logger and the processes around it. -/
abbrev Config (ι Line : Type) := Pool (Process ι) (FileLogger Line) (Pc Line)

/-- Some call of `Log` is between its enqueue and its release. -/
def Releasing (c : Config ι Line) : Prop := ∃ i, c.pc (.log i) = .log .release

/-- The writer is blocked on the semaphore. -/
def Blocked (c : Config ι Line) : Prop :=
  c.pc .writer = .writer .waiting ∧ c.shared.logSemaphore.waiter = .pending

/-- The lines in the writer's hand. -/
def inHand (w : WriterPc Line) : List Line := writing w ++ untested w

/-- The writer is going to wait on the semaphore. -/
def ToWait (w : WriterPc Line) : Prop := w = .start ∨ w = .waitAsync

/-- **No wakeup is lost.** What the queue, the permits, the wait and the calls of `Log` are to one
another, while the writer is at `w`. -/
structure Wakeful (c : Config ι Line) (w : WriterPc Line) : Prop where
  /-- only the wait itself is on the semaphore -/
  waiter : c.shared.logSemaphore.waiter ≠ .none → w = .waiting
  /-- a wait is pending where there was no permit, and takes the next one at once -/
  pending : c.shared.logSemaphore.waiter = .pending → c.shared.logSemaphore.count = 0
  toWait : ToWait w → c.shared.logQueue = [] ∨ 0 < c.shared.logSemaphore.count ∨ Releasing c
  blocked : c.shared.logSemaphore.waiter = .pending → c.shared.logQueue = [] ∨ Releasing c

/-! ### One step -/

section Step

variable [DecidableEq ι] {c d : Config ι Line} {w : WriterPc Line} {choice : Choice} {i : ι}

/-- A call of `Log` moves that is not about to release. -/
theorem releasing_of_move {q q' : LogPc} (hq : c.pc (.log i) = .log q) (hne : q ≠ .release)
    (hd : d.pc = Function.update c.pc (.log i) (.log q')) (h : Releasing c) : Releasing d := by
  obtain ⟨j, hj⟩ := h
  refine ⟨j, ?_⟩
  have hji : j ≠ i := by
    rintro rfl
    exact hne (Pc.log.inj (hq.symm.trans hj))
  rw [hd, Function.update_of_ne (by simpa using hji), hj]

/-- A call of `Log` that has enqueued its line is about to release. -/
theorem wakeful_enqueue (h : Wakeful c w) {logLine : Line}
    (hshared : d.shared = c.shared.enqueue logLine)
    (hd : d.pc = Function.update c.pc (.log i) (.log .release)) : Wakeful d w := by
  have hreleasing : Releasing d := ⟨i, by rw [hd, Function.update_self]⟩
  refine ⟨?_, ?_, fun _ => .inr (.inr hreleasing), fun _ => .inr hreleasing⟩
  · rw [hshared]
    exact h.waiter
  · rw [hshared]
    exact h.pending

omit [DecidableEq ι] in
/-- A release leaves a permit, or grants the pending wait. -/
theorem wakeful_release (h : Wakeful c w) (hopen : c.shared.logSemaphore.disposed = false)
    {semaphore : SemaphoreSlim} (hrelease : c.shared.logSemaphore.release = .ok semaphore)
    (hshared : d.shared = { c.shared with logSemaphore := semaphore }) : Wakeful d w := by
  rw [SemaphoreSlim.release, if_neg (by simp [hopen])] at hrelease
  split_ifs at hrelease with hmax hpending <;> cases hrelease
  · -- the pending wait is granted: the writer is at it, and will drain the queue
    have hw := h.waiter (by simp [hpending])
    refine ⟨fun _ => hw, ?_, fun htoWait => ?_, ?_⟩
    · simp [hshared]
    · simp [hw, ToWait] at htoWait
    · simp [hshared]
  · refine ⟨?_, ?_, fun _ => .inr (.inl ?_), ?_⟩
    · rw [hshared]
      exact h.waiter
    · rw [hshared]
      exact fun hwaiter => absurd hwaiter hpending
    · rw [hshared]
      exact Nat.succ_pos _
    · rw [hshared]
      exact fun hwaiter => absurd hwaiter hpending

omit [DecidableEq ι] in
/-- At the maximum count `Release` throws, and there are permits enough. -/
theorem wakeful_semaphoreFull (h : Wakeful c w) (hopen : c.shared.logSemaphore.disposed = false)
    {exception : LoggerException} (hrelease : c.shared.logSemaphore.release = .error exception)
    (hshared : d.shared = c.shared) : Wakeful d w := by
  have hmax : c.shared.logSemaphore.count = SemaphoreSlim.maxCount := by
    have herror := SemaphoreSlim.release_eq_error.mp ⟨exception, hrelease⟩
    simpa [hopen] using herror
  have hnot : c.shared.logSemaphore.waiter ≠ .pending := fun hpending => by
    rw [h.pending hpending] at hmax
    exact absurd hmax (by decide)
  refine ⟨hshared ▸ h.waiter, hshared ▸ h.pending, fun _ => .inr (.inl ?_), ?_⟩
  · rw [hshared, hmax]
    decide
  · rw [hshared]
    exact fun hpending => absurd hpending hnot

theorem wakeful_log (hrunning : Running c.shared) (h : Wakeful c w) {logLine : Line}
    {q q' : LogPc} (hq : c.pc (.log i) = .log q)
    (hstep : logStep logLine choice c.shared q = some (d.shared, q'))
    (hd : d.pc = Function.update c.pc (.log i) (.log q')) : Wakeful d w := by
  -- only an enqueue and a release touch the logger
  have hsame (hshared : d.shared = c.shared) (hne : q ≠ .release) : Wakeful d w := by
    refine ⟨hshared ▸ h.waiter, hshared ▸ h.pending, fun hw => ?_, fun hw => ?_⟩
    · rw [hshared]
      exact (h.toWait hw).imp_right (Or.imp_right (releasing_of_move hq hne hd))
    · rw [hshared] at hw ⊢
      exact (h.blocked hw).imp_right (releasing_of_move hq hne hd)
  cases q <;> simp only [logStep] at hstep
  case isEnabled =>
    cases choice <;> simp only [hrunning.fileLoggingEnabled, if_true, reduceCtorEq] at hstep
    all_goals
      obtain ⟨hshared, -⟩ := Prod.mk.inj (Option.some.inj hstep)
      exact hsame hshared.symm (by simp)
  case enqueue =>
    obtain ⟨hshared, hq'⟩ := Prod.mk.inj (Option.some.inj hstep)
    exact wakeful_enqueue h hshared.symm (by rw [hd, ← hq'])
  case release =>
    split at hstep
    · rename_i semaphore hrelease
      obtain ⟨hshared, -⟩ := Prod.mk.inj (Option.some.inj hstep)
      exact wakeful_release h hrunning.semaphore hrelease hshared.symm
    · rename_i exception hrelease
      obtain ⟨hshared, -⟩ := Prod.mk.inj (Option.some.inj hstep)
      exact wakeful_semaphoreFull h hrunning.semaphore hrelease hshared.symm
  all_goals cases hstep

omit [DecidableEq ι] in
/-- Away from its wait the writer is not on the semaphore. -/
theorem Wakeful.waiter_eq_none (h : Wakeful c w) (hw : w ≠ .waiting) :
    c.shared.logSemaphore.waiter = .none := by
  by_contra hwaiter
  exact hw (h.waiter hwaiter)

omit [DecidableEq ι] in
/-- Nothing is asked where the writer is neither at its wait nor about to go there. -/
theorem wakeful_of_away {w' : WriterPc Line} (hw' : ¬ ToWait w')
    (hnone : d.shared.logSemaphore.waiter = .none) : Wakeful d w' where
  waiter := fun hwaiter => absurd hnone hwaiter
  pending := fun hpending => by simp [hnone] at hpending
  toWait := fun htoWait => absurd htoWait hw'
  blocked := fun hpending => by simp [hnone] at hpending

omit [DecidableEq ι] in
theorem wakeful_writer (hrunning : Running c.shared) (h : Wakeful c w) {w' : WriterPc Line}
    (hstep : writerStep choice c.shared w = some (d.shared, w'))
    (hd : ∀ i, d.pc (.log i) = c.pc (.log i)) : Wakeful d w' := by
  have hreleasing (hc : Releasing c) : Releasing d := hc.imp fun i hi => (hd i).trans hi
  have haway (hw : w ≠ .waiting) (hw' : ¬ ToWait w')
      (hsemaphore : d.shared.logSemaphore = c.shared.logSemaphore) : Wakeful d w' :=
    wakeful_of_away hw' (by rw [hsemaphore, h.waiter_eq_none hw])
  cases w <;> simp only [writerStep, hrunning.cancellationTokenSource, hrunning.semaphore,
    hrunning.cancelled, hrunning.disposed, Bool.false_eq_true, if_false] at hstep
  case start =>
    obtain ⟨hshared, rfl⟩ := Prod.mk.inj (Option.some.inj hstep)
    have hnone := h.waiter_eq_none (by simp)
    refine ⟨?_, ?_, fun _ => ?_, ?_⟩ <;> rw [← hshared]
    · exact fun hwaiter => absurd hnone hwaiter
    · exact h.pending
    · exact (h.toWait (.inl rfl)).imp_right (Or.imp_right hreleasing)
    · exact fun hpending => by simp [hnone] at hpending
  case waitAsync =>
    have hnone := h.waiter_eq_none (by simp)
    split_ifs at hstep with hcount <;>
      obtain ⟨hshared, rfl⟩ := Prod.mk.inj (Option.some.inj hstep)
    · -- there is no permit, so the queue is empty or a release is under way
      refine ⟨fun _ => rfl, ?_, by simp [ToWait], fun _ => ?_⟩ <;> rw [← hshared]
      · exact fun _ => hcount
      · have hqueue := h.toWait (.inr rfl)
        rw [hcount] at hqueue
        exact hqueue.imp_right fun h => hreleasing (h.resolve_left (Nat.lt_irrefl 0))
    · refine wakeful_of_away (by simp [ToWait]) ?_
      rw [← hshared]
      exact hnone
  case waiting =>
    split at hstep
    · obtain ⟨hshared, rfl⟩ := Prod.mk.inj (Option.some.inj hstep)
      refine wakeful_of_away (by simp [ToWait]) ?_
      rw [← hshared]
      rfl
    · cases hstep
    · cases hstep
  case dequeue =>
    split at hstep <;> obtain ⟨hshared, rfl⟩ := Prod.mk.inj (Option.some.inj hstep)
    · exact haway (by simp) (by simp [ToWait]) (by rw [← hshared])
    · -- the writer has found the queue empty
      rename_i hqueue
      have hnone := h.waiter_eq_none (by simp)
      refine ⟨?_, ?_, fun _ => .inl ?_, ?_⟩ <;> rw [← hshared]
      · exact fun hwaiter => absurd hnone hwaiter
      · exact h.pending
      · exact hqueue
      · exact fun hpending => by simp [hnone] at hpending
  case flushDequeue =>
    split at hstep <;> obtain ⟨hshared, rfl⟩ := Prod.mk.inj (Option.some.inj hstep) <;>
      exact haway (by simp) (by simp [ToWait]) (by rw [← hshared])
  case check logEntry | flushCheck logEntry =>
    obtain ⟨hshared, rfl⟩ := Prod.mk.inj (Option.some.inj hstep)
    exact haway (by simp) (by simp [ToWait]) (by rw [← hshared])
  case write logEntry | flushWrite logEntry =>
    cases choice <;> simp only [writeLineAsync, finish, hrunning.streamWriter, Bool.false_eq_true,
      if_false, reduceCtorEq] at hstep
    all_goals
      obtain ⟨hshared, rfl⟩ := Prod.mk.inj (Option.some.inj hstep)
      exact haway (by simp) (by simp [ToWait]) (by rw [← hshared])
  case ended => cases hstep

end Step

/-! ### The invariant -/

section Run

variable [DecidableEq ι] {line : ι → Line} {c d : Config ι Line}

/-- The invariant of the logger in use. -/
structure InUseInvariant (line : ι → Line) (c : Config ι Line) : Prop where
  outline : (beforeOutline line).Holds c
  wakeful : ∀ w, c.pc .writer = .writer w → Wakeful c w

theorem inUseInvariant_initial (line : ι → Line) : InUseInvariant line initial where
  outline := beforeOutline_initial line
  wakeful := fun w hw => by
    obtain rfl : WriterPc.start = w := Pc.writer.inj hw
    exact ⟨fun hwaiter => absurd rfl hwaiter, nofun, fun _ => .inl rfl, nofun⟩

theorem inUseInvariant_next {a : Process ι × Choice} (hC : InUse a) (h : InUseInvariant line c)
    (hnext : Pool.next (step line) a c = some d) : InUseInvariant line d := by
  refine ⟨(beforeOutline line).holds_next hC h.outline hnext, fun w' hw' => ?_⟩
  have hrunning : Running c.shared := h.outline.global
  obtain ⟨p, choice⟩ := a
  obtain ⟨g, l, hstep, rfl⟩ := Pool.next_eq_some.mp hnext
  obtain ⟨i, q, q', rfl, hq, rfl, hlog⟩ | ⟨w, w'', rfl, hw, rfl, hwriter⟩ | ⟨j, q, q', rfl, -⟩ :=
    step_eq_some hstep
  · have hw : c.pc .writer = .writer w' := by simpa using hw'
    exact wakeful_log hrunning (h.wakeful w' hw) hq hlog rfl
  · obtain rfl : w'' = w' := by simpa using hw'
    exact wakeful_writer hrunning (h.wakeful w hw) hwriter fun i => by simp
  · exact absurd rfl (hC.noDispose j)

/-- **The queue before disposal.** Calls of `Log` and the writer are interleaved in any way, and
`Dispose` is not called and writes succeed. In every state reached, the lines in the file, in the
writer's hand and in the queue are, one after the other, the accepted lines; and when the writer is
blocked and no call of `Log` is between its enqueue and its release, the queue is empty. -/
theorem queue_accounted (line : ι → Line) {as : List (Process ι × Choice)}
    (hexec : exec (Pool.next (step line)) as initial = some c) (hinUse : ∀ a ∈ as, InUse a) :
    (∃ w, c.pc .writer = .writer w ∧
      c.shared.written ++ inHand w ++ c.shared.logQueue = c.shared.accepted) ∧
    (Blocked c → (∀ i, c.pc (.log i) ≠ .log .release) → c.shared.logQueue = []) := by
  have hc : InUseInvariant line c :=
    exec_induction (fun _ _ _ => inUseInvariant_next) (along_of_mem hinUse)
      (inUseInvariant_initial line) hexec
  refine ⟨?_, fun ⟨hwaiting, hpending⟩ hnone => ?_⟩
  · obtain ⟨w, hw, hacc, -⟩ := hc.outline.loc .writer
    exact ⟨w, hw, by rw [hacc, inHand]; simp only [List.append_assoc]⟩
  · refine ((hc.wakeful _ hwaiting).blocked hpending).resolve_right ?_
    rintro ⟨i, hi⟩
    exact hnone i hi

/-- A line is written, and the writer waits for the next one. -/
theorem queue_accounted_written :
    ∃ c : Config Unit Char,
      exec (Pool.next (step fun _ => 'x'))
          (logReturns ++ writerWrites ++ [(.writer, .ok), (.writer, .ok)]) initial = some c ∧
        Blocked c ∧ c.shared.written = ['x'] ∧ c.shared.logQueue = [] := by
  have hrun : (exec (Pool.next (step fun _ => 'x'))
      (logReturns ++ writerWrites ++ [(.writer, .ok), (.writer, .ok)]) initial).isSome = true := rfl
  refine ⟨_, (Option.some_get hrun).symm, ⟨rfl, rfl⟩, rfl,
    (queue_accounted _ (Option.some_get hrun).symm ?_).2 ⟨rfl, rfl⟩ ?_⟩
  · simp [logReturns, writerWrites, inUse_iff]
  · intro _ hrelease
    cases hrelease

end Run

end ElasticOpenTelemetry.FileLoggerShutdown
