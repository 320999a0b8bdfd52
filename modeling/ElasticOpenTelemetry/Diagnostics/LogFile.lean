import ElasticOpenTelemetry.Diagnostics.FileLoggerShutdown
import ElasticOpenTelemetry.Diagnostics.LogFormatter
import ElasticOpenTelemetry.Foundations.Blocks

/-!
# The log file

The constructor of `FileLogger` (`FileLogger.cs`) opens its file to append to it, and writes a
header and an empty line. Every file logger of a process has the same file, so that a file has a
section for each of them. `Log` puts the text of an exception on lines of its own after the line of
the formatter, and a message may have line feeds as well, while nothing in the file says where an
entry ends.

`readFile_fileText_iff` states when a log file can be read back: when no line in the middle of an
entry looks like the first line of one. `readFile_runs` puts this together with the runs of the
file loggers: their calls of `Log` come back in the order of the queue, up to the last one written.
-/

namespace ElasticOpenTelemetry.LogFile

open DotNet Faults Recycling Execution FileLogger FileLoggerShutdown LogFormatter

/-! ### What is written -/

inductive Platform
  | windows
  | unix
  deriving DecidableEq

namespace Platform

/-- What `Environment.NewLine` has in front of its line feed. -/
def beforeLineFeed : Platform → Str
  | windows => "\r".toList
  | unix => []

/-- `Environment.NewLine` -/
def newLine (platform : Platform) : Str := platform.beforeLineFeed ++ "\n".toList

end Platform

/-- A call of `Log` of which a line comes out: the formatter returns `message`, and the span id is
long enough. Span ids are hexadecimal; all that matters is that they have no line feed. -/
structure LogCall where
  record : Record
  message : Str
  /-- the text of the exception, if there is one -/
  exception : Option Str
  exception_eq : record.exception = exception.isSome
  spanId_length : 6 ≤ record.spanId.length
  spanId_lineFeed : '\n' ∉ record.spanId.take 6

variable (platform : Platform)

/-- What `Log` appends for an exception. -/
def exceptionText (exception : Option Str) : Str :=
  match exception with
  | some exception => platform.newLine ++ exception
  | none => []

/-- `Log` up to the queue. -/
def logLine {ε : Type} (builders : BuilderRuntime) (record : Record) (exception : Option Str)
    (formatter : Program (FormatException ε) (Store StringBuilder) Str) :
    Program (FormatException ε) (Store StringBuilder) Str := do
  let logLine ← format builders record formatter
  pure (logLine ++ exceptionText platform exception)

namespace LogCall

/-- What comes after the prefix. -/
def rest (call : LogCall) : Str :=
  call.message ++ call.record.eventText ++ call.record.activityText ++
    exceptionText platform call.exception

/-- The text that is queued for a call. -/
def text (call : LogCall) : Str :=
  call.record.prefixText (call.record.spanId.take 6) ++ call.rest platform

end LogCall

/-- The text that `Log` puts in the queue. -/
theorem gives_logLine {ε : Type} {builders : BuilderRuntime} (call : LogCall)
    {formatter : Program (FormatException ε) (Store StringBuilder) Str}
    (h : Gives (StringBuilderCache.builders builders) formatter (.ok call.message)) :
    Gives (StringBuilderCache.builders builders)
      (logLine platform builders call.record call.exception formatter)
      (.ok (call.text platform)) := by
  have hline : (call.record.line (.ok call.message) : Except (FormatException ε) Str) =
      .ok (call.record.prefixText (call.record.spanId.take 6) ++ call.message ++
        call.record.eventText ++ call.record.activityText) := by
    rw [Record.line, firstSix, if_pos call.spanId_length]
    rfl
  have hformat := gives_format (r := call.record) h
  rw [hline] at hformat
  have htext : call.text platform = call.record.prefixText (call.record.spanId.take 6) ++
      call.message ++ call.record.eventText ++ call.record.activityText ++
        exceptionText platform call.exception := by
    simp [LogCall.text, LogCall.rest]
  rw [htext]
  exact hformat.bind (gives_pure _)

/-- `WriteLine` and `WriteLineAsync` -/
def writeLine (s : Str) : Str := s ++ platform.newLine

def header : Str :=
  "DateTime (UTC)                Thread  SpanId  Level         Message".toList

/-- The section of a file logger: what its constructor writes, and what its writing task does. -/
def sectionText (calls : List LogCall) : Str :=
  writeLine platform header ++ writeLine platform [] ++
    calls.flatMap fun call => writeLine platform (call.text platform)

/-- The text of the file. -/
def fileText (sections : List (List LogCall)) : Str := sections.flatMap (sectionText platform)

/-! ### Reading a file -/

/-- The lines with which a section or an entry can begin. -/
def isStart (line : Str) : Bool :=
  line = header ++ platform.beforeLineFeed || (readLine line).isSome

/-- The lines of a text, as far as they are written with a line end. -/
def linesOf (s : Str) : List Str := Blocks.linesOf '\n' platform.beforeLineFeed s

/-- Read a file. A header reads as `none`. -/
def readFile (s : Str) : List (Option ReadLine) :=
  (Blocks.read '\n' platform.beforeLineFeed (isStart platform) s).map readLine

namespace LogCall

/-- What a reader learns of a call. -/
def read (call : LogCall) : ReadLine where
  dateTime := call.record.locals.dateTime.fields
  thread :=
    if 0 < call.record.locals.managedThreadId then some call.record.locals.managedThreadId.toNat
    else none
  spanId := call.record.spanId.take 6
  level := call.record.level
  rest := call.rest platform

/-- A line of the entry, not its first one, looks like the first line of an entry. -/
def HasFalseStart (call : LogCall) : Prop :=
  ∃ line ∈ (linesOf platform (call.text platform)).tail, isStart platform line = true

instance (call : LogCall) : Decidable (call.HasFalseStart platform) :=
  inferInstanceAs (Decidable (∃ line ∈ (linesOf platform (call.text platform)).tail,
    isStart platform line = true))

end LogCall

/-- What a reader learns of a section. -/
def sectionRead (calls : List LogCall) : List (Option ReadLine) :=
  none :: calls.map fun call => some (call.read platform)

/-! ### The first line of an entry -/

variable {platform}

theorem length_take_spanId (call : LogCall) : (call.record.spanId.take 6).length = 6 := by
  rw [List.length_take, Nat.min_eq_left call.spanId_length]

theorem readLine_text (call : LogCall) :
    readLine (call.text platform) = some (call.read platform) :=
  readLine_prefixText call.record (length_take_spanId call) _

theorem lineFeed_notMem_toStringO (t : DateTime) : '\n' ∉ t.toStringO := by
  intro h
  rcases FixedWidth.mem_write h with h | h
  · exact absurd h (by decide)
  · exact absurd h (by decide)

theorem lineFeed_notMem_threadText (n : ℤ) : '\n' ∉ threadText n := by
  intro h
  rw [threadText] at h
  split_ifs at h
  · exact absurd (FixedWidth.isDigit_of_mem_padded h) (by decide)
  · exact absurd (List.eq_of_mem_replicate h) (by decide)

theorem lineFeed_notMem_asString (level : LogLevel) : '\n' ∉ level.asString := by
  cases level <;> decide

/-- The prefix is on one line. -/
theorem lineFeed_notMem_prefixText (call : LogCall) :
    '\n' ∉ call.record.prefixText (call.record.spanId.take 6) := by
  simp [Record.prefixText, Record.beforeSpanId, Record.fromSpanId, lineFeed_notMem_toStringO,
    lineFeed_notMem_threadText, lineFeed_notMem_asString, call.spanId_lineFeed]

theorem beginsWithStart_text (call : LogCall) :
    Blocks.BeginsWithStart (isStart platform) (linesOf platform (call.text platform)) := by
  obtain ⟨first, rest, -, hsplit⟩ := Blocks.splitOn_append_of_notMem
    (lineFeed_notMem_prefixText call) (call.rest platform ++ platform.beforeLineFeed)
  have hlines : linesOf platform (call.text platform) =
      (call.record.prefixText (call.record.spanId.take 6) ++ first) :: rest := by
    rw [← hsplit, linesOf, Blocks.linesOf, LogCall.text, List.append_assoc]
  rw [hlines]
  refine ⟨_, rfl, ?_⟩
  rw [isStart, readLine_prefixText call.record (length_take_spanId call)]
  simp

theorem isBlock_text_iff (call : LogCall) :
    Blocks.IsBlock (isStart platform) (linesOf platform (call.text platform)) ↔
      ¬ call.HasFalseStart platform := by
  simp [Blocks.IsBlock, LogCall.HasFalseStart, beginsWithStart_text]

/-- The header and the empty line after it. -/
theorem isBlock_header :
    Blocks.IsBlock (isStart platform) (linesOf platform (header ++ platform.newLine)) := by
  have hlines : linesOf platform (header ++ platform.newLine) =
      [header ++ platform.beforeLineFeed, platform.beforeLineFeed] := by
    cases platform <;> decide +kernel
  rw [hlines]
  refine ⟨⟨_, rfl, by simp [isStart]⟩, ?_⟩
  cases platform <;> decide +kernel

/-! ### The round trip -/

/-- What is read of the texts that a section consists of. -/
def sectionEntries (platform : Platform) (calls : List LogCall) : List Str :=
  (header ++ platform.newLine) :: calls.map (LogCall.text platform)

theorem render_append (xs ys : List Str) :
    Blocks.render '\n' platform.beforeLineFeed (xs ++ ys) =
      Blocks.render '\n' platform.beforeLineFeed xs ++
        Blocks.render '\n' platform.beforeLineFeed ys :=
  List.flatMap_append

theorem sectionText_eq (calls : List LogCall) :
    sectionText platform calls =
      Blocks.render '\n' platform.beforeLineFeed (sectionEntries platform calls) := by
  have hcalls : (calls.flatMap fun call => writeLine platform (call.text platform)) =
      Blocks.render '\n' platform.beforeLineFeed (calls.map (LogCall.text platform)) := by
    simp [Blocks.render, List.flatMap_map, writeLine, Platform.newLine]
  rw [sectionText, hcalls, sectionEntries]
  simp [Blocks.render, writeLine, Platform.newLine]

theorem fileText_eq (sections : List (List LogCall)) :
    fileText platform sections =
      Blocks.render '\n' platform.beforeLineFeed (sections.flatMap (sectionEntries platform)) := by
  induction sections with
  | nil => rfl
  | cons calls sections ih =>
    rw [List.flatMap_cons, render_append, ← ih, ← sectionText_eq]
    rfl

theorem readLine_header : readLine (header ++ platform.newLine) = none := by
  cases platform <;> decide +kernel

theorem map_readLine_sectionEntries (calls : List LogCall) :
    (sectionEntries platform calls).map readLine = sectionRead platform calls := by
  simp [sectionEntries, sectionRead, readLine_header, readLine_text, Function.comp_def]

theorem map_readLine_entries (sections : List (List LogCall)) :
    (sections.flatMap (sectionEntries platform)).map readLine =
      sections.flatMap (sectionRead platform) := by
  rw [List.map_flatMap]
  exact congrArg sections.flatMap (funext map_readLine_sectionEntries)

/-- The headers and the entries are blocks when no entry has a false start. -/
theorem forall_isBlock_iff (sections : List (List LogCall)) :
    (∀ entry ∈ sections.flatMap (sectionEntries platform),
        Blocks.IsBlock (isStart platform) (linesOf platform entry)) ↔
      ∀ calls ∈ sections, ∀ call ∈ calls, ¬ call.HasFalseStart platform := by
  simp only [List.forall_mem_flatMap, sectionEntries, List.forall_mem_cons, isBlock_header,
    true_and, List.forall_mem_map, isBlock_text_iff]

/-- Without false starts a log file is read back. -/
theorem readFile_fileText (platform : Platform) (sections : List (List LogCall))
    (h : ∀ calls ∈ sections, ∀ call ∈ calls, ¬ call.HasFalseStart platform) :
    readFile platform (fileText platform sections) = sections.flatMap (sectionRead platform) := by
  have hblocks : ∀ entry ∈ sections.flatMap (sectionEntries platform),
      Blocks.IsBlock (isStart platform) (linesOf platform entry) :=
    (forall_isBlock_iff sections).mpr h
  rw [← map_readLine_entries, readFile, fileText_eq, Blocks.read_render hblocks]

/-- **Round trip of a log file.** Any number of file loggers have written to the file, one after the
other. What is read are the headers and the calls of `Log`, in order, if and only if no message and
no exception has a line that looks like a header or like the first line of an entry. -/
theorem readFile_fileText_iff (platform : Platform) (sections : List (List LogCall)) :
    readFile platform (fileText platform sections) = sections.flatMap (sectionRead platform) ↔
      ∀ calls ∈ sections, ∀ call ∈ calls, ¬ call.HasFalseStart platform := by
  refine ⟨fun hread => ?_, readFile_fileText platform sections⟩
  have hstarts : ∀ entry ∈ sections.flatMap (sectionEntries platform),
      Blocks.BeginsWithStart (isStart platform) (linesOf platform entry) := by
    intro entry hentry
    obtain ⟨calls, -, hentry⟩ := List.mem_flatMap.mp hentry
    rcases List.mem_cons.mp hentry with rfl | hentry
    · exact isBlock_header.1
    · obtain ⟨call, -, rfl⟩ := List.mem_map.mp hentry
      exact beginsWithStart_text call
  -- a false start would be one more entry
  have hlength := congrArg List.length hread
  rw [← map_readLine_entries, readFile, fileText_eq, List.length_map, List.length_map] at hlength
  exact (forall_isBlock_iff sections).mp ((Blocks.length_read_render_iff hstarts).mp hlength)

/-! ### What the file loggers write -/

section Run

variable {ι Line : Type} {line : ι → Line} {f g : FileLogger Line} {choice : Choice}

/-- The call has enqueued its line. -/
def Enqueued (pc : LogPc) : Prop := pc ≠ .isEnabled ∧ pc ≠ .enqueue

/-- A step of `Log` either enqueues its line or leaves the accepted lines alone. -/
theorem logStep_accepted {i : ι} {pc pc' : LogPc}
    (h : logStep (line i) choice f pc = some (g, pc')) :
    (¬ Enqueued pc ∧ Enqueued pc' ∧ g.accepted = f.accepted ++ [line i]) ∨
      ((Enqueued pc → Enqueued pc') ∧ g.accepted = f.accepted) := by
  cases pc <;> simp only [logStep] at h
  case isEnabled =>
    refine .inr ⟨fun hpc => absurd rfl hpc.1, ?_⟩
    cases choice <;> simp only at h <;> try split_ifs at h
    all_goals (cases h; try rfl)
  case enqueue =>
    cases h
    exact .inl ⟨fun hpc => absurd rfl hpc.2, ⟨by simp, by simp⟩, rfl⟩
  case release =>
    split at h <;> cases h <;> exact .inr ⟨fun _ => ⟨by simp, by simp⟩, rfl⟩
  all_goals cases h

/-- A step of the writer loses nothing unless it is its last one. -/
theorem accounted_or_ended_of_move {w w' : WriterPc Line} (hacc : Accounted f w)
    (h : WriterMove choice f w g w') :
    g.written <+: g.accepted ∧ (w' = .ended ∨ Accounted g w') := by
  rcases accounted_or_finishes_of_move hacc h with hacc' | ⟨hended, hwritten, -⟩
  · exact ⟨hacc'.written, .inr hacc'⟩
  · rw [hwritten, h.accepted]
    exact ⟨hacc.written, .inl hended⟩

/-- What holds in every run of a file logger, whether it is disposed or not. -/
structure Sound (line : ι → Line) (c : Pool (Process ι) (FileLogger Line) (Pc Line)) : Prop where
  /-- no call is accepted twice -/
  callers : ∃ callers : List ι, callers.Nodup ∧ c.shared.accepted = callers.map line ∧
    ∀ i ∈ callers, ∃ pc, c.pc (.log i) = .log pc ∧ Enqueued pc
  written : c.shared.written <+: c.shared.accepted
  writer : ∃ w, c.pc .writer = .writer w ∧ (w = .ended ∨ Accounted c.shared w)

theorem sound_initial : Sound line initial where
  callers := ⟨[], List.nodup_nil, rfl, by simp⟩
  written := List.prefix_rfl
  writer := ⟨.start, rfl, .inr rfl⟩

variable [DecidableEq ι]

theorem sound_next {a : Process ι × Choice} {c d : Pool (Process ι) (FileLogger Line) (Pc Line)}
    (hc : Sound line c) (h : Pool.next (step line) a c = some d) : Sound line d := by
  obtain ⟨callers, hnodup, haccepted, henqueued⟩ := hc.callers
  obtain ⟨w, hw, hkept⟩ := hc.writer
  obtain ⟨p, choice⟩ := a
  obtain ⟨g, l, hstep, rfl⟩ := Pool.next_eq_some.mp h
  obtain ⟨i, q, q', rfl, hq, rfl, hlog⟩ | ⟨v, v', rfl, hv, rfl, hwriter⟩ |
    ⟨j, q, q', rfl, -, rfl, hdispose⟩ := step_eq_some hstep
  · have happends := logStep_appends hlog
    obtain ⟨logLines, -, hlines⟩ := happends.appended
    refine ⟨?_, ?_, ⟨w, by simpa using hw, hkept.imp_right happends.accounted⟩⟩
    · rcases logStep_accepted hlog with ⟨hbefore, hafter, hg⟩ | ⟨hkeeps, hg⟩
      · -- the call has not been accepted before
        have hnew : i ∉ callers := by
          intro hi
          obtain ⟨pc, hpc, hpassed⟩ := henqueued i hi
          obtain rfl : pc = q := Pc.log.inj (hpc.symm.trans hq)
          exact hbefore hpassed
        refine ⟨callers ++ [i], ?_, ?_, ?_⟩
        · simpa [List.nodup_append] using ⟨hnodup, fun a ha => by rintro rfl; exact hnew ha⟩
        · rw [hg, haccepted, List.map_append, List.map_singleton]
        · intro j hj
          by_cases hji : j = i
          · exact ⟨q', by simp [hji], hafter⟩
          · have hj' : j ∈ callers := by simpa [hji] using hj
            simpa [hji] using henqueued j hj'
      · refine ⟨callers, hnodup, hg.trans haccepted, fun j hj => ?_⟩
        obtain ⟨pc, hpc, hpassed⟩ := henqueued j hj
        by_cases hji : j = i
        · subst hji
          obtain rfl : pc = q := Pc.log.inj (hpc.symm.trans hq)
          exact ⟨q', by simp, hkeeps hpassed⟩
        · exact ⟨pc, by simpa [hji] using hpc, hpassed⟩
    · rw [happends.written, hlines]
      exact hc.written.trans (List.prefix_append ..)
  · obtain ⟨hended, hmove⟩ := writerMove_of_writerStep hwriter
    obtain rfl : w = v := Pc.writer.inj (hw.symm.trans hv)
    obtain ⟨hwritten, hkept'⟩ := accounted_or_ended_of_move (hkept.resolve_left hended) hmove
    refine ⟨⟨callers, hnodup, hmove.accepted.trans haccepted, ?_⟩, hwritten, ⟨v', by simp, hkept'⟩⟩
    simpa using henqueued
  · have hsame := disposeStep_sameContent hdispose
    refine ⟨⟨callers, hnodup, hsame.accepted.trans haccepted, by simpa using henqueued⟩, ?_, ?_⟩
    · rw [hsame.written, hsame.accepted]
      exact hc.written
    · refine ⟨w, by simpa using hw, hkept.imp_right fun hacc => ?_⟩
      rwa [Accounted, hsame.accepted, hsame.written, hsame.logQueue]

/-- A run of a file logger, with the calls of `Log` and `Dispose` that are made of it. -/
structure Run (ι : Type) [DecidableEq ι] where
  calls : ι → LogCall
  schedule : List (Process ι × Choice)
  last : Pool (Process ι) (FileLogger LogCall) (Pc LogCall)
  exec_eq : exec (Pool.next (step calls)) schedule initial = some last
  /-- otherwise a line might be written in part -/
  writesSucceed : ∀ a ∈ schedule, a.2 ≠ .writeFails

/-- The accepted calls, in order: those in the file, and those that are not. -/
structure Run.Accounts (run : Run ι) (written pending : List ι) : Prop where
  nodup : (written ++ pending).Nodup
  accepted : run.last.shared.accepted = (written ++ pending).map run.calls
  written : run.last.shared.written = written.map run.calls
  /-- unless the writer has ended, they are in its hand or in the queue -/
  pending : ∀ w, run.last.pc .writer = .writer w → w ≠ .ended →
    pending.map run.calls = writing w ++ untested w ++ run.last.shared.logQueue

theorem Run.exists_accounts (run : Run ι) : ∃ written pending, run.Accounts written pending := by
  have hsound : Sound run.calls run.last :=
    exec_invariant (fun _ _ _ => sound_next) sound_initial run.exec_eq
  obtain ⟨callers, hnodup, haccepted, -⟩ := hsound.callers
  obtain ⟨w, hw, hkept⟩ := hsound.writer
  obtain ⟨rest, hrest⟩ := hsound.written
  obtain ⟨written, pending, rfl, hwritten, hpending⟩ :=
    List.map_eq_append_iff.mp (haccepted.symm.trans hrest.symm)
  refine ⟨written, pending, hnodup, haccepted, hwritten.symm, fun w' hw' hended => ?_⟩
  obtain rfl : w = w' := Pc.writer.inj (hw.symm.trans hw')
  have hacc := hkept.resolve_left hended
  rw [Accounted, ← hrest] at hacc
  simpa [hpending] using hacc

/-- **From the calls to the file and back.** File loggers run one after the other; each may be
called from any threads and disposed at any time, between any steps of its writing task. If no call
has a false start, reading the file gives, for each logger, a header and the first of the accepted
calls, none of them twice. The other ones are in the queue or in the writer's hand, as long as the
writing task has not ended. A write is one step, so that no line is cut off where a run ends. -/
theorem readFile_runs (platform : Platform) (runs : List (Run ι))
    (h : ∀ run ∈ runs, ∀ i, ¬ (run.calls i).HasFalseStart platform) :
    ∃ written pending : Run ι → List ι,
      (∀ run : Run ι, run.Accounts (written run) (pending run)) ∧
      readFile platform (fileText platform (runs.map fun run => run.last.shared.written)) =
        runs.flatMap fun run => sectionRead platform ((written run).map run.calls) := by
  choose written pending haccounts using Run.exists_accounts (ι := ι)
  refine ⟨written, pending, haccounts, ?_⟩
  have hsections : (runs.map fun run => run.last.shared.written) =
      runs.map fun run => (written run).map run.calls :=
    List.map_congr_left fun run _ => (haccounts run).written
  have hread := readFile_fileText platform (runs.map fun run => (written run).map run.calls) <| by
    intro calls hcalls call hcall
    obtain ⟨run, hrun, rfl⟩ := List.mem_map.mp hcalls
    obtain ⟨i, -, rfl⟩ := List.mem_map.mp hcall
    exact h run hrun i
  rw [hsections, hread, List.flatMap_map]

/-- Two file loggers, one after the other, each with one call. -/
theorem readFile_runs_twoLoggers :
    ∃ run : Run Unit, run.last.shared.written = [run.calls ()] ∧
      readFile .unix (fileText .unix ([run, run].map fun run => run.last.shared.written)) =
        [none, some ((run.calls ()).read .unix), none, some ((run.calls ()).read .unix)] := by
  let epoch : DateTime :=
    { year := 1970, month := 1, day := 1, hour := 0, minute := 0, second := 0, fraction := 0
      year_lt := by decide, month_lt := by decide, day_lt := by decide, hour_lt := by decide
      minute_lt := by decide, second_lt := by decide, fraction_lt := by decide }
  let state : LogState :=
    { activity := none, managedThreadId := 12, dateTime := epoch, spanId := none }
  let call : LogCall :=
    { record :=
        { ambient := state, logLevel := .information, eventId := { id := 0, name := none }
          state := none, exception := true }
      message := "stopped".toList
      exception := some "IOException: the disk\n   is full".toList
      exception_eq := rfl, spanId_length := by decide, spanId_lineFeed := by decide }
  have hexec : (exec (Pool.next (step fun _ => call)) (logReturns ++ writerWrites)
      initial).isSome = true := rfl
  let run : Run Unit :=
    { calls := fun _ => call, schedule := logReturns ++ writerWrites, last := Option.get _ hexec
      exec_eq := (Option.some_get hexec).symm, writesSucceed := by decide }
  have hwritten : run.last.shared.written = [call] := rfl
  have hcall : ¬ call.HasFalseStart .unix := by decide +kernel
  obtain ⟨written, pending, haccounts, hread⟩ := readFile_runs .unix [run, run] <| by
    simp [hcall, run]
  have hcalls : (written run).map run.calls = [call] := (haccounts run).written.symm.trans hwritten
  refine ⟨run, hwritten, hread.trans ?_⟩
  simp only [List.flatMap_cons, List.flatMap_nil, hcalls, sectionRead]
  rfl

end Run

end ElasticOpenTelemetry.LogFile
