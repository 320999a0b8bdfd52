import ElasticOpenTelemetry.Diagnostics.EqualOptions
import ElasticOpenTelemetry.Diagnostics.EventMessages
import ElasticOpenTelemetry.Diagnostics.LogFile

/-!
# From an SDK event to the log lines

`OnEventWritten` (`LoggingEventListener.cs`) writes the message of an event into a builder of
`StringBuilderCache`, and hands it to `WriteLogLine` (`AgentLoggingHelpers.cs`) together with the
time, the span id and no thread. An active `CompositeLogger` passes it on to those of its
sub-loggers that are enabled, and each of them formats a line, with a builder of the same cache.
Formatting the payload runs foreign code, which may log as well.

Two kinds of foreign code are outside of every `try` block. The `catch` block of `CreateLogMessage`
asks the payload items for their text, and `ToString()` may throw; then nothing is logged. The
additional logger is the user's; it comes last, so that what it throws leaves `Log` after the
others have had the entry.

`onEventWritten_line` states what comes out: one line for each of these sub-loggers, the same for
all of them, from which the time, the span, the level and the message of the event can be read
back, whatever thread formats it and whatever is logged meanwhile.
-/

namespace ElasticOpenTelemetry.LoggingEventListener

open DotNet Faults Recycling LogFormatter

variable {ω ε : Type}

/-! ### The active logger -/

/-- A logger of the user's, whose methods may throw. -/
structure AdditionalLogger (ε : Type) where
  isEnabled : LogLevel → Except ε Bool
  /-- what `Log` throws for a level, a state, the text of an exception and a message -/
  logThrows : LogLevel → Option LogState → Option Str → Str → Option ε

/-- The sub-loggers of a `CompositeLogger` in active mode. -/
structure ActiveLogger (ε : Type) where
  fileLogger : FileLoggerSetup
  consoleLogger : StandardOutLogger
  additionalLogger : Option (AdditionalLogger ε)

/-- What a sub-logger does with an entry. -/
inductive Output
  /-- `_logQueue.Enqueue(logLine)` -/
  | file (logLine : Str)
  | consoleOut (logLine : Str)
  | consoleError (logLine : Str)
  | additional (logLevel : LogLevel) (state : Option LogState) (exception : Option Str)
      (message : Str)

/-- What comes of an entry: what the sub-loggers did with it, and what the additional one, which
is the last, has thrown. -/
structure Logged (ε : Type) where
  outputs : List Output
  thrown : Option ε

namespace ActiveLogger

/-- `IsEnabled` of the additional logger. -/
def additionalEnabled (logger : ActiveLogger ε) (logLevel : LogLevel) : Except ε Bool :=
  match logger.additionalLogger with
  | none => .ok false
  | some additional => additional.isEnabled logLevel

/-- `CompositeLogger.IsEnabled`, which asks the additional logger last. -/
def isEnabled (logger : ActiveLogger ε) (logLevel : LogLevel) : Except ε Bool :=
  if logger.consoleLogger.isEnabled logLevel || logger.fileLogger.isEnabled logLevel then .ok true
  else logger.additionalEnabled logLevel

/-- Where `StandardOutLogger.Log` writes its line. -/
def console (logLevel : LogLevel) (logLine : Str) : Output :=
  if logLevel ≤ .warning then .consoleOut logLine else .consoleError logLine

/-- A call of `Log` of a sub-logger that is enabled. -/
def ifEnabled (enabled : Bool) (log : Program (FormatException ε) (Store StringBuilder) Output) :
    Program (FormatException ε) (Store StringBuilder) (List Output) :=
  if enabled then do
    let output ← log
    pure [output]
  else pure []

/-- What the additional logger throws for an entry that it is handed. -/
def logThrows (logger : ActiveLogger ε) (record : Record) (exception : Option Str)
    (message : Str) : Option ε :=
  logger.additionalLogger.bind fun additional =>
    additional.logThrows record.logLevel record.state exception message

/-- The last of the three calls in `CompositeLogger.Log`. -/
def logAdditional (logger : ActiveLogger ε) (record : Record) (exception : Option Str)
    (formatter : Program (FormatException ε) (Store StringBuilder) Str) :
    Program (FormatException ε) (Store StringBuilder) (Logged ε) :=
  match logger.additionalEnabled record.logLevel with
  | .error e => pure { outputs := [], thrown := some e }
  | .ok false => pure { outputs := [], thrown := none }
  | .ok true => do
    let message ← formatter
    pure
      { outputs := [.additional record.logLevel record.state exception message]
        thrown := logger.logThrows record exception message }

/-- `CompositeLogger.Log`; `exception` is the text of the exception, if there is one. -/
def log (platform : LogFile.Platform) (builders : BuilderRuntime) (logger : ActiveLogger ε)
    (record : Record) (exception : Option Str)
    (formatter : Program (FormatException ε) (Store StringBuilder) Str) :
    Program (FormatException ε) (Store StringBuilder) (Logged ε) := do
  let file ← ifEnabled (logger.fileLogger.isEnabled record.logLevel) do
    let logLine ← LogFile.logLine platform builders record exception formatter
    pure (.file logLine)
  let console ← ifEnabled (logger.consoleLogger.isEnabled record.logLevel) do
    let logLine ← format builders record formatter
    pure (console record.logLevel logLine)
  let additional ← logger.logAdditional record exception formatter
  pure { additional with outputs := file ++ console ++ additional.outputs }

/-- What comes of a line and a message. Only the file has the text of the exception. -/
def logged (logger : ActiveLogger ε) (platform : LogFile.Platform) (record : Record)
    (exception : Option Str) (logLine message : Str) : Logged ε :=
  let outputs :=
    (if logger.fileLogger.isEnabled record.logLevel then
      [.file (logLine ++ LogFile.exceptionText platform exception)] else []) ++
    (if logger.consoleLogger.isEnabled record.logLevel then [console record.logLevel logLine]
      else [])
  match logger.additionalEnabled record.logLevel with
  | .error e => { outputs := outputs, thrown := some e }
  | .ok false => { outputs := outputs, thrown := none }
  | .ok true =>
    { outputs := outputs ++ [.additional record.logLevel record.state exception message]
      thrown := logger.logThrows record exception message }

variable {platform : LogFile.Platform} {builders : BuilderRuntime} {logger : ActiveLogger ε}
  {record : Record} {exception : Option Str}
  {formatter : Program (FormatException ε) (Store StringBuilder) Str} {message logLine : Str}

theorem gives_ifEnabled {enabled : Bool} {output : Output}
    {m : Program (FormatException ε) (Store StringBuilder) Output}
    (h : Gives (StringBuilderCache.builders builders) m (.ok output)) :
    Gives (StringBuilderCache.builders builders) (ifEnabled enabled m)
      (.ok (if enabled then [output] else [])) := by
  cases enabled with
  | true => exact h.bind (gives_pure _)
  | false => exact gives_pure _

/-- One line goes to every sub-logger that is enabled. -/
theorem gives_log
    (hformatter : Gives (StringBuilderCache.builders builders) formatter (.ok message))
    (hline : (record.line (.ok message) : Except (FormatException ε) Str) = .ok logLine) :
    Gives (StringBuilderCache.builders builders)
      (logger.log platform builders record exception formatter)
      (.ok (logger.logged platform record exception logLine message)) := by
  have hformat := gives_format (r := record) hformatter
  rw [hline] at hformat
  have hfile : Gives (StringBuilderCache.builders builders)
      (LogFile.logLine platform builders record exception formatter)
      (.ok (logLine ++ LogFile.exceptionText platform exception)) := hformat.bind (gives_pure _)
  refine (gives_ifEnabled (hfile.bind (gives_pure _))).bind
    ((gives_ifEnabled (hformat.bind (gives_pure _))).bind ?_)
  rw [logAdditional, logged]
  cases logger.additionalEnabled record.logLevel with
  | error e =>
    refine (gives_pure _).bind ?_
    rw [List.append_nil]
    exact gives_pure _
  | ok enabled =>
    cases enabled with
    | false =>
      refine (gives_pure _).bind ?_
      rw [List.append_nil]
      exact gives_pure _
    | true =>
      dsimp only
      rw [bind_assoc]
      exact hformatter.bind (gives_pure _)

end ActiveLogger

/-! ### `OnEventWritten` -/

/-- An event, with what `OnEventWritten` reads of it itself. -/
structure Event (ω : Type) where
  args : EventWrittenEventArgs ω
  level : EventLevel
  timeStamp : DateTime
  osThreadId : ℤ

/-- The builds of the package differ in what they know of an event: those for .NET Standard 2.0 and
.NET Framework take the current time, and zero for the thread. -/
inductive Build
  | net
  | netStandard (utcNow : DateTime)

namespace Build

def timestamp : Build → Event ω → DateTime
  | net, event => event.timeStamp
  | netStandard utcNow, _ => utcNow

def osThreadId : Build → Event ω → ℤ
  | net, event => event.osThreadId
  | netStandard _, _ => 0

end Build

/-- `GetLogLevel` -/
def getLogLevel : EventLevel → LogLevel
  | .critical => .critical
  | .error => .error
  | .warning => .warning
  | .informational => .information
  | .verbose => .debug
  | .logAlways => .information

/-- What `string.Format` and `object.ToString()` do besides: the entries that are logged while they
run, and what `ToString()` throws. -/
structure Meanwhile (ω ε : Type) where
  format : List (Entry ε)
  toString : ω → List (Entry ε)
  toStringThrows : ω → Option ε

section Method

variable (builders : BuilderRuntime) (runtime : Runtime ω) (meanwhile : Meanwhile ω ε)

/-- Foreign code that logs these entries. -/
def foreign (entries : List (Entry ε)) :
    Program (FormatException ε) (Store StringBuilder) PUnit := do
  let _ ← formatAll builders entries
  pure ⟨⟩

/-- The `try` block, as `extractAndFormat` computes it. -/
def tryBlock (message : Str) (payload : List (PayloadItem ω)) :
    Program (FormatException ε) (Store StringBuilder) (Option Str × Option Str) :=
  match singleOrDefault PayloadItem.isTraceParent payload with
  | none => pure (none, none)
  | some (.string payloadString) =>
    match sliceSpanId payloadString with
    | none => pure (none, none)
    | some spanId => do
      foreign builders meanwhile.format
      pure (some spanId, runtime.format message payload)
  | some _ => do
    foreign builders meanwhile.format
    pure (none, runtime.format message payload)

/-- What `payload.ToString()` throws for an item. -/
def PayloadItem.throws : PayloadItem ω → Option ε
  | .object o => meanwhile.toStringThrows o
  | .null | .string _ => none

/-- `payload.ToString()` in the `catch` block. -/
def itemText : PayloadItem ω → Program (FormatException ε) (Store StringBuilder) Str
  | .object o => do
    foreign builders (meanwhile.toString o)
    match meanwhile.toStringThrows o with
    | some e => throw (.thrown e)
    | none => pure ((PayloadItem.object o).text runtime)
  | item => pure (item.text runtime)

/-- The loop of the `catch` block. -/
def appendPayload (builder : ℕ) :
    List (PayloadItem ω) → Program (FormatException ε) (Store StringBuilder) PUnit
  | [] => pure ⟨⟩
  | item :: payload => do
    append builders builder " | ".toList
    let text ← itemText builders runtime meanwhile item
    append builders builder text
    appendPayload builder payload

/-- `CreateLogMessage` with a builder; returns the span id. -/
def createLogMessageIn (builder : ℕ) (eventData : EventWrittenEventArgs ω) (threadId : ℤ) :
    Program (FormatException ε) (Store StringBuilder) (Option Str) :=
  match runtime.startsWith openTelemetryEventSourceNamePrefix eventData.eventSourceName,
    eventData.message with
  | true, some message => do
    append builders builder (header eventData.eventSourceName threadId)
    match eventData.payload with
    | none => do
      append builders builder message
      pure none
    | some payload => do
      let r ← tryBlock builders runtime meanwhile message payload
      match r with
      | (spanId, some text) => do
        append builders builder text
        pure spanId
      | (spanId, none) => do
        appendPayload builders runtime meanwhile builder payload
        pure spanId
  | _, _ => pure none

/-- What `CreateLogMessage` throws: where the message cannot be formatted, what the first item
throws that does. -/
def createLogMessageThrows (eventData : EventWrittenEventArgs ω) : Option ε :=
  match runtime.startsWith openTelemetryEventSourceNamePrefix eventData.eventSourceName,
    eventData.message, eventData.payload with
  | true, some message, some payload =>
    if (extractAndFormat runtime message payload).2.isSome then none
    else payload.findSome? (PayloadItem.throws meanwhile)
  | _, _, _ => none

/-- The entry that `WriteLogLine` makes of an event. -/
def eventRecord (build : Build) (ambient : LogState) (event : Event ω) (spanId : Option Str) :
    Record where
  ambient := ambient
  logLevel := getLogLevel event.level
  eventId := { id := 0, name := none }
  state := some
    { activity := none, managedThreadId := -1, dateTime := build.timestamp event, spanId := spanId }
  exception := false

/-- `OnEventWritten` -/
def onEventWritten (platform : LogFile.Platform) (build : Build) (logger : ActiveLogger ε)
    (ambient : LogState) (event : Event ω) :
    Program (FormatException ε) (Store StringBuilder) (Logged ε) :=
  if !isOpenTelemetry event.args.eventSourceName then pure { outputs := [], thrown := none }
  else
    match logger.isEnabled (getLogLevel event.level) with
    | .error e => throw (.thrown e)
    | .ok false => pure { outputs := [], thrown := none }
    | .ok true => do
      let builder ←
        acquire (StringBuilderCache.builders builders) StringBuilderCache.defaultCapacity
      let spanId ← createLogMessageIn builders runtime meanwhile builder event.args
        (build.osThreadId event)
      let logLine ← finish (StringBuilderCache.builders builders) builder
      logger.log platform builders (eventRecord build ambient event spanId) none (pure logLine)

end Method

/-! ### The message in the builder -/

section Builder

variable (builders : BuilderRuntime) (runtime : Runtime ω) (meanwhile : Meanwhile ω ε) {builder : ℕ}
  {d : StringBuilder}

theorem gives_foreign (entries : List (Entry ε)) :
    Gives (StringBuilderCache.builders builders) (foreign builders entries) (.ok ⟨⟩) :=
  (gives_formatAll entries).bind (gives_pure _)

theorem gives_tryBlock (message : Str) (payload : List (PayloadItem ω)) :
    Gives (StringBuilderCache.builders builders)
      (tryBlock builders runtime meanwhile message payload)
      (.ok (extractAndFormat runtime message payload)) := by
  rw [tryBlock, extractAndFormat]
  cases singleOrDefault PayloadItem.isTraceParent payload with
  | none => exact gives_pure _
  | some item =>
    cases item with
    | null => exact (gives_foreign _ _).bind (gives_pure _)
    | object o => exact (gives_foreign _ _).bind (gives_pure _)
    | string payloadString =>
      dsimp only
      cases sliceSpanId payloadString with
      | none => exact gives_pure _
      | some spanId => exact (gives_foreign _ _).bind (gives_pure _)

theorem gives_itemText (item : PayloadItem ω) :
    Gives (StringBuilderCache.builders builders) (itemText builders runtime meanwhile item)
      (match item.throws meanwhile with
        | some e => .error (.thrown e)
        | none => .ok (item.text runtime)) := by
  cases item with
  | null => exact gives_pure _
  | string s => exact gives_pure _
  | object o =>
    refine (gives_foreign _ _).bind ?_
    rw [PayloadItem.throws]
    cases meanwhile.toStringThrows o with
    | none => exact gives_pure _
    | some e => exact gives_ofExcept (.error (FormatException.thrown e))

/-- The loop writes the items, when they all have a text, -/
theorem uses_appendPayload {payload : List (PayloadItem ω)}
    (h : payload.findSome? (PayloadItem.throws meanwhile) = none) :
    ∃ d' : StringBuilder, d'.text = d.text ++ payloadText runtime payload ∧
      Uses (StringBuilderCache.builders builders) builder d
        (appendPayload builders runtime meanwhile builder payload) (.ok ⟨⟩) (some d') := by
  induction payload generalizing d with
  | nil => exact ⟨d, (List.append_nil _).symm, (gives_pure _).uses⟩
  | cons item payload ih =>
    rw [List.findSome?_cons] at h
    have hitem := gives_itemText builders runtime meanwhile item
    cases hthrows : item.throws meanwhile with
    | some e =>
      rw [hthrows] at h
      cases h
    | none =>
      rw [hthrows] at h hitem
      obtain ⟨d', hd', hpayload⟩ := ih h
      refine ⟨d', ?_, (uses_append _).bind (hitem.uses.bind ((uses_append _).bind hpayload))⟩
      rw [hd']
      simp [payloadText]

/-- and else ends with what the first item throws that does. -/
theorem uses_appendPayload_error {payload : List (PayloadItem ω)} {e : ε}
    (h : payload.findSome? (PayloadItem.throws meanwhile) = some e) :
    Uses (StringBuilderCache.builders builders) builder d
      (appendPayload builders runtime meanwhile builder payload) (.error (.thrown e)) none := by
  induction payload generalizing d with
  | nil => cases h
  | cons item payload ih =>
    rw [List.findSome?_cons] at h
    have hitem := gives_itemText builders runtime meanwhile item
    refine (uses_append _).bind ?_
    cases hthrows : item.throws meanwhile with
    | some e' =>
      rw [hthrows] at h hitem
      obtain rfl := Option.some.inj h
      exact hitem.uses.bind_error
    | none =>
      rw [hthrows] at h hitem
      exact hitem.uses.bind ((uses_append _).bind (ih h))

/-- The builder has the message afterwards, -/
theorem uses_createLogMessageIn (builder : ℕ) (d : StringBuilder)
    (eventData : EventWrittenEventArgs ω) (threadId : ℤ)
    (h : createLogMessageThrows runtime meanwhile eventData = none) :
    ∃ d' : StringBuilder, d'.text = (createLogMessage runtime eventData d.text threadId).builder ∧
      Uses (StringBuilderCache.builders builders) builder d
        (createLogMessageIn builders runtime meanwhile builder eventData threadId)
        (.ok (createLogMessage runtime eventData d.text threadId).spanId) (some d') := by
  rw [createLogMessageThrows] at h
  rw [createLogMessageIn, createLogMessage]
  cases hname : runtime.startsWith openTelemetryEventSourceNamePrefix eventData.eventSourceName with
  | false => exact ⟨d, rfl, (gives_pure _).uses⟩
  | true =>
    cases hmessage : eventData.message with
    | none => exact ⟨d, rfl, (gives_pure _).uses⟩
    | some message =>
      let d₁ := d.append builders (header eventData.eventSourceName threadId)
      cases hpayload : eventData.payload with
      | none => exact ⟨d₁.append builders message, rfl,
          (uses_append _).bind ((uses_append _).bind (gives_pure _).uses)⟩
      | some payload =>
        have htry := (gives_tryBlock builders runtime meanwhile message payload).uses (r := builder)
          (d := d₁)
        rw [hname, hmessage, hpayload] at h
        dsimp only at h ⊢
        generalize extractAndFormat runtime message payload = result at h htry ⊢
        obtain ⟨spanId, _ | text⟩ := result
        · obtain ⟨d', hd', hloop⟩ :=
            uses_appendPayload builders runtime meanwhile (d := d₁) (by simpa using h)
          exact ⟨d', hd', (uses_append _).bind (htry.bind (hloop.bind (gives_pure _).uses))⟩
        · exact ⟨d₁.append builders text, rfl,
            (uses_append _).bind (htry.bind ((uses_append _).bind (gives_pure _).uses))⟩

/-- unless an item has thrown. -/
theorem uses_createLogMessageIn_error (builder : ℕ) (d : StringBuilder)
    (eventData : EventWrittenEventArgs ω) (threadId : ℤ) {e : ε}
    (h : createLogMessageThrows runtime meanwhile eventData = some e) :
    Uses (StringBuilderCache.builders builders) builder d
      (createLogMessageIn builders runtime meanwhile builder eventData threadId)
      (.error (.thrown e)) none := by
  rw [createLogMessageThrows] at h
  rw [createLogMessageIn]
  cases hname : runtime.startsWith openTelemetryEventSourceNamePrefix eventData.eventSourceName with
  | false =>
    rw [hname] at h
    cases h
  | true =>
    cases hmessage : eventData.message with
    | none =>
      rw [hname, hmessage] at h
      cases h
    | some message =>
      cases hpayload : eventData.payload with
      | none =>
        rw [hname, hmessage, hpayload] at h
        cases h
      | some payload =>
        let d₁ := d.append builders (header eventData.eventSourceName threadId)
        have htry := (gives_tryBlock builders runtime meanwhile message payload).uses (r := builder)
          (d := d₁)
        rw [hname, hmessage, hpayload] at h
        dsimp only at h ⊢
        generalize extractAndFormat runtime message payload = result at h htry
        obtain ⟨spanId, _ | text⟩ := result
        · have hthrows : payload.findSome? (PayloadItem.throws meanwhile) = some e := by
            simpa using h
          exact (uses_append _).bind (htry.bind
            (uses_appendPayload_error builders runtime meanwhile hthrows).bind_error)
        · cases h

/-- The span id of a message is long enough for the prefix of a line. -/
theorem length_spanId (eventData : EventWrittenEventArgs ω) (builder : Str) (threadId : ℤ) :
    ∀ spanId ∈ (createLogMessage runtime eventData builder threadId).spanId,
      6 ≤ spanId.length := by
  have htry : ∀ message payload, ∀ spanId ∈ (extractAndFormat runtime message payload).1,
      6 ≤ spanId.length := by
    intro message payload spanId hspanId
    rcases filter_isTraceParent_cases payload with h | ⟨s, h, hs⟩ | h
    · rw [extractAndFormat_of_none h] at hspanId
      cases hspanId
    · rw [extractAndFormat_of_one h (sliceSpanId_of_isTraceParent hs)] at hspanId
      cases hspanId
      have hlength : (spanIdField s).length = 16 := (spanIdField_of_isTraceParent hs).1
      split_ifs
      · rw [List.length_append, hlength]
        decide
      · rw [hlength]
        decide
    · rw [extractAndFormat_of_several h] at hspanId
      cases hspanId
  intro spanId hspanId
  rw [createLogMessage] at hspanId
  cases hname : runtime.startsWith openTelemetryEventSourceNamePrefix eventData.eventSourceName with
  | false =>
    rw [hname] at hspanId
    cases hspanId
  | true =>
    rw [hname] at hspanId
    cases hmessage : eventData.message with
    | none =>
      rw [hmessage] at hspanId
      cases hspanId
    | some message =>
      rw [hmessage] at hspanId
      cases hpayload : eventData.payload with
      | none =>
        rw [hpayload] at hspanId
        cases hspanId
      | some payload =>
        rw [hpayload] at hspanId
        refine htry message payload spanId ?_
        dsimp only at hspanId
        generalize extractAndFormat runtime message payload = result at hspanId ⊢
        obtain ⟨id, _ | text⟩ := result <;> exact hspanId

end Builder

/-! ### The line of an event -/

section Main

variable (builders : BuilderRuntime) (runtime : Runtime ω)

/-- The span id in the prefix, for an event with that one. -/
def spanIdText (spanId : Option Str) : Str := (spanId.map (List.take 6)).getD emptySpanId

theorem spanId_eventRecord (build : Build) (ambient : LogState) (event : Event ω)
    {spanId : Option Str} (h : ∀ id ∈ spanId, 6 ≤ id.length) :
    (firstSix (eventRecord build ambient event spanId).spanId :
      Except (FormatException ε) Str) = .ok (spanIdText spanId) := by
  cases spanId with
  | none => rfl
  | some id =>
    have hlength : 6 ≤ id.length := h id rfl
    have hne : id ≠ [] := by
      rintro rfl
      cases hlength
    have hid : (eventRecord build ambient event (some id)).spanId = id := if_neg hne
    rw [hid, firstSix, if_pos hlength]
    rfl

/-- The line is written with the message that `CreateLogMessage` leaves in a builder. -/
theorem gives_onEventWritten (platform : LogFile.Platform) (build : Build)
    (meanwhile : Meanwhile ω ε) (logger : ActiveLogger ε) (ambient : LogState) (event : Event ω)
    {spanId : Option Str} {message logLine : Str}
    (hmessage : createLogMessage runtime event.args [] (build.osThreadId event) =
      ⟨spanId, message⟩)
    (hline : ((eventRecord build ambient event spanId).line (.ok message) :
      Except (FormatException ε) Str) = .ok logLine) :
    Gives (StringBuilderCache.builders builders)
      (onEventWritten builders runtime meanwhile platform build logger ambient event)
      (if isOpenTelemetry event.args.eventSourceName then
        match logger.isEnabled (getLogLevel event.level),
          createLogMessageThrows runtime meanwhile event.args with
        | .error e, _ => .error (.thrown e)
        | .ok false, _ => .ok { outputs := [], thrown := none }
        | .ok true, some e => .error (.thrown e)
        | .ok true, none =>
          .ok (logger.logged platform (eventRecord build ambient event spanId) none logLine message)
      else .ok { outputs := [], thrown := none }) := by
  rw [onEventWritten]
  cases isOpenTelemetry event.args.eventSourceName with
  | false => exact gives_pure _
  | true =>
    cases logger.isEnabled (getLogLevel event.level) with
    | error e => exact gives_ofExcept (.error (FormatException.thrown e))
    | ok enabled =>
      cases enabled with
      | false => exact gives_pure _
      | true =>
        refine gives_acquire _ fun builder d (hd : d.text = []) => ?_
        cases hthrows : createLogMessageThrows runtime meanwhile event.args with
        | some e =>
          exact (uses_createLogMessageIn_error builders runtime meanwhile builder d event.args
            (build.osThreadId event) hthrows).bind_error
        | none =>
          obtain ⟨d', hd', hcreate⟩ := uses_createLogMessageIn builders runtime meanwhile builder d
            event.args (build.osThreadId event) hthrows
          rw [hd, hmessage] at hd' hcreate
          refine hcreate.bind (uses_finish.bind_gives ?_)
          change Gives _ (logger.log platform builders (eventRecord build ambient event spanId) none
            (pure d'.text)) _
          rw [hd']
          exact ActiveLogger.gives_log (gives_pure _) hline

/-- **From an event to its lines.** There is a line, from which the time, the span, the level and
the message of the event can be read back. This line goes to every sub-logger that is enabled for
the level, if the event is one of the SDK, unless the additional logger throws when it is asked
whether it is enabled, or a payload item when it is asked for its text. These exceptions get out,
and so does what the additional logger throws in the end; nothing else does, and builders in use
are left alone. The line depends neither on the thread that formats it, nor on its activity, nor on
what is logged meanwhile. -/
theorem onEventWritten_line (platform : LogFile.Platform) (build : Build) (logger : ActiveLogger ε)
    (event : Event ω) :
    let written := createLogMessage runtime event.args [] (build.osThreadId event)
    ∃ logLine : Str,
      readLine logLine = some
        { dateTime := (build.timestamp event).fields
          thread := none
          spanId := spanIdText written.spanId
          level := getLogLevel event.level
          rest := written.builder } ∧
      ∀ (meanwhile : Meanwhile ω ε) (ambient : LogState),
        Gives (StringBuilderCache.builders builders)
          (onEventWritten builders runtime meanwhile platform build logger ambient event)
          (if isOpenTelemetry event.args.eventSourceName then
            match logger.isEnabled (getLogLevel event.level),
              createLogMessageThrows runtime meanwhile event.args with
            | .error e, _ => .error (.thrown e)
            | .ok false, _ => .ok { outputs := [], thrown := none }
            | .ok true, some e => .error (.thrown e)
            | .ok true, none =>
              .ok (logger.logged platform (eventRecord build ambient event written.spanId) none
                logLine written.builder)
          else .ok { outputs := [], thrown := none }) := by
  intro written
  have hspanId := length_spanId runtime event.args [] (build.osThreadId event)
  change ∀ spanId ∈ written.spanId, 6 ≤ spanId.length at hspanId
  let state : LogState :=
    { activity := none, managedThreadId := -1, dateTime := build.timestamp event
      spanId := written.spanId }
  let logLine := (eventRecord build state event written.spanId).prefixText
    (spanIdText written.spanId) ++ written.builder
  have hline : ∀ ambient, ((eventRecord build ambient event written.spanId).line
      (.ok written.builder) : Except (FormatException ε) Str) = .ok logLine := by
    intro ambient
    rw [Record.line, spanId_eventRecord build ambient event hspanId]
    change Except.ok (logLine ++ [] ++ []) = _
    rw [List.append_nil, List.append_nil]
  have hlength : (spanIdText written.spanId).length = 6 := by
    rw [spanIdText]
    cases hid : written.spanId with
    | none => rfl
    | some id => exact List.length_take_of_le (hspanId id hid)
  exact ⟨logLine, readLine_prefixText (eventRecord build state event written.spanId) hlength
    written.builder, fun meanwhile ambient =>
      gives_onEventWritten builders runtime platform build meanwhile logger ambient event rfl
        (hline ambient)⟩

end Main

end ElasticOpenTelemetry.LoggingEventListener
