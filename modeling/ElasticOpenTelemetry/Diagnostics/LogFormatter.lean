import ElasticOpenTelemetry.Configuration.SharedParsers
import ElasticOpenTelemetry.Foundations.FixedWidth
import ElasticOpenTelemetry.Foundations.Recycling

/-!
# Log lines

`LogFormatter.Format` (`LogFormatter.cs`) writes the line of a log entry: a prefix with the time,
the thread, the first characters of the span id and the level, then the message, the event id and
the activity. It takes its `StringBuilder` from `StringBuilderCache` (`StringBuilderCache.cs`),
which keeps one for each thread. While it has the builder it calls the formatter of the entry, which
is foreign code and may log itself.

`formatAll_eq_lines` states that this does no harm: whatever is logged within what, every call
returns the line of its own text. `readLine_line` states that the prefix of a line can be read back.
-/

namespace ElasticOpenTelemetry

open DotNet Faults Recycling

/-! ### `StringBuilderCache` -/

/-- `StringBuilder`: its text, and the characters it has room for. -/
structure StringBuilder where
  text : Str
  capacity : ℕ

/-- How the runtime changes the capacity of a builder. -/
structure BuilderRuntime where
  /-- for a text of the given length, which has no room -/
  grow : ℕ → ℕ → ℕ
  clear : ℕ → ℕ

namespace StringBuilder

variable (runtime : BuilderRuntime)

/-- `Append` -/
def append (s : Str) (builder : StringBuilder) : StringBuilder where
  text := builder.text ++ s
  capacity :=
    if builder.text.length + s.length ≤ builder.capacity then builder.capacity
    else runtime.grow builder.capacity (builder.text.length + s.length)

@[simp]
theorem text_append (s : Str) (builder : StringBuilder) :
    (builder.append runtime s).text = builder.text ++ s := rfl

end StringBuilder

namespace StringBuilderCache

def maxBuilderSize : ℕ := 360
def defaultCapacity : ℕ := 64

/-- The builders of a thread: `Acquire`, `Release` and `GetStringAndRelease` are `acquire`,
`release` and `finish` for this kind. -/
def builders (runtime : BuilderRuntime) : Kind ℕ StringBuilder Str where
  view := StringBuilder.text
  empty := []
  create capacity := { text := [], capacity := capacity }
  clear builder := { text := [], capacity := runtime.clear builder.capacity }
  serves capacity builder := capacity ≤ maxBuilderSize && capacity ≤ builder.capacity
  keeps builder := builder.capacity ≤ maxBuilderSize
  view_create _ := rfl
  view_clear _ := rfl

end StringBuilderCache

/-! ### What a line is made of -/

/-- A `DateTime` of kind `Utc`; `fraction` counts ticks of 100 nanoseconds. -/
structure DateTime where
  year : ℕ
  month : ℕ
  day : ℕ
  hour : ℕ
  minute : ℕ
  second : ℕ
  fraction : ℕ
  year_lt : year < 10 ^ 4
  month_lt : month < 10 ^ 2
  day_lt : day < 10 ^ 2
  hour_lt : hour < 10 ^ 2
  minute_lt : minute < 10 ^ 2
  second_lt : second < 10 ^ 2
  fraction_lt : fraction < 10 ^ 7
  deriving DecidableEq

namespace DateTime

/-- `yyyy-MM-ddTHH:mm:ss.fffffffZ` -/
def layout : FixedWidth.Layout :=
  [(4, '-'), (2, '-'), (2, 'T'), (2, ':'), (2, ':'), (2, '.'), (7, 'Z')]

def fields (t : DateTime) : List ℕ :=
  [t.year, t.month, t.day, t.hour, t.minute, t.second, t.fraction]

/-- `ToString("O")` -/
def toStringO (t : DateTime) : Str := FixedWidth.write layout t.fields

theorem fits_fields (t : DateTime) : FixedWidth.Fits layout t.fields := by
  refine .cons ⟨by decide, t.year_lt⟩ (.cons ⟨by decide, t.month_lt⟩ (.cons ⟨by decide, t.day_lt⟩
    (.cons ⟨by decide, t.hour_lt⟩ (.cons ⟨by decide, t.minute_lt⟩ (.cons ⟨by decide, t.second_lt⟩
      (.cons ⟨by decide, t.fraction_lt⟩ .nil))))))

end DateTime

/-- What a line says of the current activity: `TraceId.ToHexString()`, `SpanId.ToHexString()` and
the flag `Recorded`. -/
structure ActivityContext where
  traceId : Str
  spanId : Str
  recorded : Bool
  spanId_length : spanId.length = 16

/-- `LogState`, or the values that a line has without one. -/
structure LogState where
  activity : Option ActivityContext
  managedThreadId : ℤ
  dateTime : DateTime
  spanId : Option Str

/-- `EventId` -/
structure EventId where
  id : ℤ
  name : Option Str

/-- What `Format` throws. -/
inductive FormatException (ε : Type)
  /-- `spanId[..6]` -/
  | argumentOutOfRange
  /-- from foreign code, such as the formatter -/
  | thrown (e : ε)

namespace LogFormatter

/-- The arguments of `Format` but for the formatter, and what it reads of its thread. -/
structure Record where
  /-- `Environment.CurrentManagedThreadId`, `DateTime.UtcNow` and `Activity.Current`; the span id
  is null -/
  ambient : LogState
  logLevel : LogLevel
  eventId : EventId
  /-- the state, if it is a `LogState` -/
  state : Option LogState
  /-- there is an exception -/
  exception : Bool

def emptySpanId : Str := "------".toList

/-- The thread's number in the prefix. -/
def threadText (managedThreadId : ℤ) : Str :=
  if 0 < managedThreadId then FixedWidth.padded 6 managedThreadId.toNat else List.replicate 6 '-'

/-- `spanId[..6]` -/
def firstSix {ε : Type} (spanId : Str) : Except (FormatException ε) Str :=
  if 6 ≤ spanId.length then .ok (spanId.take 6) else .error .argumentOutOfRange

namespace Record

/-- The local variables of `Format` after its `switch`. -/
def locals (r : Record) : LogState := r.state.getD { r.ambient with spanId := none }

/-- Exceptions are written as errors. -/
def level (r : Record) : LogLevel := if r.exception then .error else r.logLevel

/-- The argument `spanId` of `WriteLogPrefix`, which an empty one is replaced in. -/
def spanId (r : Record) : Str :=
  let spanId := (r.locals.spanId <|> r.locals.activity.map ActivityContext.spanId).getD []
  if spanId = [] then emptySpanId else spanId

/-- The prefix up to the span id. -/
def beforeSpanId (r : Record) : Str :=
  "[".toList ++ r.locals.dateTime.toStringO ++ "][".toList ++ threadText r.locals.managedThreadId ++
    "][".toList

/-- The prefix from the span id on. -/
def fromSpanId (r : Record) (spanId : Str) : Str :=
  spanId ++ "][".toList ++ r.level.asString ++ "]".toList

/-- The event id after the message. -/
def eventText (r : Record) : Str :=
  if r.eventId.id = 0 then []
  else if isNullOrEmpty r.eventId.name then
    " \x7b\x7bEventId: ".toList ++ (toString r.eventId.id).toList ++ "\x7d\x7d".toList
  else
    " \x7b\x7bEventId: ".toList ++ (toString r.eventId.id).toList ++ ", EventName: ".toList ++
      r.eventId.name.getD [] ++ "\x7d\x7d".toList

/-- The activity at the end of the line. -/
def activityText (r : Record) : Str :=
  match r.locals.activity with
  | some activity =>
    " <00-".toList ++ activity.traceId ++ "-".toList ++ activity.spanId ++ "-".toList ++
      (if activity.recorded then "01".toList else "00".toList) ++ ">".toList
  | none => []

end Record

section Format

variable {ε : Type} (runtime : BuilderRuntime)

/-- `Append` on the builder of that number. -/
def append (builder : ℕ) (s : Str) : Program (FormatException ε) (Store StringBuilder) PUnit :=
  use builder (StringBuilder.append runtime s)

/-- `WriteLogPrefix` -/
def writeLogPrefix (builder : ℕ) (r : Record) :
    Program (FormatException ε) (Store StringBuilder) PUnit := do
  append runtime builder r.beforeSpanId
  let spanId ← MonadExcept.ofExcept (firstSix r.spanId)
  append runtime builder (r.fromSpanId spanId)
  let text ← look (StringBuilderCache.builders runtime) builder
  append runtime builder (List.replicate (60 - text.length) ' ')

/-- `Format`; `formatter` is the formatter applied to the state and the exception. -/
def format (r : Record) (formatter : Program (FormatException ε) (Store StringBuilder) Str) :
    Program (FormatException ε) (Store StringBuilder) Str := do
  let builder ← acquire (StringBuilderCache.builders runtime) StringBuilderCache.defaultCapacity
  writeLogPrefix runtime builder r
  let message ← formatter
  append runtime builder message
  append runtime builder r.eventText
  append runtime builder r.activityText
  finish (StringBuilderCache.builders runtime) builder

/-! ### Entries that log entries -/

/-- A log entry whose formatter logs other entries first. It may read their lines, and swallow
their exceptions. -/
inductive Entry (ε : Type)
  | mk (record : Record) (nested : List (Entry ε))
      (message : List (Except (FormatException ε) Str) → Except (FormatException ε) Str)

mutual

/-- Format an entry. -/
def Entry.format : Entry ε → Program (FormatException ε) (Store StringBuilder) Str
  | .mk record nested message => LogFormatter.format runtime record do
    let lines ← formatAll nested
    MonadExcept.ofExcept (message lines)

/-- Format one entry after the other; those that fail do not stop the others. -/
def formatAll : List (Entry ε) →
    Program (FormatException ε) (Store StringBuilder) (List (Except (FormatException ε) Str))
  | [] => pure []
  | entry :: entries => do
    let line ← attempt (entry.format)
    let lines ← formatAll entries
    pure (line :: lines)

end

end Format

/-! ### The line of an entry -/

namespace Record

/-- The prefix, padded with blanks. -/
def prefixText (r : Record) (spanId : Str) : Str :=
  r.beforeSpanId ++ r.fromSpanId spanId ++
    List.replicate (60 - (r.beforeSpanId ++ r.fromSpanId spanId).length) ' '

/-- The line of a message. -/
def line {ε : Type} (r : Record) (message : Except (FormatException ε) Str) :
    Except (FormatException ε) Str := do
  let spanId ← firstSix r.spanId
  let message ← message
  pure (r.prefixText spanId ++ message ++ r.eventText ++ r.activityText)

end Record

section Lines

variable {ε : Type}

mutual

/-- The line of an entry, or the exception. -/
def Entry.line : Entry ε → Except (FormatException ε) Str
  | .mk record nested message => record.line (message (lines nested))

def lines : List (Entry ε) → List (Except (FormatException ε) Str)
  | [] => []
  | entry :: entries => entry.line :: lines entries

end

variable {runtime : BuilderRuntime} {builder : ℕ} {d : StringBuilder} {r : Record}
  {message : Except (FormatException ε) Str}

theorem uses_append (s : Str) :
    Uses (StringBuilderCache.builders runtime) builder d
      (append runtime builder s : Program (FormatException ε) (Store StringBuilder) PUnit) (.ok ⟨⟩)
      (some (d.append runtime s)) :=
  uses_use _

/-- The prefix is written when the span id is long enough, -/
theorem uses_writeLogPrefix (builder : ℕ) {spanId : Str} (hd : d.text = [])
    (h : (firstSix r.spanId : Except (FormatException ε) Str) = .ok spanId) :
    ∃ d' : StringBuilder, d'.text = r.prefixText spanId ∧
      Uses (StringBuilderCache.builders runtime) builder d
        (writeLogPrefix runtime builder r : Program (FormatException ε) (Store StringBuilder) PUnit)
        (.ok ⟨⟩) (some d') := by
  let d₁ := (d.append runtime r.beforeSpanId).append runtime (r.fromSpanId spanId)
  refine ⟨d₁.append runtime (List.replicate (60 - d₁.text.length) ' '), ?_,
    (uses_append _).bind ?_⟩
  · simp [d₁, Record.prefixText, hd]
  · rw [h]
    exact (gives_ofExcept _).uses.bind ((uses_append _).bind (uses_look.bind (uses_append _)))

/-- and else it throws. -/
theorem uses_writeLogPrefix_error {e : FormatException ε} (h : firstSix r.spanId = .error e) :
    Uses (StringBuilderCache.builders runtime) builder d
      (writeLogPrefix runtime builder r : Program (FormatException ε) (Store StringBuilder) PUnit)
      (.error e) none := by
  refine (uses_append _).bind ?_
  rw [h]
  exact ((gives_ofExcept _).uses).bind_error

/-- **Formatting gives the line**, whatever the formatter does with other builders. -/
theorem gives_format {formatter : Program (FormatException ε) (Store StringBuilder) Str}
    (h : Gives (StringBuilderCache.builders runtime) formatter message) :
    Gives (StringBuilderCache.builders runtime) (format runtime r formatter) (r.line message) := by
  rw [Record.line]
  refine gives_acquire _ fun builder d hd => ?_
  cases hspan : (firstSix r.spanId : Except (FormatException ε) Str) with
  | error e => exact (uses_writeLogPrefix_error hspan).bind_error
  | ok spanId =>
    obtain ⟨d', hd', hprefix⟩ := uses_writeLogPrefix builder hd hspan
    refine hprefix.bind ?_
    cases message with
    | error e => exact h.uses.bind_error
    | ok text =>
      refine h.uses.bind ((uses_append _).bind ((uses_append _).bind ((uses_append _).bind ?_)))
      have hline : (StringBuilderCache.builders runtime).view
          (((d'.append runtime text).append runtime r.eventText).append runtime r.activityText) =
            r.prefixText spanId ++ text ++ r.eventText ++ r.activityText := by
        rw [← hd']
        rfl
      change Uses _ _ _ _ (.ok (r.prefixText spanId ++ text ++ r.eventText ++ r.activityText)) _
      rw [← hline]
      exact uses_finish

mutual

theorem Entry.gives_format : ∀ entry : Entry ε,
    Gives (StringBuilderCache.builders runtime) (entry.format runtime) entry.line
  | .mk _ nested _ => LogFormatter.gives_format ((gives_formatAll nested).bind (gives_ofExcept _))

theorem gives_formatAll : ∀ entries : List (Entry ε),
    Gives (StringBuilderCache.builders runtime) (formatAll runtime entries) (.ok (lines entries))
  | [] => gives_pure _
  | entry :: entries =>
    entry.gives_format.attempt.bind ((gives_formatAll entries).bind (gives_pure _))

end

/-- **Formatting is re-entrant.** On a new thread, one entry after the other, whatever is logged
while another line is being formatted: every call returns the line of its own text, or its own
exception, as if there were no cache. What is kept in between is small. -/
theorem formatAll_eq_lines (runtime : BuilderRuntime) (objects : ℕ → StringBuilder)
    (entries : List (Entry ε)) :
    ∃ t : Store StringBuilder,
      (formatAll runtime entries).run { objects := objects, size := 0, cached := none } =
        (.ok (lines entries), t) ∧
      ∀ builder ∈ t.cached, (t.objects builder).capacity ≤ StringBuilderCache.maxBuilderSize := by
  have hgives : Gives (StringBuilderCache.builders runtime) (formatAll runtime entries)
      (.ok (lines entries)) := gives_formatAll entries
  obtain ⟨t, hrun, ht⟩ := hgives ∅ _ (safe_empty objects)
  refine ⟨t, hrun, fun builder hbuilder => ?_⟩
  exact of_decide_eq_true (ht.safe.cached_keeps builder hbuilder)

end Lines

/-! ### Reading a line -/

/-- What the prefix of a line says, and the rest of the line. -/
structure ReadLine where
  dateTime : List ℕ
  /-- the number of the thread, if there is one -/
  thread : Option ℕ
  spanId : Str
  level : LogLevel
  rest : Str
  deriving DecidableEq

/-- The levels by their texts. -/
def levelOfText (s : Str) : Option LogLevel :=
  [.trace, .debug, .information, .warning, .error, .critical, .none].find?
    fun level => level.asString = s

def threadOfText (s : Str) : Option ℕ :=
  if s.all Char.isDigit then some (Nat.ofDigitChars 10 s 0) else none

/-- Take a text off the front of another one. -/
def skip (front s : Str) : Option Str := if front <+: s then some (s.drop front.length) else none

@[simp]
theorem skip_append (front s : Str) : skip front (front ++ s) = some s := by
  rw [skip, if_pos (List.prefix_append front s), List.drop_left]

/-- Read a line, up to where the message begins. -/
def readLine (s : Str) : Option ReadLine := do
  let (dateTime, s₁) ← FixedWidth.read DateTime.layout (← skip "[".toList s)
  let s₂ ← skip "][".toList s₁
  let s₃ ← skip "][".toList (s₂.dropWhile (· ≠ ']'))
  let s₄ ← skip "][".toList (s₃.drop 6)
  let level ← levelOfText (s₄.takeWhile (· ≠ ']'))
  let s₅ ← skip "]".toList (s₄.dropWhile (· ≠ ']'))
  let rest ← skip (List.replicate (60 - (s.length - s₅.length)) ' ') s₅
  some
    { dateTime := dateTime
      thread := threadOfText (s₂.takeWhile (· ≠ ']'))
      spanId := s₃.take 6
      level := level
      rest := rest }

theorem levelOfText_asString (level : LogLevel) : levelOfText level.asString = some level := by
  cases level <;> decide

theorem threadOfText_threadText (n : ℤ) :
    threadOfText (threadText n) = if 0 < n then some n.toNat else none := by
  rw [threadOfText, threadText]
  split_ifs with hn hdigits hdigits
  · rw [FixedWidth.ofDigitChars_padded]
  · exact absurd (List.all_eq_true.mpr fun _ => FixedWidth.isDigit_of_mem_padded) hdigits
  · exact absurd hdigits (by decide)
  · rfl

/-- No bracket stands in the number of a thread, -/
theorem ne_bracket_of_mem_threadText {n : ℤ} {c : Char} (h : c ∈ threadText n) : c ≠ ']' := by
  rintro rfl
  rw [threadText] at h
  split_ifs at h
  · exact absurd (FixedWidth.isDigit_of_mem_padded h) (by decide)
  · exact absurd (List.eq_of_mem_replicate h) (by decide)

/-- nor in a level. -/
theorem ne_bracket_of_mem_asString {level : LogLevel} {c : Char} (h : c ∈ level.asString) :
    c ≠ ']' := by
  rintro rfl
  cases level <;> exact absurd h (by decide)

/-- What stands before the first bracket. -/
theorem takeWhile_bracket {s : Str} (h : ∀ c ∈ s, c ≠ ']') (rest : Str) :
    (s ++ ']' :: rest).takeWhile (· ≠ ']') = s := by
  rw [List.takeWhile_append_of_pos fun c hc => decide_eq_true (h c hc)]
  simp

theorem dropWhile_bracket {s : Str} (h : ∀ c ∈ s, c ≠ ']') (rest : Str) :
    (s ++ ']' :: rest).dropWhile (· ≠ ']') = ']' :: rest := by
  rw [List.dropWhile_append_of_pos fun c hc => decide_eq_true (h c hc)]
  simp

theorem firstSix_ok {ε : Type} {spanId s : Str}
    (h : (firstSix s : Except (FormatException ε) Str) = .ok spanId) :
    spanId = s.take 6 ∧ spanId.length = 6 := by
  rw [firstSix] at h
  split_ifs at h with hlength
  cases h
  exact ⟨rfl, by rw [List.length_take, Nat.min_eq_left hlength]⟩

/-- Reading what the brackets enclose. -/
theorem readLine_brackets (t : DateTime) (n : ℤ) {spanId : Str} (hspan : spanId.length = 6)
    (level : LogLevel) (rest : Str) {s : Str}
    (hs : s = '[' :: (t.toStringO ++ ']' :: '[' :: (threadText n ++ ']' :: '[' ::
      (spanId ++ ']' :: '[' :: (level.asString ++ ']' :: rest))))) :
    readLine s = (skip (List.replicate (60 - (s.length - rest.length)) ' ') rest).map fun rest =>
      { dateTime := t.fields
        thread := if 0 < n then some n.toNat else none
        spanId := spanId
        level := level
        rest := rest } := by
  have hskip : ∀ rest, skip "][".toList (']' :: '[' :: rest) = some rest := skip_append "][".toList
  have hlast : ∀ rest, skip "]".toList (']' :: rest) = some rest := skip_append "]".toList
  have hfirst : skip "[".toList s = some (t.toStringO ++ ']' :: '[' :: (threadText n ++
      ']' :: '[' :: (spanId ++ ']' :: '[' :: (level.asString ++ ']' :: rest)))) := by
    rw [hs]
    exact skip_append "[".toList _
  have htake : (spanId ++ ']' :: '[' :: (level.asString ++ ']' :: rest)).take 6 = spanId :=
    List.take_left' hspan
  have hdrop : (spanId ++ ']' :: '[' :: (level.asString ++ ']' :: rest)).drop 6 =
      ']' :: '[' :: (level.asString ++ ']' :: rest) := List.drop_left' hspan
  rw [readLine, hfirst]
  simp only [Option.bind_eq_bind, Option.bind_some, DateTime.toStringO,
    FixedWidth.read_write t.fits_fields, hskip,
    takeWhile_bracket fun _ => ne_bracket_of_mem_threadText,
    dropWhile_bracket fun _ => ne_bracket_of_mem_threadText, hdrop, htake,
    takeWhile_bracket fun _ => ne_bracket_of_mem_asString,
    dropWhile_bracket fun _ => ne_bracket_of_mem_asString, hlast, levelOfText_asString,
    threadOfText_threadText]
  cases skip (List.replicate (60 - (s.length - rest.length)) ' ') rest <;> rfl

/-- What comes after the prefix is left as it is. -/
theorem readLine_prefixText (r : Record) {spanId : Str} (h : spanId.length = 6) (rest : Str) :
    readLine (r.prefixText spanId ++ rest) = some
      { dateTime := r.locals.dateTime.fields
        thread := if 0 < r.locals.managedThreadId then some r.locals.managedThreadId.toNat else none
        spanId := spanId
        level := r.level
        rest := rest } := by
  let before := r.beforeSpanId ++ r.fromSpanId spanId
  let padding := List.replicate (60 - before.length) ' '
  have hshape : r.prefixText spanId ++ rest = '[' :: (r.locals.dateTime.toStringO ++ ']' :: '[' ::
      (threadText r.locals.managedThreadId ++ ']' :: '[' :: (spanId ++ ']' :: '[' ::
        (r.level.asString ++ ']' :: (padding ++ rest))))) := by
    simp [Record.prefixText, Record.beforeSpanId, Record.fromSpanId, padding, before]
  have hbefore : r.prefixText spanId ++ rest = before ++ (padding ++ rest) := List.append_assoc ..
  have hpadding : List.replicate
      (60 - ((before ++ (padding ++ rest)).length - (padding ++ rest).length)) ' ' = padding := by
    rw [List.length_append, Nat.add_sub_cancel]
  rw [readLine_brackets r.locals.dateTime r.locals.managedThreadId h r.level (padding ++ rest)
    hshape, hbefore, hpadding, skip_append, Option.map_some]

/-- **A line can be read back.** Whatever the message is, the prefix of a line says which time,
which thread, which span and which level it was written with, and where the message begins. -/
theorem readLine_line {ε : Type} {r : Record} {message line : Str}
    (h : (r.line (.ok message) : Except (FormatException ε) Str) = .ok line) :
    readLine line = some
      { dateTime := r.locals.dateTime.fields
        thread := if 0 < r.locals.managedThreadId then some r.locals.managedThreadId.toNat else none
        spanId := r.spanId.take 6
        level := if r.exception then .error else r.logLevel
        rest := message ++ r.eventText ++ r.activityText } := by
  rw [Record.line] at h
  cases hspan : (firstSix r.spanId : Except (FormatException ε) Str) with
  | error e =>
    rw [hspan] at h
    cases h
  | ok spanId =>
    rw [hspan] at h
    cases h
    obtain ⟨rfl, hlength⟩ := firstSix_ok hspan
    rw [List.append_assoc, List.append_assoc, readLine_prefixText r hlength, List.append_assoc]
    rfl

/-- An event of a listener that names its thread and no span. -/
theorem readLine_line_listener :
    readLine "[1970-01-01T00:00:00.0000000Z][000012][------][Error]       stopped".toList = some
      { dateTime := [1970, 1, 1, 0, 0, 0, 0]
        thread := some 12
        spanId := emptySpanId
        level := .error
        rest := "stopped".toList } := by
  let epoch : DateTime :=
    { year := 1970, month := 1, day := 1, hour := 0, minute := 0, second := 0, fraction := 0
      year_lt := by decide, month_lt := by decide, day_lt := by decide, hour_lt := by decide
      minute_lt := by decide, second_lt := by decide, fraction_lt := by decide }
  let state : LogState :=
    { activity := none, managedThreadId := 12, dateTime := epoch, spanId := none }
  let record : Record :=
    { ambient := state, logLevel := .information, eventId := { id := 0, name := none }
      state := none, exception := true }
  have htext : record.prefixText emptySpanId ++ "stopped".toList ++ [] ++ [] =
      "[1970-01-01T00:00:00.0000000Z][000012][------][Error]       stopped".toList := by
    decide +kernel
  exact @readLine_line Unit record "stopped".toList _ (congrArg Except.ok htext)

end LogFormatter

end ElasticOpenTelemetry
