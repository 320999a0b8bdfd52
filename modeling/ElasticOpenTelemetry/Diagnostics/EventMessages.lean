import ElasticOpenTelemetry.Diagnostics.LoggingEventListener
import ElasticOpenTelemetry.Foundations.FixedPattern

/-!
# The line of an SDK event

`CreateLogMessage` (`LoggingEventListener.cs`) looks for the one payload item that is a W3C
traceparent, takes the span id out of it, and formats the event's message with the payload. Both
stand in one `try` block, whose `catch` writes the payload items instead of the message. So the
message is lost when the search throws, which `SingleOrDefault` does when there are several such
items, although the message formats well.

`TraceParentRegex` ends in `$`, which matches before a final line feed as well, and the slice
`[36..^3]` counts from the end.

`createLogMessage_keepsEvent` states when an event keeps its text and has a valid span id.
-/

namespace ElasticOpenTelemetry.LoggingEventListener

open DotNet FixedPattern

variable {ω : Type}

/-! ### The pattern -/

/-- The zeros of the decimal digits that are one UTF-16 code unit. -/
def decimalZeros : List ℕ :=
  [0x0030, 0x0660, 0x06F0, 0x07C0, 0x0966, 0x09E6, 0x0A66, 0x0AE6, 0x0B66, 0x0BE6, 0x0C66, 0x0CE6,
    0x0D66, 0x0DE6, 0x0E50, 0x0ED0, 0x0F20, 0x1040, 0x1090, 0x17E0, 0x1810, 0x1946, 0x19D0, 0x1A80,
    0x1A90, 0x1B50, 0x1BB0, 0x1C40, 0x1C50, 0xA620, 0xA8D0, 0xA900, 0xA9D0, 0xA9F0, 0xAA50, 0xABF0,
    0xFF10]

/-- `\d` -/
def isDecimalDigit (c : Char) : Bool :=
  decimalZeros.any fun first => decide (first ≤ c.toNat ∧ c.toNat < first + 10)

/-- `[a-f0-9]` -/
def isHexDigit (c : Char) : Bool :=
  decide (('a' ≤ c ∧ c ≤ 'f') ∨ ('0' ≤ c ∧ c ≤ '9'))

/-- `TraceParentRegularExpressionString` up to the span id. -/
def beforeSpanId : Pattern Char :=
  List.replicate 2 isDecimalDigit ++ (· == '-') :: List.replicate 32 isHexDigit ++ [(· == '-')]

def spanIdPattern : Pattern Char := List.replicate 16 isHexDigit

def afterSpanId : Pattern Char := (· == '-') :: List.replicate 2 isDecimalDigit

/-- `TraceParentRegularExpressionString` between `^` and `$`. -/
def traceParentPattern : Pattern Char := beforeSpanId ++ (spanIdPattern ++ afterSpanId)

/-- `TraceParentRegex().IsMatch` -/
def isTraceParent (s : Str) : Bool := matchesWhole traceParentPattern s

/-- The span-id field of a traceparent. -/
def spanIdField (s : Str) : Str := (s.drop beforeSpanId.length).take spanIdPattern.length

/-! ### The method -/

/-- A payload item; `ω` are the objects other than strings. -/
inductive PayloadItem (ω : Type)
  | null
  | string (s : Str)
  | object (o : ω)

/-- What the method uses of the runtime. -/
structure Runtime (ω : Type) where
  /-- `string.StartsWith(string)`, which compares under the current culture -/
  startsWith : Str → Str → Bool
  /-- `string.Format(string, object[])`, `none` where it throws -/
  format : Str → List (PayloadItem ω) → Option Str
  /-- `object.ToString()`, `none` for null -/
  toString : ω → Option Str

/-- `EventWrittenEventArgs` -/
structure EventWrittenEventArgs (ω : Type) where
  eventSourceName : Str
  message : Option Str
  payload : Option (List (PayloadItem ω))

/-- `p is string ps && TraceParentRegex().IsMatch(ps)` -/
def PayloadItem.isTraceParent : PayloadItem ω → Bool
  | .string ps => LoggingEventListener.isTraceParent ps
  | .null | .object _ => false

/-- `Enumerable.SingleOrDefault`, `none` where it throws. -/
def singleOrDefault (predicate : PayloadItem ω → Bool) (items : List (PayloadItem ω)) :
    Option (PayloadItem ω) :=
  match items.filter predicate with
  | [] => some .null
  | [item] => some item
  | _ => none

/-- `s[36..^3]`, `none` where it throws. -/
def sliceSpanId (s : Str) : Option Str :=
  if 36 + 3 ≤ s.length then some ((s.drop 36).take (s.length - 3 - 36)) else none

section Method

variable (runtime : Runtime ω)

/-- The `try` block: the span id that it leaves, and the message unless it throws. -/
def extractAndFormat (message : Str) (payload : List (PayloadItem ω)) :
    Option Str × Option Str :=
  match singleOrDefault PayloadItem.isTraceParent payload with
  | none => (none, none)
  | some (.string payloadString) =>
    match sliceSpanId payloadString with
    | none => (none, none)
    | some spanId => (some spanId, runtime.format message payload)
  | some _ => (none, runtime.format message payload)

/-- What the `catch` block appends for an item. -/
def PayloadItem.text : PayloadItem ω → Str
  | .null => "null".toList
  | .string s => s
  | .object o => (runtime.toString o).getD "null".toList

/-- The loop of the `catch` block. -/
def payloadText (payload : List (PayloadItem ω)) : Str :=
  payload.flatMap fun item => " | ".toList ++ item.text runtime

/-- What is appended before the message. -/
def header (eventSourceName : Str) (threadId : ℤ) : Str :=
  eventSourceName ++ ": [".toList ++ (toString threadId).toList ++ "] ".toList

/-- What the method returns, and the builder after it. -/
structure LogMessage where
  spanId : Option Str
  builder : Str
  deriving DecidableEq, Repr

/-- `CreateLogMessage` -/
def createLogMessage (eventData : EventWrittenEventArgs ω) (builder : Str) (threadId : ℤ) :
    LogMessage :=
  match runtime.startsWith openTelemetryEventSourceNamePrefix eventData.eventSourceName,
    eventData.message with
  | true, some message =>
    let builder := builder ++ header eventData.eventSourceName threadId
    match eventData.payload with
    | none => { spanId := none, builder := builder ++ message }
    | some payload =>
      match extractAndFormat runtime message payload with
      | (spanId, some text) => { spanId := spanId, builder := builder ++ text }
      | (spanId, none) => { spanId := spanId, builder := builder ++ payloadText runtime payload }
  | _, _ => { spanId := none, builder := builder }

end Method

/-! ### The span id -/

private theorem take_drop_append {a b : Str} {i n : ℕ} (h : i + n ≤ a.length) :
    ((a ++ b).drop i).take n = (a.drop i).take n := by
  rw [List.drop_append_of_le_length (by omega),
    List.take_append_of_le_length (by rw [List.length_drop]; omega)]

theorem spanIdField_of_fits {s : Str} (h : fits traceParentPattern s = true) :
    (spanIdField s).length = 16 ∧ ∀ c ∈ spanIdField s, isHexDigit c = true := by
  have hfield : fits spanIdPattern (spanIdField s) = true := fits_slice h
  exact ⟨length_of_fits hfield, forall_of_fits_replicate hfield⟩

theorem spanIdField_append {body rest : Str} (h : fits traceParentPattern body = true) :
    spanIdField (body ++ rest) = spanIdField body := by
  have hlength : body.length = 55 := length_of_fits h
  have hbefore : beforeSpanId.length = 36 := rfl
  have hid : spanIdPattern.length = 16 := rfl
  rw [spanIdField, spanIdField, hbefore, hid, take_drop_append (by omega)]

/-- The field of every item that matches has sixteen hexadecimal digits. -/
theorem spanIdField_of_isTraceParent {s : Str} (h : isTraceParent s = true) :
    (spanIdField s).length = 16 ∧ ∀ c ∈ spanIdField s, isHexDigit c = true := by
  rcases matchesWhole_iff.mp h with hfits | ⟨body, rfl, hfits⟩
  · exact spanIdField_of_fits hfits
  · rw [spanIdField_append hfits]
    exact spanIdField_of_fits hfits

/-- What the pattern says after the span id. -/
theorem take_drop_of_fits {s : Str} (h : fits traceParentPattern s = true) :
    (s.drop 36).take 17 = spanIdField s ++ ['-'] := by
  have hsplit : fits (beforeSpanId ++ ((spanIdPattern ++ [(· == '-')]) ++
    List.replicate 2 isDecimalDigit)) s = true := h
  have hslice : fits (spanIdPattern ++ [(· == '-')]) ((s.drop 36).take 17) = true :=
    fits_slice hsplit
  obtain ⟨-, hdash⟩ := fits_append.mp hslice
  have hfield : ((s.drop 36).take 17).take 16 = spanIdField s := by
    rw [List.take_take]
    rfl
  have hrest : ((s.drop 36).take 17).drop 16 = ['-'] := by
    obtain ⟨c, hc⟩ := List.length_eq_one_iff.mp (length_of_fits hdash)
    have hlength : spanIdPattern.length = 16 := rfl
    rw [hlength] at hc hdash
    rw [hc] at hdash ⊢
    simpa [fits] using hdash
  rw [← List.take_append_drop 16 ((s.drop 36).take 17), hfield, hrest]

/-- The slice is the field, unless a line feed ends the item: then it reaches one too far. -/
theorem sliceSpanId_of_isTraceParent {s : Str} (h : isTraceParent s = true) :
    sliceSpanId s =
      some (if s.getLast? = some '\n' then spanIdField s ++ ['-'] else spanIdField s) := by
  rcases matchesWhole_iff.mp h with hfits | ⟨body, rfl, hfits⟩
  · have hlength : s.length = 55 := length_of_fits hfits
    have hlast : s.getLast? ≠ some '\n' := by
      have hsplit : fits ((beforeSpanId ++ (spanIdPattern ++ [(· == '-'), isDecimalDigit])) ++
        [isDecimalDigit]) s = true := hfits
      obtain ⟨c, hc, hdigit⟩ := getLast?_of_fits hsplit
      rw [hc, ne_eq, Option.some.injEq]
      rintro rfl
      revert hdigit
      decide
    rw [sliceSpanId, if_pos (by omega), hlength, if_neg hlast]
    rfl
  · have hlength : body.length = 55 := length_of_fits hfits
    rw [sliceSpanId, List.length_append, hlength, List.length_singleton, if_pos (by omega),
      List.getLast?_concat, if_pos rfl, spanIdField_append hfits, ← take_drop_of_fits hfits,
      take_drop_append (by omega)]

/-- The span id that is returned is null, or the span-id field of an item that matches. -/
def ValidSpanId (payload : List (PayloadItem ω)) (spanId : Option Str) : Prop :=
  spanId = none ∨ ∃ s, .string s ∈ payload ∧ isTraceParent s = true ∧
    spanId = some (spanIdField s) ∧ (spanIdField s).length = 16 ∧
    ∀ c ∈ spanIdField s, isHexDigit c = true

theorem validSpanId_length {payload : List (PayloadItem ω)} {spanId : Str}
    (h : ValidSpanId payload (some spanId)) : spanId.length = 16 := by
  rcases h with h | ⟨s, -, -, hs, hlength, -⟩
  · cases h
  · rw [Option.some.inj hs, hlength]

/-! ### The `try` block -/

/-- No item of the payload matches, or one does, or several do. -/
theorem filter_isTraceParent_cases (payload : List (PayloadItem ω)) :
    payload.filter PayloadItem.isTraceParent = [] ∨
      (∃ s, payload.filter PayloadItem.isTraceParent = [.string s] ∧ isTraceParent s = true) ∨
      1 < payload.countP PayloadItem.isTraceParent := by
  rw [List.countP_eq_length_filter]
  have hall : ∀ item ∈ payload.filter PayloadItem.isTraceParent, item.isTraceParent = true :=
    fun item hitem => (List.mem_filter.mp hitem).2
  generalize payload.filter PayloadItem.isTraceParent = matching at hall ⊢
  match matching with
  | [] => exact .inl rfl
  | [item] =>
    right; left
    have hitem := hall item (List.mem_singleton.mpr rfl)
    cases item with
    | string s => exact ⟨s, rfl, hitem⟩
    | null => cases hitem
    | object o => cases hitem
  | _ :: _ :: _ =>
    right; right
    simp

section TryBlock

variable {runtime : Runtime ω} {message : Str} {payload : List (PayloadItem ω)}

theorem extractAndFormat_of_none (h : payload.filter PayloadItem.isTraceParent = []) :
    extractAndFormat runtime message payload = (none, runtime.format message payload) := by
  rw [extractAndFormat, singleOrDefault, h]

theorem extractAndFormat_of_one {s spanId : Str}
    (h : payload.filter PayloadItem.isTraceParent = [.string s])
    (hslice : sliceSpanId s = some spanId) :
    extractAndFormat runtime message payload =
      (some spanId, runtime.format message payload) := by
  rw [extractAndFormat, singleOrDefault, h]
  simp only [hslice]

/-- `SingleOrDefault` throws before the message is formatted. -/
theorem extractAndFormat_of_several (h : 1 < payload.countP PayloadItem.isTraceParent) :
    extractAndFormat runtime message payload = (none, none) := by
  rw [List.countP_eq_length_filter] at h
  rw [extractAndFormat, singleOrDefault]
  generalize payload.filter PayloadItem.isTraceParent = matching at h ⊢
  match matching with
  | _ :: _ :: _ => rfl

/-- The message is formatted unless several items match. -/
theorem extractAndFormat_snd :
    (extractAndFormat runtime message payload).2 =
      if payload.countP PayloadItem.isTraceParent ≤ 1 then runtime.format message payload
      else none := by
  rcases filter_isTraceParent_cases payload with h | ⟨s, h, hs⟩ | h
  · rw [extractAndFormat_of_none h, List.countP_eq_length_filter, h]
    rfl
  · rw [extractAndFormat_of_one h (sliceSpanId_of_isTraceParent hs), List.countP_eq_length_filter,
      h]
    rfl
  · rw [extractAndFormat_of_several h, if_neg (by omega)]

/-- The span id is valid unless the one item that matches ends in a line feed. -/
theorem validSpanId_extractAndFormat :
    ValidSpanId payload (extractAndFormat runtime message payload).1 ↔
      ∀ s, payload.filter PayloadItem.isTraceParent = [.string s] → s.getLast? ≠ some '\n' := by
  rcases filter_isTraceParent_cases payload with h | ⟨s, h, hs⟩ | h
  · rw [extractAndFormat_of_none h, h]
    exact iff_of_true (.inl rfl) (by simp)
  · rw [extractAndFormat_of_one h (sliceSpanId_of_isTraceParent hs), h]
    obtain ⟨hlength, hhex⟩ := spanIdField_of_isTraceParent hs
    by_cases hlast : s.getLast? = some '\n'
    · rw [if_pos hlast]
      refine iff_of_false (fun hvalid => ?_) (fun hnone => hnone s rfl hlast)
      -- the slice has a seventeenth character
      have hsixteen := validSpanId_length hvalid
      rw [List.length_append, hlength] at hsixteen
      cases hsixteen
    · rw [if_neg hlast]
      have hmem : .string s ∈ payload := by
        refine (List.mem_filter (p := PayloadItem.isTraceParent).mp ?_).1
        rw [h]
        exact List.mem_singleton.mpr rfl
      refine iff_of_true (.inr ⟨s, hmem, hs, rfl, hlength, hhex⟩) fun s' hs' => ?_
      obtain rfl : s = s' := by simpa using hs'
      exact hlast
  · rw [extractAndFormat_of_several h]
    refine iff_of_true (.inl rfl) fun s hs => ?_
    rw [List.countP_eq_length_filter, hs] at h
    exact absurd h (lt_irrefl 1)

end TryBlock

/-! ### Events -/

section Main

variable (runtime : Runtime ω) (name message : Str) (payload : List (PayloadItem ω)) (threadId : ℤ)

/-- `CreateLogMessage` as `OnEventWritten` calls it, with an empty builder, for an event with a
message and a payload. -/
def written : LogMessage :=
  createLogMessage runtime
    { eventSourceName := name, message := some message, payload := some payload } [] threadId

/-- When a formatted message is in the line. -/
def TextKept (text : Str) : Prop :=
  if runtime.startsWith openTelemetryEventSourceNamePrefix name = true then
    payload.countP PayloadItem.isTraceParent ≤ 1 ∨
      text <:+: header name threadId ++ payloadText runtime payload
  else text = []

variable {runtime name message payload threadId}

theorem written_of_startsWith
    (h : runtime.startsWith openTelemetryEventSourceNamePrefix name = true) :
    written runtime name message payload threadId =
      { spanId := (extractAndFormat runtime message payload).1
        builder := header name threadId ++
          (extractAndFormat runtime message payload).2.getD (payloadText runtime payload) } := by
  rw [written, createLogMessage, h]
  simp only [List.nil_append]
  generalize extractAndFormat runtime message payload = result
  rcases result with ⟨spanId, _ | text⟩ <;> rfl

theorem written_of_not_startsWith
    (h : runtime.startsWith openTelemetryEventSourceNamePrefix name = false) :
    written runtime name message payload threadId = { spanId := none, builder := [] } := by
  rw [written, createLogMessage, h]

/-- A message that formats well is in the line exactly when it is kept. -/
theorem infix_written_iff {text : Str} (htext : runtime.format message payload = some text) :
    text <:+: (written runtime name message payload threadId).builder ↔
      TextKept runtime name payload threadId text := by
  rw [TextKept]
  split_ifs with hname
  · rw [written_of_startsWith hname, extractAndFormat_snd]
    split_ifs with hcount
    · rw [htext]
      exact iff_of_true (List.suffix_append _ _).isInfix (.inl hcount)
    · rw [or_iff_right hcount]
      rfl
  · rw [written_of_not_startsWith (by simpa using hname)]
    exact List.infix_nil

theorem validSpanId_written_iff :
    ValidSpanId payload (written runtime name message payload threadId).spanId ↔
      (runtime.startsWith openTelemetryEventSourceNamePrefix name = true →
        ∀ s, payload.filter PayloadItem.isTraceParent = [.string s] → s.getLast? ≠ some '\n') := by
  by_cases hname : runtime.startsWith openTelemetryEventSourceNamePrefix name = true
  · rw [written_of_startsWith hname, validSpanId_extractAndFormat, imp_iff_right hname]
  · rw [written_of_not_startsWith (by simpa using hname)]
    exact iff_of_true (.inl rfl) fun h => absurd h hname

/-- When an event keeps its text and has a valid span id: if at most one payload item matches the
pattern, and that one does not end in a line feed. -/
theorem createLogMessage_keepsEvent :
    (∀ text, runtime.format message payload = some text →
        text <:+: (written runtime name message payload threadId).builder) ∧
      ValidSpanId payload (written runtime name message payload threadId).spanId ↔
    (∀ text, runtime.format message payload = some text →
        TextKept runtime name payload threadId text) ∧
      (runtime.startsWith openTelemetryEventSourceNamePrefix name = true →
        ∀ s, payload.filter PayloadItem.isTraceParent = [.string s] →
          s.getLast? ≠ some '\n') :=
  and_congr (forall₂_congr fun _ htext => infix_written_iff htext) validSpanId_written_iff

end Main

/-! ### Fixed events -/

/-- `string.Format` for items that are given by one digit. -/
def formatDigits (payload : List (PayloadItem Empty)) : Str → Option Str
  | [] => some []
  | '\x7b' :: digit :: '\x7d' :: rest => do
    let item ← payload[digit.toNat - '0'.toNat]?
    let text ← formatDigits payload rest
    match item with
    | .string s => some (s ++ text)
    | .null => some text
  | c :: rest => (formatDigits payload rest).map (c :: ·)

def digitRuntime : Runtime Empty where
  startsWith := DotNet.startsWith
  format := fun message payload => formatDigits payload message
  toString := nofun

/-- A message with two items. -/
def linkMessage : Str := "Link from \x7b0\x7d to \x7b1\x7d".toList

def traceParent : Str := "00-0af7651916cd43dd8448eb211c80319c-b7ad6b7169203331-01".toList

/-- Two traceparents, and the text that formats well is not in the line. An item that a line feed
ends gives a span id with a dash. -/
theorem createLogMessage_losesText :
    digitRuntime.format linkMessage [.string traceParent, .string traceParent] =
        some ("Link from ".toList ++ traceParent ++ " to ".toList ++ traceParent) ∧
      ¬("Link from ".toList ++ traceParent ++ " to ".toList ++ traceParent) <:+:
        (written digitRuntime "OpenTelemetry-Sdk".toList linkMessage
          [.string traceParent, .string traceParent] 7).builder ∧
      (written digitRuntime "OpenTelemetry-Sdk".toList linkMessage
        [.string (traceParent ++ ['\n']), .null] 7).spanId = some "b7ad6b7169203331-".toList ∧
      ¬ValidSpanId [.string (traceParent ++ ['\n']), (.null : PayloadItem Empty)]
        (some "b7ad6b7169203331-".toList) := by
  refine ⟨by decide +kernel, by decide +kernel, by decide +kernel, fun h => ?_⟩
  exact absurd (validSpanId_length h) (by decide)

end ElasticOpenTelemetry.LoggingEventListener
