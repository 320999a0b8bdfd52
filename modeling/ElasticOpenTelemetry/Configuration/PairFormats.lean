import ElasticOpenTelemetry.Configuration.Options
import ElasticOpenTelemetry.Foundations.Separated

/-!
# Reading back pairs from their rendering

Two settings are comma-separated lists of `key=value` pairs: the resource attributes, which
`LookupResourceAttribute` searches (`CompositeElasticOpenTelemetryOptions.cs`), and the OpAMP
headers, which `CreateHttpClient` sends (`OpAmpClientConfiguration.cs`). The first trims a pair as
a whole, the second its two sides.

A pair that the format can express is a structure with the proofs of that. Pairs are written with
any white space where it is trimmed, and between them any text without a comma and `=`.
-/

namespace ElasticOpenTelemetry

open DotNet Separated

/-- White space around a text. -/
abbrev WhiteSpace := { s : Str // ∀ c ∈ s, isWhiteSpace c = true }

theorem WhiteSpace.notMem (w : WhiteSpace) {c : Char} (hc : isWhiteSpace c = false) :
    c ∉ w.1 := fun hmem => by
  rw [w.2 c hmem] at hc
  cases hc

/-! ### Resource attributes -/

/-- A resource attribute that the format can express. -/
structure ResourceAttribute where
  key : Str
  value : Str
  comma_notMem_key : ',' ∉ key
  equals_notMem_key : '=' ∉ key
  key_start : ∀ c ∈ key.head?, isWhiteSpace c = false
  comma_notMem_value : ',' ∉ value
  value_end : ∀ c ∈ value.getLast?, isWhiteSpace c = false

/-- An attribute as it is written. -/
structure WrittenAttribute where
  before : WhiteSpace
  content : ResourceAttribute
  after : WhiteSpace

namespace ResourceAttribute

/-- `key=value`. -/
def pair (a : ResourceAttribute) : Str := a.key ++ '=' :: a.value

theorem trim_pair (a : ResourceAttribute) (before after : WhiteSpace) :
    trim (before.1 ++ (a.pair ++ after.1)) = a.pair := by
  refine trim_append before.2 after.2 (fun c hc => ?_) fun c hc => ?_
  · cases hkey : a.key with
    | nil =>
      rw [pair, hkey] at hc
      obtain rfl := Option.some.inj hc
      decide
    | cons d key =>
      rw [pair, hkey] at hc
      exact a.key_start c (by rw [hkey]; exact hc)
  · rw [pair, List.getLast?_append_cons] at hc
    cases hvalue : a.value with
    | nil =>
      rw [hvalue] at hc
      obtain rfl := Option.some.inj hc
      decide
    | cons d value =>
      rw [hvalue, List.getLast?_cons_cons, ← hvalue] at hc
      exact a.value_end c hc

end ResourceAttribute

namespace WrittenAttribute

def text (w : WrittenAttribute) : Str := w.before.1 ++ (w.content.pair ++ w.after.1)

theorem comma_notMem_text (w : WrittenAttribute) : ',' ∉ w.text := by
  simp only [text, ResourceAttribute.pair, List.mem_append, List.mem_cons, not_or]
  exact ⟨w.before.notMem (by decide), ⟨w.content.comma_notMem_key, by decide,
    w.content.comma_notMem_value⟩, w.after.notMem (by decide)⟩

end WrittenAttribute

open CompositeElasticOpenTelemetryOptions

/-- The loop body of `LookupResourceAttribute`. -/
private def lookupSegment (key segment : Str) : Option Str :=
  match splitInTwo '=' (trim segment) with
  | [name, value] => if name = key then some value else none
  | _ => none

private theorem lookupSegment_text (key : Str) (w : WrittenAttribute) :
    lookupSegment key w.text =
      if w.content.key = key then some w.content.value else none := by
  rw [lookupSegment, WrittenAttribute.text, ResourceAttribute.trim_pair, ResourceAttribute.pair,
    splitInTwo_append w.content.equals_notMem_key]

private theorem lookupSegment_of_notMem (key : Str) {segment : Str} (h : '=' ∉ segment) :
    lookupSegment key segment = none := by
  rw [lookupSegment, splitInTwo_of_not_mem fun hmem => h (trim_subset segment hmem)]

private theorem findSome?_ite {α β : Type} (p : α → Prop) [DecidablePred p] (value : α → β)
    (l : List α) :
    (l.findSome? fun a => if p a then some (value a) else none) =
      (l.find? fun a => p a).map value := by
  induction l with
  | nil => rfl
  | cons a l ih =>
    by_cases ha : p a
    · simp [ha]
    · simp [ha, ih]

/-- **Looking up what was rendered.** In any rendering of attributes, with white space around the
pairs and other segments between them, `LookupResourceAttribute` finds the value of the first
attribute that has exactly the key, and nothing when there is none. -/
theorem lookupResourceAttribute_render (pieces : List (Piece ',' '=' WrittenAttribute))
    (key : Str) :
    lookupResourceAttribute (render WrittenAttribute.text pieces) key =
        (((entries pieces).map WrittenAttribute.content).find? fun a => a.key = key).map
          ResourceAttribute.value ∧
      (lookupResourceAttribute (render WrittenAttribute.text pieces) key = none ↔
        ∀ a ∈ (entries pieces).map WrittenAttribute.content, a.key ≠ key) := by
  have hlookup : lookupResourceAttribute (render WrittenAttribute.text pieces) key =
      (((entries pieces).map WrittenAttribute.content).find? fun a => a.key = key).map
        ResourceAttribute.value := by
    have hread := filterMap_splitOn_render WrittenAttribute.comma_notMem_text
      (lookupSegment_text key) (fun _ => lookupSegment_of_notMem key) pieces
    have hfirst := congrArg List.head? hread
    rw [List.head?_filterMap, List.head?_filterMap,
      findSome?_ite (fun w : WrittenAttribute => w.content.key = key)] at hfirst
    rw [List.find?_map, Option.map_map]
    exact hfirst
  refine ⟨hlookup, ?_⟩
  rw [hlookup, Option.map_eq_none_iff, List.find?_eq_none]
  simp

/-- Two attributes with near misses of the key around them. -/
example : lookupResourceAttribute
    "deployment.service.name=a,note=service.name=b, service.name=c=d ,,service.name=e".toList
    attributeServiceName = some "c=d".toList := by decide

/-! ### OpAMP headers -/

/-- A header that the format can express. -/
structure OpAmpHeader where
  name : Str
  value : Str
  comma_notMem_name : ',' ∉ name
  equals_notMem_name : '=' ∉ name
  comma_notMem_value : ',' ∉ value
  name_start : ∀ c ∈ name.head?, isWhiteSpace c = false
  name_end : ∀ c ∈ name.getLast?, isWhiteSpace c = false
  value_start : ∀ c ∈ value.head?, isWhiteSpace c = false
  value_end : ∀ c ∈ value.getLast?, isWhiteSpace c = false

/-- A header as it is written. -/
structure WrittenHeader where
  beforeName : WhiteSpace
  afterName : WhiteSpace
  beforeValue : WhiteSpace
  afterValue : WhiteSpace
  content : OpAmpHeader

namespace WrittenHeader

def text (w : WrittenHeader) : Str :=
  w.beforeName.1 ++ (w.content.name ++ w.afterName.1) ++
    '=' :: (w.beforeValue.1 ++ (w.content.value ++ w.afterValue.1))

theorem comma_notMem_text (w : WrittenHeader) : ',' ∉ w.text := by
  simp only [text, List.mem_append, List.mem_cons, not_or]
  exact ⟨⟨w.beforeName.notMem (by decide), w.content.comma_notMem_name,
    w.afterName.notMem (by decide)⟩, by decide, w.beforeValue.notMem (by decide),
    w.content.comma_notMem_value, w.afterValue.notMem (by decide)⟩

theorem parseHeader_text (w : WrittenHeader) :
    parseHeader w.text = some (w.content.name, w.content.value) := by
  have hname : '=' ∉ w.beforeName.1 ++ (w.content.name ++ w.afterName.1) := by
    simp only [List.mem_append, not_or]
    exact ⟨w.beforeName.notMem (by decide), w.content.equals_notMem_name,
      w.afterName.notMem (by decide)⟩
  rw [text, parseHeader_append hname,
    trim_append w.beforeName.2 w.afterName.2 w.content.name_start w.content.name_end,
    trim_append w.beforeValue.2 w.afterValue.2 w.content.value_start w.content.value_end]

end WrittenHeader

/-- **Sending what was rendered.** In any rendering of headers, with white space around names, `=`
and values and other segments between the headers, `CreateHttpClient` adds exactly these headers
behind `User-Agent`, in order. -/
theorem createHttpClient_render (pieces : List (Piece ',' '=' WrittenHeader)) (userAgent : Str) :
    createHttpClient (some (render WrittenHeader.text pieces)) userAgent =
      ("User-Agent".toList, userAgent) ::
        ((entries pieces).map WrittenHeader.content).map fun h => (h.name, h.value) := by
  have hother : ∀ piece : Str, '=' ∉ piece → parseHeader piece = none := fun piece h => by
    rw [parseHeader, splitInTwo_of_not_mem h]
  rw [createHttpClient, Option.getD_some, filterMap_splitOn_render
    WrittenHeader.comma_notMem_text WrittenHeader.parseHeader_text hother, List.map_map]
  exact congrArg _ (congrFun List.filterMap_eq_map' _)

end ElasticOpenTelemetry
