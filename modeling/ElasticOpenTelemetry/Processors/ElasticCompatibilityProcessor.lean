import ElasticOpenTelemetry.Processors.Activity

/-!
# The legacy attributes of server spans

`ElasticCompatibilityProcessor.cs` adds the attributes of the older semantic conventions to a
server span when they are missing. It collects nine attributes in one loop, as the types that it
expects of them, so that an attribute of another type looks like a missing one, and a legacy
attribute of another type is overwritten.

`onEnd_addsMissing` states when no attribute is.
-/

namespace ElasticOpenTelemetry

open DotNet

/-! ### `TraceSemanticConventions` -/

namespace TraceSemanticConventions

def httpScheme : Str := "http.scheme".toList
def httpTarget : Str := "http.target".toList
def netHostName : Str := "net.host.name".toList
def netHostPort : Str := "net.host.port".toList
def serverAddress : Str := "server.address".toList
def serverPort : Str := "server.port".toList
def urlPath : Str := "url.path".toList
def urlQuery : Str := "url.query".toList
def urlScheme : Str := "url.scheme".toList

end TraceSemanticConventions

namespace ElasticCompatibilityProcessor

variable {Ref ω : Type}

/-- `ProcessStringAttribute` -/
def processStringAttribute : TagValue ω → Option Str
  | .string value => some value
  | _ => none

/-- `ProcessIntAttribute` -/
def processIntAttribute : TagValue ω → Option Int32
  | .int value => some value
  | _ => none

/-- The local variables of `OnEnd`. -/
structure Attributes where
  httpScheme : Option Str := none
  httpTarget : Option Str := none
  urlScheme : Option Str := none
  urlPath : Option Str := none
  urlQuery : Option Str := none
  netHostName : Option Str := none
  netHostPort : Option Int32 := none
  serverAddress : Option Str := none
  serverPort : Option Int32 := none

/-- The body of the loop. -/
def collect (a : Attributes) (tag : Str × TagValue ω) : Attributes where
  httpScheme :=
    if tag.1 = TraceSemanticConventions.httpScheme then processStringAttribute tag.2
    else a.httpScheme
  httpTarget :=
    if tag.1 = TraceSemanticConventions.httpTarget then processStringAttribute tag.2
    else a.httpTarget
  urlScheme :=
    if tag.1 = TraceSemanticConventions.urlScheme then processStringAttribute tag.2
    else a.urlScheme
  urlPath :=
    if tag.1 = TraceSemanticConventions.urlPath then processStringAttribute tag.2
    else a.urlPath
  urlQuery :=
    if tag.1 = TraceSemanticConventions.urlQuery then processStringAttribute tag.2
    else a.urlQuery
  netHostName :=
    if tag.1 = TraceSemanticConventions.netHostName then processStringAttribute tag.2
    else a.netHostName
  serverAddress :=
    if tag.1 = TraceSemanticConventions.serverAddress then processStringAttribute tag.2
    else a.serverAddress
  netHostPort :=
    if tag.1 = TraceSemanticConventions.netHostPort then processIntAttribute tag.2
    else a.netHostPort
  serverPort :=
    if tag.1 = TraceSemanticConventions.serverPort then processIntAttribute tag.2
    else a.serverPort

/-- `if (legacy is null && value is not null)`, and set the attribute. -/
def setIfNull {α : Type} (tags : Tags ω) (key : Str) (legacy : Option α)
    (value : Option (TagValue ω)) : Tags ω :=
  match legacy, value with
  | none, some value => tags.set key value
  | _, _ => tags

/-- `url.path` followed by `url.query`. -/
def Attributes.target (a : Attributes) : Option Str :=
  a.urlPath.map fun target =>
    match a.urlQuery with
    | some urlQuery => target ++ urlQuery
    | none => target

/-- The legacy attributes, after the loop. -/
def setAttributes (a : Attributes) (tags : Tags ω) : Tags ω :=
  let tags := setIfNull tags TraceSemanticConventions.httpScheme a.httpScheme
    (a.urlScheme.map .string)
  let tags := setIfNull tags TraceSemanticConventions.httpTarget a.httpTarget
    (a.target.map .string)
  let tags := setIfNull tags TraceSemanticConventions.netHostName a.netHostName
    (a.serverAddress.map .string)
  setIfNull tags TraceSemanticConventions.netHostPort a.netHostPort (a.serverPort.map .int)

/-- `OnEnd` -/
def onEnd (activity : Activity Ref ω) : Activity Ref ω :=
  if activity.kind = .server then
    { activity with
      tags := setAttributes (activity.tags.entries.foldl collect {}) activity.tags }
  else activity

/-! ### What is missing -/

/-- The attributes that the processor adds. -/
inductive LegacyAttribute
  | httpScheme
  | httpTarget
  | netHostName
  | netHostPort
  deriving DecidableEq, Repr

namespace LegacyAttribute

def key : LegacyAttribute → Str
  | httpScheme => TraceSemanticConventions.httpScheme
  | httpTarget => TraceSemanticConventions.httpTarget
  | netHostName => TraceSemanticConventions.netHostName
  | netHostPort => TraceSemanticConventions.netHostPort

/-- A value of the type that is expected of the attribute. -/
def expects : LegacyAttribute → TagValue ω → Bool
  | httpScheme, value | httpTarget, value | netHostName, value =>
    (processStringAttribute value).isSome
  | netHostPort, value => (processIntAttribute value).isSome

/-- The value of the attribute that it is made of, if it is of the expected type. -/
def source (tags : Tags ω) : LegacyAttribute → Option (TagValue ω)
  | httpScheme =>
    ((tags.lookup TraceSemanticConventions.urlScheme).bind processStringAttribute).map .string
  | httpTarget =>
    ((tags.lookup TraceSemanticConventions.urlPath).bind processStringAttribute).map fun path =>
      .string (path ++
        ((tags.lookup TraceSemanticConventions.urlQuery).bind processStringAttribute).getD [])
  | netHostName =>
    ((tags.lookup TraceSemanticConventions.serverAddress).bind processStringAttribute).map .string
  | netHostPort =>
    ((tags.lookup TraceSemanticConventions.serverPort).bind processIntAttribute).map .int

end LegacyAttribute

/-- The missing legacy attributes are added, and nothing else is touched. -/
structure AddsMissing (before after : Tags ω) : Prop where
  present : ∀ a : LegacyAttribute, before.lookup a.key ≠ none →
    after.lookup a.key = before.lookup a.key
  absent : ∀ a : LegacyAttribute, before.lookup a.key = none →
    after.lookup a.key = a.source before
  others : ∀ key : Str, (∀ a : LegacyAttribute, key ≠ a.key) →
    after.lookup key = before.lookup key

/-! ### The loop -/

/-- What the loop leaves in a variable that keeps the value of one key. -/
theorem foldl_collect {α : Type} (view : Attributes → Option α) (key : Str)
    (process : TagValue ω → Option α)
    (hstep : ∀ a tag, view (collect a tag) = if tag.1 = key then process tag.2 else view a)
    (hinitial : view {} = none) (tags : Tags ω) :
    view (tags.entries.foldl collect {}) = (tags.lookup key).bind process := by
  rw [KeyedList.foldl_eq_lookup collect view key process hstep, hinitial]
  cases tags.lookup key <;> rfl

theorem lookup_setIfNull {α : Type} (tags : Tags ω) (key k : Str) (legacy : Option α)
    (value : Option (TagValue ω)) :
    (setIfNull tags key legacy value).lookup k =
      if k = key ∧ legacy.isNone then value.or (tags.lookup k) else tags.lookup k := by
  rcases legacy with _ | l <;> rcases value with _ | v
  · simp [setIfNull]
  · simp [setIfNull, KeyedList.lookup_set]
  · simp [setIfNull]
  · simp [setIfNull]

namespace Attributes

/-- The test before a legacy attribute is set. -/
def isNull (a : Attributes) : LegacyAttribute → Bool
  | .httpScheme => a.httpScheme.isNone
  | .httpTarget => a.httpTarget.isNone
  | .netHostName => a.netHostName.isNone
  | .netHostPort => a.netHostPort.isNone

/-- What a legacy attribute is set to. -/
def value (a : Attributes) : LegacyAttribute → Option (TagValue ω)
  | .httpScheme => a.urlScheme.map .string
  | .httpTarget => a.target.map .string
  | .netHostName => a.serverAddress.map .string
  | .netHostPort => a.serverPort.map .int

end Attributes

/-- Each legacy attribute is set by its own test alone. -/
theorem lookup_setAttributes (a : Attributes) (tags : Tags ω) (l : LegacyAttribute) :
    (setAttributes a tags).lookup l.key =
      if a.isNull l then (a.value l).or (tags.lookup l.key) else tags.lookup l.key := by
  cases l <;>
    simp +decide [setAttributes, lookup_setIfNull, LegacyAttribute.key, Attributes.isNull,
      Attributes.value]

/-- A variable is null after the loop unless its key has a value of the expected type. -/
theorem isNone_foldl_collect {α : Type} (view : Attributes → Option α) (key : Str)
    (process : TagValue ω → Option α)
    (hstep : ∀ a tag, view (collect a tag) = if tag.1 = key then process tag.2 else view a)
    (hinitial : view {} = none) (tags : Tags ω) :
    (view (tags.entries.foldl collect {})).isNone =
      !(tags.lookup key).any fun value => (process value).isSome := by
  rw [foldl_collect view key process hstep hinitial]
  cases tags.lookup key with
  | none => rfl
  | some value => exact (Option.not_isSome _).symm

/-- A legacy attribute is null after the loop unless it has the expected type. -/
theorem isNull_foldl_collect (tags : Tags ω) (l : LegacyAttribute) :
    (tags.entries.foldl collect {}).isNull l = !(tags.lookup l.key).any l.expects := by
  cases l with
  | httpScheme =>
    exact isNone_foldl_collect Attributes.httpScheme _ processStringAttribute
      (fun _ _ => rfl) rfl tags
  | httpTarget =>
    exact isNone_foldl_collect Attributes.httpTarget _ processStringAttribute
      (fun _ _ => rfl) rfl tags
  | netHostName =>
    exact isNone_foldl_collect Attributes.netHostName _ processStringAttribute
      (fun _ _ => rfl) rfl tags
  | netHostPort =>
    exact isNone_foldl_collect Attributes.netHostPort _ processIntAttribute
      (fun _ _ => rfl) rfl tags

/-- What it is set to is the value of its source. -/
theorem value_foldl_collect (tags : Tags ω) (l : LegacyAttribute) :
    (tags.entries.foldl collect {}).value l = l.source tags := by
  cases l with
  | httpScheme =>
    rw [Attributes.value, foldl_collect Attributes.urlScheme _ processStringAttribute
      (fun _ _ => rfl) rfl]
    rfl
  | httpTarget =>
    rw [Attributes.value, Attributes.target, foldl_collect Attributes.urlPath _
      processStringAttribute (fun _ _ => rfl) rfl, foldl_collect Attributes.urlQuery _
      processStringAttribute (fun _ _ => rfl) rfl, LegacyAttribute.source, Option.map_map]
    refine Option.map_congr fun path _ => ?_
    cases (tags.lookup TraceSemanticConventions.urlQuery).bind processStringAttribute with
    | none => simp
    | some urlQuery => rfl
  | netHostName =>
    rw [Attributes.value, foldl_collect Attributes.serverAddress _ processStringAttribute
      (fun _ _ => rfl) rfl]
    rfl
  | netHostPort =>
    rw [Attributes.value, foldl_collect Attributes.serverPort _ processIntAttribute
      (fun _ _ => rfl) rfl]
    rfl

section OnEnd

variable {activity : Activity Ref ω}

/-- A legacy attribute after `OnEnd`: kept if it has the expected type, else what it is made of. -/
theorem lookup_onEnd_key (h : activity.kind = .server) (a : LegacyAttribute) :
    (onEnd activity).tags.lookup a.key =
      if (activity.tags.lookup a.key).any a.expects then activity.tags.lookup a.key
      else (a.source activity.tags).or (activity.tags.lookup a.key) := by
  rw [onEnd, if_pos h]
  change (setAttributes _ _).lookup a.key = _
  rw [lookup_setAttributes, isNull_foldl_collect, value_foldl_collect]
  cases (activity.tags.lookup a.key).any a.expects <;> rfl

theorem lookup_onEnd_of_ne (h : activity.kind = .server) {key : Str}
    (hkey : ∀ a : LegacyAttribute, key ≠ a.key) :
    (onEnd activity).tags.lookup key = activity.tags.lookup key := by
  rw [onEnd, if_pos h]
  have hscheme := hkey .httpScheme
  have htarget := hkey .httpTarget
  have hname := hkey .netHostName
  have hport := hkey .netHostPort
  simp only [LegacyAttribute.key] at hscheme htarget hname hport
  simp only [setAttributes, lookup_setIfNull, hscheme, htarget, hname, hport, false_and,
    if_false]

theorem onEnd_of_ne (h : activity.kind ≠ .server) : onEnd activity = activity := by
  rw [onEnd, if_neg h]

/-- No legacy attribute is there with another type than expected while its source is there with the
expected one. -/
def NoneOverwritten (tags : Tags ω) : Prop :=
  ∀ (a : LegacyAttribute) (value : TagValue ω), tags.lookup a.key = some value →
    a.expects value = false → a.source tags = none

theorem expects_of_source {tags : Tags ω} {a : LegacyAttribute} {value : TagValue ω}
    (h : a.source tags = some value) : a.expects value = true := by
  cases a with
  | httpScheme | httpTarget | netHostName | netHostPort =>
    obtain ⟨-, -, rfl⟩ := Option.map_eq_some_iff.mp h
    rfl

theorem addsMissing_onEnd (h : activity.kind = .server) :
    AddsMissing activity.tags (onEnd activity).tags ↔ NoneOverwritten activity.tags := by
  constructor
  · intro hadds a value hvalue htype
    -- an attribute that is there keeps its value, which is not of the type of the source
    have hkept := hadds.present a (by rw [hvalue]; exact Option.some_ne_none value)
    rw [lookup_onEnd_key h, hvalue, Option.any_some, htype] at hkept
    cases hsource : a.source activity.tags with
    | none => rfl
    | some w =>
      rw [hsource] at hkept
      obtain rfl : w = value := Option.some.inj hkept
      rw [expects_of_source hsource] at htype
      cases htype
  · intro hnone
    refine ⟨fun a hpresent => ?_, fun a habsent => ?_, fun key hkey => lookup_onEnd_of_ne h hkey⟩
    · obtain ⟨value, hvalue⟩ := Option.ne_none_iff_exists'.mp hpresent
      rw [lookup_onEnd_key h, hvalue, Option.any_some]
      split_ifs with htype
      · rfl
      · rw [hnone a value hvalue (by simpa using htype), Option.none_or]
    · rw [lookup_onEnd_key h, habsent]
      exact Option.or_none

/-- When `OnEnd` adds the missing legacy attributes and touches nothing else: unless it overwrites
a legacy attribute of another type. -/
theorem onEnd_addsMissing (activity : Activity Ref ω) :
    (if activity.kind = .server then AddsMissing activity.tags (onEnd activity).tags
      else (onEnd activity).tags = activity.tags) ↔
    (activity.kind = .server → NoneOverwritten activity.tags) := by
  split_ifs with h
  · rw [addsMissing_onEnd h, imp_iff_right h]
  · exact iff_of_true (by rw [onEnd_of_ne h]) fun hserver => absurd hserver h

end OnEnd

/-- A server span whose `http.scheme` is a number. -/
def numberedScheme : Activity Empty Empty where
  kind := .server
  operationName := "GET".toList
  displayName := "GET".toList
  parent := none
  isStopped := false
  status := .unset
  startTimeUtc := 0
  duration := 1
  activityTraceFlags := 1
  tags := (KeyedList.empty.set TraceSemanticConventions.httpScheme (.int 2)).set
    TraceSemanticConventions.urlScheme (.string "https".toList)
  isExitSpan := false
  composite := none

/-- The number is overwritten. -/
theorem onEnd_overwrites :
    numberedScheme.tags.lookup TraceSemanticConventions.httpScheme = some (.int 2) ∧
      (onEnd numberedScheme).tags.lookup TraceSemanticConventions.httpScheme =
        some (.string "https".toList) ∧
      ¬AddsMissing numberedScheme.tags (onEnd numberedScheme).tags := by
  have hbefore : numberedScheme.tags.lookup TraceSemanticConventions.httpScheme =
      some (.int 2) := rfl
  have hafter : (onEnd numberedScheme).tags.lookup TraceSemanticConventions.httpScheme =
      some (.string "https".toList) := rfl
  refine ⟨hbefore, hafter, fun h => ?_⟩
  have hpresent := h.present .httpScheme (Option.ne_none_iff_exists'.mpr ⟨_, hbefore⟩)
  rw [LegacyAttribute.key, hbefore, hafter] at hpresent
  cases hpresent

end ElasticCompatibilityProcessor

end ElasticOpenTelemetry
