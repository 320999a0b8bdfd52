import ElasticOpenTelemetry.Configuration.ConfigCell

/-!
# The OpAMP headers: what is sent and what is logged

Two functions split the same setting at its commas. `createHttpClient`
(`OpAmpClientConfiguration.cs`) sends every `name=value` segment as a header, trimming the name
and the value. `redactOpAmpHeaders` (the redactor of the `_opAmpHeaders` cell in
`CompositeElasticOpenTelemetryOptions.cs`) hides the segments that start with `Authorization=`
before the setting is logged; it does not trim.

The two agree on a header whose name is written without white space around it, so a credential
that is sent as such an `Authorization` header has no influence on the logged text. On a padded
name they do not: the header is sent and its value is logged.
`opAmpHeaders_redaction_agrees_iff` states that this is the only way in which they differ.
-/

namespace ElasticOpenTelemetry

open DotNet

/-! ### The two splitters -/

/-- The loop body of `CreateHttpClient`: the header that a segment adds, if any. -/
def parseHeader (header : Str) : Option (Str × Str) :=
  match splitInTwo '=' header with
  | [key, value] => some (trim key, trim value)
  | _ => none

/-- `OpAmpClientConfiguration.CreateHttpClient`: the headers that it adds to the client, in
order. -/
def createHttpClient (headers : Option Str) (userAgent : Str) : List (Str × Str) :=
  ("User-Agent".toList, userAgent) :: ((headers.getD []).splitOn ',').filterMap parseHeader

/-- `authorizationHeaderPrefix`. -/
def authorizationHeaderPrefix : Str := "Authorization=".toList

/-- The loop body of the redactor. -/
def redactHeader (header : Str) : Str :=
  if startsWithIgnoreCase authorizationHeaderPrefix header then
    authorizationHeaderPrefix ++ "<redacted>".toList
  else header

/-- The redactor of the `_opAmpHeaders` cell. -/
def redactOpAmpHeaders (value : Option Str) : Option Str :=
  if isNullOrEmpty value then value
  else some (join ',' ((splitRemoveEmpty ',' (value.getD [])).map redactHeader))

/-- The `_opAmpHeaders` cell before any source is read. -/
def opAmpHeadersCell : ConfigCell Str := .new "OpAmpHeaders".toList none redactOpAmpHeaders

/-- What `ToString` of the cell gives when it holds `headers` from `source`. -/
def opAmpHeadersText (source : ConfigSource) (headers : Str) : Str :=
  { opAmpHeadersCell with value := some headers, source := source }.toString

/-! ### Replacing the value of one header -/

/-- A segment with the value that `createHttpClient` extracts from it replaced, the white space
around the value kept. -/
def withHeaderValue (header value : Str) : Str :=
  match splitInTwo '=' header with
  | [key, old] => key ++ '=' :: (leading old ++ (value ++ trailing old))
  | _ => header

/-- The headers with the value of the `i`-th segment replaced. -/
def replaceHeaderValue (headers : Str) (i : ℕ) (value : Str) : Str :=
  join ',' ((headers.splitOn ',').modify i (withHeaderValue · value))

/-- The name is `Authorization`, ignoring case. -/
def isAuthorization (name : Str) : Bool := equalsIgnoreCase name "Authorization".toList

/-- No `Authorization` value that `createHttpClient` extracts influences the logged text:
replacing it by any comma-free value leaves the text as it is. -/
def RedactionAgrees (source : ConfigSource) (headers : Str) : Prop :=
  ∀ i header name value, (headers.splitOn ',')[i]? = some header →
    parseHeader header = some (name, value) → isAuthorization name = true →
    ∀ value', ',' ∉ value' →
      opAmpHeadersText source (replaceHeaderValue headers i value') =
        opAmpHeadersText source headers

/-- Some segment sets `Authorization` with white space around the name. -/
def HasPaddedAuthorization (headers : Str) : Prop :=
  ∃ header ∈ headers.splitOn ',', ∃ key value, splitInTwo '=' header = [key, value] ∧
    isAuthorization (trim key) = true ∧ trim key ≠ key

/-! ### Segments -/

theorem parseHeader_append {key value : Str} (h : '=' ∉ key) :
    parseHeader (key ++ '=' :: value) = some (trim key, trim value) := by
  rw [parseHeader, splitInTwo_append h]

theorem withHeaderValue_append {key old : Str} (h : '=' ∉ key) (value : Str) :
    withHeaderValue (key ++ '=' :: old) value =
      key ++ '=' :: (leading old ++ (value ++ trailing old)) := by
  rw [withHeaderValue, splitInTwo_append h]

/-- A segment that adds a header is cut at its first `=`. -/
theorem eq_append_of_parseHeader {header name value : Str}
    (h : parseHeader header = some (name, value)) :
    ∃ key old, header = key ++ '=' :: old ∧ '=' ∉ key ∧ name = trim key ∧ value = trim old := by
  rcases not_mem_or_eq_append '=' header with hno | ⟨key, old, rfl, hkey⟩
  · rw [parseHeader, splitInTwo_of_not_mem hno] at h
    simp at h
  · rw [parseHeader_append hkey, Option.some_inj, Prod.mk.injEq] at h
    exact ⟨key, old, rfl, hkey, h.1.symm, h.2.symm⟩

private theorem takeWhile_append_eq {a b : Str} (h : '=' ∉ a) :
    (a ++ '=' :: b).takeWhile (· != '=') = a := by
  have ha : ∀ c ∈ a, (c != '=') = true := fun c hc => by
    simpa using fun hcs : c = '=' => h (hcs ▸ hc)
  rw [List.takeWhile_append_of_pos ha]
  simp

private theorem equals_not_mem_toUpperInvariant {key : Str} (h : '=' ∉ key) :
    '=' ∉ toUpperInvariant key := by
  intro hmem
  obtain ⟨c, hc, hcu⟩ := List.mem_map.mp hmem
  exact h (eq_of_toUpper_eq hcu (by decide) ▸ hc)

/-- **The redactor's prefix test**: it accepts exactly the segments whose text before the first
`=` is `Authorization` up to case, as it is written. -/
theorem startsWith_authorization_iff {key old : Str} (h : '=' ∉ key) :
    startsWithIgnoreCase authorizationHeaderPrefix (key ++ '=' :: old) = true ↔
      isAuthorization key = true := by
  have hkey := equals_not_mem_toUpperInvariant h
  have hpre : toUpperInvariant authorizationHeaderPrefix =
      toUpperInvariant "Authorization".toList ++ ['='] := by decide
  have hauth : '=' ∉ toUpperInvariant "Authorization".toList := by decide
  have hlen : authorizationHeaderPrefix.length = 14 := by decide
  rw [startsWithIgnoreCase, isAuthorization, equalsIgnoreCase_iff, equalsIgnoreCase_iff, hpre,
    hlen]
  constructor
  · intro heq
    rcases Nat.lt_or_ge key.length 14 with hlt | hge
    · obtain ⟨n, hn⟩ : ∃ n, 14 - key.length = n + 1 := ⟨13 - key.length, by omega⟩
      rw [List.take_append, List.take_of_length_le hlt.le, hn, List.take_succ_cons,
        toUpperInvariant, List.map_append, List.map_cons] at heq
      have hcut := congrArg (List.takeWhile (· != '=')) heq
      rw [show Char.toUpper '=' = '=' from by decide, takeWhile_append_eq hauth] at hcut
      exact (takeWhile_append_eq hkey).symm.trans hcut
    · rw [List.take_append_of_le_length hge] at heq
      have hmem : '=' ∈ toUpperInvariant (key.take 14) := by rw [heq]; simp
      exact absurd hmem (equals_not_mem_toUpperInvariant fun hc => h (List.mem_of_mem_take hc))
  · intro heq
    have hl : key.length = 13 := by
      simpa [toUpperInvariant] using congrArg List.length heq
    rw [List.take_append, List.take_of_length_le (by omega), hl, toUpperInvariant,
      List.map_append]
    exact congrArg₂ (· ++ ·) heq (by simp)

/-- A name that equals `Authorization` as it is written has no white space around it. -/
theorem trim_eq_self_of_isAuthorization {key : Str} (h : isAuthorization key = true) :
    trim key = key :=
  trim_eq_self (isWhiteSpace_eq_false_of_equalsIgnoreCase h (by decide))

/-- The redactor hides a header of that name exactly when the name is not padded. -/
theorem redactHeader_append {key old : Str} (h : '=' ∉ key)
    (hauth : isAuthorization (trim key) = true) :
    redactHeader (key ++ '=' :: old) =
      if trim key = key then authorizationHeaderPrefix ++ "<redacted>".toList
      else key ++ '=' :: old := by
  rw [redactHeader]
  by_cases hpad : trim key = key
  · rw [if_pos ((startsWith_authorization_iff h).mpr (hpad ▸ hauth)), if_pos hpad]
  · rw [if_neg fun hs => hpad
        (trim_eq_self_of_isAuthorization ((startsWith_authorization_iff h).mp hs)),
      if_neg hpad]

theorem comma_not_mem_redactHeader {header : Str} (h : ',' ∉ header) :
    ',' ∉ redactHeader header := by
  rw [redactHeader]
  split_ifs
  · decide
  · exact h

/-! ### The logged text -/

/-- The text of the cell, also for the empty string. -/
theorem opAmpHeadersText_eq (source : ConfigSource) (headers : Str) :
    opAmpHeadersText source headers = "OpAmpHeaders".toList ++ ": '".toList ++
      join ',' ((splitRemoveEmpty ',' headers).map redactHeader) ++
      "' from [".toList ++ source.name ++ "]".toList := by
  cases headers with
  | nil => rfl
  | cons c cs => rfl

theorem opAmpHeadersText_eq_iff {source : ConfigSource} {a b : Str} :
    opAmpHeadersText source a = opAmpHeadersText source b ↔
      join ',' ((splitRemoveEmpty ',' a).map redactHeader) =
        join ',' ((splitRemoveEmpty ',' b).map redactHeader) := by
  rw [opAmpHeadersText_eq, opAmpHeadersText_eq]
  constructor
  · intro h
    exact List.append_cancel_left
      (List.append_cancel_right (List.append_cancel_right (List.append_cancel_right h)))
  · intro h
    rw [h]

theorem comma_not_mem_withHeaderValue {header value : Str} (h : ',' ∉ header)
    (hv : ',' ∉ value) : ',' ∉ withHeaderValue header value := by
  rcases not_mem_or_eq_append '=' header with hno | ⟨key, old, rfl, hkey⟩
  · rwa [withHeaderValue, splitInTwo_of_not_mem hno]
  · rw [withHeaderValue_append hkey]
    have hold := leading_append_trim_append_trailing old
    simp only [List.mem_append, List.mem_cons, not_or] at h ⊢
    refine ⟨h.1, h.2.1, fun hc => h.2.2 ?_, hv, fun hc => h.2.2 ?_⟩
    · rw [← hold]; simp [hc]
    · rw [← hold]; simp [hc]

/-- Splitting the headers around one segment, before and after its value is replaced. -/
theorem exists_split_replaceHeaderValue {headers header value : Str} {i : ℕ}
    (h : (headers.splitOn ',')[i]? = some header) (hv : ',' ∉ value) :
    ∃ pre post, headers.splitOn ',' = pre ++ header :: post ∧
      (replaceHeaderValue headers i value).splitOn ',' =
        pre ++ withHeaderValue header value :: post := by
  obtain ⟨hi, hget⟩ := List.getElem?_eq_some_iff.mp h
  have hheader : ',' ∉ header := not_mem_of_mem_splitOn (List.mem_of_getElem? h)
  obtain ⟨pre, post, hsplit, -, hset⟩ :=
    @List.exists_of_set _ i (withHeaderValue header value) _ hi
  refine ⟨pre, post, hget ▸ hsplit, ?_⟩
  rw [replaceHeaderValue, join, List.modify_eq_set_getElem?, h, Option.map_eq_map,
    Option.map_some, Option.getD_some,
    splitOn_intercalate_set (comma_not_mem_withHeaderValue hheader hv), hset]

/-- The segments that the redactor joins. -/
private def redactedSegments (segments : List Str) : List Str :=
  (segments.filter (· ≠ [])).map redactHeader

private theorem redactedSegments_append_cons (pre post : List Str) {header : Str}
    (h : header ≠ []) :
    redactedSegments (pre ++ header :: post) =
      redactedSegments pre ++ redactHeader header :: redactedSegments post := by
  simp [redactedSegments, h]

private theorem comma_not_mem_redactedSegments {headers : Str} :
    ∀ seg ∈ redactedSegments (headers.splitOn ','), ',' ∉ seg := by
  intro seg hseg
  obtain ⟨header, hheader, rfl⟩ := List.mem_map.mp hseg
  exact comma_not_mem_redactHeader (not_mem_of_mem_splitOn (List.mem_filter.mp hheader).1)

/-- Replacing the value of one header leaves the text as it is exactly when the redactor gives
the same segment for it. -/
private theorem text_replaceHeaderValue_iff {source : ConfigSource} {headers key old value : Str}
    {i : ℕ} (h : (headers.splitOn ',')[i]? = some (key ++ '=' :: old)) (hkey : '=' ∉ key)
    (hv : ',' ∉ value) :
    opAmpHeadersText source (replaceHeaderValue headers i value) =
        opAmpHeadersText source headers ↔
      redactHeader (key ++ '=' :: (leading old ++ (value ++ trailing old))) =
        redactHeader (key ++ '=' :: old) := by
  obtain ⟨pre, post, hsplit, hreplaced⟩ := exists_split_replaceHeaderValue h hv
  rw [withHeaderValue_append hkey] at hreplaced
  have hold := redactedSegments_append_cons pre post
    (show key ++ '=' :: old ≠ [] by simp)
  have hnew := redactedSegments_append_cons pre post
    (show key ++ '=' :: (leading old ++ (value ++ trailing old)) ≠ [] by simp)
  rw [← hsplit] at hold
  rw [← hreplaced] at hnew
  rw [opAmpHeadersText_eq_iff]
  change join ',' (redactedSegments _) = join ',' (redactedSegments _) ↔ _
  constructor
  · intro heq
    have hlists := intercalate_injective comma_not_mem_redactedSegments
      comma_not_mem_redactedSegments (by rw [hnew]; simp) (by rw [hold]; simp) heq
    rw [hnew, hold] at hlists
    exact (List.cons.inj (List.append_cancel_left hlists)).1
  · intro heq
    rw [hnew, hold, heq]

/-! ### Where the two splitters agree -/

/-- **Redaction of the OpAMP headers.** The logged text is free of every `Authorization` value
that is sent, exactly when no segment writes white space around that name. -/
theorem opAmpHeaders_redaction_agrees_iff (source : ConfigSource) (headers : Str) :
    RedactionAgrees source headers ↔ ¬ HasPaddedAuthorization headers := by
  constructor
  · rintro hagrees ⟨header, hmem, key, old', hcut, hauth, hpad⟩
    obtain ⟨i, hi⟩ := List.mem_iff_getElem?.mp hmem
    have hparse : parseHeader header = some (trim key, trim old') := by rw [parseHeader, hcut]
    obtain ⟨key', old, rfl, hkey, -, -⟩ := eq_append_of_parseHeader hparse
    rw [splitInTwo_append hkey] at hcut
    obtain ⟨rfl, rfl⟩ : key' = key ∧ old = old' := by simpa using hcut
    have hcomma : ',' ∉ trim old ++ ['x'] := by
      have hseg : ',' ∉ key' ++ '=' :: old := not_mem_of_mem_splitOn hmem
      intro hc
      rcases List.mem_append.mp hc with hc | hc
      · exact hseg (by simp [trim_subset old hc])
      · simp at hc
    -- a padded header is not hidden, so a longer value is seen in the text
    have hsame := (text_replaceHeaderValue_iff hi hkey hcomma).mp
      (hagrees i _ _ _ hi hparse hauth _ hcomma)
    rw [redactHeader_append hkey hauth, redactHeader_append hkey hauth, if_neg hpad,
      if_neg hpad] at hsame
    have hlen := congrArg List.length (List.append_cancel_left hsame)
    have hsplit := congrArg List.length (leading_append_trim_append_trailing old)
    simp only [List.length_cons, List.length_append, List.length_nil] at hlen hsplit
    omega
  · rintro hpadded i header name value hi hparse hauth value' hcomma
    obtain ⟨key, old, rfl, hkey, rfl, rfl⟩ := eq_append_of_parseHeader hparse
    have hpad : trim key = key := by
      by_contra hpad
      exact hpadded ⟨_, List.mem_of_getElem? hi, key, old, splitInTwo_append hkey, hauth, hpad⟩
    rw [text_replaceHeaderValue_iff hi hkey hcomma, redactHeader_append hkey hauth,
      redactHeader_append hkey hauth, if_pos hpad, if_pos hpad]

/-- A blank after the comma is enough: the second header of `X=1, Authorization=secret` is sent
and is logged as it stands. -/
theorem opAmpHeaders_redaction_disagrees :
    ¬ RedactionAgrees .environment "X=1, Authorization=secret".toList := by
  intro hagrees
  have hsame := hagrees 1 " Authorization=secret".toList "Authorization".toList
    "secret".toList (by decide) (by decide) (by decide) "other".toList (by decide)
  exact absurd hsame (by decide)

end ElasticOpenTelemetry
