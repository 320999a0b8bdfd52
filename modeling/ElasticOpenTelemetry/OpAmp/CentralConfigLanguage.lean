import ElasticOpenTelemetry.Foundations.Occurrences
import ElasticOpenTelemetry.OpAmp.CentralConfigJsonParser

/-!
# What the parser of central configuration accepts

`CentralConfigJsonParser` on arbitrary bytes, be they JSON or not. The loops of the source are
written out here with every access to a span (`Span.get`, `Span.slice`), which fails out of range,
and with a bound on the rounds of its `while (true)`; `tryParseStringValueChecked_eq` states that
neither failure is ever met and that the result is that of `tryParseStringValue`.

`tryParseLogLevel_language` says what the result is: the contents of the string behind the first
counted occurrence of the pattern that a colon follows.
-/

namespace ElasticOpenTelemetry.CentralConfigJsonParser

open DotNet Occurrences

/-! ### The loops with their accesses -/

section Checked

/-- What can go wrong in a run of the parser. -/
inductive Fault
  /-- an index or the start of a slice is out of range -/
  | outOfRange
  /-- the rounds allowed to the loop are used up -/
  | outOfRounds
  deriving DecidableEq, Repr

namespace Span

/-- `span[i]`. -/
def get (span : Bytes) (i : ℕ) : Except Fault UInt8 :=
  match span[i]? with
  | some b => .ok b
  | none => .error .outOfRange

/-- `span.Slice(start)`. -/
def slice (span : Bytes) (start : ℕ) : Except Fault Bytes :=
  if start ≤ span.length then .ok (span.drop start) else .error .outOfRange

/-- `span.Slice(0, length)`. -/
def sliceTo (span : Bytes) (length : ℕ) : Except Fault Bytes :=
  if length ≤ span.length then .ok (span.take length) else .error .outOfRange

theorem get_of_lt {span : Bytes} {i : ℕ} (h : i < span.length) : get span i = .ok span[i] := by
  rw [get, List.getElem?_eq_getElem h]

theorem slice_of_le {span : Bytes} {start : ℕ} (h : start ≤ span.length) :
    slice span start = .ok (span.drop start) := if_pos h

theorem sliceTo_of_le {span : Bytes} {length : ℕ} (h : length ≤ span.length) :
    sliceTo span length = .ok (span.take length) := if_pos h

end Span

/-- The loop of `SkipWhitespace`, from `i` on. -/
def skipWhitespaceLoop (span : Bytes) (i : ℕ) : Except Fault ℕ :=
  if i < span.length then do
    let b ← Span.get span i
    if isWhitespace b = false then pure i else skipWhitespaceLoop span (i + 1)
  else pure i
termination_by span.length - i

/-- The scan for the closing quote, from `i` on; `none` at a truncated escape sequence. -/
def scanLoop (remaining : Bytes) (i : ℕ) : Except Fault (Option ℕ) :=
  if i < remaining.length then do
    if (← Span.get remaining i) = 0x5C then
      if remaining.length ≤ i + 1 then pure none else scanLoop remaining (i + 2)
    else if (← Span.get remaining i) = 0x22 then pure (some i)
    else scanLoop remaining (i + 1)
  else pure (some i)
termination_by remaining.length - i

/-- From the colon on: what `TryParseStringValue` returns and assigns to `value`. -/
def readStringChecked (remaining : Bytes) : Except Fault (Bool × Option Str) := do
  let pos ← skipWhitespaceLoop remaining 0
  if remaining.length ≤ pos then return (false, none)
  if (← Span.get remaining pos) ≠ 0x22 then return (false, none)
  let remaining ← Span.slice remaining (pos + 1)
  match ← scanLoop remaining 0 with
  | none => return (false, none)
  | some i =>
    if remaining.length ≤ i then return (false, none)
    return (true, some (getString (← Span.sliceTo remaining i)))

/-- The loop of `TryParseStringValue`, for so many rounds at most. -/
def tryParseStringValueChecked (propertyName : Bytes) :
    ℕ → Bytes → Except Fault (Bool × Option Str)
  | 0, _ => .error .outOfRounds
  | rounds + 1, remaining =>
    match indexOf propertyName remaining with
    | none => .ok (false, none)
    | some index => do
      let remaining ← Span.slice remaining (index + propertyName.length)
      let pos ← skipWhitespaceLoop remaining 0
      if remaining.length ≤ pos then return (false, none)
      if (← Span.get remaining pos) ≠ 0x3A then
        tryParseStringValueChecked propertyName rounds remaining
      else
        readStringChecked (← Span.slice remaining (pos + 1))

/-- What the method returns and assigns, by what it finds. -/
def outcome (value : Option Str) : Bool × Option Str := (value.isSome, value)

theorem skipWhitespaceLoop_eq (span : Bytes) (i : ℕ) :
    skipWhitespaceLoop span i = .ok (i + skipWhitespace (span.drop i)) := by
  fun_induction skipWhitespaceLoop span i with
  | case1 i hlt ih =>
    rw [Span.get_of_lt hlt, List.drop_eq_getElem_cons hlt, skipWhitespace, List.takeWhile_cons]
    cases hspace : isWhitespace span[i] with
    | false => simp [hspace, bind, Except.bind, pure, Except.pure]
    | true =>
      rw [skipWhitespace] at ih
      simp only [bind, Except.bind, hspace, Bool.true_eq_false, if_false, if_true, ih,
        List.length_cons]
      congr 1
      omega
  | case2 i hge =>
    rw [List.drop_eq_nil_of_le (by omega)]
    rfl

/-- The scan of a string that does not begin with a backslash. -/
theorem scanString_cons {b : UInt8} (hb : b ≠ 0x5C) (bs : Bytes) :
    scanString (b :: bs) = if b = 0x22 then some 0 else (scanString bs).map (· + 1) := by
  cases bs with
  | nil => simp [scanString, hb]
  | cons c bs => rw [scanString, if_neg hb]

/-- The scan stops at the closing quote; where there is none it stops at the end or at a
truncated escape sequence. -/
theorem scanLoop_eq (remaining : Bytes) (i : ℕ) :
    ∃ stop, scanLoop remaining i = .ok stop ∧
      stop.filter (· < remaining.length) = (scanString (remaining.drop i)).map (i + ·) := by
  fun_induction scanLoop remaining i with
  | case1 i hlt ih₂ ih₁ =>
    rw [Span.get_of_lt hlt, List.drop_eq_getElem_cons hlt]
    simp only [bind, Except.bind, pure, Except.pure]
    by_cases hback : remaining[i] = 0x5C
    · rw [if_pos hback]
      split_ifs with hend
      · -- nothing follows the backslash
        refine ⟨none, rfl, ?_⟩
        rw [List.drop_eq_nil_of_le hend, hback]
        rfl
      · obtain ⟨stop, hstop, hfilter⟩ := ih₂ (by omega)
        refine ⟨stop, hstop, ?_⟩
        have hlt' : i + 1 < remaining.length := by omega
        rw [hfilter, List.drop_eq_getElem_cons hlt', scanString, if_pos hback, Option.map_map]
        exact congrArg (Option.map · _) (funext fun k => by simp only [Function.comp]; omega)
    · rw [if_neg hback, scanString_cons hback]
      split_ifs with hquote
      · exact ⟨some i, rfl, by simp [hlt]⟩
      · obtain ⟨stop, hstop, hfilter⟩ := ih₁
        refine ⟨stop, hstop, ?_⟩
        rw [hfilter, Option.map_map]
        exact congrArg (Option.map · _) (funext fun k => by simp only [Function.comp]; omega)
  | case2 i hge =>
    refine ⟨some i, rfl, ?_⟩
    rw [List.drop_eq_nil_of_le (by omega)]
    simpa [scanString] using hge

theorem skipWhitespace_le (span : Bytes) : skipWhitespace span ≤ span.length :=
  (List.takeWhile_prefix _).length_le

theorem readStringChecked_eq (remaining : Bytes) :
    readStringChecked remaining = .ok (outcome (readString remaining)) := by
  rw [readStringChecked, skipWhitespaceLoop_eq, readString]
  simp only [List.drop_zero, Nat.zero_add, bind, Except.bind, pure, Except.pure]
  split_ifs with hend
  · rw [List.getElem?_eq_none hend]
    rfl
  · have hlt : skipWhitespace remaining < remaining.length := by omega
    rw [Span.get_of_lt hlt, List.getElem?_eq_getElem hlt]
    simp only
    split_ifs with hquote
    · rfl
    · obtain ⟨stop, hstop, hfilter⟩ :=
        scanLoop_eq (remaining.drop (skipWhitespace remaining + 1)) 0
      rw [Span.slice_of_le (by omega)]
      simp only [hstop]
      rw [List.drop_zero, Option.map_congr (fun k _ => Nat.zero_add k), Option.map_id'] at hfilter
      rw [← hfilter]
      generalize remaining.drop (skipWhitespace remaining + 1) = contents
      cases stop with
      | none => rfl
      | some i =>
        simp only
        split_ifs with hlast
        · rw [Option.filter_some_neg (by simpa using hlast)]
          rfl
        · rw [Span.sliceTo_of_le (by omega), Option.filter_some_pos (by simpa using hlast)]
          rfl

/-- **The parser terminates within its spans.** With more rounds than there are bytes the loop
ends, every index and every slice having been in range. -/
theorem tryParseStringValueChecked_eq {propertyName : Bytes} (hne : propertyName ≠ [])
    {rounds : ℕ} {remaining : Bytes} (hrounds : remaining.length < rounds) :
    tryParseStringValueChecked propertyName rounds remaining =
      .ok (outcome (tryParseStringValue propertyName remaining)) := by
  have hpos := List.length_pos_iff_ne_nil.mpr hne
  induction rounds generalizing remaining with
  | zero => omega
  | succ rounds ih =>
    rw [tryParseStringValueChecked, tryParseStringValue_eq hne]
    cases hindex : indexOf propertyName remaining with
    | none => rfl
    | some index =>
      have hle := indexOf_lt hindex
      simp only [bind, Except.bind, pure, Except.pure, Span.slice_of_le hle,
        skipWhitespaceLoop_eq, List.drop_zero, Nat.zero_add]
      have hshort : (remaining.drop (index + propertyName.length)).length < rounds := by
        rw [List.length_drop]
        omega
      generalize remaining.drop (index + propertyName.length) = rest at hshort ⊢
      split_ifs with hend
      · rw [List.getElem?_eq_none hend]
        rfl
      · have hlt : skipWhitespace rest < rest.length := by omega
        rw [Span.get_of_lt hlt, List.getElem?_eq_getElem hlt]
        simp only
        split_ifs with hcolon
        · exact ih hshort
        · rw [Span.slice_of_le (by omega)]
          exact readStringChecked_eq _

end Checked

/-! ### The language -/

section Language

/-- Bytes that JSON takes as white space. -/
def IsSpace (w : Bytes) : Prop := ∀ b ∈ w, isWhitespace b = true

/-- The contents of a string: bytes other than quotes and backslashes, and pairs of a backslash
and any byte. -/
inductive IsContents : Bytes → Prop
  | nil : IsContents []
  | byte {b : UInt8} {v : Bytes} (quote : b ≠ 0x22) (backslash : b ≠ 0x5C) (rest : IsContents v) :
      IsContents (b :: v)
  | pair {b : UInt8} {v : Bytes} (rest : IsContents v) : IsContents (0x5C :: b :: v)

/-- White space and a colon follow. -/
def IsKeyBefore (rest : Bytes) : Prop := ∃ w s, IsSpace w ∧ rest = w ++ 0x3A :: s

/-- White space, and a string with the contents `v`. -/
def HoldsString (rest v : Bytes) : Prop :=
  ∃ w s, IsSpace w ∧ IsContents v ∧ rest = w ++ 0x22 :: (v ++ 0x22 :: s)

/-- **The language of the parser.** The message is `p`, the pattern, white space, a colon, white
space and a string with the contents `v`, and then anything; the occurrence of the pattern is a
counted one, and the first of them that white space and a colon follow. -/
def Accepts (json v : Bytes) : Prop :=
  ∃ p w rest, json = p ++ (logLevelPropertyName ++ (w ++ 0x3A :: rest)) ∧ IsSpace w ∧
    HoldsString rest v ∧ Counted logLevelPropertyName json p.length ∧
    ∀ i < p.length, Counted logLevelPropertyName json i →
      ¬ IsKeyBefore (json.drop (i + logLevelPropertyName.length))

theorem skipWhitespace_append {w : Bytes} (hw : IsSpace w) {b : UInt8}
    (hb : isWhitespace b = false) (s : Bytes) : skipWhitespace (w ++ b :: s) = w.length := by
  rw [skipWhitespace, List.takeWhile_append_of_pos hw, List.takeWhile_cons, hb]
  simp

/-- The byte behind the white space, and what follows it. -/
theorem exists_space {rest : Bytes} {b : UInt8} (h : rest[skipWhitespace rest]? = some b) :
    ∃ w, IsSpace w ∧ rest = w ++ b :: rest.drop (skipWhitespace rest + 1) := by
  obtain ⟨hlt, rfl⟩ := List.getElem?_eq_some_iff.mp h
  refine ⟨rest.takeWhile isWhitespace, fun c hc => List.mem_takeWhile_imp hc, ?_⟩
  rw [← List.drop_eq_getElem_cons hlt]
  have htake : rest.takeWhile isWhitespace = rest.take (skipWhitespace rest) :=
    List.prefix_iff_eq_take.mp (List.takeWhile_prefix _)
  rw [htake, List.take_append_drop]

theorem scanString_of_isContents {v : Bytes} (h : IsContents v) (s : Bytes) :
    scanString (v ++ 0x22 :: s) = some v.length := by
  induction h with
  | nil => rw [List.nil_append, scanString_cons (by decide), if_pos rfl, List.length_nil]
  | @byte b v hquote hback _ ih =>
    rw [List.cons_append, scanString_cons hback, if_neg hquote, ih, Option.map_some,
      List.length_cons]
  | @pair b v _ ih =>
    rw [List.cons_append, List.cons_append, scanString, if_pos rfl, ih, Option.map_some,
      List.length_cons, List.length_cons]

/-- The scan stops behind the contents of a string only. -/
theorem isContents_of_scanString {bs : Bytes} {i : ℕ} (h : scanString bs = some i) :
    ∃ v s, bs = v ++ 0x22 :: s ∧ IsContents v ∧ v.length = i := by
  fun_induction scanString bs generalizing i with
  | case1 => cases h
  | case2 => cases h
  | case3 =>
    cases h
    exact ⟨[], [], rfl, .nil, rfl⟩
  | case4 => cases h
  | case5 c bs ih =>
    obtain ⟨j, hj, rfl⟩ := Option.map_eq_some_iff.mp h
    obtain ⟨v, s, rfl, hv, rfl⟩ := ih hj
    exact ⟨0x5C :: c :: v, s, rfl, .pair hv, rfl⟩
  | case6 c bs =>
    cases h
    exact ⟨[], c :: bs, rfl, .nil, rfl⟩
  | case7 b c bs hback hquote ih =>
    obtain ⟨j, hj, rfl⟩ := Option.map_eq_some_iff.mp h
    obtain ⟨v, s, hbs, hv, rfl⟩ := ih hj
    exact ⟨b :: v, s, by rw [hbs, List.cons_append], .byte hquote hback hv, rfl⟩

/-- What is read behind the colon. -/
theorem readString_eq_some {rest : Bytes} {text : Str} :
    readString rest = some text ↔ ∃ v, HoldsString rest v ∧ text = getString v := by
  rw [readString]
  constructor
  · intro h
    cases hquote : rest[skipWhitespace rest]? with
    | none => simp [hquote] at h
    | some b =>
      simp only [hquote] at h
      split_ifs at h with hb
      obtain rfl : b = 0x22 := by simpa using hb
      obtain ⟨w, hw, hrest⟩ := exists_space hquote
      obtain ⟨i, hi, rfl⟩ := Option.map_eq_some_iff.mp h
      obtain ⟨v, s, hcontents, hv, rfl⟩ := isContents_of_scanString hi
      refine ⟨v, ⟨w, s, hw, hv, ?_⟩, ?_⟩
      · rw [hcontents] at hrest
        exact hrest
      · rw [hcontents, List.take_left]
  · rintro ⟨v, ⟨w, s, hw, hv, rfl⟩, rfl⟩
    have hskip := skipWhitespace_append hw (b := 0x22) (by decide) (v ++ 0x22 :: s)
    have hdrop : (w ++ 0x22 :: (v ++ 0x22 :: s)).drop (w.length + 1) = v ++ 0x22 :: s := by
      rw [List.drop_append]
      simp
    simp only [hskip, hdrop]
    rw [List.getElem?_append_right (Nat.le_refl _), Nat.sub_self]
    simp [scanString_of_isContents hv]

/-! ### The search -/

theorem isNext_of_indexOf {value bs : Bytes} {i : ℕ} (h : indexOf value bs = some i) :
    IsNext value bs 0 i := by
  induction bs generalizing i with
  | nil =>
    rw [indexOf] at h
    split_ifs at h with hpre
    obtain rfl := Option.some.inj h
    exact ⟨Nat.le_refl _, List.isPrefixOf_iff_prefix.mp hpre, fun j _ hj => absurd hj (by omega)⟩
  | cons b bs ih =>
    rw [indexOf] at h
    split_ifs at h with hpre
    · obtain rfl := Option.some.inj h
      exact ⟨Nat.le_refl _, List.isPrefixOf_iff_prefix.mp hpre, fun j _ hj => absurd hj (by omega)⟩
    · obtain ⟨k, hk, rfl⟩ := Option.map_eq_some_iff.mp h
      have hnext := ih hk
      refine ⟨Nat.zero_le _, hnext.occurs, fun j _ hj hat => ?_⟩
      cases j with
      | zero => exact hpre (List.isPrefixOf_iff_prefix.mpr hat)
      | succ j => exact hnext.first j (Nat.zero_le _) (by omega) hat

theorem not_at_of_indexOf {value bs : Bytes} (hne : value ≠ []) (h : indexOf value bs = none)
    (i : ℕ) : ¬ At value bs i := by
  induction bs generalizing i with
  | nil =>
    intro hat
    rw [At, List.drop_nil, List.prefix_nil] at hat
    exact hne hat
  | cons b bs ih =>
    rw [indexOf] at h
    split_ifs at h with hpre
    have hnone := Option.map_eq_none_iff.mp h
    cases i with
    | zero => exact fun hat => hpre (List.isPrefixOf_iff_prefix.mpr hat)
    | succ i => exact ih hnone i

/-- `Accepts` by the position of the occurrence. -/
def AcceptsAt (json v : Bytes) (i : ℕ) : Prop :=
  Counted logLevelPropertyName json i ∧
    (∃ w rest, IsSpace w ∧ HoldsString rest v ∧
      json.drop (i + logLevelPropertyName.length) = w ++ 0x3A :: rest) ∧
    ∀ j < i, Counted logLevelPropertyName json j →
      ¬ IsKeyBefore (json.drop (j + logLevelPropertyName.length))

theorem counted_at {pattern bs : Bytes} {i : ℕ} (h : Counted pattern bs i) : At pattern bs i := by
  cases h with
  | first here => exact here.occurs
  | next _ here => exact here.occurs

theorem accepts_iff {json v : Bytes} : Accepts json v ↔ ∃ i, AcceptsAt json v i := by
  constructor
  · rintro ⟨p, w, rest, hjson, hw, hstring, hcounted, hfirst⟩
    refine ⟨p.length, hcounted, ⟨w, rest, hw, hstring, ?_⟩, hfirst⟩
    rw [hjson, ← List.append_assoc, ← List.length_append, List.drop_left]
  · rintro ⟨i, hcounted, ⟨w, rest, hw, hstring, hdrop⟩, hfirst⟩
    obtain ⟨s, hs⟩ := counted_at hcounted
    have hrest : s = w ++ 0x3A :: rest := by
      rw [← hdrop, ← List.drop_drop, ← hs, List.drop_left]
    have hlen : (json.take i).length = i := by
      rw [List.length_take, Nat.min_eq_left]
      by_contra hlt
      rw [List.drop_eq_nil_of_le (by omega), hrest] at hs
      simp at hs
    refine ⟨json.take i, w, rest, ?_, hw, hstring, hlen.symm ▸ hcounted, hlen.symm ▸ hfirst⟩
    rw [← hrest, hs, List.take_append_drop]

/-- The text behind the colon is determined. -/
theorem eq_drop_of_key {bs w s : Bytes} (hw : IsSpace w) (h : bs = w ++ 0x3A :: s) :
    bs[skipWhitespace bs]? = some 0x3A ∧ bs.drop (skipWhitespace bs + 1) = s := by
  have hskip := skipWhitespace_append hw (b := 0x3A) (by decide) s
  rw [h, hskip]
  refine ⟨?_, ?_⟩
  · rw [List.getElem?_append_right (Nat.le_refl _), Nat.sub_self]
    rfl
  · rw [List.drop_append]
    simp

variable {json v rest : Bytes} {i : ℕ}

/-- A colon follows the first occurrence: the string behind it is taken. -/
theorem accepts_of_key (hi : IsNext logLevelPropertyName json 0 i) {w : Bytes} (hw : IsSpace w)
    (hdrop : json.drop (i + logLevelPropertyName.length) = w ++ 0x3A :: rest) :
    Accepts json v ↔ HoldsString rest v := by
  rw [accepts_iff]
  constructor
  · rintro ⟨j, hcounted, ⟨w', rest', hw', hstring, hdrop'⟩, hfirst⟩
    rcases (counted_iff hi).mp hcounted with rfl | ⟨k, -, rfl⟩
    · have hrest := (eq_drop_of_key hw hdrop).2
      have hrest' := (eq_drop_of_key hw' hdrop').2
      rw [← hrest, hrest']
      exact hstring
    · exact absurd ⟨w, rest, hw, hdrop⟩ (hfirst i (by
        have hpos : 0 < logLevelPropertyName.length := by decide
        omega) (.first hi))
  · intro hstring
    refine ⟨i, .first hi, ⟨w, rest, hw, hstring, hdrop⟩, fun j hj hcounted => ?_⟩
    rcases (counted_iff hi).mp hcounted with rfl | ⟨k, -, rfl⟩ <;> omega

/-- No colon follows the first occurrence: the search goes on behind it. -/
theorem accepts_of_not_key (hi : IsNext logLevelPropertyName json 0 i)
    (hkey : ¬ IsKeyBefore (json.drop (i + logLevelPropertyName.length))) :
    Accepts json v ↔ Accepts (json.drop (i + logLevelPropertyName.length)) v := by
  have hdrop (k : ℕ) : json.drop (i + logLevelPropertyName.length + k +
      logLevelPropertyName.length) = (json.drop (i + logLevelPropertyName.length)).drop
        (k + logLevelPropertyName.length) := by
    rw [List.drop_drop, Nat.add_assoc]
  rw [accepts_iff, accepts_iff]
  constructor
  · rintro ⟨j, hcounted, ⟨w, rest, hw, hstring, hjson⟩, hfirst⟩
    rcases (counted_iff hi).mp hcounted with rfl | ⟨k, hk, rfl⟩
    · exact absurd ⟨w, rest, hw, hjson⟩ hkey
    · refine ⟨k, hk, ⟨w, rest, hw, hstring, (hdrop k).symm.trans hjson⟩, fun l hl hcounted => ?_⟩
      rw [← hdrop l]
      exact hfirst _ (by omega) ((counted_iff hi).mpr (Or.inr ⟨l, hcounted, rfl⟩))
  · rintro ⟨k, hk, ⟨w, rest, hw, hstring, hjson⟩, hfirst⟩
    refine ⟨_, (counted_iff hi).mpr (Or.inr ⟨k, hk, rfl⟩),
      ⟨w, rest, hw, hstring, (hdrop k).trans hjson⟩, fun j hj hcounted => ?_⟩
    rcases (counted_iff hi).mp hcounted with rfl | ⟨l, hl, rfl⟩
    · exact hkey
    · rw [hdrop l]
      exact hfirst l (by omega) hl

/-- Nothing is found in white space. -/
theorem tryParseLogLevel_of_space {bs : Bytes} (h : bs[skipWhitespace bs]? = none) :
    tryParseLogLevel bs = none := by
  have hlen : (bs.takeWhile isWhitespace).length = bs.length :=
    (skipWhitespace_le bs).antisymm (List.getElem?_eq_none_iff.mp h)
  have hall : bs.takeWhile isWhitespace = bs :=
    (List.takeWhile_prefix _).eq_of_length hlen
  have hquote : (0x22 : UInt8) ∉ bs := fun hmem => by
    rw [← hall] at hmem
    exact absurd (List.mem_takeWhile_imp hmem) (by decide)
  rw [← List.append_nil bs, tryParseLogLevel_append hquote]
  rfl

/-- The result of the parser, as bytes. -/
theorem tryParseLogLevel_eq_some {json : Bytes} {text : Str} :
    tryParseLogLevel json = some text ↔ ∃ v, Accepts json v ∧ text = getString v := by
  induction hlen : json.length using Nat.strong_induction_on generalizing json with
  | _ n ih =>
    rw [tryParseLogLevel, tryParseStringValue_eq logLevelPropertyName_ne_nil]
    cases hindex : indexOf logLevelPropertyName json with
    | none =>
      -- without an occurrence nothing is accepted
      have hnone (v : Bytes) : ¬ Accepts json v := by
        rw [accepts_iff]
        rintro ⟨i, hcounted, -⟩
        exact not_counted (not_at_of_indexOf logLevelPropertyName_ne_nil hindex) hcounted
      simp [hnone]
    | some index =>
      have hi := isNext_of_indexOf hindex
      have hle := indexOf_lt hindex
      have hpos : 0 < logLevelPropertyName.length := by decide
      have hround := ih (json.drop (index + logLevelPropertyName.length)).length
        (by rw [List.length_drop]; omega) rfl
      by_cases hkey : IsKeyBefore (json.drop (index + logLevelPropertyName.length))
      · obtain ⟨w, rest, hw, hdrop⟩ := hkey
        obtain ⟨hcolon, hrest⟩ := eq_drop_of_key hw hdrop
        simp only [hcolon, hrest, ne_eq, not_true_eq_false, if_false, readString_eq_some,
          accepts_of_key hi hw hdrop]
      · simp only [accepts_of_not_key hi hkey, ← hround]
        cases hcolon : (json.drop (index + logLevelPropertyName.length))[skipWhitespace
            (json.drop (index + logLevelPropertyName.length))]? with
        | none => simp [tryParseLogLevel_of_space hcolon]
        | some b =>
          have hne : b ≠ 0x3A := by
            rintro rfl
            obtain ⟨w, hw, hdrop⟩ := exists_space hcolon
            exact hkey ⟨w, _, hw, hdrop⟩
          simp only [if_pos hne]
          rfl

/-- **The language of the byte parser.** On every sequence of bytes the parser terminates without
an access out of range. It returns true with a value exactly when the bytes have the form
`Accepts`, the value being the text of the contents; in every other case it returns false and the
value is null. -/
theorem tryParseLogLevel_language (json : Bytes) :
    ∃ result : Bool × Option Str,
      (∀ more, tryParseStringValueChecked logLevelPropertyName (json.length + 1 + more) json =
        .ok result) ∧
      (∀ text, result = (true, some text) ↔ ∃ v, Accepts json v ∧ text = getString v) ∧
      ((∀ v, ¬ Accepts json v) ↔ result = (false, none)) := by
  refine ⟨outcome (tryParseLogLevel json), fun more => ?_, fun text => ?_, ?_⟩
  · exact tryParseStringValueChecked_eq logLevelPropertyName_ne_nil (by omega)
  · rw [← tryParseLogLevel_eq_some]
    cases tryParseLogLevel json <;> simp [outcome]
  · have hsome := @tryParseLogLevel_eq_some json
    cases hresult : tryParseLogLevel json with
    | none =>
      refine iff_of_true (fun v hv => ?_) rfl
      have hv := hsome.mpr ⟨v, hv, rfl⟩
      simp [hresult] at hv
    | some text =>
      obtain ⟨v, hv, -⟩ := hsome.mp hresult
      exact iff_of_false (fun h => h v hv) (by simp [outcome])

/-- The second occurrence of the pattern is the first that a colon follows. -/
example : tryParseStringValueChecked logLevelPropertyName 40
    (getBytes "[\"log_level\", \"log_level\" :\"a\\\"b\"".toList) =
      .ok (true, some "a\\\"b".toList) := by
  rw [tryParseStringValueChecked_eq logLevelPropertyName_ne_nil (by decide)]
  decide

end Language

end ElasticOpenTelemetry.CentralConfigJsonParser
