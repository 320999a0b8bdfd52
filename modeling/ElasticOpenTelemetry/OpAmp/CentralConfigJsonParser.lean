import ElasticOpenTelemetry.Foundations.Json
import ElasticOpenTelemetry.Foundations.Utf8

/-!
# The parser of central configuration

`CentralConfigJsonParser` (`CentralConfigJsonParser.cs`): a search for the bytes of
`"log_level"` in the message. An occurrence that a colon follows is taken as the key, and the
string after the colon is the result, not unescaped; another occurrence is passed over.

The model is over bytes, as the source is. `search` gives what the parser answers on the
encoding of a text, and the lemmas about it read the text from left to right: a character
other than a quote is passed over (`search_cons`), as is a quote that does not start the
pattern (`search_quote`); at the pattern the parser looks for a colon (`search_key`).
-/

namespace ElasticOpenTelemetry.CentralConfigJsonParser

open DotNet

/-- A span of bytes. -/
abbrev Bytes := List UInt8

/-- The text of `LogLevelPropertyName`, the quotes included. -/
def propertyText : Str := "\"log_level\"".toList

/-- `LogLevelPropertyName`. -/
def logLevelPropertyName : Bytes := getBytes propertyText

/-- `span.IndexOf(value)`. -/
def indexOf (value : Bytes) : Bytes → Option ℕ
  | [] => if value.isPrefixOf [] then some 0 else none
  | b :: bs => if value.isPrefixOf (b :: bs) then some 0 else (indexOf value bs).map (· + 1)

/-- White space, as `SkipWhitespace` tests it. -/
def isWhitespace (b : UInt8) : Bool := b == 0x20 || b == 0x09 || b == 0x0D || b == 0x0A

/-- `SkipWhitespace`. -/
def skipWhitespace (span : Bytes) : ℕ := (span.takeWhile isWhitespace).length

/-- The scan for the closing quote; `none` where the code returns false: at a truncated escape
sequence, and where there is no closing quote. -/
def scanString : Bytes → Option ℕ
  | [] => none
  | [b] => if b = 0x5C then none else if b = 0x22 then some 0 else none
  | b :: c :: bs =>
    if b = 0x5C then (scanString bs).map (· + 2)
    else if b = 0x22 then some 0
    else (scanString (c :: bs)).map (· + 1)

/-- From the colon on: white space, an opening quote, and the contents of the string. -/
def readString (remaining : Bytes) : Option Str :=
  let pos := skipWhitespace remaining
  match remaining[pos]? with
  | none => none
  | some b =>
    if b ≠ 0x22 then none
    else
      let remaining := remaining.drop (pos + 1)
      (scanString remaining).map fun i => getString (remaining.take i)

/-- The loop of `TryParseStringValue`. Every round removes the pattern at least, so that there
are fewer rounds than bytes. -/
def tryParseStringValueLoop (propertyName : Bytes) : ℕ → Bytes → Option Str
  | 0, _ => none
  | fuel + 1, remaining =>
    match indexOf propertyName remaining with
    | none => none
    | some index =>
      let remaining := remaining.drop (index + propertyName.length)
      let pos := skipWhitespace remaining
      match remaining[pos]? with
      | none => none
      | some b =>
        -- an occurrence without a colon is a value, not a key: search on
        if b ≠ 0x3A then tryParseStringValueLoop propertyName fuel remaining
        else readString (remaining.drop (pos + 1))

/-- `TryParseStringValue`. -/
def tryParseStringValue (propertyName json : Bytes) : Option Str :=
  tryParseStringValueLoop propertyName (json.length + 1) json

/-- `TryParseLogLevel`. -/
def tryParseLogLevel (json : Bytes) : Option Str := tryParseStringValue logLevelPropertyName json

example : tryParseLogLevel (getBytes "\x7b\"log_level\": \"info\"\x7d".toList) =
    some "info".toList := by
  decide

/-! ### The loop -/

variable {propertyName : Bytes}

theorem indexOf_lt {bs : Bytes} {i : ℕ} (h : indexOf propertyName bs = some i) :
    i + propertyName.length ≤ bs.length := by
  induction bs generalizing i with
  | nil =>
    rw [indexOf] at h
    split_ifs at h with hpre
    obtain rfl : 0 = i := Option.some.inj h
    have hle := (List.isPrefixOf_iff_prefix.mp hpre).length_le
    omega
  | cons b bs ih =>
    rw [indexOf] at h
    split_ifs at h with hpre
    · obtain rfl : 0 = i := Option.some.inj h
      have hle := (List.isPrefixOf_iff_prefix.mp hpre).length_le
      omega
    · obtain ⟨j, hj, rfl⟩ := Option.map_eq_some_iff.mp h
      have hle := ih hj
      rw [List.length_cons]
      omega

/-- The number of rounds allowed does not matter once it exceeds the number of bytes. -/
theorem tryParseStringValueLoop_eq (hne : propertyName ≠ []) {bs : Bytes} {fuel : ℕ}
    (hfuel : bs.length < fuel) :
    tryParseStringValueLoop propertyName fuel bs = tryParseStringValue propertyName bs := by
  have hpos := List.length_pos_iff_ne_nil.mpr hne
  rw [tryParseStringValue]
  -- both sides take the same round, and what remains is shorter
  induction hlen : bs.length using Nat.strong_induction_on generalizing bs fuel with
  | _ n ih =>
    obtain ⟨fuel, rfl⟩ : ∃ k, fuel = k + 1 := ⟨fuel - 1, by omega⟩
    subst hlen
    rw [tryParseStringValueLoop, tryParseStringValueLoop]
    rcases hindex : indexOf propertyName bs with _ | index
    · rfl
    · have hle := indexOf_lt hindex
      have hshort : (bs.drop (index + propertyName.length)).length < bs.length := by
        rw [List.length_drop]
        omega
      simp only
      rw [ih _ hshort (by omega) rfl, ih _ hshort hshort rfl]

/-- One round, without the number of rounds. -/
theorem tryParseStringValue_eq (hne : propertyName ≠ []) (bs : Bytes) :
    tryParseStringValue propertyName bs =
      match indexOf propertyName bs with
      | none => none
      | some index =>
        let remaining := bs.drop (index + propertyName.length)
        let pos := skipWhitespace remaining
        match remaining[pos]? with
        | none => none
        | some b =>
          if b ≠ 0x3A then tryParseStringValue propertyName remaining
          else readString (remaining.drop (pos + 1)) := by
  have hpos := List.length_pos_iff_ne_nil.mpr hne
  rw [tryParseStringValue, tryParseStringValueLoop]
  rcases hindex : indexOf propertyName bs with _ | index
  · rfl
  · have hle := indexOf_lt hindex
    have hshort : (bs.drop (index + propertyName.length)).length < bs.length := by
      rw [List.length_drop]
      omega
    simp only
    rw [tryParseStringValueLoop_eq hne hshort]

/-- A byte at which the pattern does not start is passed over. -/
theorem tryParseStringValue_cons (hne : propertyName ≠ []) {b : UInt8} {bs : Bytes}
    (h : ¬ propertyName <+: b :: bs) :
    tryParseStringValue propertyName (b :: bs) = tryParseStringValue propertyName bs := by
  have hindex : indexOf propertyName (b :: bs) = (indexOf propertyName bs).map (· + 1) := by
    rw [indexOf, if_neg fun hpre => h (List.isPrefixOf_iff_prefix.mp hpre)]
  rw [tryParseStringValue_eq hne, tryParseStringValue_eq hne bs, hindex]
  rcases indexOf propertyName bs with _ | index
  · rfl
  · have hdrop : (b :: bs).drop (index + 1 + propertyName.length) =
        bs.drop (index + propertyName.length) := by
      rw [Nat.add_right_comm, List.drop_succ_cons]
    simp only [Option.map_some, hdrop]

/-- At the pattern, the round looks at what follows. -/
theorem tryParseStringValue_append (hne : propertyName ≠ []) (bs : Bytes) :
    tryParseStringValue propertyName (propertyName ++ bs) =
      match bs[skipWhitespace bs]? with
      | none => none
      | some b =>
        if b ≠ 0x3A then tryParseStringValue propertyName bs
        else readString (bs.drop (skipWhitespace bs + 1)) := by
  have hindex : indexOf propertyName (propertyName ++ bs) = some 0 := by
    obtain ⟨b, rest, hb⟩ := List.exists_cons_of_ne_nil hne
    rw [hb, List.cons_append, indexOf, if_pos]
    rw [← List.cons_append]
    exact List.isPrefixOf_iff_prefix.mpr (List.prefix_append _ _)
  rw [tryParseStringValue_eq hne, hindex]
  simp only [Nat.zero_add, List.drop_left]

/-! ### Searching a text -/

/-- What the parser answers on the encoding of a text. -/
def search (s : Str) : Option Str := tryParseLogLevel (getBytes s)

/-- The name of the property. -/
def logLevel : Str := "log_level".toList

theorem propertyText_eq : propertyText = '"' :: (logLevel ++ ['"']) := rfl

theorem logLevelPropertyName_ne_nil : logLevelPropertyName ≠ [] := by decide

/-- Where the pattern starts, as bytes and as text. -/
theorem logLevelPropertyName_isPrefix_iff (s : Str) :
    logLevelPropertyName <+: getBytes s ↔ propertyText <+: s := by
  refine getBytes_isPrefix_iff fun c hc => ?_
  have hall : propertyText.all (fun c => decide (c.toNat < 0x80)) = true := by decide
  exact of_decide_eq_true (List.all_eq_true.mp hall c hc)

theorem search_nil : search [] = none := by decide

/-- Bytes without a quote are passed over. -/
theorem tryParseLogLevel_append {pre : Bytes} (h : (0x22 : UInt8) ∉ pre) (bs : Bytes) :
    tryParseLogLevel (pre ++ bs) = tryParseLogLevel bs := by
  induction pre with
  | nil => rfl
  | cons b pre ih =>
    rw [List.mem_cons, not_or] at h
    rw [← ih h.2, List.cons_append]
    refine tryParseStringValue_cons logLevelPropertyName_ne_nil fun hpre => h.1 ?_
    have hcons : logLevelPropertyName = 0x22 :: logLevelPropertyName.tail := by decide
    rw [hcons, List.cons_prefix_cons] at hpre
    exact hpre.1

/-- A character other than a quote is passed over. -/
theorem search_cons {c : Char} (hc : c ≠ '"') (s : Str) : search (c :: s) = search s := by
  rw [search, getBytes_cons]
  refine tryParseLogLevel_append (fun h => hc ?_) _
  exact eq_of_mem_utf8EncodeChar (a := '"') (by decide) h

/-- A text without quotes is passed over. -/
theorem search_append {pre : Str} (h : '"' ∉ pre) (s : Str) : search (pre ++ s) = search s := by
  induction pre with
  | nil => rfl
  | cons c pre ih =>
    rw [List.mem_cons, not_or] at h
    rw [List.cons_append, search_cons (Ne.symm h.1), ih h.2]

/-- A quote that does not start the pattern is passed over. -/
theorem search_quote {s : Str} (h : ¬ logLevel ++ ['"'] <+: s) :
    search ('"' :: s) = search s := by
  have hpre : ¬ logLevelPropertyName <+: getBytes ('"' :: s) := by
    rw [logLevelPropertyName_isPrefix_iff, propertyText_eq, List.cons_prefix_cons]
    exact fun hpre => h hpre.2
  rw [getBytes_cons, utf8EncodeChar_of_ascii (by decide), List.singleton_append] at hpre
  rw [search, getBytes_cons, utf8EncodeChar_of_ascii (by decide), List.singleton_append]
  exact tryParseStringValue_cons logLevelPropertyName_ne_nil hpre

/-! ### After the pattern -/

/-- A character that the parser can meet behind white space. -/
def isToken (c : Char) : Bool := c.toNat < 0x80 && !isWhitespace (UInt8.ofNat c.toNat)

/-- White space and a token, as bytes: where the token is, and what follows it. -/
theorem skipWhitespace_spec (w : Json.Space) {c : Char} (hc : isToken c = true) (s : Str) :
    let bs := getBytes (Json.Space.render w ++ c :: s)
    bs[skipWhitespace bs]? = some (UInt8.ofNat c.toNat) ∧
      bs.drop (skipWhitespace bs + 1) = getBytes s := by
  obtain ⟨hascii, hspace⟩ := Bool.and_eq_true_iff.mp hc
  rw [Bool.not_eq_true'] at hspace
  have htoken : getBytes (c :: s) = UInt8.ofNat c.toNat :: getBytes s := by
    rw [getBytes_cons, utf8EncodeChar_of_ascii (of_decide_eq_true hascii), List.singleton_append]
  have hall : ∀ b ∈ getBytes (Json.Space.render w), isWhitespace b = true := by
    intro b hb
    obtain ⟨d, hd, hb⟩ := List.mem_flatMap.mp hb
    obtain ⟨x, -, rfl⟩ := List.mem_map.mp hd
    have hx : (String.utf8EncodeChar x.char).all isWhitespace = true := by cases x <;> decide
    exact List.all_eq_true.mp hx b hb
  intro bs
  have hbs : bs = getBytes (Json.Space.render w) ++ UInt8.ofNat c.toNat :: getBytes s := by
    rw [← htoken, ← getBytes_append]
  have hskip : skipWhitespace bs = (getBytes (Json.Space.render w)).length := by
    rw [skipWhitespace, hbs, List.takeWhile_append_of_pos hall, List.takeWhile_cons, hspace]
    simp
  rw [hskip, hbs]
  refine ⟨by simp, ?_⟩
  rw [List.drop_append]
  simp

/-- At the pattern: without a colon behind it, the search goes on. -/
theorem search_property (w : Json.Space) {c : Char} (hc : isToken c = true) (hcolon : c ≠ ':')
    (s : Str) :
    search (propertyText ++ (Json.Space.render w ++ c :: s)) =
      search (Json.Space.render w ++ c :: s) := by
  obtain ⟨hget, -⟩ := skipWhitespace_spec w hc s
  have hne : UInt8.ofNat c.toNat ≠ 0x3A := fun h => hcolon <|
    (eq_of_mem_utf8EncodeChar (a := ':') (by decide) (by
      rw [utf8EncodeChar_of_ascii (of_decide_eq_true (Bool.and_eq_true_iff.mp hc).1),
        List.mem_singleton, h]
      rfl))
  rw [search, getBytes_append]
  refine (tryParseStringValue_append logLevelPropertyName_ne_nil _).trans ?_
  rw [hget]
  exact if_pos hne

/-- At the pattern: with a colon behind it, the string is read. -/
theorem search_key (w : Json.Space) (s : Str) :
    search (propertyText ++ (Json.Space.render w ++ ':' :: s)) = readString (getBytes s) := by
  obtain ⟨hget, hdrop⟩ := skipWhitespace_spec w (c := ':') (by decide) s
  rw [search, getBytes_append]
  refine (tryParseStringValue_append logLevelPropertyName_ne_nil _).trans ?_
  rw [hget, hdrop]
  rfl

/-! ### Reading a string -/

/-- Bytes that are neither quotes nor backslashes are scanned over. -/
theorem scanString_append {pre : Bytes} (h : ∀ b ∈ pre, b ≠ 0x22 ∧ b ≠ 0x5C) (bs : Bytes) :
    scanString (pre ++ bs) = (scanString bs).map (· + pre.length) := by
  induction pre with
  | nil => simp
  | cons b pre ih =>
    obtain ⟨hquote, hback⟩ := h b List.mem_cons_self
    have hcons : ∀ cs : Bytes, scanString (b :: cs) = (scanString cs).map (· + 1) := by
      intro cs
      cases cs with
      | nil => simp [scanString, hback, hquote]
      | cons c cs => rw [scanString, if_neg hback, if_neg hquote]
    rw [List.cons_append, hcons, ih fun c hc => h c (List.mem_cons_of_mem b hc), Option.map_map]
    rfl

/-- Text without quotes and backslashes is scanned over. -/
theorem scanString_getBytes_append {pre : Str} (h : ∀ c ∈ pre, c ≠ '"' ∧ c ≠ '\\') (s : Str) :
    scanString (getBytes (pre ++ s)) =
      (scanString (getBytes s)).map (· + (getBytes pre).length) := by
  rw [getBytes_append]
  refine scanString_append (fun b hb => ?_) _
  obtain ⟨c, hc, hb⟩ := List.mem_flatMap.mp hb
  obtain ⟨hquote, hback⟩ := h c hc
  constructor
  · rintro rfl
    exact hquote (eq_of_mem_utf8EncodeChar (a := '"') (by decide) hb)
  · rintro rfl
    exact hback (eq_of_mem_utf8EncodeChar (a := '\\') (by decide) hb)

/-- The two bytes of an escape are scanned over, whatever the second is. -/
theorem scanString_escape {c : Char} (hc : c.toNat < 0x80) (s : Str) :
    scanString (getBytes ('\\' :: c :: s)) = (scanString (getBytes s)).map (· + 2) := by
  rw [getBytes_cons, getBytes_cons, utf8EncodeChar_of_ascii hc,
    utf8EncodeChar_of_ascii (by decide)]
  rfl

/-- The scan passes over one piece of a literal. -/
theorem scanString_piece (p : Json.Piece) (s : Str) :
    scanString (getBytes (p.raw ++ s)) =
      (scanString (getBytes s)).map (· + (getBytes p.raw).length) := by
  cases p with
  | plain c =>
    refine scanString_getBytes_append (fun d hd => ?_) s
    rw [Json.Piece.raw, List.mem_singleton] at hd
    rw [hd]
    refine ⟨Json.isPlain_ne_quote c.property, fun h => ?_⟩
    exact absurd (h ▸ c.property) (by decide)
  | short e =>
    have hlt : e.letter.toNat < 0x80 := by cases e <;> decide
    have hlen : (getBytes (Json.Piece.short e).raw).length = 2 := by cases e <;> decide
    rw [hlen]
    exact scanString_escape hlt s
  | hex a b c d =>
    have hdigit : ∀ x : Json.HexDigit, x.char.toNat < 0x80 ∧ x.char ≠ '"' ∧ x.char ≠ '\\' := by
      rintro ⟨v, upper⟩
      revert v
      cases upper <;> decide
    have hdigits : ∀ x ∈ [a.char, b.char, c.char, d.char], x ≠ '"' ∧ x ≠ '\\' := by
      intro x hx
      simp only [List.mem_cons, List.not_mem_nil, or_false] at hx
      rcases hx with rfl | rfl | rfl | rfl
      exacts [(hdigit a).2, (hdigit b).2, (hdigit c).2, (hdigit d).2]
    have hraw : (Json.Piece.hex a b c d).raw ++ s =
        '\\' :: 'u' :: ([a.char, b.char, c.char, d.char] ++ s) := rfl
    have hlen : (getBytes (Json.Piece.hex a b c d).raw).length =
        (getBytes [a.char, b.char, c.char, d.char]).length + 2 := by
      have hcons : (Json.Piece.hex a b c d).raw =
          ['\\', 'u'] ++ [a.char, b.char, c.char, d.char] := rfl
      rw [hcons, getBytes_append, List.length_append, Nat.add_comm]
      rfl
    rw [hraw, scanString_escape (by decide), scanString_getBytes_append hdigits, Option.map_map,
      hlen]
    rfl

/-- The scan stops at the closing quote of a literal. -/
theorem scanString_literal (l : Json.Literal) (s : Str) :
    scanString (getBytes (l.raw ++ '"' :: s)) = some (getBytes l.raw).length := by
  induction l with
  | nil =>
    rw [Json.Literal.raw, List.flatMap_nil, List.nil_append, getBytes_cons,
      utf8EncodeChar_of_ascii (by decide), List.singleton_append]
    cases getBytes s <;> rfl
  | cons p l ih =>
    have hraw : Json.Literal.raw (p :: l) = p.raw ++ Json.Literal.raw l := List.flatMap_cons
    rw [hraw, List.append_assoc, scanString_piece, ih, getBytes_append, List.length_append,
      Option.map_some, Nat.add_comm]

/-- A string is read as it is written. -/
theorem readString_literal (w : Json.Space) (l : Json.Literal) (s : Str) :
    readString (getBytes (Json.Space.render w ++ (l.render ++ s))) = some l.raw := by
  have hrender : l.render ++ s = '"' :: (l.raw ++ '"' :: s) := by simp [Json.Literal.render]
  obtain ⟨hget, hdrop⟩ := skipWhitespace_spec w (c := '"') (by decide) (l.raw ++ '"' :: s)
  rw [hrender, readString]
  simp only [hget, hdrop, scanString_literal, Option.map_some]
  rw [getBytes_append, List.take_left, getString_getBytes]
  rfl

/-- What does not start with a quote is not read. -/
theorem readString_token (w : Json.Space) {c : Char} (hc : isToken c = true) (hquote : c ≠ '"')
    (s : Str) : readString (getBytes (Json.Space.render w ++ c :: s)) = none := by
  obtain ⟨hget, -⟩ := skipWhitespace_spec w hc s
  have hne : UInt8.ofNat c.toNat ≠ 0x22 := fun h => hquote <|
    (eq_of_mem_utf8EncodeChar (a := '"') (by decide) (by
      rw [utf8EncodeChar_of_ascii (of_decide_eq_true (Bool.and_eq_true_iff.mp hc).1),
        List.mem_singleton, h]
      rfl))
  rw [readString]
  simp only [hget]
  exact if_pos hne

end ElasticOpenTelemetry.CentralConfigJsonParser
