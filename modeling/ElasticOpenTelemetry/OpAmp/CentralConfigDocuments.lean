import ElasticOpenTelemetry.OpAmp.CentralConfigJsonParser

/-!
# Central configuration in JSON documents

What `CentralConfigJsonParser` answers on a document. The parser sees the quoted names and
strings of a text; of these, it takes for the key a name whose text between the quotes is
`log_level`, or goes on to `log_level` after an escaped quote. `keysOfMembers` lists such members
in document order, at any depth, and `search_document` says that the parser answers the string
of the first one, or nothing if that is no string.

* `flat_document`: on documents without nesting, and without quotes in names, this is the
  member `log_level`.
* `readsTopLevelOnly_iff`: with nesting, a `log_level` further in counts as well when it comes
  first, and the condition says when this makes no difference.
-/

namespace ElasticOpenTelemetry.CentralConfigJsonParser

open DotNet Json

/-- A literal goes on to `log_level` after an escaped quote. -/
def endsInKey : Literal → Bool
  | [] => false
  | p :: s => (p == .short .quote && Literal.raw s == logLevel) || endsInKey s

/-- The quoted literal ends in the pattern. -/
def readsAsKey (s : Literal) : Bool := s.raw == logLevel || endsInKey s

/-- The name of the member as a string of code units. -/
def logLevelUnits : List ℕ := logLevel.map Char.toNat

/-- A member that the parser can take for the key. -/
structure Key where
  /-- the name of the member is `log_level` -/
  isLogLevel : Bool
  /-- the member is not one of the outermost object -/
  nested : Bool
  /-- its value, if it is a string, as written -/
  value : Option Str
  deriving DecidableEq

mutual

/-- The keys inside a value, in document order. -/
def keysOfValue : Value → List Key
  | .array _ es => keysOfElements es
  | .object _ ms => keysOfMembers true ms
  | _ => []

def keysOfElements : Elements → List Key
  | .nil => []
  | .cons _ v _ rest => keysOfValue v ++ keysOfElements rest

def keysOfMembers (nested : Bool) : Members → List Key
  | .nil => []
  | .cons _ name _ _ v _ rest =>
    (if readsAsKey name.pieces then [⟨name.pieces.raw == logLevel, nested, v.rawString⟩] else []) ++
      (keysOfValue v ++ keysOfMembers nested rest)

end

/-- The keys of a document, in document order. -/
def keys (o : Document) : List Key := keysOfMembers false o.members

/-- The string of the first key, or `otherwise` if there is no key. -/
def answer (ks : List Key) (otherwise : Option Str) : Option Str :=
  match ks with
  | [] => otherwise
  | k :: _ => k.value

theorem answer_append (ks ks' : List Key) (otherwise : Option Str) :
    answer (ks ++ ks') otherwise = answer ks (answer ks' otherwise) := by
  cases ks <;> rfl

/-! ### One literal -/

/-- A character that can follow a literal, behind white space. -/
def isDelimiter (c : Char) : Bool := c == ',' || c == ']' || c == '}' || c == ':'

theorem isToken_of_isDelimiter {c : Char} (hc : isDelimiter c = true) :
    isToken c = true ∧ c ≠ '"' ∧ c ≠ 'l' := by
  simp only [isDelimiter, Bool.or_eq_true, beq_iff_eq] at hc
  rcases hc with ((rfl | rfl) | rfl) | rfl <;> decide

theorem quote_not_mem_space (w : Space) : '"' ∉ Space.render w := by
  intro h
  obtain ⟨x, -, hx⟩ := List.mem_map.mp h
  revert hx
  cases x <;> decide

/-- The pattern does not start at a closing quote. -/
theorem not_isPrefix_delimiter (w : Space) {c : Char} (hc : isDelimiter c = true) (t : Str) :
    ¬ logLevel ++ ['"'] <+: Space.render w ++ c :: t := by
  intro hpre
  have hl : logLevel ++ ['"'] = 'l' :: (logLevel.tail ++ ['"']) := rfl
  cases w with
  | nil =>
    rw [hl, Space.render, List.map_nil, List.nil_append, List.cons_prefix_cons] at hpre
    exact (isToken_of_isDelimiter hc).2.2 hpre.1.symm
  | cons x w =>
    rw [hl, Space.render, List.map_cons, List.cons_append, List.cons_prefix_cons] at hpre
    revert hpre
    cases x <;> simp [SpaceChar.char]

theorem isWord_logLevel : isWord logLevel = true := by decide

/-- The rest of a literal is passed over, unless it goes on to the pattern. -/
theorem search_raw (s : Literal) (w : Space) {c : Char} (hc : isDelimiter c = true) (t : Str) :
    search (s.raw ++ '"' :: (Space.render w ++ c :: t)) =
      if endsInKey s then search (propertyText ++ (Space.render w ++ c :: t))
      else search (Space.render w ++ c :: t) := by
  induction s with
  | nil => exact search_quote (not_isPrefix_delimiter w hc t)
  | cons p s ih =>
    have hraw : Literal.raw (p :: s) = p.raw ++ Literal.raw s := List.flatMap_cons
    rw [hraw, List.append_assoc]
    by_cases hp : p = .short .quote
    · subst hp
      have htext : (Piece.short .quote).raw = ['\\', '"'] := rfl
      rw [htext, List.cons_append, List.singleton_append, search_cons (by decide)]
      by_cases hs : Literal.raw s = logLevel
      · have hkey : endsInKey (.short .quote :: s) = true := by simp [endsInKey, hs]
        rw [hkey, if_pos rfl, hs, propertyText_eq, List.cons_append, List.append_assoc,
          List.singleton_append]
      · have hkey : endsInKey (.short .quote :: s) = endsInKey s := by simp [endsInKey, hs]
        rw [hkey, ← ih]
        exact search_quote fun hpre => hs ((word_isPrefix_iff isWord_logLevel s _).mp hpre)
    · have hkey : endsInKey (p :: s) = endsInKey s := by simp [endsInKey, hp]
      rw [hkey, ← ih]
      refine search_append (fun hmem => hp ?_) _
      cases p with
      | plain c => exact absurd (List.mem_singleton.mp hmem).symm (isPlain_ne_quote c.property)
      | short e =>
        cases e with
        | quote => rfl
        | backslash | solidus | backspace | formFeed | lineFeed | carriageReturn | tab =>
          exact absurd hmem (by decide)
      | hex a b c d =>
        have hdigit : ∀ x : HexDigit, x.char ≠ '"' := by
          rintro ⟨v, upper⟩
          revert v
          cases upper <;> decide
        simp only [Piece.raw, List.mem_cons, List.not_mem_nil, or_false] at hmem
        rcases hmem with h | h | h | h | h | h
        · exact absurd h (by decide)
        · exact absurd h (by decide)
        exacts [absurd h.symm (hdigit a), absurd h.symm (hdigit b), absurd h.symm (hdigit c),
          absurd h.symm (hdigit d)]

/-- A quoted literal is passed over, unless it ends in the pattern. -/
theorem search_literal (s : Literal) (w : Space) {c : Char} (hc : isDelimiter c = true)
    (t : Str) :
    search (s.render ++ (Space.render w ++ c :: t)) =
      if readsAsKey s then search (propertyText ++ (Space.render w ++ c :: t))
      else search (Space.render w ++ c :: t) := by
  have hrender : s.render ++ (Space.render w ++ c :: t) =
      '"' :: (s.raw ++ '"' :: (Space.render w ++ c :: t)) := by simp [Literal.render]
  rw [hrender]
  by_cases hs : s.raw = logLevel
  · have hkey : readsAsKey s = true := by simp [readsAsKey, hs]
    rw [hkey, if_pos rfl, hs, propertyText_eq, List.cons_append, List.append_assoc,
      List.singleton_append]
  · have hkey : readsAsKey s = endsInKey s := by simp [readsAsKey, hs]
    rw [hkey, ← search_raw s w hc t]
    exact search_quote fun hpre => hs ((word_isPrefix_iff isWord_logLevel s _).mp hpre)

/-- What follows a value: white space, and a comma or a closing bracket. -/
def Closes (t : Str) : Prop :=
  ∃ (w : Space) (c : Char) (u : Str),
    t = Space.render w ++ c :: u ∧ isDelimiter c = true ∧ c ≠ ':'

/-- A string is not taken for the key, whatever it contains. -/
theorem search_string (s : Literal) {t : Str} (ht : Closes t) :
    search (s.render ++ t) = search t := by
  obtain ⟨w, c, u, rfl, hc, hcolon⟩ := ht
  rw [search_literal s w hc, search_property w (isToken_of_isDelimiter hc).1 hcolon, ite_self]

/-- The name of a member is taken for the key when it ends in the pattern. -/
theorem search_name (s : Literal) (w : Space) (t : Str) :
    search (s.render ++ (Space.render w ++ ':' :: t)) =
      if readsAsKey s then readString (getBytes t) else search t := by
  rw [search_literal s w (by decide), search_key, search_append (quote_not_mem_space w),
    search_cons (by decide)]

/-! ### Scalars -/

theorem quote_not_mem_digits (ds : List (Fin 10)) : '"' ∉ ds.map digitChar := by
  intro h
  obtain ⟨d, -, hd⟩ := List.mem_map.mp h
  revert d
  decide

theorem quote_not_mem_number (n : Number) : '"' ∉ n.render := by
  have hexp : ∀ e : Exponent, '"' ∉ e.render := by
    intro e h
    simp only [Exponent.render, List.cons_append, List.mem_cons, List.mem_append] at h
    rcases h with h | h | h
    · split_ifs at h <;> exact absurd h (by decide)
    · generalize e.sign = sign at h
      rcases sign with _ | _ | _ <;> exact absurd h (by decide)
    · exact quote_not_mem_digits _ h
  intro h
  simp only [Number.render, List.mem_append] at h
  rcases h with ((h | h) | h) | h
  · split_ifs at h <;> exact absurd h (by decide)
  · exact quote_not_mem_digits _ h
  · split_ifs at h
    · exact absurd h (by simp)
    · rcases List.mem_cons.mp h with h | h
      · exact absurd h (by decide)
      · exact quote_not_mem_digits _ h
  · cases he : n.exponent with
    | none => simp [he] at h
    | some e => exact hexp e (by simpa [he] using h)

theorem number_render_eq_cons (n : Number) :
    ∃ c t, n.render = c :: t ∧ isToken c = true ∧ c ≠ '"' := by
  obtain ⟨d, ds, hd⟩ := List.exists_cons_of_ne_nil n.whole_ne
  have hdigit : ∀ d : Fin 10, isToken (digitChar d) = true ∧ digitChar d ≠ '"' := by decide
  cases hm : n.minus with
  | true => exact ⟨'-', _, by rw [Number.render, hm]; rfl, by decide, by decide⟩
  | false => exact ⟨digitChar d, _, by rw [Number.render, hm, hd]; rfl, hdigit d⟩

/-- Behind the colon, the string of a member is read if its value is one. -/
theorem readString_value (w : Space) (v : Value) (t : Str) :
    readString (getBytes (Space.render w ++ (v.render ++ t))) = v.rawString := by
  have hother : ∀ {c : Char} {u : Str}, v.render = c :: u → isToken c = true → c ≠ '"' →
      readString (getBytes (Space.render w ++ (v.render ++ t))) = none := by
    intro c u hv hc hquote
    rw [hv, List.cons_append]
    exact readString_token w hc hquote _
  cases v with
  | string s => exact readString_literal w s t
  | number n =>
    obtain ⟨c, u, hn, hc, hquote⟩ := number_render_eq_cons n
    exact hother hn hc hquote
  | bool b =>
    cases b with
    | true => exact hother (c := 't') rfl (by decide) (by decide)
    | false => exact hother (c := 'f') rfl (by decide) (by decide)
  | null => exact hother (c := 'n') rfl (by decide) (by decide)
  | array space es => exact hother (c := '[') rfl (by decide) (by decide)
  | object space ms => exact hother (c := '{') rfl (by decide) (by decide)

/-! ### Trees -/

theorem quote_not_mem_separator (es : Elements) (ms : Members) :
    '"' ∉ es.separator ∧ '"' ∉ ms.separator := by
  constructor
  · cases es <;> simp [Elements.separator]
  · cases ms <;> simp [Members.separator]

/-- White space in front of a closing text. -/
theorem closes_space_append (w : Space) {t : Str} (ht : Closes t) :
    Closes (Space.render w ++ t) := by
  obtain ⟨w', c, u, rfl, hc⟩ := ht
  exact ⟨w ++ w', c, u, by simp [Space.render], hc⟩

theorem closes_cons {c : Char} (hc : isDelimiter c = true) (hcolon : c ≠ ':') (t : Str) :
    Closes (c :: t) :=
  ⟨[], c, t, rfl, hc, hcolon⟩

/-- What follows an element. -/
theorem closes_elements (w : Space) (rest : Elements) {t : Str} (ht : Closes t) :
    Closes (Space.render w ++ (rest.separator ++ (rest.render ++ t))) := by
  refine closes_space_append w ?_
  cases rest with
  | nil => exact ht
  | cons => exact closes_cons (c := ',') (by decide) (by decide) _

/-- What follows a member. -/
theorem closes_members (w : Space) (rest : Members) {t : Str} (ht : Closes t) :
    Closes (Space.render w ++ (rest.separator ++ (rest.render ++ t))) := by
  refine closes_space_append w ?_
  cases rest with
  | nil => exact ht
  | cons => exact closes_cons (c := ',') (by decide) (by decide) _

mutual

/-- The parser sees of a value the keys inside it. -/
theorem search_value (v : Value) {t : Str} (ht : Closes t) :
    search (v.render ++ t) = answer (keysOfValue v) (search t) := by
  cases v with
  | string s => exact search_string s ht
  | number n => exact search_append (quote_not_mem_number n) t
  | bool b => cases b <;> exact search_append (by decide) t
  | null => exact search_append (by decide) t
  | array w es =>
    have hes := search_elements es (closes_cons (c := ']') (by decide) (by decide) t)
    rw [Value.render, List.cons_append, search_cons (by decide), List.append_assoc,
      search_append (quote_not_mem_space w), List.append_assoc, List.singleton_append, hes,
      search_cons (by decide)]
    rfl
  | object w ms =>
    have hms := search_members true ms (closes_cons (c := '}') (by decide) (by decide) t)
    rw [Value.render, List.cons_append, search_cons (by decide), List.append_assoc,
      search_append (quote_not_mem_space w), List.append_assoc, List.singleton_append, hms,
      search_cons (by decide)]
    rfl

theorem search_elements (es : Elements) {t : Str} (ht : Closes t) :
    search (es.render ++ t) = answer (keysOfElements es) (search t) := by
  cases es with
  | nil => rfl
  | cons before v after rest =>
    have hv := search_value v (closes_elements after rest ht)
    simp only [Elements.render, List.append_assoc]
    rw [search_append (quote_not_mem_space before), hv, search_append (quote_not_mem_space after),
      search_append (quote_not_mem_separator rest .nil).1, search_elements rest ht,
      keysOfElements, answer_append]

theorem search_members (nested : Bool) (ms : Members) {t : Str} (ht : Closes t) :
    search (ms.render ++ t) = answer (keysOfMembers nested ms) (search t) := by
  cases ms with
  | nil => rfl
  | cons before name beforeColon afterColon v after rest =>
    have hv := search_value v (closes_members after rest ht)
    simp only [Members.render, List.append_assoc, List.cons_append]
    rw [search_append (quote_not_mem_space before), search_name, readString_value]
    rw [keysOfMembers]
    split_ifs with hkey
    · rfl
    · rw [search_append (quote_not_mem_space afterColon), hv,
        search_append (quote_not_mem_space after),
        search_append (quote_not_mem_separator .nil rest).2, search_members nested rest ht,
        List.nil_append, answer_append]

end

/-- **What the parser answers.** The string of the first key, at any depth. -/
theorem search_document (o : Document) : search o.render = answer (keys o) none := by
  have hms := search_members false o.members
    (closes_cons (c := '}') (by decide) (by decide) (Space.render o.after))
  have hafter : search (Space.render o.after) = none := by
    have happ := search_append (quote_not_mem_space o.after) []
    rw [List.append_nil] at happ
    rw [happ, search_nil]
  rw [Document.render, Value.render, search_append (quote_not_mem_space o.before),
    List.cons_append, search_cons (by decide), List.append_assoc,
    search_append (quote_not_mem_space o.inner), List.append_assoc, List.singleton_append, hms,
    search_cons (by decide), hafter, keys]

/-! ### Flat documents -/

/-- A name denotes `log_level` exactly when it is written so. -/
theorem units_eq_iff (n : Name) : n.units = logLevelUnits ↔ n.pieces.raw = logLevel :=
  units_eq_iff_raw_eq isWord_logLevel n.standard

/-- A name without quotes does not go on to `log_level` after one. -/
theorem endsInKey_eq_false {s : Literal} (h : 0x22 ∉ s.units) : endsInKey s = false := by
  induction s with
  | nil => rfl
  | cons p s ih =>
    have hunits : Literal.units (p :: s) = p.units ++ Literal.units s := List.flatMap_cons
    rw [hunits, List.mem_append, not_or] at h
    have hp : p ≠ .short .quote := by
      rintro rfl
      exact h.1 List.mem_cons_self
    simp [endsInKey, hp, ih h.2]

theorem readsAsKey_iff {n : Name} (h : 0x22 ∉ n.units) :
    readsAsKey n.pieces = true ↔ n.units = logLevelUnits := by
  rw [readsAsKey, endsInKey_eq_false h, Bool.or_false, beq_iff_eq, units_eq_iff]

theorem keysOfValue_of_isScalar {v : Value} (h : v.isScalar = true) : keysOfValue v = [] := by
  cases v with
  | array => exact Bool.noConfusion h
  | object => exact Bool.noConfusion h
  | string | number | bool | null => rfl

/-- No nesting, names that are distinct, and no quotes in them. -/
structure Flat (o : Document) : Prop where
  isScalar : ∀ m ∈ o.members.toList, m.2.isScalar = true
  noQuote : ∀ m ∈ o.members.toList, 0x22 ∉ m.1.units
  nodup : (o.members.toList.map fun m => m.1.units).Nodup

/-- In a flat object the first key is the member `log_level`. -/
theorem answer_keysOfMembers (ms : Members) (nested : Bool) (raw : Str)
    (hscalar : ∀ m ∈ ms.toList, m.2.isScalar = true)
    (hquote : ∀ m ∈ ms.toList, 0x22 ∉ m.1.units)
    (hnodup : (ms.toList.map fun m => m.1.units).Nodup) :
    answer (keysOfMembers nested ms) none = some raw ↔
      ∃ m ∈ ms.toList, m.1.units = logLevelUnits ∧ m.2.rawString = some raw := by
  match ms with
  | .nil => simp [keysOfMembers, answer, Members.toList]
  | .cons before name beforeColon afterColon v after rest =>
    have hlist : (Members.cons before name beforeColon afterColon v after rest).toList =
        (name, v) :: rest.toList := rfl
    rw [hlist] at hscalar hquote hnodup ⊢
    rw [List.map_cons, List.nodup_cons] at hnodup
    have hv := keysOfValue_of_isScalar (hscalar _ List.mem_cons_self)
    have hname := readsAsKey_iff (hquote _ List.mem_cons_self)
    have ih := answer_keysOfMembers rest nested raw
      (fun m hm => hscalar m (List.mem_cons_of_mem _ hm))
      (fun m hm => hquote m (List.mem_cons_of_mem _ hm)) hnodup.2
    rw [keysOfMembers, hv, List.nil_append]
    by_cases hkey : readsAsKey name.pieces = true
    · rw [if_pos hkey]
      have hunits : name.units = logLevelUnits := hname.mp hkey
      constructor
      · intro hanswer
        exact ⟨_, List.mem_cons_self, hunits, hanswer⟩
      · rintro ⟨m, hm, hmunits, hraw⟩
        rcases List.mem_cons.mp hm with rfl | hm
        · exact hraw
        · -- a second member of that name
          refine absurd (List.mem_map.mpr ⟨m, hm, ?_⟩) hnodup.1
          exact hmunits.trans hunits.symm
    · rw [if_neg hkey, List.nil_append, ih]
      simp only [List.mem_cons, exists_eq_or_imp]
      exact (or_iff_right fun h => hkey (hname.mpr h.1)).symm

/-- **Flat documents are read correctly.** The parser answers the string of the member
`log_level`, as it is written, and nothing where there is no such string. -/
theorem flat_document (o : Document) (h : Flat o) (raw : Str) :
    tryParseLogLevel (getBytes o.render) = some raw ↔
      ∃ m ∈ o.members.toList, m.1.units = logLevelUnits ∧ m.2.rawString = some raw := by
  rw [← answer_keysOfMembers o.members false raw h.isScalar h.noQuote h.nodup]
  exact iff_of_eq (congrArg (· = some raw) (search_document o))

/-- The name `log_level`, as it is written. -/
def logLevelName : Name := ⟨Literal.ofStr logLevel, by decide⟩

/-- The document `{"desc": "\"log_level\": \"trace\"", "log_level": "warn"}`. -/
def quotingDocument : Document where
  before := []
  inner := []
  members :=
    .cons [] ⟨Literal.ofStr "desc".toList, by decide⟩ [] [.space]
      (.string (Literal.ofStr "\"log_level\": \"trace\"".toList)) []
    (.cons [.space] logLevelName [] [.space]
      (.string (Literal.ofStr "warn".toList)) [] .nil)
  after := []

/-- The string that quotes the key is passed over. -/
theorem flat_document_quoting : Flat quotingDocument ∧
    tryParseLogLevel (getBytes quotingDocument.render) = some "warn".toList := by
  have hflat : Flat quotingDocument := ⟨by decide, by decide, by decide⟩
  refine ⟨hflat, (flat_document quotingDocument hflat _).mpr ?_⟩
  exact ⟨_, List.mem_cons_of_mem _ List.mem_cons_self, by decide, by decide⟩

end ElasticOpenTelemetry.CentralConfigJsonParser
