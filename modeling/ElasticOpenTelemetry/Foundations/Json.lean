import ElasticOpenTelemetry.Foundations.Text

/-!
# JSON documents and their renderings

The concrete syntax of JSON. A tree keeps every choice that a writer of the document has: the
insignificant white space, the way each character of a string is escaped, the spelling of
numbers, the order of the members. `render` is then a function, and a statement about every
rendering of a document is one about every tree.

A string literal is a list of pieces: a character as it is, a two-character escape, or a
`\u` escape. `raw` is its text between the quotes, `units` the UTF-16 code units that it
denotes. In the name of a member, letters, digits and underscores are not escaped: no writer
has a reason to.
-/

namespace Json

open DotNet

/-! ### White space and numbers -/

/-- Insignificant white space: spaces, tabs, carriage returns and line feeds. -/
inductive SpaceChar
  | space
  | tab
  | carriageReturn
  | lineFeed
  deriving DecidableEq

/-- A run of white space. -/
abbrev Space := List SpaceChar

def SpaceChar.char : SpaceChar → Char
  | space => ' '
  | tab => '\t'
  | carriageReturn => '\r'
  | lineFeed => '\n'

def Space.render (w : Space) : Str := w.map SpaceChar.char

/-- A decimal digit. -/
def digitChar (d : Fin 10) : Char := Char.ofNat (48 + d.val)

/-- The exponent of a number: the case of the letter, the sign if one is written, and digits. -/
structure Exponent where
  upper : Bool
  sign : Option Bool
  first : Fin 10
  digits : List (Fin 10)
  deriving DecidableEq

/-- A number: no leading zero, and digits after the point if there is one. -/
structure Number where
  minus : Bool
  whole : List (Fin 10)
  fraction : List (Fin 10)
  exponent : Option Exponent
  whole_ne : whole ≠ []
  whole_head : whole.head? = some 0 → whole.length = 1
  deriving DecidableEq

def Exponent.render (e : Exponent) : Str :=
  (if e.upper then 'E' else 'e') :: (e.sign.map fun plus => if plus then '+' else '-').toList ++
    (e.first :: e.digits).map digitChar

def Number.render (n : Number) : Str :=
  (if n.minus then ['-'] else []) ++ n.whole.map digitChar ++
    (if n.fraction = [] then [] else '.' :: n.fraction.map digitChar) ++
    (n.exponent.map Exponent.render).getD []

/-! ### Strings -/

/-- The characters that a string may contain as they are. -/
def isPlain (c : Char) : Bool := c != '"' && c != '\\' && 0x20 ≤ c.toNat

/-- The two-character escapes. -/
inductive ShortEscape
  | quote
  | backslash
  | solidus
  | backspace
  | formFeed
  | lineFeed
  | carriageReturn
  | tab
  deriving DecidableEq

/-- The character after the backslash. -/
def ShortEscape.letter : ShortEscape → Char
  | quote => '"'
  | backslash => '\\'
  | solidus => '/'
  | backspace => 'b'
  | formFeed => 'f'
  | lineFeed => 'n'
  | carriageReturn => 'r'
  | tab => 't'

/-- The character that a two-character escape denotes. -/
def ShortEscape.unit : ShortEscape → ℕ
  | quote => 0x22
  | backslash => 0x5C
  | solidus => 0x2F
  | backspace => 0x08
  | formFeed => 0x0C
  | lineFeed => 0x0A
  | carriageReturn => 0x0D
  | tab => 0x09

/-- A hexadecimal digit, in upper or lower case. -/
structure HexDigit where
  value : Fin 16
  upper : Bool
  deriving DecidableEq

def HexDigit.char (d : HexDigit) : Char :=
  if d.value.val < 10 then Char.ofNat (48 + d.value.val)
  else Char.ofNat ((if d.upper then 55 else 87) + d.value.val)

/-- A piece of a string literal. -/
inductive Piece
  | plain (c : {c : Char // isPlain c = true})
  | short (e : ShortEscape)
  | hex (a b c d : HexDigit)
  deriving DecidableEq

/-- The contents of a string literal. -/
abbrev Literal := List Piece

/-- The UTF-16 code units of a character. -/
def utf16 (c : Char) : List ℕ :=
  if c.toNat < 0x10000 then [c.toNat]
  else [0xD800 + (c.toNat - 0x10000) / 0x400, 0xDC00 + (c.toNat - 0x10000) % 0x400]

namespace Piece

/-- A piece as it is written. -/
def raw : Piece → Str
  | plain c => [c.val]
  | short e => ['\\', e.letter]
  | hex a b c d => ['\\', 'u', a.char, b.char, c.char, d.char]

/-- The code units that a piece denotes. -/
def units : Piece → List ℕ
  | plain c => utf16 c.val
  | short e => [e.unit]
  | hex a b c d => [((a.value.val * 16 + b.value.val) * 16 + c.value.val) * 16 + d.value.val]

/-- A letter, digit or underscore, as a code unit. -/
def isWordUnit (u : ℕ) : Bool :=
  (48 ≤ u && u ≤ 57) || (65 ≤ u && u ≤ 90) || u == 95 || (97 ≤ u && u ≤ 122)

/-- No letter, digit or underscore is written as a `\u` escape. -/
def isStandard : Piece → Bool
  | hex a b c d => !(hex a b c d).units.any isWordUnit
  | _ => true

end Piece

/-- The text of a literal between the quotes. -/
def Literal.raw (s : Literal) : Str := s.flatMap Piece.raw

/-- The string that a literal denotes, as UTF-16 code units. -/
def Literal.units (s : Literal) : List ℕ := s.flatMap Piece.units

def Literal.render (s : Literal) : Str := '"' :: s.raw ++ ['"']

/-- A character as it is, or escaped where it has to be. -/
def Piece.ofChar (c : Char) : Piece :=
  if h : isPlain c = true then .plain ⟨c, h⟩
  else if c = '"' then .short .quote
  else if c = '\\' then .short .backslash
  else
    .hex ⟨0, false⟩ ⟨0, false⟩ ⟨Fin.ofNat 16 (c.toNat / 16), false⟩ ⟨Fin.ofNat 16 c.toNat, false⟩

/-- The literal of a string, with as few escapes as possible. -/
def Literal.ofStr (s : Str) : Literal := s.map Piece.ofChar

/-- The name of a member. -/
structure Name where
  pieces : Literal
  standard : pieces.all Piece.isStandard = true
  deriving DecidableEq

/-- The string that a name denotes. -/
def Name.units (n : Name) : List ℕ := Literal.units n.pieces

/-! ### Documents -/

mutual

/-- A value. -/
inductive Value
  | string (s : Literal)
  | number (n : Number)
  | bool (b : Bool)
  | null
  /-- an array; the white space is all there is between the brackets of an empty one -/
  | array (space : Space) (elements : Elements)
  /-- an object; the white space is all there is between the braces of an empty one -/
  | object (space : Space) (members : Members)

/-- The elements of an array, with the white space around each. -/
inductive Elements
  | nil
  | cons (before : Space) (value : Value) (after : Space) (rest : Elements)

/-- The members of an object, with the white space around each token. -/
inductive Members
  | nil
  | cons (before : Space) (name : Name) (beforeColon afterColon : Space) (value : Value)
      (after : Space) (rest : Members)

end

/-- A comma, unless nothing follows. -/
def Elements.separator : Elements → Str
  | nil => []
  | cons .. => [',']

/-- A comma, unless nothing follows. -/
def Members.separator : Members → Str
  | nil => []
  | cons .. => [',']

mutual

def Value.render : Value → Str
  | .string s => Literal.render s
  | .number n => n.render
  | .bool b => if b then "true".toList else "false".toList
  | .null => "null".toList
  | .array w es => '[' :: (Space.render w ++ (es.render ++ [']']))
  | .object w ms => '{' :: (Space.render w ++ (ms.render ++ ['}']))

def Elements.render : Elements → Str
  | .nil => []
  | .cons before v after rest =>
    Space.render before ++ (v.render ++ (Space.render after ++ (rest.separator ++ rest.render)))

def Members.render : Members → Str
  | .nil => []
  | .cons before name beforeColon afterColon v after rest =>
    Space.render before ++ (Literal.render name.pieces ++ (Space.render beforeColon ++
      (':' :: (Space.render afterColon ++ (v.render ++ (Space.render after ++
        (rest.separator ++ rest.render)))))))

end

/-- An object as a whole text. -/
structure Document where
  before : Space
  inner : Space
  members : Members
  after : Space

def Document.render (o : Document) : Str :=
  Space.render o.before ++ ((Value.object o.inner o.members).render ++ Space.render o.after)

/-- The members of an object, by name and value. -/
def Members.toList : Members → List (Name × Value)
  | .nil => []
  | .cons _ name _ _ v _ rest => (name, v) :: rest.toList

/-- A value that is neither an array nor an object. -/
def Value.isScalar : Value → Bool
  | .array .. => false
  | .object .. => false
  | _ => true

/-- The string that a value is, as it is written. -/
def Value.rawString : Value → Option Str
  | .string s => some (Literal.raw s)
  | _ => none

/-! ### Words -/

/-- A word: letters, digits and underscores. -/
def isWord (word : Str) : Bool := word.all fun c => Piece.isWordUnit c.toNat

theorem isWordUnit_bounds {u : ℕ} (h : Piece.isWordUnit u = true) :
    u < 128 ∧ 48 ≤ u ∧ u ≠ 92 := by
  simp only [Piece.isWordUnit, Bool.or_eq_true, Bool.and_eq_true, decide_eq_true_eq,
    beq_iff_eq] at h
  omega

theorem isPlain_ne_quote {c : Char} (h : isPlain c = true) : c ≠ '"' := by
  rintro rfl
  exact absurd h (by decide)

/-- An escape starts with a backslash. -/
theorem raw_eq_backslash_cons {p : Piece} (h : ∀ c, p ≠ .plain c) :
    ∃ t, p.raw = '\\' :: t := by
  cases p with
  | plain c => exact absurd rfl (h c)
  | short e => exact ⟨_, rfl⟩
  | hex a b c d => exact ⟨_, rfl⟩

/-- A word and a quote start the rest of a literal exactly when the word is the rest. -/
theorem word_isPrefix_iff {word : Str} (hword : isWord word = true) (s : Literal) (t : Str) :
    word ++ ['"'] <+: s.raw ++ '"' :: t ↔ s.raw = word := by
  induction s generalizing word with
  | nil =>
    cases word with
    | nil => simp [Literal.raw]
    | cons w word =>
      have hw := isWordUnit_bounds (Bool.and_eq_true_iff.mp (List.all_cons.symm.trans hword)).1
      have hne : w ≠ '"' := fun h => by
        rw [h] at hw
        exact absurd hw.2.1 (by decide)
      simp [Literal.raw, hne]
  | cons p s ih =>
    have hraw : Literal.raw (p :: s) = p.raw ++ Literal.raw s := List.flatMap_cons
    rw [hraw]
    by_cases hp : ∃ c, p = .plain c
    · obtain ⟨c, rfl⟩ := hp
      cases word with
      | nil =>
        have hne : '"' ≠ c.val := (isPlain_ne_quote c.property).symm
        simp [Piece.raw, hne]
      | cons w word =>
        have hrest := ih (Bool.and_eq_true_iff.mp (List.all_cons.symm.trans hword)).2
        simp only [Piece.raw, List.cons_append, List.nil_append, List.cons_prefix_cons,
          List.cons.injEq, hrest, eq_comm (a := w)]
    · obtain ⟨u, hu⟩ := raw_eq_backslash_cons fun c hc => hp ⟨c, hc⟩
      rw [hu]
      cases word with
      | nil => simp
      | cons w word =>
        have hw := isWordUnit_bounds (Bool.and_eq_true_iff.mp (List.all_cons.symm.trans hword)).1
        have hne : w ≠ '\\' := fun h => by
          rw [h] at hw
          exact hw.2.2 rfl
        simp [hne, hne.symm]

theorem utf16_of_isWordUnit {c : Char} (h : Piece.isWordUnit c.toNat = true) :
    utf16 c = [c.toNat] := by
  have hlt := (isWordUnit_bounds h).1
  exact if_pos (by omega)

/-- Where letters are written as they are, a literal denotes a word exactly when it is written
as that word. -/
theorem units_eq_iff_raw_eq {word : Str} (hword : isWord word = true) {s : Literal}
    (hs : s.all Piece.isStandard = true) :
    s.units = word.map Char.toNat ↔ s.raw = word := by
  induction s generalizing word with
  | nil => cases word <;> simp [Literal.raw, Literal.units]
  | cons p s ih =>
    obtain ⟨hp, hs⟩ := Bool.and_eq_true_iff.mp (List.all_cons.symm.trans hs)
    have hraw : Literal.raw (p :: s) = p.raw ++ Literal.raw s := List.flatMap_cons
    have hunits : Literal.units (p :: s) = p.units ++ Literal.units s := List.flatMap_cons
    rw [hraw, hunits]
    cases word with
    | nil => cases p <;> simp [Piece.raw, Piece.units, utf16]; split_ifs <;> simp
    | cons w word =>
      obtain ⟨hw, hword⟩ := Bool.and_eq_true_iff.mp (List.all_cons.symm.trans hword)
      have hbounds := isWordUnit_bounds hw
      cases p with
      | plain c =>
        rw [Piece.raw, Piece.units, List.singleton_append, List.cons.injEq, ← ih hword hs]
        constructor
        · intro h
          rw [utf16] at h
          split_ifs at h
          · rw [List.singleton_append, List.map_cons, List.cons.injEq] at h
            exact ⟨Char.toNat_inj.mp h.1, h.2⟩
          · rw [List.map_cons, List.cons_append, List.cons.injEq] at h
            omega
        · rintro ⟨hc, h⟩
          rw [hc, utf16_of_isWordUnit hw, h]
          rfl
      | short e =>
        refine iff_of_false (fun h => ?_) fun h => ?_
        · have hunit : e.unit = w.toNat := (List.cons.inj h).1
          rw [← hunit] at hw
          cases e <;> exact absurd hw (by decide)
        · have hw' : '\\' = w := (List.cons.inj h).1
          rw [← hw'] at hw
          exact absurd hw (by decide)
      | hex a b c d =>
        refine iff_of_false (fun h => ?_) fun h => ?_
        · rw [Piece.isStandard, Piece.units, List.any_cons, List.any_nil, Bool.or_false,
            Bool.not_eq_true'] at hp
          rw [Piece.units, List.map_cons, List.singleton_append, List.cons.injEq] at h
          rw [← h.1, hp] at hw
          exact Bool.noConfusion hw
        · have hw' : '\\' = w := (List.cons.inj h).1
          rw [← hw'] at hw
          exact absurd hw (by decide)

end Json
