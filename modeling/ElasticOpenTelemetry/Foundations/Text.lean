import Mathlib.Data.List.DropRight
import Mathlib.Data.List.Basic

/-!
# .NET strings as lists of characters

The string operations of the base class library that configuration code is written with:
white space and `Trim`, `Split` and `Join`, and comparison ignoring case. A string is the list
of its characters, so that `Split` on one separator *is* `List.splitOn` and `Join` *is*
`List.intercalate`; a nullable string is an `Option`.

Case is folded on the ASCII letters only. Ordinal comparison ignoring case against an ASCII
literal is exactly that: no character outside the ASCII letters folds to one of them (the
dotless i and the long s are excluded from ordinal folding).

* `splitOn_intercalate_set`: replacing one segment by a separator-free one changes that segment
  of the split and no other.
* `leading_append_trim_append_trailing`: a string is its trimmed text between two runs of
  white space.
-/

namespace DotNet

/-- A .NET string. -/
abbrev Str := List Char

/-- `string.IsNullOrEmpty`. -/
def isNullOrEmpty (s : Option Str) : Bool := s.getD [] == []

/-- `char.IsWhiteSpace`. -/
def isWhiteSpace (c : Char) : Bool :=
  (0x09 ≤ c.toNat && c.toNat ≤ 0x0D) || c.toNat == 0x20 || c.toNat == 0x85 ||
    c.toNat == 0xA0 || c.toNat == 0x1680 || (0x2000 ≤ c.toNat && c.toNat ≤ 0x200A) ||
    c.toNat == 0x2028 || c.toNat == 0x2029 || c.toNat == 0x202F || c.toNat == 0x205F ||
    c.toNat == 0x3000

/-- `string.IsNullOrWhiteSpace`. -/
def isNullOrWhiteSpace (s : Option Str) : Bool := (s.getD []).all isWhiteSpace

/-- `string.Trim()`. -/
def trim (s : Str) : Str := (s.dropWhile isWhiteSpace).rdropWhile isWhiteSpace

/-- The white space that `trim` removes in front. -/
def leading (s : Str) : Str := s.takeWhile isWhiteSpace

/-- The white space that `trim` removes at the end. -/
def trailing (s : Str) : Str := (s.dropWhile isWhiteSpace).rtakeWhile isWhiteSpace

/-- `string.ToUpperInvariant()`, on ASCII text. -/
def toUpperInvariant (s : Str) : Str := s.map Char.toUpper

/-- `string.Equals(_, StringComparison.OrdinalIgnoreCase)`. -/
def equalsIgnoreCase (a b : Str) : Bool := toUpperInvariant a == toUpperInvariant b

/-- `string.StartsWith(_, StringComparison.Ordinal)`. -/
def startsWith (pre s : Str) : Bool := pre.isPrefixOf s

/-- `string.StartsWith(_, StringComparison.OrdinalIgnoreCase)`. -/
def startsWithIgnoreCase (pre s : Str) : Bool := equalsIgnoreCase (s.take pre.length) pre

/-- `string.Split(sep, StringSplitOptions.RemoveEmptyEntries)`. -/
def splitRemoveEmpty (sep : Char) (s : Str) : List Str := (s.splitOn sep).filter (· ≠ [])

/-- `string.Split([sep], 2)`: cut at the first separator, or keep the string whole. -/
def splitInTwo (sep : Char) (s : Str) : List Str :=
  match s.dropWhile (· != sep) with
  | [] => [s]
  | _ :: rest => [s.takeWhile (· != sep), rest]

/-- `string.Join(sep, _)`. -/
def join (sep : Char) (segments : List Str) : Str := [sep].intercalate segments

/-! ### Splitting and joining -/

section Split

variable {α : Type*} [BEq α] [LawfulBEq α]

/-- No segment of a split contains the separator. -/
theorem not_mem_of_mem_splitOn {x : α} {xs seg : List α} (h : seg ∈ xs.splitOn x) :
    x ∉ seg := by
  induction xs generalizing seg with
  | nil =>
    rw [List.splitOn_nil, List.mem_singleton] at h
    simp [h]
  | cons y ys ih =>
    rw [List.splitOn_cons_eq_if_modifyHead] at h
    split_ifs at h with hy
    · rcases List.mem_cons.mp h with rfl | h
      · simp
      · exact ih h
    · obtain ⟨first, rest, hsplit⟩ := List.exists_cons_of_ne_nil (List.splitOn_ne_nil x ys)
      rw [hsplit, List.modifyHead_cons] at h
      rcases List.mem_cons.mp h with rfl | h
      · have hfirst : x ∉ first := ih (by simp [hsplit])
        simp only [List.mem_cons, not_or]
        exact ⟨fun hxy => hy (by simp [hxy]), hfirst⟩
      · exact ih (by simp [hsplit, h])

/-- Replacing one segment of a split by a separator-free one, and joining again, changes that
segment and no other. -/
theorem splitOn_intercalate_set {x : α} {xs seg : List α} {i : ℕ} (hseg : x ∉ seg) :
    ([x].intercalate ((xs.splitOn x).set i seg)).splitOn x = (xs.splitOn x).set i seg := by
  refine List.splitOn_intercalate x (fun l hl => ?_) ?_
  · rcases List.mem_or_eq_of_mem_set hl with hl | rfl
    · exact not_mem_of_mem_splitOn hl
    · exact hseg
  · rw [← List.length_pos_iff_ne_nil, List.length_set, List.length_pos_iff_ne_nil]
    exact List.splitOn_ne_nil x xs

/-- Joining is injective on nonempty lists of separator-free segments. -/
theorem intercalate_injective {x : α} {l m : List (List α)} (hl : ∀ seg ∈ l, x ∉ seg)
    (hm : ∀ seg ∈ m, x ∉ seg) (hl0 : l ≠ []) (hm0 : m ≠ [])
    (h : [x].intercalate l = [x].intercalate m) : l = m := by
  rw [← List.splitOn_intercalate x hl hl0, h, List.splitOn_intercalate x hm hm0]

end Split

theorem splitInTwo_of_not_mem {sep : Char} {s : Str} (h : sep ∉ s) :
    splitInTwo sep s = [s] := by
  have hdrop : s.dropWhile (· != sep) = [] :=
    List.dropWhile_eq_nil_iff.mpr fun c hc => by
      simpa using fun hcs : c = sep => h (hcs ▸ hc)
  rw [splitInTwo, hdrop]

/-- Cutting at the first separator, by the text on its two sides. -/
theorem splitInTwo_append {sep : Char} {a b : Str} (h : sep ∉ a) :
    splitInTwo sep (a ++ sep :: b) = [a, b] := by
  have ha : ∀ c ∈ a, (c != sep) = true := fun c hc => by
    simpa using fun hcs : c = sep => h (hcs ▸ hc)
  rw [splitInTwo, List.dropWhile_append_of_pos ha, List.takeWhile_append_of_pos ha]
  simp

/-- A string is free of the separator, or cut by its first occurrence. -/
theorem not_mem_or_eq_append (sep : Char) (s : Str) :
    sep ∉ s ∨ ∃ a b, s = a ++ sep :: b ∧ sep ∉ a := by
  by_cases h : sep ∈ s
  · obtain ⟨a, b, hs, ha⟩ := List.eq_append_cons_of_mem h
    exact Or.inr ⟨a, b, hs, ha⟩
  · exact Or.inl h

/-! ### White space and case -/

/-- A string is its trimmed text between the white space that `trim` removes. -/
theorem leading_append_trim_append_trailing (s : Str) :
    leading s ++ (trim s ++ trailing s) = s := by
  rw [trim, trailing, List.rdropWhile_append_rtakeWhile, leading,
    List.takeWhile_append_dropWhile]

theorem trim_subset (s : Str) : trim s ⊆ s := fun c hc => by
  rw [← leading_append_trim_append_trailing s]
  simp [hc]

/-- A string without white space is its own trim. -/
theorem trim_eq_self {s : Str} (h : ∀ c ∈ s, isWhiteSpace c = false) : trim s = s := by
  have hdrop : s.dropWhile isWhiteSpace = s := by
    cases s with
    | nil => rfl
    | cons c s => rw [List.dropWhile_cons_of_neg (by simp [h c (by simp)])]
  rw [trim, hdrop, List.rdropWhile_eq_self_iff]
  intro hne
  simp [h _ (List.getLast_mem hne)]

/-- Dropping characters at both ends leaves a text that neither starts nor ends with one. -/
theorem rdropWhile_dropWhile_append {p : Char → Bool} {before s after : Str}
    (hbefore : ∀ c ∈ before, p c = true) (hafter : ∀ c ∈ after, p c = true)
    (hstart : ∀ c ∈ s.head?, p c = false) (hend : ∀ c ∈ s.getLast?, p c = false) :
    ((before ++ (s ++ after)).dropWhile p).rdropWhile p = s := by
  rw [List.dropWhile_append_of_pos hbefore]
  cases s with
  | nil =>
    rw [List.nil_append, List.dropWhile_eq_nil_iff.mpr hafter]
    rfl
  | cons c s =>
    have hc : ¬ p c = true := by simp [hstart c rfl]
    have hafter' : ∀ d ∈ after.reverse, p d = true := fun d hd =>
      hafter d (List.mem_reverse.mp hd)
    have hself : (c :: s).rdropWhile p = c :: s :=
      (List.rdropWhile_eq_self_iff).mpr fun hne => by
        simp [hend _ (List.getLast?_eq_some_getLast hne)]
    rw [List.cons_append, List.dropWhile_cons_of_neg hc, ← List.cons_append, List.rdropWhile,
      List.reverse_append, List.dropWhile_append_of_pos hafter', ← List.rdropWhile, hself]

/-- Trimming takes white space off a text that neither starts nor ends with any. -/
theorem trim_append {before s after : Str} (hbefore : ∀ c ∈ before, isWhiteSpace c = true)
    (hafter : ∀ c ∈ after, isWhiteSpace c = true)
    (hstart : ∀ c ∈ s.head?, isWhiteSpace c = false)
    (hend : ∀ c ∈ s.getLast?, isWhiteSpace c = false) :
    trim (before ++ (s ++ after)) = s :=
  rdropWhile_dropWhile_append hbefore hafter hstart hend

/-- Only the lower-case ASCII letters fold. -/
theorem toUpper_of_not_lower {c : Char} (h : ¬ (97 ≤ c.toNat ∧ c.toNat ≤ 122)) :
    c.toUpper = c := by
  have hnot : ¬ (c.val ≥ 97 ∧ c.val ≤ 122) := h
  exact dif_neg hnot

theorem toNat_toUpper_of_lower {c : Char} (h : 97 ≤ c.toNat ∧ c.toNat ≤ 122) :
    c.toUpper.toNat = c.toNat - 32 := by
  have hpos : 'a'.val ≤ c.val ∧ c.val ≤ 'z'.val := h
  have hval : c.toUpper.val = c.val + ('A'.val - 'a'.val) := by
    delta Char.toUpper
    rw [dif_pos hpos]
  -- the difference of the two letters is negative, that is, 2 ^ 32 - 32
  generalize hk : 'A'.val - 'a'.val = k at hval
  have hkn : k.toNat = 4294967264 := by rw [← hk]; decide
  have hnat : c.toUpper.toNat = (c.toNat + k.toNat) % 2 ^ 32 := by
    rw [← Char.toNat_val, hval, UInt32.toNat_add, Char.toNat_val]
  omega

/-- A character that is not an upper-case letter is the folding of itself only. -/
theorem eq_of_toUpper_eq {c d : Char} (h : c.toUpper = d)
    (hd : ¬ (65 ≤ d.toNat ∧ d.toNat ≤ 90)) : c = d := by
  by_cases hc : 97 ≤ c.toNat ∧ c.toNat ≤ 122
  · have hnat := toNat_toUpper_of_lower hc
    rw [h] at hnat
    omega
  · rwa [toUpper_of_not_lower hc] at h

theorem toUpper_of_isWhiteSpace {c : Char} (h : isWhiteSpace c = true) : c.toUpper = c := by
  refine toUpper_of_not_lower fun hlower => ?_
  simp only [isWhiteSpace, Bool.or_eq_true, Bool.and_eq_true, decide_eq_true_eq,
    beq_iff_eq] at h
  omega

/-- A string that equals a text without white space up to case has no white space. -/
theorem isWhiteSpace_eq_false_of_equalsIgnoreCase {a b : Str} (h : equalsIgnoreCase a b = true)
    (hb : (toUpperInvariant b).any isWhiteSpace = false) :
    ∀ c ∈ a, isWhiteSpace c = false := by
  intro c hc
  by_contra hws
  rw [Bool.not_eq_false] at hws
  have hmem : c.toUpper ∈ toUpperInvariant a := List.mem_map_of_mem hc
  rw [equalsIgnoreCase, beq_iff_eq] at h
  rw [h, toUpper_of_isWhiteSpace hws] at hmem
  exact absurd hws (List.any_eq_false.mp hb c hmem)

theorem equalsIgnoreCase_iff {a b : Str} :
    equalsIgnoreCase a b = true ↔ toUpperInvariant a = toUpperInvariant b := by
  rw [equalsIgnoreCase, beq_iff_eq]

theorem equalsIgnoreCase_congr {a b : Str} (h : equalsIgnoreCase a b = true) :
    equalsIgnoreCase a = equalsIgnoreCase b := by
  rw [equalsIgnoreCase_iff] at h
  funext c
  rw [equalsIgnoreCase, equalsIgnoreCase, h]

end DotNet
