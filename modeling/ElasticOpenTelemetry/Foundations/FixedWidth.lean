import Mathlib.Algebra.BigOperators.Group.List.Basic
import Mathlib.Algebra.Ring.Nat
import Mathlib.Data.List.Forall2

/-!
# Numerals of a fixed width

`padded width n` writes a number in decimal with leading zeros. A *layout* is a list of widths,
each with the character that stands after the numeral, such as a date has. `write` writes numbers
in a layout and `read` reads them back from the front of a text (`read_write`).
-/

namespace FixedWidth

/-- A number in decimal, with zeros in front up to the width. -/
def padded (width n : ℕ) : List Char :=
  List.replicate (width - (Nat.toDigits 10 n).length) '0' ++ Nat.toDigits 10 n

theorem length_padded_of_le {width n : ℕ} (h : (Nat.toDigits 10 n).length ≤ width) :
    (padded width n).length = width := by
  rw [padded, List.length_append, List.length_replicate]
  omega

theorem length_padded {width n : ℕ} (hwidth : 0 < width) (h : n < 10 ^ width) :
    (padded width n).length = width :=
  length_padded_of_le ((Nat.length_toDigits_le_iff (by decide) hwidth).mpr h)

theorem isDigit_of_mem_padded {width n : ℕ} {c : Char} (h : c ∈ padded width n) :
    c.isDigit = true := by
  rcases List.mem_append.mp h with h | h
  · rw [List.eq_of_mem_replicate h]
    rfl
  · exact Nat.isDigit_of_mem_toDigits (by decide) (by decide) h

theorem ofDigitChars_padded (width n : ℕ) : Nat.ofDigitChars 10 (padded width n) 0 = n := by
  rw [padded, Nat.ofDigitChars_append, Nat.ofDigitChars_replicate_zero, Nat.mul_zero,
    Nat.ofDigitChars_ten_toDigits]

/-! ### Layouts -/

/-- The widths of the numerals, each with the character after it. -/
abbrev Layout := List (ℕ × Char)

/-- The numbers have room in the layout. -/
def Fits (layout : Layout) (values : List ℕ) : Prop :=
  List.Forall₂ (fun field value => 0 < field.1 ∧ value < 10 ^ field.1) layout values

def write : Layout → List ℕ → List Char
  | (width, c) :: layout, value :: values => padded width value ++ c :: write layout values
  | _, _ => []

/-- The numbers at the front of a text, and the rest of the text. -/
def read : Layout → List Char → Option (List ℕ × List Char)
  | [], text => some ([], text)
  | (width, c) :: layout, text =>
    if (text.take width).all Char.isDigit && text[width]? = some c then
      (read layout (text.drop (width + 1))).map fun r =>
        (Nat.ofDigitChars 10 (text.take width) 0 :: r.1, r.2)
    else none

theorem read_write {layout : Layout} {values : List ℕ} (h : Fits layout values)
    (rest : List Char) : read layout (write layout values ++ rest) = some (values, rest) := by
  induction h with
  | nil => rfl
  | @cons field value layout values hfits _ ih =>
    obtain ⟨width, c⟩ := field
    have hlength : (padded width value).length = width := length_padded hfits.1 hfits.2
    have htake : (padded width value ++ c :: (write layout values ++ rest)).take width =
        padded width value := List.take_left' hlength
    have hdrop : (padded width value ++ c :: (write layout values ++ rest)).drop (width + 1) =
        write layout values ++ rest := by
      rw [← List.drop_drop, List.drop_left' hlength]
      rfl
    have hget : (padded width value ++ c :: (write layout values ++ rest))[width]? = some c := by
      rw [List.getElem?_append_right (Nat.le_of_eq hlength), hlength, Nat.sub_self]
      rfl
    have hdigits : (padded width value).all Char.isDigit = true :=
      List.all_eq_true.mpr fun _ => isDigit_of_mem_padded
    rw [write, List.append_assoc, List.cons_append, read, htake, hdrop, hget, hdigits, ih,
      ofDigitChars_padded, decide_eq_true rfl, Bool.and_self, if_pos rfl, Option.map_some]

/-- What is written: digits, and the characters of the layout. -/
theorem mem_write {layout : Layout} {values : List ℕ} {c : Char} (h : c ∈ write layout values) :
    c.isDigit = true ∨ c ∈ layout.map Prod.snd := by
  induction layout generalizing values with
  | nil => simp [write] at h
  | cons field layout ih =>
    obtain ⟨width, d⟩ := field
    match values, h with
    | value :: values, h =>
      simp only [write, List.mem_append, List.mem_cons] at h
      rcases h with h | rfl | h
      · exact .inl (isDigit_of_mem_padded h)
      · simp
      · exact (ih h).imp_right (List.mem_cons_of_mem _)

end FixedWidth
