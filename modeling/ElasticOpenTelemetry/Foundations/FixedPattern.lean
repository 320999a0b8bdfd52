import Mathlib.Data.List.Basic

/-!
# Patterns of a fixed length

A regular expression without alternatives and without repetitions of a variable number is a list
of classes of symbols, one for each position. `fits` says that a text has a symbol of the right
class in every position; it is compositional (`fits_append`), so that the part of a text that a
part of the pattern stands for is found by counting (`fits_slice`).

`matchesWhole` is such a pattern between `^` and `$`, where `$` also matches before a line feed
that ends the text.
-/

namespace FixedPattern

universe u

variable {α : Type u}

/-- A class of symbols for each position. -/
abbrev Pattern (α : Type u) := List (α → Bool)

/-- The text has a symbol of its class in every position, and no others. -/
def fits : Pattern α → List α → Bool
  | [], [] => true
  | c :: pattern, a :: text => c a && fits pattern text
  | _, _ => false

/-- The pattern between `^` and `$`. -/
def matchesWhole (pattern : Pattern Char) (text : List Char) : Bool :=
  fits pattern text || (text.getLast? == some '\n' && fits pattern text.dropLast)

variable {p q r : Pattern α} {s : List α}

theorem length_of_fits (h : fits p s = true) : s.length = p.length := by
  induction p generalizing s with
  | nil =>
    cases s with
    | nil => rfl
    | cons a s => cases h
  | cons c p ih =>
    cases s with
    | nil => cases h
    | cons a s =>
      rw [fits, Bool.and_eq_true] at h
      rw [List.length_cons, List.length_cons, ih h.2]

/-- A text fits two patterns in sequence when it is cut at the length of the first. -/
theorem fits_append :
    fits (p ++ q) s = true ↔ fits p (s.take p.length) = true ∧ fits q (s.drop p.length) = true := by
  induction p generalizing s with
  | nil => simp [fits]
  | cons c p ih =>
    cases s with
    | nil => simp [fits]
    | cons a s =>
      simp only [List.cons_append, fits, Bool.and_eq_true, List.length_cons, List.take_succ_cons,
        List.drop_succ_cons, ih, and_assoc]

/-- The part of the text that a part of the pattern stands for. -/
theorem fits_slice (h : fits (p ++ (q ++ r)) s = true) :
    fits q ((s.drop p.length).take q.length) = true :=
  (fits_append.mp (fits_append.mp h).2).1

/-- A text ends in a symbol of the last class. -/
theorem getLast?_of_fits {c : α → Bool} (h : fits (p ++ [c]) s = true) :
    ∃ a, s.getLast? = some a ∧ c a = true := by
  have hlast := (fits_append.mp h).2
  obtain ⟨a, ha⟩ := List.length_eq_one_iff.mp (length_of_fits hlast)
  have hs : s.take p.length ++ [a] = s := by rw [← ha, List.take_append_drop]
  refine ⟨a, ?_, ?_⟩
  · rw [← hs, List.getLast?_concat]
  · rw [ha] at hlast
    simpa [fits] using hlast

/-- Every symbol of a part that repeats one class is of that class. -/
theorem forall_of_fits_replicate {c : α → Bool} {n : ℕ} (h : fits (List.replicate n c) s = true) :
    ∀ a ∈ s, c a = true := by
  induction n generalizing s with
  | zero =>
    cases s with
    | nil => exact nofun
    | cons a s => cases h
  | succ n ih =>
    cases s with
    | nil => exact nofun
    | cons a s =>
      rw [List.replicate_succ, fits, Bool.and_eq_true] at h
      intro b hb
      rcases List.mem_cons.mp hb with rfl | hb
      · exact h.1
      · exact ih h.2 b hb

/-- A whole match is the pattern, or the pattern and a line feed. -/
theorem matchesWhole_iff {pattern : Pattern Char} {text : List Char} :
    matchesWhole pattern text = true ↔
      fits pattern text = true ∨ ∃ body, text = body ++ ['\n'] ∧ fits pattern body = true := by
  rw [matchesWhole, Bool.or_eq_true, Bool.and_eq_true, beq_iff_eq]
  refine or_congr_right ⟨fun ⟨hlast, hfits⟩ => ?_, ?_⟩
  · have hne : text ≠ [] := by
      rintro rfl
      cases hlast
    refine ⟨text.dropLast, ?_, hfits⟩
    rw [List.getLast?_eq_some_getLast hne] at hlast
    rw [← Option.some.inj hlast, List.dropLast_append_getLast]
  · rintro ⟨body, rfl, hfits⟩
    rw [List.getLast?_concat, List.dropLast_concat]
    exact ⟨rfl, hfits⟩

end FixedPattern
