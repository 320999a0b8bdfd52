import Mathlib.Data.List.Basic

/-!
# The occurrences of a pattern, counted from left to right

A search for a pattern that goes on behind each occurrence it has found meets the occurrences
that do not overlap an earlier one it has met. `Counted pattern xs i` says that it meets one at
position `i`. `counted_iff` unfolds this along the search: the first occurrence, and then those
that are counted behind it.
-/

namespace Occurrences

universe u

variable {α : Type u} (pattern : List α)

/-- The pattern occurs at position `i`. -/
def At (xs : List α) (i : ℕ) : Prop := pattern <+: xs.drop i

/-- Position `i` is that of the first occurrence that begins at `start` or behind it. -/
structure IsNext (xs : List α) (start i : ℕ) : Prop where
  start_le : start ≤ i
  occurs : At pattern xs i
  first : ∀ j, start ≤ j → j < i → ¬ At pattern xs j

/-- An occurrence at position `i` is counted: it is the first one, or the first one that begins
where an earlier counted one has ended or behind that. -/
inductive Counted (xs : List α) : ℕ → Prop
  | first {i : ℕ} (here : IsNext pattern xs 0 i) : Counted xs i
  | next {i j : ℕ} (earlier : Counted xs i)
      (here : IsNext pattern xs (i + pattern.length) j) : Counted xs j

variable {pattern} {xs : List α} {start i j k : ℕ}

theorem at_drop : At pattern (xs.drop k) i ↔ At pattern xs (k + i) := by
  rw [At, At, List.drop_drop]

theorem isNext_drop :
    IsNext pattern (xs.drop k) start i ↔ IsNext pattern xs (k + start) (k + i) := by
  constructor
  · rintro ⟨hle, hoccurs, hfirst⟩
    refine ⟨Nat.add_le_add_left hle k, at_drop.mp hoccurs, fun j hj hji hat => ?_⟩
    obtain ⟨l, rfl⟩ := Nat.exists_eq_add_of_le (show k ≤ j by omega)
    exact hfirst l (by omega) (by omega) (at_drop.mpr hat)
  · rintro ⟨hle, hoccurs, hfirst⟩
    exact ⟨by omega, at_drop.mpr hoccurs, fun j hj hji hat =>
      hfirst (k + j) (by omega) (by omega) (at_drop.mp hat)⟩

theorem IsNext.unique (hi : IsNext pattern xs start i) (hj : IsNext pattern xs start j) :
    i = j := by
  rcases Nat.lt_trichotomy i j with hlt | heq | hgt
  · exact absurd hi.occurs (hj.first i hi.start_le hlt)
  · exact heq
  · exact absurd hj.occurs (hi.first j hj.start_le hgt)

theorem not_counted (h : ∀ i, ¬ At pattern xs i) : ¬ Counted pattern xs j := by
  rintro (hfirst | ⟨-, hnext⟩)
  · exact h j hfirst.occurs
  · exact h j hnext.occurs

/-- **The counted occurrences along the search**: the first occurrence, and those that are counted
in what follows it. -/
theorem counted_iff (h : IsNext pattern xs 0 i) :
    Counted pattern xs j ↔ j = i ∨
      ∃ k, Counted pattern (xs.drop (i + pattern.length)) k ∧ j = i + pattern.length + k := by
  constructor
  · intro hj
    induction hj with
    | first hfirst => exact Or.inl (hfirst.unique h)
    | @next l m _ hnext ih =>
      -- `m` is the occurrence behind `l`, which is the first one or is counted behind it
      right
      rcases ih with rfl | ⟨k, hk, rfl⟩
      · obtain ⟨k, rfl⟩ := Nat.exists_eq_add_of_le hnext.start_le
        exact ⟨k, .first (isNext_drop.mpr hnext), rfl⟩
      · obtain ⟨d, rfl⟩ := Nat.exists_eq_add_of_le hnext.start_le
        refine ⟨k + pattern.length + d, .next hk (isNext_drop.mpr ?_), by omega⟩
        simpa only [Nat.add_assoc] using hnext
  · rintro (rfl | ⟨k, hk, rfl⟩)
    · exact .first h
    · induction hk with
      | first hfirst => exact .next (.first h) (isNext_drop.mp hfirst)
      | @next l m _ hnext ih =>
        refine .next ih ?_
        simpa only [Nat.add_assoc] using isNext_drop.mp hnext

end Occurrences
