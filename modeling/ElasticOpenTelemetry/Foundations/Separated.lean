import Mathlib.Data.List.Basic

/-!
# Entries between separators

A text format that lists entries between separators, and that readers read by splitting at the
separators and taking each piece for itself. An entry has a mark in it that tells it from other
text, such as empty pieces, which the reader passes over.

`filterMap_splitOn_render` reduces the round trip of such a format to the round trip of one entry.
-/

namespace Separated

universe u v w

variable {γ : Type u} {sep mark : γ} {α : Type v} {β : Type w}

/-- A piece between two separators: an entry, or text that contains neither the separator nor
the mark. -/
inductive Piece (sep mark : γ) (α : Type v)
  | entry (a : α)
  | other (text : List γ) (sep_notMem : sep ∉ text) (mark_notMem : mark ∉ text)

/-- The piece as it is written, `text` writing an entry. -/
def Piece.text (text : α → List γ) : Piece sep mark α → List γ
  | .entry a => text a
  | .other text _ _ => text

/-- The entry that the piece is. -/
def Piece.entry? : Piece sep mark α → Option α
  | .entry a => some a
  | .other _ _ _ => none

/-- The pieces joined by the separator. -/
def render (text : α → List γ) (pieces : List (Piece sep mark α)) : List γ :=
  [sep].intercalate (pieces.map (Piece.text text))

/-- The entries among the pieces, in order. -/
def entries (pieces : List (Piece sep mark α)) : List α := pieces.filterMap Piece.entry?

variable [BEq γ] [LawfulBEq γ]

/-- Splitting undoes joining, but that no pieces read as an empty one. -/
theorem filterMap_splitOn_intercalate {f : List γ → Option β} (hempty : f [] = none)
    {pieces : List (List γ)} (h : ∀ piece ∈ pieces, sep ∉ piece) :
    (([sep].intercalate pieces).splitOn sep).filterMap f = pieces.filterMap f := by
  cases pieces with
  | nil => simp [List.intercalate, hempty]
  | cons piece pieces => rw [List.splitOn_intercalate sep h (by simp)]

/-- **Round trip of the entries.** A reader that reads an entry as `g` says, and nothing from text
without the mark, reads a rendering as `g` says of its entries, in order. -/
theorem filterMap_splitOn_render {text : α → List γ} {f : List γ → Option β} {g : α → Option β}
    (htext : ∀ a, sep ∉ text a) (hentry : ∀ a, f (text a) = g a)
    (hother : ∀ piece, mark ∉ piece → f piece = none) (pieces : List (Piece sep mark α)) :
    ((render text pieces).splitOn sep).filterMap f = (entries pieces).filterMap g := by
  have hsep : ∀ piece ∈ pieces.map (Piece.text text), sep ∉ piece := by
    intro piece hpiece
    obtain ⟨p, -, rfl⟩ := List.mem_map.mp hpiece
    cases p with
    | entry a => exact htext a
    | other text hsep _ => exact hsep
  rw [render, filterMap_splitOn_intercalate (hother [] (by simp)) hsep, entries,
    List.filterMap_map, List.filterMap_filterMap]
  refine List.filterMap_congr fun p _ => ?_
  cases p with
  | entry a => exact hentry a
  | other text _ hmark => exact hother text hmark

end Separated
