import Mathlib.Data.List.GetD
import Mathlib.Data.List.Infix

/-!
# Copy-on-write lists behind one reference

A list that is published by swapping a reference: a writer copies the array that it has read,
changes the copy, and replaces the reference by a compare-and-exchange. Arrays are never changed
once they are allocated, so that a reference is a position in the list of all arrays, and a
reader that has fetched the reference reads one array however long it takes.

`Grows` is what writers that append may do: arrays are only added, and the published list only
gets longer at its end. `grows_compareExchange` is the rule for the exchange. It needs no more
than the equality of references; that a reference may have come back to an earlier array
meanwhile does no harm, as an array has one content forever.
-/

universe u

/-- The arrays allocated so far, and the reference to the published one. -/
structure CopyOnWrite (α : Type u) where
  arrays : List (List α)
  current : ℕ

namespace CopyOnWrite

variable {α : Type u}

/-- One empty array, which is published. -/
def empty : CopyOnWrite α := ⟨[[]], 0⟩

/-- The content of an array. -/
def get (c : CopyOnWrite α) (r : ℕ) : List α := c.arrays.getD r []

/-- The published list. -/
def value (c : CopyOnWrite α) : List α := c.get c.current

/-- Allocate an array; its reference is the number of arrays before it. -/
def alloc (c : CopyOnWrite α) (xs : List α) : CopyOnWrite α :=
  { c with arrays := c.arrays ++ [xs] }

/-- Publish `updated` if `comparand` is still the published reference. -/
def compareExchange (c : CopyOnWrite α) (updated comparand : ℕ) : CopyOnWrite α × Bool :=
  if c.current = comparand then ({ c with current := updated }, true) else (c, false)

/-- The reference is to an array. -/
def Allocated (c : CopyOnWrite α) (r : ℕ) : Prop := r < c.arrays.length

/-- Arrays are kept, and the published list is continued. -/
structure Grows (c d : CopyOnWrite α) : Prop where
  arrays : c.arrays <+: d.arrays
  value : c.value <+: d.value

variable {c d e : CopyOnWrite α} {r updated comparand : ℕ} {xs : List α}

theorem Grows.refl (c : CopyOnWrite α) : Grows c c := ⟨List.prefix_refl _, List.prefix_refl _⟩

theorem Grows.trans (h : Grows c d) (h' : Grows d e) : Grows c e :=
  ⟨h.arrays.trans h'.arrays, h.value.trans h'.value⟩

theorem Grows.allocated (h : Grows c d) (hr : c.Allocated r) : d.Allocated r :=
  hr.trans_le h.arrays.length_le

/-- An array keeps its content. -/
theorem get_of_arrays (h : c.arrays <+: d.arrays) (hr : c.Allocated r) : d.get r = c.get r := by
  obtain ⟨later, hlater⟩ := h
  rw [get, get, ← hlater, List.getD_append _ _ _ _ hr]

theorem Grows.get (h : Grows c d) (hr : c.Allocated r) : d.get r = c.get r :=
  get_of_arrays h.arrays hr

@[simp] theorem get_alloc_length : (c.alloc xs).get c.arrays.length = xs := by
  rw [get, alloc, List.getD_append_right _ _ _ _ le_rfl, Nat.sub_self]
  rfl

theorem allocated_alloc_length : (c.alloc xs).Allocated c.arrays.length := by
  rw [Allocated, alloc, List.length_append]
  exact Nat.lt_succ_self _

/-- An allocation publishes nothing. -/
theorem grows_alloc (hcurrent : c.Allocated c.current) : Grows c (c.alloc xs) := by
  have harrays : c.arrays <+: (c.alloc xs).arrays := List.prefix_append ..
  refine ⟨harrays, ?_⟩
  have hvalue : (c.alloc xs).value = c.value := get_of_arrays harrays hcurrent
  rw [hvalue]

/-- A successful exchange. -/
theorem compareExchange_eq_true (h : (c.compareExchange updated comparand).2 = true) :
    c.current = comparand ∧
      (c.compareExchange updated comparand).1 = { c with current := updated } := by
  rw [compareExchange] at h ⊢
  split_ifs at h ⊢ with hcurrent
  exact ⟨hcurrent, rfl⟩

/-- A failed exchange. -/
theorem compareExchange_eq_false (h : (c.compareExchange updated comparand).2 = false) :
    (c.compareExchange updated comparand).1 = c := by
  rw [compareExchange] at h ⊢
  split_ifs at h ⊢
  rfl

/-- Exchanging the array that was read for one that continues it appends to the published list. -/
theorem value_compareExchange (hupdated : c.get updated = c.get comparand ++ xs)
    (h : (c.compareExchange updated comparand).2 = true) :
    (c.compareExchange updated comparand).1.value = c.value ++ xs := by
  obtain ⟨hcurrent, hexchanged⟩ := compareExchange_eq_true h
  rw [hexchanged, value, value, hcurrent]
  exact hupdated

/-- **The exchange of an extended copy**, successful or not, only continues the published list. -/
theorem grows_compareExchange (hupdated : c.get updated = c.get comparand ++ xs) :
    Grows c (c.compareExchange updated comparand).1 := by
  cases h : (c.compareExchange updated comparand).2 with
  | true =>
    refine ⟨?_, ?_⟩
    · rw [(compareExchange_eq_true h).2]
    · rw [value_compareExchange hupdated h]
      exact List.prefix_append ..
  | false =>
    rw [compareExchange_eq_false h]
    exact .refl c

end CopyOnWrite
