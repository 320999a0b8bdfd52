import Mathlib.Data.List.Nodup

/-!
# Lists of entries with distinct keys

A `KeyedList` keeps its entries in the order in which their keys came. `set` replaces the entry of
its key or appends one. Two lists are compared by what `lookup` finds: `lookup_set` says all that
`set` does. A loop that reads one key (`foldl_eq_lookup`) finds what `lookup` finds, since no key
comes twice.
-/

universe u v w

/-- A list of entries no two of which have the same key. -/
structure KeyedList (κ : Type u) (β : Type v) where
  entries : List (κ × β)
  distinct : (entries.map Prod.fst).Nodup

namespace KeyedList

variable {κ : Type u} {β : Type v} [DecidableEq κ]

/-- No entries. -/
def empty : KeyedList κ β where
  entries := []
  distinct := List.nodup_nil

/-- The value of a key. -/
def lookup (l : KeyedList κ β) (key : κ) : Option β := l.entries.lookup key

/-- Replace the value of a key, or append the entry. -/
def setEntry (key : κ) (value : β) : List (κ × β) → List (κ × β)
  | [] => [(key, value)]
  | e :: entries => if e.1 = key then (key, value) :: entries else e :: setEntry key value entries

theorem keys_setEntry (key : κ) (value : β) (entries : List (κ × β)) :
    (setEntry key value entries).map Prod.fst =
      if key ∈ entries.map Prod.fst then entries.map Prod.fst
      else entries.map Prod.fst ++ [key] := by
  induction entries with
  | nil => rfl
  | cons e entries ih =>
    by_cases he : e.1 = key
    · rw [setEntry, if_pos he, List.map_cons, List.map_cons, ← he, if_pos List.mem_cons_self]
    · rw [setEntry, if_neg he, List.map_cons, List.map_cons, ih]
      by_cases hmem : key ∈ entries.map Prod.fst
      · rw [if_pos hmem, if_pos (List.mem_cons_of_mem _ hmem)]
      · rw [if_neg hmem, if_neg (by simp only [List.mem_cons, not_or]; exact ⟨Ne.symm he, hmem⟩),
          List.cons_append]

theorem lookup_cons (k : κ) (e : κ × β) (entries : List (κ × β)) :
    (e :: entries).lookup k = if k = e.1 then some e.2 else entries.lookup k := by
  rw [List.lookup_cons]
  split_ifs with hk
  · rw [beq_iff_eq.mpr hk]
  · rw [beq_eq_false_iff_ne.mpr hk]

theorem lookup_setEntry (key k : κ) (value : β) (entries : List (κ × β)) :
    (setEntry key value entries).lookup k =
      if k = key then some value else entries.lookup k := by
  induction entries with
  | nil => rw [setEntry, lookup_cons]
  | cons e entries ih =>
    by_cases he : e.1 = key
    · rw [setEntry, if_pos he, lookup_cons, lookup_cons, he]
      split_ifs <;> rfl
    · rw [setEntry, if_neg he, lookup_cons, lookup_cons, ih]
      split_ifs with hke hk
      · exact absurd (hke ▸ hk) he
      · rfl
      · rfl
      · rfl

/-- Replace the value of a key, or append the entry. -/
def set (l : KeyedList κ β) (key : κ) (value : β) : KeyedList κ β where
  entries := setEntry key value l.entries
  distinct := by
    rw [keys_setEntry]
    split_ifs with hmem
    · exact l.distinct
    · refine List.nodup_append.mpr ⟨l.distinct, List.nodup_singleton key, ?_⟩
      rintro a ha b hb rfl
      exact hmem (List.mem_singleton.mp hb ▸ ha)

theorem lookup_set (l : KeyedList κ β) (key k : κ) (value : β) :
    (l.set key value).lookup k = if k = key then some value else l.lookup k :=
  lookup_setEntry key k value l.entries

/-- A loop over all entries that keeps a function of the value of one key. -/
theorem foldl_eq_lookup {σ : Type w} {τ : Type*} (step : σ → κ × β → σ) (view : σ → τ)
    (key : κ) (process : β → τ)
    (hstep : ∀ s e, view (step s e) = if e.1 = key then process e.2 else view s)
    (l : KeyedList κ β) (s : σ) :
    view (l.entries.foldl step s) = (l.lookup key).elim (view s) process := by
  obtain ⟨entries, hdistinct⟩ := l
  change view (entries.foldl step s) = (entries.lookup key).elim (view s) process
  induction entries generalizing s with
  | nil => rfl
  | cons e entries ih =>
    obtain ⟨hfresh, hdistinct⟩ := List.nodup_cons.mp hdistinct
    rw [List.foldl_cons, ih _ hdistinct, hstep, lookup_cons]
    by_cases he : e.1 = key
    · -- the key does not come again
      have hnone : entries.lookup key = none := by
        rw [List.lookup_eq_none_iff]
        intro e' he'
        rw [bne_iff_ne]
        rintro rfl
        exact hfresh (he ▸ List.mem_map_of_mem he')
      rw [hnone, if_pos he, if_pos he.symm, Option.elim_none, Option.elim_some]
    · rw [if_neg he, if_neg (Ne.symm he)]

end KeyedList
