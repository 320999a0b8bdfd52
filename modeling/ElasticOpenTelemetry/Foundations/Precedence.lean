import Mathlib.Order.Lattice

/-!
# Cells assigned by sources of different precedence

A `Cell κ β` holds a value and the source it came from; sources are linearly ordered, and an
assignment by a source of lower precedence than the current one is ignored. An *offer* is an
optional value from a source: a source that supplies nothing offers `none`.

`offers_of_max` is the law of such cells: after any list of offers, in any order, the cell holds
the value of the greatest offering source. It does not fix the order in which the sources are
consulted, which is what a program that reads them in an order other than their precedence relies
on.
-/

namespace Precedence

universe u v

/-- A value and the source that supplied it. -/
structure Cell (κ : Type u) (β : Type v) where
  /-- the current value -/
  value : β
  /-- the source of the current value -/
  source : κ

variable {κ : Type u} {β : Type v} [LinearOrder κ]

namespace Cell

/-- Assign `v` from the source `k`, unless the current source has precedence over `k`. -/
def assign (c : Cell κ β) (v : β) (k : κ) : Cell κ β := if k < c.source then c else ⟨v, k⟩

theorem assign_of_lt {c : Cell κ β} {k : κ} (h : k < c.source) (v : β) : c.assign v k = c :=
  if_pos h

theorem assign_of_le {c : Cell κ β} {k : κ} (h : c.source ≤ k) (v : β) : c.assign v k = ⟨v, k⟩ :=
  if_neg h.not_gt

theorem source_assign (c : Cell κ β) (v : β) (k : κ) : (c.assign v k).source = max c.source k := by
  rcases lt_or_ge k c.source with h | h
  · rw [assign_of_lt h, max_eq_left h.le]
  · rw [assign_of_le h, max_eq_right h]

/-- Take an offer: an absent value leaves the cell alone. -/
def offer (c : Cell κ β) (o : κ × Option β) : Cell κ β :=
  match o.2 with
  | none => c
  | some v => c.assign v o.1

@[simp] theorem offer_none (c : Cell κ β) (k : κ) : c.offer (k, none) = c := rfl

@[simp] theorem offer_some (c : Cell κ β) (k : κ) (v : β) :
    c.offer (k, some v) = c.assign v k := rfl

/-- An offer that changes the cell has put its own value into it. -/
theorem offer_cases (c : Cell κ β) (o : κ × Option β) :
    c.offer o = c ∨ ∃ v, o.2 = some v ∧ c.offer o = ⟨v, o.1⟩ := by
  obtain ⟨k, v⟩ := o
  cases v with
  | none => exact .inl rfl
  | some v =>
    rcases lt_or_ge k c.source with hlt | hle
    · exact .inl (assign_of_lt hlt v)
    · exact .inr ⟨v, rfl, assign_of_le hle v⟩

theorem offer_of_lt {c : Cell κ β} {o : κ × Option β} (h : o.1 < c.source) : c.offer o = c := by
  obtain ⟨k, v⟩ := o
  cases v with
  | none => rfl
  | some v => exact assign_of_lt h v

/-- An offer raises the source no further than the offering one. -/
theorem source_offer_le {c : Cell κ β} {o : κ × Option β} {k : κ} (hc : c.source ≤ k)
    (ho : o.1 ≤ k) : (c.offer o).source ≤ k := by
  obtain ⟨k', v⟩ := o
  cases v with
  | none => exact hc
  | some v =>
    rw [offer_some, source_assign]
    exact max_le hc ho

/-- A cell that holds `v` from `k` keeps it against offers of lower precedence, and against
further offers of `v` from `k`. -/
private theorem offers_of_holds {k : κ} {v : β} {l : List (κ × Option β)}
    (h : ∀ o ∈ l, ∀ w, o.2 = some w → o.1 < k ∨ o.1 = k ∧ w = v) :
    l.foldl offer ⟨v, k⟩ = ⟨v, k⟩ := by
  induction l with
  | nil => rfl
  | cons o l ih =>
    obtain ⟨k', w⟩ := o
    have hrest := ih fun o ho => h o (by simp [ho])
    cases w with
    | none => simpa using hrest
    | some w =>
      rw [List.foldl_cons, offer_some]
      rcases h (k', some w) (by simp) w rfl with hlt | ⟨hk, hw⟩
      · have hlt' : k' < k := hlt
        rw [assign_of_lt (c := ⟨v, k⟩) hlt' w]
        exact hrest
      · obtain rfl : k' = k := hk
        subst hw
        rw [assign_of_le (c := ⟨w, k'⟩) le_rfl w]
        exact hrest

/-- **The greatest offering source wins**, in whatever order the offers are made. -/
theorem offers_of_max {k : κ} {v : β} {l : List (κ × Option β)} (hmem : (k, some v) ∈ l)
    (hmax : ∀ o ∈ l, ∀ w, o.2 = some w → o.1 < k ∨ o.1 = k ∧ w = v) {c : Cell κ β}
    (hc : c.source ≤ k) : l.foldl offer c = ⟨v, k⟩ := by
  induction l generalizing c with
  | nil => simp at hmem
  | cons o l ih =>
    have hrest : ∀ o ∈ l, ∀ w, o.2 = some w → o.1 < k ∨ o.1 = k ∧ w = v :=
      fun o ho => hmax o (by simp [ho])
    rw [List.foldl_cons]
    by_cases ho : o = (k, some v)
    · subst ho
      rw [offer_some, assign_of_le hc]
      exact offers_of_holds hrest
    · have hmem' : (k, some v) ∈ l := (List.mem_cons.mp hmem).resolve_left (Ne.symm ho)
      refine ih hmem' hrest ?_
      obtain ⟨k', w⟩ := o
      cases w with
      | none => exact hc
      | some w =>
        refine source_offer_le hc ?_
        rcases hmax (k', some w) (by simp) w rfl with hlt | ⟨hk, -⟩
        · exact hlt.le
        · exact hk.le

end Cell

end Precedence
