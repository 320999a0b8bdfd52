import Mathlib.Data.List.Nodup

/-!
# The order of two entries of a list

`Before l a b` states that a list has `a` and, further behind, `b`. Logs and queues grow at their
end, so that their order is decided by what is there when an entry comes (`before_concat`); in a
list without repetitions the one that comes first stays first (`not_before`). Leaving out other
entries does not change the order of two (`before_filter_iff`).
-/

namespace ListOrder

universe u v

variable {α : Type u} {β : Type v} {a b : α} {l m : List α}

/-- The list has `a` and, further behind, `b`. -/
def Before (l : List α) (a b : α) : Prop := List.Sublist [a, b] l

/-- An entry that is there is before one that comes. -/
theorem before_concat (h : a ∈ l) : Before (l ++ [b]) a b :=
  (List.singleton_sublist.mpr h).append (List.Sublist.refl [b])

theorem Before.append (h : Before l a b) (m : List α) : Before (l ++ m) a b :=
  h.trans (List.sublist_append_left l m)

theorem Before.mem_right (h : Before l a b) : b ∈ l :=
  h.subset (List.mem_cons_of_mem a List.mem_cons_self)

theorem mem_or_before (h : Before (l ++ m) a b) : a ∈ l ∨ Before m a b := by
  obtain ⟨l', m', heq, hl, hm⟩ := List.sublist_append_iff.mp h
  cases l' with
  | nil =>
    right
    rw [Before, heq]
    exact hm
  | cons x l' =>
    obtain rfl : a = x := (List.cons.inj heq).1
    exact .inl (hl.subset List.mem_cons_self)

/-- What comes before the only place of an entry. -/
theorem mem_of_before (hnodup : (l ++ b :: m).Nodup) (hne : a ≠ b)
    (h : Before (l ++ b :: m) a b) : a ∈ l := by
  refine (mem_or_before h).resolve_right fun hrest => ?_
  obtain ⟨hb, -⟩ := List.nodup_cons.mp (List.nodup_append.mp hnodup).2.1
  cases hrest with
  | cons _ hm => exact hb (Before.mem_right hm)
  | cons_cons _ _ => exact hne rfl

/-- An entry that is not there yet does not come before one that is. -/
theorem not_before (hnodup : (l ++ m).Nodup) (hb : b ∈ l) (ha : a ∉ l) : ¬Before (l ++ m) a b := by
  intro h
  have hm := (mem_or_before h).resolve_left ha
  exact (List.nodup_append.mp hnodup).2.2 b hb b hm.mem_right rfl

/-- Leaving out other entries does not change the order of two. -/
theorem before_filter_iff {f : β → α} {p : β → Bool} {l : List β} (hnodup : (l.map f).Nodup)
    (ha : a ∈ (l.filter p).map f) (hb : b ∈ (l.filter p).map f) :
    Before ((l.filter p).map f) a b ↔ Before (l.map f) a b := by
  refine ⟨fun h => h.trans (List.filter_sublist.map f), fun h => ?_⟩
  -- an entry comes from one place, so that the places of the two are not left out
  have hkept : ∀ x ∈ l, f x ∈ (l.filter p).map f → p x = true := by
    intro x hx hfx
    obtain ⟨y, hy, hyx⟩ := List.mem_map.mp hfx
    obtain ⟨hy, hp⟩ := List.mem_filter.mp hy
    rwa [← List.inj_on_of_nodup_map hnodup hy hx hyx]
  obtain ⟨l', hl', heq⟩ := List.sublist_map_iff.mp h
  have hall : ∀ x ∈ l', p x = true := by
    intro x hx
    refine hkept x (hl'.subset hx) ?_
    have hfx : f x ∈ [a, b] := heq ▸ List.mem_map_of_mem hx
    rcases List.mem_pair.mp hfx with hfx | hfx
    · rwa [hfx]
    · rwa [hfx]
  rw [Before, heq, ← List.filter_eq_self.mpr hall]
  exact (hl'.filter p).map f

end ListOrder
