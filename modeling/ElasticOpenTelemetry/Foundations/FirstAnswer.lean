import Mathlib.Data.List.Forall2

/-!
# The first of several sources that answers

A source is the set of the values that it answers with: empty when it is silent, and a single
value when it is not. `FirstOf sources v` says that `v` is an answer of the first source of a
list that is not silent. A source of last resort, such as a default, is one more source at the
end of the list.

* `firstOf_cons_iff` and `firstOf_append_iff` unfold this along the list.
* `findSome?_eq_some_iff_firstOf`: looking for the first value in a list of optional values finds
  the answer of the first source, where each optional value is what its source answers.
-/

namespace FirstAnswer

universe u v x

variable {α : Type u} {sources rest : List (α → Prop)} {source : α → Prop} {a : α}

/-- No source of the list answers. -/
def Unanswered (sources : List (α → Prop)) : Prop := ∀ source ∈ sources, ∀ w, ¬ source w

/-- `a` is an answer of the first source that is not silent. -/
def FirstOf (sources : List (α → Prop)) (a : α) : Prop :=
  ∃ before source after, sources = before ++ source :: after ∧ Unanswered before ∧ source a

theorem unanswered_nil : Unanswered ([] : List (α → Prop)) := fun _ h => absurd h List.not_mem_nil

theorem unanswered_cons_iff :
    Unanswered (source :: sources) ↔ (∀ w, ¬ source w) ∧ Unanswered sources :=
  List.forall_mem_cons

theorem not_firstOf_nil : ¬ FirstOf [] a := by
  rintro ⟨before, source, after, hnil, -, -⟩
  simp at hnil

/-- The first source answers, or it is silent and the others are asked. -/
theorem firstOf_cons_iff :
    FirstOf (source :: sources) a ↔ source a ∨ (∀ w, ¬ source w) ∧ FirstOf sources a := by
  constructor
  · rintro ⟨before, source', after, hsplit, hsilent, ha⟩
    cases before with
    | nil =>
      obtain ⟨rfl, rfl⟩ := List.cons.inj hsplit
      exact Or.inl ha
    | cons earlier before =>
      obtain ⟨rfl, rfl⟩ := List.cons.inj hsplit
      obtain ⟨hearlier, hbefore⟩ := unanswered_cons_iff.mp hsilent
      exact Or.inr ⟨hearlier, before, source', after, rfl, hbefore, ha⟩
  · rintro (ha | ⟨hsource, before, source', after, rfl, hbefore, ha⟩)
    · exact ⟨[], source, sources, rfl, unanswered_nil, ha⟩
    · exact ⟨source :: before, source', after, rfl, unanswered_cons_iff.mpr ⟨hsource, hbefore⟩, ha⟩

/-- The sources of two lists are asked one list after the other. -/
theorem firstOf_append_iff :
    FirstOf (sources ++ rest) a ↔ FirstOf sources a ∨ Unanswered sources ∧ FirstOf rest a := by
  induction sources with
  | nil => simp [not_firstOf_nil, unanswered_nil]
  | cons source sources ih =>
    rw [List.cons_append, firstOf_cons_iff, ih, firstOf_cons_iff, unanswered_cons_iff]
    tauto

/-- Answers that are all dressed in one way are the dressed answers. -/
theorem firstOf_map_dressed {σ : Type v} {β : Type x} {R : σ → α → Prop} (g : α → β) (b : β)
    (l : List σ) :
    FirstOf (l.map fun s c => ∃ a, c = g a ∧ R s a) b ↔ ∃ a, b = g a ∧ FirstOf (l.map R) a := by
  induction l with
  | nil => simp [not_firstOf_nil]
  | cons s l ih =>
    rw [List.map_cons, firstOf_cons_iff, ih, List.map_cons]
    simp only [firstOf_cons_iff]
    constructor
    · rintro (⟨a, rfl, ha⟩ | ⟨hsilent, a, rfl, ha⟩)
      · exact ⟨a, rfl, Or.inl ha⟩
      · exact ⟨a, rfl, Or.inr ⟨fun a' ha' => hsilent (g a') ⟨a', rfl, ha'⟩, ha⟩⟩
    · rintro ⟨a, rfl, ha | ⟨hsilent, ha⟩⟩
      · exact Or.inl ⟨a, rfl, ha⟩
      · exact Or.inr ⟨fun _ ⟨a', _, ha'⟩ => hsilent a' ha', a, rfl, ha⟩

/-! ### Looking for the first value -/

section Search

variable {answers : List (Option α)}

/-- Each optional value is what its source answers. -/
def Answers (answers : List (Option α)) (sources : List (α → Prop)) : Prop :=
  List.Forall₂ (fun answer source => ∀ w, answer = some w ↔ source w) answers sources

/-- The first value of a list of optional values is the answer of the first source. -/
theorem findSome?_eq_some_iff_firstOf (h : Answers answers sources) :
    answers.findSome? id = some a ↔ FirstOf sources a := by
  induction h with
  | nil => simp [not_firstOf_nil]
  | @cons answer source answers sources hsource _ ih =>
    rw [List.findSome?_cons, firstOf_cons_iff, ← ih]
    cases answer with
    | none =>
      have hsilent : ∀ w, ¬ source w := fun w hw => absurd ((hsource w).mpr hw) (by simp)
      simp [hsilent]
    | some w =>
      have hw : source w := (hsource w).mp rfl
      simp only [id_eq, ← hsource a]
      exact ⟨Or.inl, fun ha => ha.resolve_right fun hsilent => hsilent.1 w hw⟩

/-- There is no value when every source is silent. -/
theorem findSome?_eq_none_iff_unanswered (h : Answers answers sources) :
    answers.findSome? id = none ↔ Unanswered sources := by
  induction h with
  | nil => simp [unanswered_nil]
  | @cons answer source answers sources hsource _ ih =>
    rw [List.findSome?_cons, unanswered_cons_iff, ← ih]
    cases answer with
    | none =>
      have hsilent : ∀ w, ¬ source w := fun w hw => absurd ((hsource w).mpr hw) (by simp)
      simp [hsilent]
    | some w =>
      have hw : source w := (hsource w).mp rfl
      simp only [id_eq, reduceCtorEq, false_iff, not_and]
      exact fun hsilent => absurd hw (hsilent w)

/-- A default is a source at the end. It only has to be right when the others are silent. -/
theorem getD_findSome?_eq_iff_firstOf (h : Answers answers sources) {d : α}
    (hd : Unanswered sources → ∀ w, d = w ↔ source w) :
    (answers.findSome? id).getD d = a ↔ FirstOf (sources ++ [source]) a := by
  have hlast : FirstOf [source] a ↔ source a := by simp [firstOf_cons_iff, not_firstOf_nil]
  rw [firstOf_append_iff, hlast, ← findSome?_eq_some_iff_firstOf h]
  cases hfound : answers.findSome? id with
  | none =>
    have hsilent := (findSome?_eq_none_iff_unanswered h).mp hfound
    simp [hsilent, hd hsilent a]
  | some w =>
    have hsome : ¬ Unanswered sources := fun hsilent => by
      rw [(findSome?_eq_none_iff_unanswered h).mpr hsilent] at hfound
      exact absurd hfound (by simp)
    simp [hsome]

variable {σ : Type v} {f : σ → Option α} {R : σ → α → Prop}

/-- A partial function answers with its values. -/
theorem answers_map (h : ∀ s w, f s = some w ↔ R s w) (l : List σ) :
    Answers (l.map f) (l.map R) := by
  induction l with
  | nil => exact List.Forall₂.nil
  | cons s l ih => exact List.Forall₂.cons (h s) ih

/-- The first value of a partial function along a list. -/
theorem findSome?_eq_some_iff_firstOf_map (h : ∀ s w, f s = some w ↔ R s w) (l : List σ) :
    l.findSome? f = some a ↔ FirstOf (l.map R) a := by
  rw [← findSome?_eq_some_iff_firstOf (answers_map h l), List.findSome?_map, Function.id_comp]

end Search

end FirstAnswer
