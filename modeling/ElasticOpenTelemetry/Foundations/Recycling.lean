import ElasticOpenTelemetry.Foundations.Faults
import Mathlib.Data.Set.Insert

/-!
# Recycling objects

Making an object is expensive, so one that is no longer in use is kept, and handed out again to the
next who asks. What its users see must not depend on that: an object that is handed out looks new
(`Kind.view_create`, `Kind.view_clear`), and one in use is not handed out to anyone else.

`Gives m result` says that a program has a result whatever is kept, and leaves alone the objects
that others have in use: the frame is part of the judgment. `Uses` is the judgment for the part of
a program between acquiring an object and releasing it. Any program that is judged by `Gives` may
stand in that part, so that uses may be nested.
-/

namespace Recycling

open Faults

variable {κ δ γ ε α β : Type}

/-- A kind of objects `δ`, requested by `κ`, of which users see `γ`. -/
structure Kind (κ δ γ : Type) where
  view : δ → γ
  /-- what users see of a new object -/
  empty : γ
  create : κ → δ
  clear : δ → δ
  /-- the object is good enough for the request -/
  serves : κ → δ → Bool
  /-- the object may be kept -/
  keeps : δ → Bool
  view_create : ∀ request, view (create request) = empty
  view_clear : ∀ object, view (clear object) = empty

/-- The objects that were made, by number, and the one that is kept. -/
structure Store (δ : Type) where
  objects : ℕ → δ
  size : ℕ
  cached : Option ℕ

section Programs

variable (kind : Kind κ δ γ)

/-- Take the object that is kept, if it serves the request, or make one. -/
def acquire (request : κ) : Program ε (Store δ) ℕ := do
  let s ← get
  match s.cached.filter fun r => kind.serves request (s.objects r) with
  | some r =>
    set { s with objects := Function.update s.objects r (kind.clear (s.objects r)), cached := none }
    pure r
  | none =>
    set { s with objects := Function.update s.objects s.size (kind.create request),
                 size := s.size + 1 }
    pure s.size

/-- Change an object. -/
def use (r : ℕ) (f : δ → δ) : Program ε (Store δ) PUnit :=
  modify fun s => { s with objects := Function.update s.objects r (f (s.objects r)) }

/-- Keep an object, if it may be kept. -/
def release (r : ℕ) : Program ε (Store δ) PUnit :=
  modify fun s => if kind.keeps (s.objects r) then { s with cached := some r } else s

/-- Look at an object. -/
def look (r : ℕ) : Program ε (Store δ) γ := do
  let s ← get
  pure (kind.view (s.objects r))

/-- Look at an object for the last time, and release it. -/
def finish (r : ℕ) : Program ε (Store δ) γ := do
  let x ← look kind r
  release kind r
  pure x

/-- Run a program, and catch its exception. -/
def attempt (m : Program ε (Store δ) α) : Program ε (Store δ) (Except ε α) :=
  ExceptT.mk do
    let x ← m.run
    pure (.ok x)

end Programs

/-! ### Judgments -/

/-- The objects in `live` are in use, and so not kept. -/
structure Safe (kind : Kind κ δ γ) (live : Set ℕ) (s : Store δ) : Prop where
  lt_size : ∀ r ∈ live, r < s.size
  not_cached : ∀ r ∈ live, s.cached ≠ some r
  cached_lt : ∀ r ∈ s.cached, r < s.size
  cached_keeps : ∀ r ∈ s.cached, kind.keeps (s.objects r) = true

/-- Nothing has happened to the objects in `live`. -/
structure Kept (kind : Kind κ δ γ) (live : Set ℕ) (s t : Store δ) : Prop where
  safe : Safe kind live t
  same : ∀ r ∈ live, t.objects r = s.objects r

/-- The program gives `result`, and leaves all objects in use alone. -/
def Gives (kind : Kind κ δ γ) (m : Program ε (Store δ) α) (result : Except ε α) : Prop :=
  ∀ live s, Safe kind live s → ∃ t, m.run s = (result, t) ∧ Kept kind live s t

/-- The same for a program that has the object `r` in use, which is `d`. If it still has it
afterwards, `after` says what has become of it. -/
def Uses (kind : Kind κ δ γ) (r : ℕ) (d : δ) (m : Program ε (Store δ) α) (result : Except ε α)
    (after : Option δ) : Prop :=
  ∀ live s, r ∉ live → Safe kind (insert r live) s → s.objects r = d →
    ∃ t, m.run s = (result, t) ∧ Kept kind live s t ∧
      ∀ d' ∈ after, Safe kind (insert r live) t ∧ t.objects r = d'

variable {kind : Kind κ δ γ} {live : Set ℕ} {s t u : Store δ} {r : ℕ} {d d' : δ}
  {m : Program ε (Store δ) α} {k : α → Program ε (Store δ) β} {a : α} {e : ε}
  {result : Except ε β} {after : Option δ}

theorem Safe.mono {live' : Set ℕ} (h : Safe kind live s) (hsub : live' ⊆ live) :
    Safe kind live' s where
  lt_size r hr := h.lt_size r (hsub hr)
  not_cached r hr := h.not_cached r (hsub hr)
  cached_lt := h.cached_lt
  cached_keeps := h.cached_keeps

theorem Kept.trans (hst : Kept kind live s t) (htu : Kept kind live t u) : Kept kind live s u where
  safe := htu.safe
  same r hr := (htu.same r hr).trans (hst.same r hr)

/-- A change to one object is no change to the others. -/
theorem update_of_mem (hr : r ∉ live) (objects : ℕ → δ) (d : δ) :
    ∀ q ∈ live, Function.update objects r d q = objects q := by
  intro q hq
  refine Function.update_of_ne ?_ ..
  rintro rfl
  exact hr hq

theorem safe_empty (objects : ℕ → δ) : Safe kind ∅ { objects := objects, size := 0, cached := none }
    where
  lt_size _ := nofun
  not_cached _ := nofun
  cached_lt := nofun
  cached_keeps := nofun

/-! ### Rules -/

theorem gives_pure (a : α) : Gives kind (pure a : Program ε (Store δ) α) (.ok a) :=
  fun _ s hs => ⟨s, rfl, hs, fun _ _ => rfl⟩

theorem gives_ofExcept (x : Except ε α) :
    Gives kind (MonadExcept.ofExcept x : Program ε (Store δ) α) x := by
  intro live s hs
  refine ⟨s, ?_, hs, fun _ _ => rfl⟩
  cases x <;> rfl

theorem Gives.attempt {result : Except ε α} (hm : Gives kind m result) :
    Gives kind (attempt m) (.ok result) := by
  intro live s hs
  obtain ⟨t, hrun, ht⟩ := hm live s hs
  refine ⟨t, ?_, ht⟩
  change (match m.run s with
    | (x, t) => (Except.ok x, t)) = _
  rw [hrun]

theorem Gives.bind (hm : Gives kind m (.ok a)) (hk : Gives kind (k a) result) :
    Gives kind (m >>= k) result := by
  intro live s hs
  obtain ⟨t, hrun, ht⟩ := hm live s hs
  obtain ⟨u, hrun', hu⟩ := hk live t ht.safe
  exact ⟨u, (run_bind_of_ok hrun).trans hrun', ht.trans hu⟩

/-- Any program that leaves objects in use alone may run while one is in use. -/
theorem Gives.uses {result : Except ε α} (hm : Gives kind m result) :
    Uses kind r d m result (some d) := by
  intro live s _ hs hd
  obtain ⟨t, hrun, ht⟩ := hm _ s hs
  refine ⟨t, hrun, ⟨ht.safe.mono (Set.subset_insert r live),
    fun q hq => ht.same q (Set.mem_insert_of_mem r hq)⟩, ?_⟩
  rintro d' ⟨⟩
  exact ⟨ht.safe, (ht.same r (Set.mem_insert r live)).trans hd⟩

/-- Changing the object in use. -/
theorem uses_use (f : δ → δ) :
    Uses kind r d (use r f : Program ε (Store δ) PUnit) (.ok ⟨⟩) (some (f d)) := by
  intro live s hr hs hd
  let t : Store δ := { s with objects := Function.update s.objects r (f (s.objects r)) }
  have ht : Safe kind (insert r live) t := by
    refine ⟨hs.lt_size, hs.not_cached, hs.cached_lt, fun q hq => ?_⟩
    have hne : q ≠ r := by
      rintro rfl
      exact hs.not_cached q (Set.mem_insert q live) hq
    simp only [t, Function.update_of_ne hne]
    exact hs.cached_keeps q hq
  refine ⟨t, rfl, ⟨ht.mono (Set.subset_insert r live), update_of_mem hr _ _⟩, ?_⟩
  rintro d' ⟨⟩
  refine ⟨ht, ?_⟩
  rw [← hd]
  exact Function.update_self ..

theorem uses_look :
    Uses kind r d (look kind r : Program ε (Store δ) γ) (.ok (kind.view d)) (some d) := by
  intro live s hr hs hd
  refine ⟨s, ?_, ⟨hs.mono (Set.subset_insert r live), fun _ _ => rfl⟩, ?_⟩
  · rw [← hd]
    rfl
  · rintro d' ⟨⟩
    exact ⟨hs, hd⟩

theorem Uses.bind (hm : Uses kind r d m (.ok a) (some d'))
    (hk : Uses kind r d' (k a) result after) :
    Uses kind r d (m >>= k) result after := by
  intro live s hr hs hd
  obtain ⟨t, hrun, ht, hafter⟩ := hm live s hr hs hd
  obtain ⟨hsafe, hd'⟩ := hafter d' rfl
  obtain ⟨u, hrun', hu, hafter'⟩ := hk live t hr hsafe hd'
  exact ⟨u, (run_bind_of_ok hrun).trans hrun', ht.trans hu, hafter'⟩

/-- After the object was released. -/
theorem Uses.bind_gives (hm : Uses kind r d m (.ok a) after) (hk : Gives kind (k a) result) :
    Uses kind r d (m >>= k) result none := by
  intro live s hr hs hd
  obtain ⟨t, hrun, ht, -⟩ := hm live s hr hs hd
  obtain ⟨u, hrun', hu⟩ := hk live t ht.safe
  exact ⟨u, (run_bind_of_ok hrun).trans hrun', ht.trans hu, nofun⟩

/-- An exception leaves the object in use, and nobody has it any more. -/
theorem Uses.bind_error (hm : Uses kind r d m (.error e) after) :
    Uses kind r d (m >>= k) (.error e) none := by
  intro live s hr hs hd
  obtain ⟨t, hrun, ht, -⟩ := hm live s hr hs hd
  exact ⟨t, run_bind_of_error hrun, ht, nofun⟩

theorem uses_release :
    Uses kind r d (release kind r : Program ε (Store δ) PUnit) (.ok ⟨⟩) none := by
  intro live s hr hs hd
  refine ⟨if kind.keeps (s.objects r) then { s with cached := some r } else s, rfl, ?_, nofun⟩
  split_ifs with hkeeps
  · refine ⟨⟨fun q hq => hs.lt_size q (Set.mem_insert_of_mem r hq), fun q hq hqr => ?_,
      fun q hq => ?_, fun q hq => ?_⟩, fun _ _ => rfl⟩
    · exact hr (Option.some.inj hqr ▸ hq)
    · rw [← Option.some.inj hq]
      exact hs.lt_size r (Set.mem_insert r live)
    · rw [← Option.some.inj hq]
      exact hkeeps
  · exact ⟨hs.mono (Set.subset_insert r live), fun _ _ => rfl⟩

/-- The last look at the object sees what was made of it. -/
theorem uses_finish :
    Uses kind r d (finish kind r : Program ε (Store δ) γ) (.ok (kind.view d)) none := by
  refine uses_look.bind fun live s hr hs hd => ?_
  obtain ⟨t, hrun, ht, -⟩ := uses_release live s hr hs hd
  exact ⟨t, run_bind_of_ok hrun, ht, nofun⟩

/-- **An object that is acquired looks new**, and nobody else has it. -/
theorem gives_acquire {k : ℕ → Program ε (Store δ) β} (request : κ)
    (hk : ∀ r d, kind.view d = kind.empty → Uses kind r d (k r) result none) :
    Gives kind (acquire kind request >>= k) result := by
  intro live s hs
  cases hcached : s.cached.filter fun r => kind.serves request (s.objects r) with
  | some r =>
    have hsome : s.cached = some r := (Option.filter_eq_some_iff.mp hcached).1
    have hr : r ∉ live := fun hr => hs.not_cached r hr hsome
    let t : Store δ :=
      { s with objects := Function.update s.objects r (kind.clear (s.objects r)), cached := none }
    have hrun : (acquire kind request : Program ε (Store δ) ℕ).run s = (.ok r, t) := by
      rw [acquire, run_get_bind, hcached]
      rfl
    have ht : Safe kind (insert r live) t := by
      refine ⟨fun q hq => ?_, fun _ _ => nofun, nofun, nofun⟩
      rcases hq with rfl | hq
      · exact hs.cached_lt q hsome
      · exact hs.lt_size q hq
    obtain ⟨u, hrun', hu, -⟩ := hk r _ (kind.view_clear _) live t hr ht (Function.update_self ..)
    exact ⟨u, (run_bind_of_ok hrun).trans hrun', hu.safe,
      fun q hq => (hu.same q hq).trans (update_of_mem hr _ _ q hq)⟩
  | none =>
    have hr : s.size ∉ live := fun hr => absurd (hs.lt_size _ hr) (lt_irrefl _)
    let t : Store δ :=
      { s with objects := Function.update s.objects s.size (kind.create request),
               size := s.size + 1 }
    have hrun : (acquire kind request : Program ε (Store δ) ℕ).run s = (.ok s.size, t) := by
      rw [acquire, run_get_bind, hcached]
      rfl
    have ht : Safe kind (insert s.size live) t := by
      refine ⟨fun q hq => ?_, fun q hq hqc => ?_, fun q hq => ?_, fun q hq => ?_⟩
      · rcases hq with rfl | hq
        · exact Nat.lt_succ_self _
        · exact Nat.lt_succ_of_lt (hs.lt_size q hq)
      · rcases hq with rfl | hq
        · exact absurd (hs.cached_lt _ hqc) (lt_irrefl _)
        · exact hs.not_cached q hq hqc
      · exact Nat.lt_succ_of_lt (hs.cached_lt q hq)
      · have hne : q ≠ s.size := (hs.cached_lt q hq).ne
        simp only [t, Function.update_of_ne hne]
        exact hs.cached_keeps q hq
    obtain ⟨u, hrun', hu, -⟩ := hk _ _ (kind.view_create _) live t hr ht (Function.update_self ..)
    exact ⟨u, (run_bind_of_ok hrun).trans hrun', hu.safe,
      fun q hq => (hu.same q hq).trans (update_of_mem hr _ _ q hq)⟩

end Recycling
