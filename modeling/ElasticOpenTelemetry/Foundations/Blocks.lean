import Mathlib.Data.List.Basic

/-!
# Entries of several lines

A text format in which an entry takes one line or more, and nothing says where it ends: a reader
knows what the first line of an entry looks like, and takes every other line for a part of the
entry in front of it. Entries are any texts, so that an entry can contain a line that looks like
the first line of another one.

`read_render` states that entries without such lines are read back, and
`length_read_render_iff` that otherwise the reader finds too many of them.
-/

namespace Blocks

/-! ### Lines in blocks -/

section Collect

variable {α : Type*} (start : α → Bool)

/-- The lines in front of the first start, and each start with the lines up to the next one. -/
def collect : List α → List α × List (List α)
  | [] => ([], [])
  | line :: lines =>
    let (front, blocks) := collect lines
    if start line then ([], (line :: front) :: blocks) else (line :: front, blocks)

/-- The first line is a start. -/
def BeginsWithStart (lines : List α) : Prop := ∃ line ∈ lines.head?, start line = true

/-- The first line is a start, and no other line is. -/
def IsBlock (lines : List α) : Prop :=
  BeginsWithStart start lines ∧ ∀ line ∈ lines.tail, start line = false

variable {start}

theorem collect_append {front : List α} (h : ∀ line ∈ front, start line = false)
    (lines : List α) :
    collect start (front ++ lines) =
      (front ++ (collect start lines).1, (collect start lines).2) := by
  induction front with
  | nil => rfl
  | cons line front ih =>
    have hfront := ih fun line' hline' => h line' (List.mem_cons_of_mem _ hline')
    simp [collect, hfront, h line List.mem_cons_self]

theorem collect_flatten {blocks : List (List α)} (h : ∀ block ∈ blocks, IsBlock start block) :
    collect start blocks.flatten = ([], blocks) := by
  induction blocks with
  | nil => rfl
  | cons block blocks ih =>
    have hblocks := ih fun block' hblock' => h block' (List.mem_cons_of_mem _ hblock')
    obtain ⟨⟨line, hline, hstart⟩, htail⟩ := h block List.mem_cons_self
    obtain ⟨front, rfl⟩ : ∃ front, block = line :: front := ⟨_, List.eq_cons_of_mem_head? hline⟩
    have hfront : collect start (front ++ blocks.flatten) = (front, blocks) := by
      simpa [hblocks] using collect_append htail blocks.flatten
    simp [collect, hfront, hstart]

/-- There is a block for each start. -/
theorem length_collect (lines : List α) :
    (collect start lines).2.length = lines.countP start := by
  induction lines with
  | nil => rfl
  | cons line lines ih =>
    by_cases hstart : start line = true
    · simp [collect, hstart, ih]
    · simp [collect, hstart, ih]

theorem BeginsWithStart.one_le_countP {lines : List α} (h : BeginsWithStart start lines) :
    1 ≤ lines.countP start := by
  obtain ⟨line, hline, hstart⟩ := h
  exact List.countP_pos_iff.mpr ⟨line, List.mem_of_mem_head? hline, hstart⟩

/-- Lines that begin with a start are a block when there is no other start. -/
theorem BeginsWithStart.isBlock {lines : List α} (h : BeginsWithStart start lines)
    (hcount : lines.countP start ≤ 1) : IsBlock start lines := by
  refine ⟨h, ?_⟩
  obtain ⟨line, hline, hstart⟩ := h
  obtain ⟨rest, rfl⟩ : ∃ rest, lines = line :: rest := ⟨_, List.eq_cons_of_mem_head? hline⟩
  have hrest : rest.countP start = 0 := by
    rw [List.countP_cons_of_pos hstart] at hcount
    omega
  simpa [List.countP_eq_zero] using hrest

theorem length_le_countP_flatten {blocks : List (List α)}
    (h : ∀ block ∈ blocks, BeginsWithStart start block) :
    blocks.length ≤ blocks.flatten.countP start := by
  induction blocks with
  | nil => simp
  | cons block blocks ih =>
    have hle := ih fun block' hblock' => h block' (List.mem_cons_of_mem _ hblock')
    have hone := (h block List.mem_cons_self).one_le_countP
    rw [List.flatten_cons, List.countP_append, List.length_cons]
    omega

/-- None of the blocks has fewer starts than one, so that none has more if there are no more starts
than blocks. -/
theorem isBlock_of_countP_flatten_le {blocks : List (List α)}
    (h : ∀ block ∈ blocks, BeginsWithStart start block)
    (hcount : blocks.flatten.countP start ≤ blocks.length) :
    ∀ block ∈ blocks, IsBlock start block := by
  induction blocks with
  | nil => simp
  | cons block blocks ih =>
    have htail : ∀ block' ∈ blocks, BeginsWithStart start block' :=
      fun block' hblock' => h block' (List.mem_cons_of_mem _ hblock')
    have hle := length_le_countP_flatten htail
    have hone := (h block List.mem_cons_self).one_le_countP
    rw [List.flatten_cons, List.countP_append, List.length_cons] at hcount
    intro block' hblock'
    rcases List.mem_cons.mp hblock' with rfl | hblock'
    · exact (h block' List.mem_cons_self).isBlock (by omega)
    · exact ih htail (by omega) block' hblock'

end Collect

/-! ### Entries as text -/

variable {γ : Type*} [BEq γ] [LawfulBEq γ] (sep : γ) (ending : List γ) (start : List γ → Bool)

/-- The lines of an entry; every entry is followed by `ending` and the separator. -/
def linesOf (entry : List γ) : List (List γ) := (entry ++ ending).splitOn sep

/-- The entries one after the other. -/
def render (entries : List (List γ)) : List γ :=
  entries.flatMap fun entry => entry ++ ending ++ [sep]

/-- The entry of these lines. -/
def entryOf (lines : List (List γ)) : List γ :=
  ([sep].intercalate lines).take (([sep].intercalate lines).length - ending.length)

/-- Read a text; nothing comes after its last separator. -/
def read (text : List γ) : List (List γ) :=
  (collect start (text.splitOn sep).dropLast).2.map (entryOf sep ending)

variable {sep ending start} {entries : List (List γ)}

theorem entryOf_linesOf (entry : List γ) :
    entryOf sep ending (linesOf sep ending entry) = entry := by
  rw [entryOf, linesOf, List.intercalate_splitOn, List.length_append, Nat.add_sub_cancel]
  exact List.take_left

/-- The first line goes on at least as long as there is no separator. -/
theorem splitOn_append_of_notMem {front : List γ} (h : sep ∉ front) (text : List γ) :
    ∃ first rest, text.splitOn sep = first :: rest ∧
      (front ++ text).splitOn sep = (front ++ first) :: rest := by
  induction front with
  | nil =>
    obtain ⟨first, rest, hsplit⟩ := List.exists_cons_of_ne_nil (List.splitOn_ne_nil sep text)
    exact ⟨first, rest, hsplit, hsplit⟩
  | cons c front ih =>
    rw [List.mem_cons, not_or] at h
    obtain ⟨first, rest, htext, hfront⟩ := ih h.2
    have hc : ¬ (c == sep) = true := by simpa using Ne.symm h.1
    refine ⟨first, rest, htext, ?_⟩
    rw [List.cons_append, List.splitOn_cons_eq_if_modifyHead, if_neg hc, hfront]
    rfl

theorem splitOn_render (entries : List (List γ)) :
    (render sep ending entries).splitOn sep =
      entries.flatMap (linesOf sep ending) ++ [[]] := by
  induction entries with
  | nil => simp [render]
  | cons entry entries ih =>
    have hsplit : render sep ending (entry :: entries) =
        entry ++ ending ++ sep :: render sep ending entries := by
      simp [render]
    rw [hsplit, List.splitOn_append_cons_self, ih, List.flatMap_cons, List.append_assoc]
    rfl

theorem read_render_eq (entries : List (List γ)) :
    read sep ending start (render sep ending entries) =
      (collect start (entries.flatMap (linesOf sep ending))).2.map (entryOf sep ending) := by
  rw [read, splitOn_render, List.dropLast_concat]

/-- **Round trip.** Entries whose first line is their only start are read back. -/
theorem read_render (h : ∀ entry ∈ entries, IsBlock start (linesOf sep ending entry)) :
    read sep ending start (render sep ending entries) = entries := by
  have hblocks : ∀ block ∈ entries.map (linesOf sep ending), IsBlock start block := by
    simpa using h
  rw [read_render_eq, List.flatMap_def, collect_flatten hblocks, List.map_map]
  exact List.map_id'' entryOf_linesOf entries

/-- **As many entries are read as were written** exactly when each of them has one start. -/
theorem length_read_render_iff
    (h : ∀ entry ∈ entries, BeginsWithStart start (linesOf sep ending entry)) :
    (read sep ending start (render sep ending entries)).length = entries.length ↔
      ∀ entry ∈ entries, IsBlock start (linesOf sep ending entry) := by
  refine ⟨fun hlength => ?_, fun hblocks => by rw [read_render hblocks]⟩
  rw [read_render_eq, List.length_map, length_collect, List.flatMap_def] at hlength
  have hstarts : ∀ block ∈ entries.map (linesOf sep ending), BeginsWithStart start block := by
    simpa using h
  have hcount : (entries.map (linesOf sep ending)).flatten.countP start ≤
      (entries.map (linesOf sep ending)).length := by
    simp [hlength]
  simpa using isBlock_of_countP_flatten_le hstarts hcount

end Blocks
