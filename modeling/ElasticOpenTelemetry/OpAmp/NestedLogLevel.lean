import ElasticOpenTelemetry.OpAmp.CentralConfigDocuments

/-!
# Nested members called `log_level`

The log level is a member of the outermost object, and a member called `log_level` further in
is something else. The parser does not track nesting (`search_document`): it takes the first
member that reads as the key, at any depth. `renameNested` gives the nested members called
`log_level` another name, and `ReadsTopLevelOnly` says that no such renaming changes the answer
and that the level of the outermost object is the answer whenever there is one.

`readsTopLevelOnly_iff` gives the documents of which this is true: those in which the first key,
at any depth, reads like the first one when nested members called `log_level` are left out, and
like the log level of the outermost object.
-/

namespace ElasticOpenTelemetry.CentralConfigJsonParser

open DotNet Json

mutual

/-- Every member called `log_level` renamed. -/
def renameValue (fresh : Name) : Value → Value
  | .array w es => .array w (renameElements fresh es)
  | .object w ms => .object w (renameMembers fresh ms)
  | .string s => .string s
  | .number n => .number n
  | .bool b => .bool b
  | .null => .null

def renameElements (fresh : Name) : Elements → Elements
  | .nil => .nil
  | .cons before v after rest =>
    .cons before (renameValue fresh v) after (renameElements fresh rest)

def renameMembers (fresh : Name) : Members → Members
  | .nil => .nil
  | .cons before name beforeColon afterColon v after rest =>
    .cons before (if name.units = logLevelUnits then fresh else name) beforeColon afterColon
      (renameValue fresh v) after (renameMembers fresh rest)

end

/-- Every member called `log_level` renamed, those of the outermost object apart. -/
def renameInValues (fresh : Name) : Members → Members
  | .nil => .nil
  | .cons before name beforeColon afterColon v after rest =>
    .cons before name beforeColon afterColon (renameValue fresh v) after (renameInValues fresh rest)

/-- The document with another name for the nested members called `log_level`. -/
def renameNested (fresh : Name) (o : Document) : Document :=
  { o with members := renameInValues fresh o.members }

mutual

/-- The names of all members inside a value. -/
def namesOfValue : Value → List (List ℕ)
  | .array _ es => namesOfElements es
  | .object _ ms => namesOfMembers ms
  | _ => []

def namesOfElements : Elements → List (List ℕ)
  | .nil => []
  | .cons _ v _ rest => namesOfValue v ++ namesOfElements rest

def namesOfMembers : Members → List (List ℕ)
  | .nil => []
  | .cons _ name _ _ v _ rest => name.units :: (namesOfValue v ++ namesOfMembers rest)

end

/-- A name that no member has, and that is not `log_level`. -/
def Fresh (name : Name) (o : Document) : Prop :=
  name.units ∉ namesOfMembers o.members ∧ name.units ≠ logLevelUnits

/-- A `log_level` below the outermost object has no influence, and one of the outermost object
is answered. -/
structure ReadsTopLevelOnly (o : Document) : Prop where
  nested : ∀ fresh, Fresh fresh o →
    tryParseLogLevel (getBytes (renameNested fresh o).render) =
      tryParseLogLevel (getBytes o.render)
  topLevel : ∀ m ∈ o.members.toList, m.1.units = logLevelUnits → ∀ raw, m.2.rawString = some raw →
    tryParseLogLevel (getBytes o.render) = some raw

/-- A nested member called `log_level`. -/
def Key.isNestedLogLevel (k : Key) : Bool := k.nested && k.isLogLevel

/-- The first key reads like the first one that is not a nested `log_level`, and like the
`log_level` of the outermost object. -/
structure Unshadowed (o : Document) : Prop where
  nested : answer ((keys o).filter fun k => !k.isNestedLogLevel) none = answer (keys o) none
  topLevel : ∀ m ∈ o.members.toList, m.1.units = logLevelUnits → ∀ raw, m.2.rawString = some raw →
    answer (keys o) none = some raw

/-! ### Renaming and keys -/

/-- What a renaming does to the keys of the nested members: they disappear, or they stay with
another name. -/
def renameKeys (fresh : Name) (ks : List Key) : List Key :=
  if readsAsKey fresh.pieces then
    ks.map fun k =>
      if k.isNestedLogLevel then { k with isLogLevel := fresh.pieces.raw == logLevel } else k
  else ks.filter fun k => !k.isNestedLogLevel

theorem renameKeys_append (fresh : Name) (ks ks' : List Key) :
    renameKeys fresh (ks ++ ks') = renameKeys fresh ks ++ renameKeys fresh ks' := by
  rw [renameKeys, renameKeys, renameKeys]
  split_ifs
  · exact List.map_append
  · exact List.filter_append ks ks'

theorem rawString_renameValue (fresh : Name) (v : Value) :
    (renameValue fresh v).rawString = v.rawString := by
  cases v <;> rfl

/-- The key that a member is, if it reads as one. -/
def keyOfMember (nested : Bool) (name : Name) (v : Value) : List Key :=
  if readsAsKey name.pieces then [⟨name.pieces.raw == logLevel, nested, v.rawString⟩] else []

theorem readsAsKey_of_units {name : Name} (h : name.units = logLevelUnits) :
    readsAsKey name.pieces = true ∧ (name.pieces.raw == logLevel) = true := by
  have hraw := (units_eq_iff name).mp h
  exact ⟨by simp [readsAsKey, hraw], by simp [hraw]⟩

/-- Renaming one nested member. -/
theorem keyOfMember_rename (fresh name : Name) (v : Value) :
    keyOfMember true (if name.units = logLevelUnits then fresh else name) (renameValue fresh v) =
      renameKeys fresh (keyOfMember true name v) := by
  rw [keyOfMember, keyOfMember, rawString_renameValue, renameKeys]
  by_cases hname : name.units = logLevelUnits
  · obtain ⟨hkey, hraw⟩ := readsAsKey_of_units hname
    rw [if_pos hname, if_pos hkey, hraw]
    split_ifs <;> rfl
  · have hraw : (name.pieces.raw == logLevel) = false := by
      rw [beq_eq_false_iff_ne]
      exact fun h => hname ((units_eq_iff name).mpr h)
    rw [if_neg hname, hraw]
    split_ifs <;> rfl

/-- A member of the outermost object keeps its name. -/
theorem keyOfMember_top (fresh name : Name) (v : Value) :
    keyOfMember false name (renameValue fresh v) = renameKeys fresh (keyOfMember false name v) := by
  rw [keyOfMember, keyOfMember, rawString_renameValue, renameKeys]
  split_ifs <;> rfl

theorem keysOfMembers_cons (nested : Bool) (before : Space) (name : Name)
    (beforeColon afterColon : Space) (v : Value) (after : Space) (rest : Members) :
    keysOfMembers nested (.cons before name beforeColon afterColon v after rest) =
      keyOfMember nested name v ++ (keysOfValue v ++ keysOfMembers nested rest) := by
  rw [keysOfMembers, keyOfMember]

mutual

theorem keysOfValue_rename (fresh : Name) (v : Value) :
    keysOfValue (renameValue fresh v) = renameKeys fresh (keysOfValue v) := by
  have hnil : renameKeys fresh [] = [] := by
    rw [renameKeys]
    split_ifs <;> rfl
  cases v with
  | array w es => exact keysOfElements_rename fresh es
  | object w ms => exact keysOfMembers_rename fresh ms
  | string | number | bool | null => exact hnil.symm

theorem keysOfElements_rename (fresh : Name) (es : Elements) :
    keysOfElements (renameElements fresh es) = renameKeys fresh (keysOfElements es) := by
  cases es with
  | nil =>
    rw [renameElements, keysOfElements, renameKeys]
    split_ifs <;> rfl
  | cons before v after rest =>
    rw [renameElements, keysOfElements, keysOfElements, keysOfValue_rename fresh v,
      keysOfElements_rename fresh rest, renameKeys_append]

theorem keysOfMembers_rename (fresh : Name) (ms : Members) :
    keysOfMembers true (renameMembers fresh ms) = renameKeys fresh (keysOfMembers true ms) := by
  cases ms with
  | nil =>
    rw [renameMembers, keysOfMembers, renameKeys]
    split_ifs <;> rfl
  | cons before name beforeColon afterColon v after rest =>
    rw [renameMembers, keysOfMembers_cons, keysOfMembers_cons, keysOfValue_rename fresh v,
      keysOfMembers_rename fresh rest, keyOfMember_rename, renameKeys_append, renameKeys_append]

end

theorem keysOfMembers_renameInValues (fresh : Name) (ms : Members) :
    keysOfMembers false (renameInValues fresh ms) = renameKeys fresh (keysOfMembers false ms) := by
  match ms with
  | .nil =>
    rw [renameInValues, keysOfMembers, renameKeys]
    split_ifs <;> rfl
  | .cons before name beforeColon afterColon v after rest =>
    have ih := keysOfMembers_renameInValues fresh rest
    rw [renameInValues, keysOfMembers_cons, keysOfMembers_cons, keysOfValue_rename fresh v, ih,
      keyOfMember_top, renameKeys_append, renameKeys_append]

/-- What the parser answers on the renamed document. -/
theorem search_renameNested (fresh : Name) (o : Document) :
    search (renameNested fresh o).render =
      if readsAsKey fresh.pieces then answer (keys o) none
      else answer ((keys o).filter fun k => !k.isNestedLogLevel) none := by
  have hkeys : keys (renameNested fresh o) = renameKeys fresh (keys o) :=
    keysOfMembers_renameInValues fresh o.members
  rw [search_document, hkeys, renameKeys]
  split_ifs
  · -- a key with another name has the same value
    cases keys o with
    | nil => rfl
    | cons k ks =>
      rw [List.map_cons]
      change Key.value (if _ then _ else _) = k.value
      split_ifs <;> rfl
  · rfl

/-! ### Fresh names -/

/-- The name of `n` letters x. -/
def letters (n : ℕ) : Name where
  pieces := List.replicate n (.plain ⟨'x', by decide⟩)
  standard := by simp [Piece.isStandard]

theorem units_letters (n : ℕ) : (letters n).units = List.replicate n 120 := by
  induction n with
  | zero => rfl
  | succ n ih =>
    have hcons : (letters (n + 1)).units = 120 :: (letters n).units := rfl
    rw [hcons, ih, List.replicate_succ]

theorem readsAsKey_letters (n : ℕ) : readsAsKey (letters n).pieces = false := by
  have hquote : 0x22 ∉ (letters n).units := by
    rw [units_letters, List.mem_replicate]
    omega
  rw [Bool.eq_false_iff]
  intro h
  have hunits := (readsAsKey_iff hquote).mp h
  have hmem : 108 ∈ (letters n).units := by
    rw [hunits]
    decide
  rw [units_letters, List.mem_replicate] at hmem
  omega

/-- There is a fresh name that does not read as the key. -/
theorem exists_fresh (o : Document) : ∃ fresh, Fresh fresh o ∧ readsAsKey fresh.pieces = false := by
  obtain ⟨n, hn⟩ : ∃ n, ∀ name ∈ logLevelUnits :: namesOfMembers o.members, name.length < n := by
    induction logLevelUnits :: namesOfMembers o.members with
    | nil => exact ⟨0, by simp⟩
    | cons name names ih =>
      obtain ⟨n, hn⟩ := ih
      refine ⟨max n (name.length + 1), fun other hother => ?_⟩
      rcases List.mem_cons.mp hother with rfl | hother
      · omega
      · have hlt := hn other hother
        omega
  have hnot : (letters n).units ∉ logLevelUnits :: namesOfMembers o.members := by
    intro h
    have hlt := hn _ h
    rw [units_letters, List.length_replicate] at hlt
    exact absurd hlt (lt_irrefl n)
  rw [List.mem_cons, not_or] at hnot
  exact ⟨letters n, ⟨hnot.2, hnot.1⟩, readsAsKey_letters n⟩

/-! ### Exactly when nesting is harmless -/

/-- **Nested log levels.** Renaming the nested members called `log_level` never changes the
answer, and the log level of the outermost object is the answer whenever there is one, exactly
when the first key of the document is not shadowed by a nested `log_level`. -/
theorem readsTopLevelOnly_iff (o : Document) : ReadsTopLevelOnly o ↔ Unshadowed o := by
  have hanswer : tryParseLogLevel (getBytes o.render) = answer (keys o) none := search_document o
  constructor
  · rintro ⟨hnested, htop⟩
    obtain ⟨fresh, hfresh, hkey⟩ := exists_fresh o
    have hrenamed := hnested fresh hfresh
    rw [hanswer] at hrenamed
    refine ⟨?_, fun m hm hunits raw hraw => ?_⟩
    · rw [← hrenamed]
      have hsearch := search_renameNested fresh o
      rw [hkey, if_neg Bool.false_ne_true] at hsearch
      exact hsearch.symm
    · rw [← hanswer]
      exact htop m hm hunits raw hraw
  · rintro ⟨hnested, htop⟩
    refine ⟨fun fresh _ => ?_, fun m hm hunits raw hraw => ?_⟩
    · rw [hanswer]
      refine (search_renameNested fresh o).trans ?_
      split_ifs
      · rfl
      · exact hnested
    · rw [hanswer]
      exact htop m hm hunits raw hraw

/-- The document `{"meta": {"log_level": "trace"}, "log_level": "warn"}`. -/
def nestedDocument : Document where
  before := []
  inner := []
  members :=
    .cons [] ⟨Literal.ofStr "meta".toList, by decide⟩ [] [.space]
      (.object [] (.cons [] logLevelName [] [.space]
        (.string (Literal.ofStr "trace".toList)) [] .nil)) []
    (.cons [.space] logLevelName [] [.space]
      (.string (Literal.ofStr "warn".toList)) [] .nil)
  after := []

/-- The nested level is answered. -/
theorem nestedDocument_shadowed : ¬ ReadsTopLevelOnly nestedDocument := by
  intro h
  have htop := h.topLevel _ (List.mem_cons_of_mem _ List.mem_cons_self) (by decide)
    "warn".toList (by decide)
  have hanswer : tryParseLogLevel (getBytes nestedDocument.render) = some "trace".toList :=
    (search_document nestedDocument).trans (by decide)
  rw [hanswer] at htop
  exact absurd htop (by decide)

end ElasticOpenTelemetry.CentralConfigJsonParser
