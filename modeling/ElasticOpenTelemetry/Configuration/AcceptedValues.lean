import ElasticOpenTelemetry.Configuration.SharedParsers
import ElasticOpenTelemetry.Foundations.FirstAnswer

/-!
# What the shared parsers accept

For each parser of `SharedParsers.cs` a relation that says which texts are accepted and what they
are read as: any text that is not empty, the names of the levels, the two digits and the two
words of a Boolean, the names of targets between semicolons and commas. None of the relations
mentions a parser.

`Accepts` ties a parser to its relation: it answers with the reading of a text, and with nothing
for the empty text, which is what an absent environment variable looks like to it.
-/

namespace ElasticOpenTelemetry

open DotNet FirstAnswer

/-- A parser reads a text as the relation says, and reads nothing in the empty text. -/
structure Accepts {α : Type} (parser : Option Str → Option α) (Reads : Str → α → Prop) :
    Prop where
  text : ∀ text v, parser (some text) = some v ↔ Reads text v
  empty : parser (some []) = none

/-! ### Texts -/

/-- A text that is not empty is read as it is. -/
def ReadsText (text v : Str) : Prop := v = text ∧ text ≠ []

theorem accepts_stringParser : Accepts stringParser ReadsText where
  text := fun text v => by
    cases text with
    | nil => simp [stringParser, isNullOrEmpty, ReadsText]
    | cons c text => simp [stringParser, isNullOrEmpty, ReadsText, eq_comm]
  empty := rfl

/-! ### Levels -/

/-- The names of a level, two of which have a short form. -/
def levelNames : LogLevel → List Str
  | .trace => ["trace".toList]
  | .debug => ["debug".toList]
  | .information => ["info".toList, "information".toList]
  | .warning => ["warn".toList, "warning".toList]
  | .error => ["error".toList]
  | .critical => ["critical".toList]
  | .none => ["none".toList]

/-- A name of a level is read as the level, in upper or lower case. -/
def ReadsLevel (text : Str) (level : LogLevel) : Prop :=
  ∃ name ∈ levelNames level, equalsIgnoreCase text name = true

theorem toLogLevel_congr {a b : Str} (h : equalsIgnoreCase a b = true) :
    toLogLevel a = toLogLevel b := by
  rw [toLogLevel, toLogLevel, equalsIgnoreCase_congr h]

theorem toLogLevel_of_mem_levelNames {name : Str} {level : LogLevel}
    (h : name ∈ levelNames level) : toLogLevel name = some level := by
  revert name
  cases level <;> decide

theorem toLogLevel_eq_some_iff (text : Str) (level : LogLevel) :
    toLogLevel text = some level ↔ ReadsLevel text level := by
  constructor
  · intro h
    rw [toLogLevel, Option.map_eq_some_iff] at h
    obtain ⟨⟨name, level'⟩, hfind, rfl⟩ := h
    have hname : equalsIgnoreCase text name = true := by simpa using List.find?_some hfind
    have hmem : ∀ entry ∈ logLevelTexts,
        ∃ lower ∈ levelNames entry.2, equalsIgnoreCase entry.1 lower = true := by decide
    obtain ⟨lower, hlower, hequal⟩ := hmem _ (List.mem_of_find?_eq_some hfind)
    refine ⟨lower, hlower, ?_⟩
    rw [equalsIgnoreCase_congr hname]
    exact hequal
  · rintro ⟨name, hname, hequal⟩
    rw [toLogLevel_congr hequal, toLogLevel_of_mem_levelNames hname]

theorem accepts_logLevelParser : Accepts logLevelParser ReadsLevel where
  text := fun text level => by
    rw [← toLogLevel_eq_some_iff]
    cases text with
    | nil => cases level <;> decide
    | cons c text => rfl
  empty := rfl

/-! ### Booleans -/

/-- The digit that stands for a Boolean. -/
def digitOf (b : Bool) : Str := if b then "1".toList else "0".toList

/-- The word that stands for a Boolean. -/
def wordOf (b : Bool) : Str := if b then "true".toList else "false".toList

/-- What may stand around the word of a Boolean. -/
def Ignored (c : Char) : Prop := isWhiteSpace c = true ∨ c = '\x00'

/-- The digit is read as it stands; the word in upper or lower case, with white space and null
characters around it. -/
def ReadsBool (text : Str) (b : Bool) : Prop :=
  text = digitOf b ∨ ∃ before word after, text = before ++ (word ++ after) ∧
    (∀ c ∈ before, Ignored c) ∧ (∀ c ∈ after, Ignored c) ∧ equalsIgnoreCase word (wordOf b) = true

theorem toUpper_of_ignored {c : Char} (h : Ignored c) : c.toUpper = c := by
  rcases h with h | rfl
  · exact toUpper_of_isWhiteSpace h
  · decide

/-- No character of the word is one that may stand around it. -/
theorem not_ignored_of_equalsIgnoreCase {word : Str} {b : Bool}
    (h : equalsIgnoreCase word (wordOf b) = true) : ∀ c ∈ word, ¬ Ignored c := by
  intro c hc hignored
  have hmem : c.toUpper ∈ toUpperInvariant word := List.mem_map_of_mem hc
  rw [equalsIgnoreCase_iff.mp h, toUpper_of_ignored hignored] at hmem
  have hnone : (toUpperInvariant (wordOf b)).any (fun d => isWhiteSpace d || d == '\x00') =
      false := by
    cases b <;> decide
  exact List.any_eq_false.mp hnone c hmem (by simpa [Ignored] using hignored)

theorem equalsIgnoreCase_wordOf (word : Str) :
    equalsIgnoreCase word (wordOf true) = equalsIgnoreCase word "True".toList ∧
      equalsIgnoreCase word (wordOf false) = equalsIgnoreCase word "False".toList :=
  ⟨rfl, rfl⟩

/-- `bool.TryParse` reads the word between the characters that it ignores. -/
theorem boolTryParse_eq_some_iff (text : Str) (b : Bool) :
    boolTryParse (some text) = some b ↔
      ∃ before word after, text = before ++ (word ++ after) ∧ (∀ c ∈ before, Ignored c) ∧
        (∀ c ∈ after, Ignored c) ∧ equalsIgnoreCase word (wordOf b) = true := by
  have hiff : ∀ c, (isWhiteSpace c || c == '\x00') = true ↔ Ignored c := by simp [Ignored]
  rw [boolTryParse]
  simp only [Option.getD_some]
  generalize hignored : (fun c => isWhiteSpace c || c == '\x00') = ignored
  have hiff' : ∀ c, ignored c = true ↔ Ignored c := fun c => by rw [← hignored]; exact hiff c
  constructor
  · intro h
    refine ⟨text.takeWhile ignored, (text.dropWhile ignored).rdropWhile ignored,
      (text.dropWhile ignored).rtakeWhile ignored, ?_, fun c hc => ?_, fun c hc => ?_, ?_⟩
    · rw [List.rdropWhile_append_rtakeWhile, List.takeWhile_append_dropWhile]
    · exact (hiff' c).mp (List.mem_takeWhile_imp hc)
    · exact (hiff' c).mp (List.mem_rtakeWhile_imp hc)
    · split_ifs at h with htrue hfalse
      · obtain rfl := Option.some.inj h
        rw [(equalsIgnoreCase_wordOf _).1, htrue]
      · obtain rfl := Option.some.inj h
        rw [(equalsIgnoreCase_wordOf _).2, hfalse]
  · rintro ⟨before, word, after, rfl, hbefore, hafter, hequal⟩
    have hnot : ∀ c ∈ word, ignored c = false := fun c hc => by
      rw [← Bool.not_eq_true, hiff']
      exact not_ignored_of_equalsIgnoreCase hequal c hc
    have hword := rdropWhile_dropWhile_append (fun c hc => (hiff' c).mpr (hbefore c hc))
      (fun c hc => (hiff' c).mpr (hafter c hc)) (fun c hc => hnot c (List.mem_of_mem_head? hc))
      (fun c hc => hnot c (List.mem_of_getLast? hc))
    simp only [hword]
    cases b with
    | true => rw [← (equalsIgnoreCase_wordOf word).1, if_pos hequal]
    | false =>
      have htrue : ¬ equalsIgnoreCase word "True".toList = true := by
        rw [equalsIgnoreCase_iff, equalsIgnoreCase_iff.mp hequal]
        decide
      rw [if_neg htrue, ← (equalsIgnoreCase_wordOf word).2, if_pos hequal]

theorem accepts_boolParser : Accepts boolParser ReadsBool where
  text := fun text b => by
    rw [ReadsBool, ← boolTryParse_eq_some_iff, boolParser]
    by_cases hone : text = "1".toList
    · subst hone
      cases b <;> decide
    by_cases hzero : text = "0".toList
    · subst hzero
      cases b <;> decide
    have hdigit : ¬ text = digitOf b := by
      cases b with
      | true => exact hone
      | false => exact hzero
    rw [if_neg (by simpa using hone), if_neg (by simpa using hzero)]
    simp [hdigit]
  empty := by decide

/-! ### Targets -/

/-- What a word names: the first of the three names that it equals, in the comparison of the
host. -/
def NamesTarget (p : Platform) (word : Str) (target : LogTargets) : Prop :=
  FirstOf
    [fun t => p.equalsInvariantIgnoreCase (trim word) "stdout".toList = true ∧
        t = LogTargets.stdOut,
      fun t => p.equalsInvariantIgnoreCase (trim word) "file".toList = true ∧ t = LogTargets.file,
      fun t => p.equalsInvariantIgnoreCase (trim word) "none".toList = true ∧ t = LogTargets.none]
    target

/-- The words of a text: what stands between semicolons and commas and is not empty. -/
def IsWord (text word : Str) : Prop :=
  word ∈ text.splitOnP (fun c => c == ';' || c == ',') ∧ word ≠ []

/-- A text with a word that names a target is read as all the targets that its words name. -/
def ReadsTargets (p : Platform) (text : Str) (targets : LogTargets) : Prop :=
  (∃ c ∈ text, isWhiteSpace c = false) ∧
    (∃ word target, IsWord text word ∧ NamesTarget p word target) ∧
    ∀ i, targets.getLsbD i = true ↔
      ∃ word target, IsWord text word ∧ NamesTarget p word target ∧ target.getLsbD i = true

/-- A word that names a target adds it, and another word adds nothing. -/
theorem logTargetsStep_cases (p : Platform) (acc : LogTargets × Bool) (word : Str) :
    (∃ target, (∀ t, NamesTarget p word t ↔ t = target) ∧
        logTargetsStep p acc word = (acc.1 ||| target, true)) ∨
      (∀ t, ¬ NamesTarget p word t) ∧ logTargetsStep p acc word = acc := by
  simp only [NamesTarget, firstOf_cons_iff, not_firstOf_nil, logTargetsStep]
  generalize p.equalsInvariantIgnoreCase (trim word) "stdout".toList = isStdOut
  generalize p.equalsInvariantIgnoreCase (trim word) "file".toList = isFile
  generalize p.equalsInvariantIgnoreCase (trim word) "none".toList = isNone
  cases isStdOut with
  | true => exact Or.inl ⟨LogTargets.stdOut, by simp, rfl⟩
  | false =>
    cases isFile with
    | true => exact Or.inl ⟨LogTargets.file, by simp, rfl⟩
    | false =>
      cases isNone with
      | true => exact Or.inl ⟨LogTargets.none, by simp, rfl⟩
      | false => exact Or.inr ⟨by simp, rfl⟩

/-- After the loop: a target was found if a word names one, and the targets are those from before
and those that the words name. -/
theorem foldl_logTargetsStep (p : Platform) (words : List Str) (acc : LogTargets × Bool) :
    ((words.foldl (logTargetsStep p) acc).2 = true ↔
      acc.2 = true ∨ ∃ word target, word ∈ words ∧ NamesTarget p word target) ∧
    ∀ i, (words.foldl (logTargetsStep p) acc).1.getLsbD i = true ↔
      acc.1.getLsbD i = true ∨
        ∃ word target, word ∈ words ∧ NamesTarget p word target ∧ target.getLsbD i = true := by
  induction words generalizing acc with
  | nil => simp
  | cons word words ih =>
    obtain ⟨hfound, hbits⟩ := ih (logTargetsStep p acc word)
    rw [List.foldl_cons, hfound]
    simp only [hbits, List.mem_cons]
    rcases logTargetsStep_cases p acc word with ⟨target, hnames, hstep⟩ | ⟨hnames, hstep⟩
    · rw [hstep]
      refine ⟨⟨fun _ => Or.inr ⟨word, target, Or.inl rfl, (hnames target).mpr rfl⟩,
        fun _ => Or.inl rfl⟩, fun i => ?_⟩
      rw [BitVec.getLsbD_or, Bool.or_eq_true, or_assoc]
      refine or_congr_right ⟨?_, ?_⟩
      · rintro (hbit | ⟨word', target', hword, hrest⟩)
        · exact ⟨word, target, Or.inl rfl, (hnames target).mpr rfl, hbit⟩
        · exact ⟨word', target', Or.inr hword, hrest⟩
      · rintro ⟨word', target', rfl | hword, hname, hbit⟩
        · obtain rfl := (hnames target').mp hname
          exact Or.inl hbit
        · exact Or.inr ⟨word', target', hword, hname, hbit⟩
    · rw [hstep]
      refine ⟨or_congr_right ⟨?_, ?_⟩, fun i => or_congr_right ⟨?_, ?_⟩⟩
      · rintro ⟨word', target', hword, hrest⟩
        exact ⟨word', target', Or.inr hword, hrest⟩
      · rintro ⟨word', target', rfl | hword, hname⟩
        · exact absurd hname (hnames target')
        · exact ⟨word', target', hword, hname⟩
      · rintro ⟨word', target', hword, hrest⟩
        exact ⟨word', target', Or.inr hword, hrest⟩
      · rintro ⟨word', target', rfl | hword, hname, hbit⟩
        · exact absurd hname (hnames target')
        · exact ⟨word', target', hword, hname, hbit⟩

theorem accepts_logTargetsParser (p : Platform) :
    Accepts (logTargetsParser p) (ReadsTargets p) where
  text := fun text targets => by
    have hwords : ∀ word, word ∈ (text.splitOnP fun c => c == ';' || c == ',').filter (· ≠ []) ↔
        IsWord text word := by simp [IsWord]
    obtain ⟨hfound, hbits⟩ := foldl_logTargetsStep p
      ((text.splitOnP fun c => c == ';' || c == ',').filter (· ≠ [])) (LogTargets.none, false)
    have hblank : isNullOrWhiteSpace (some text) = true ↔
        ¬ ∃ c ∈ text, isWhiteSpace c = false := by simp [isNullOrWhiteSpace]
    simp only [hwords] at hfound hbits
    rw [logTargetsParser, ReadsTargets]
    by_cases hempty : isNullOrWhiteSpace (some text) = true
    · rw [if_pos hempty]
      simp [hblank.mp hempty]
    · rw [if_neg hempty]
      have hsome : ∃ c ∈ text, isWhiteSpace c = false := by
        by_contra hnone
        exact hempty (hblank.mpr hnone)
      simp only [Option.getD_some]
      generalize ((text.splitOnP fun c => c == ';' || c == ',').filter (· ≠ [])).foldl
        (logTargetsStep p) (LogTargets.none, false) = result at hfound hbits ⊢
      obtain ⟨union, found⟩ := result
      simp only [Bool.false_eq_true, false_or] at hfound
      have hnone : ∀ i, LogTargets.none.getLsbD i = false := by simp [LogTargets.none]
      simp only [hnone, Bool.false_eq_true, false_or] at hbits
      rw [← hfound]
      simp only [← hbits, and_iff_right hsome]
      cases found with
      | false => simp
      | true =>
        simp only [if_true, Option.some.injEq, true_and]
        constructor
        · rintro rfl i
          rfl
        · intro h
          exact BitVec.eq_of_getLsbD_eq fun i _ => Bool.eq_iff_iff.mpr (h i).symm
  empty := rfl

end ElasticOpenTelemetry
