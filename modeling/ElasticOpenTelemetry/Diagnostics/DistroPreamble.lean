import ElasticOpenTelemetry.Configuration.EnvironmentParser

/-!
# The environment variables of the distribution preamble

`LogDistroPreamble` (`LoggerMessages.cs`) runs `LogPrefixedEnvironmentVariables` for the prefixes
`OTEL_` and `ELASTIC_OTEL_`. Each run makes three enumerations: of the machine and the user
scope, at `Debug`, and of the effective environment, at `Information`. The last one replaces the
values of the `SensitiveEnvironmentVariables`; the first two write values as they are.

The names that a prefix selects are compared by the current culture in the first two
enumerations and with ordinal case folding in the third, and whether two names denote one
variable depends on the operating system; both are fields of `EnvironmentHost`. Reading the user
or the machine scope may throw, which ends the run with an error entry.

Two environments that are `SameButSecretValues` differ in the values of sensitive variables only,
and not in which of these are empty. `logDistroPreamble_silent_iff` states exactly when the
entries are the same for all of them.
-/

namespace ElasticOpenTelemetry.Preamble

open DotNet EnvironmentVariables

/-- A `DictionaryEntry` of an environment table. -/
structure EnvironmentEntry where
  key : Str
  value : Option Str
  deriving DecidableEq

/-- The three scopes of the environment; the text of the exception where a scope cannot be
read. -/
structure EnvironmentScopes where
  process : List EnvironmentEntry
  user : Except Str (List EnvironmentEntry)
  machine : Except Str (List EnvironmentEntry)

/-- What the code asks of the host about the names of variables. -/
structure EnvironmentHost where
  /-- `key.StartsWith(prefix)`, by the current culture -/
  startsWithCulture : Str → Str → Bool
  /-- whether two names denote one variable -/
  sameVariable : Str → Str → Bool

/-- A host with an ordinal culture and case-sensitive variables. -/
def EnvironmentHost.ordinal : EnvironmentHost where
  startsWithCulture := fun key pre => startsWith pre key
  sameVariable := fun a b => a == b

/-- What an `ILogger` is called with. -/
structure LogEntry where
  level : LogLevel
  template : Str
  args : List Str
  deriving DecidableEq

/-- The entries of a block, and the exception that ended it, if one did. -/
structure Emission where
  entries : List LogEntry
  raised : Option Str

/-- One block after another: an exception skips the second. -/
def Emission.andThen (a b : Emission) : Emission :=
  match a.raised with
  | none => ⟨a.entries ++ b.entries, b.raised⟩
  | some _ => a

/-- `ILogger.IsEnabled` of a logger with a minimum level. -/
def isEnabled (minimum level : LogLevel) : Bool := decide (minimum ≤ level)

def systemTemplate : Str :=
  ("System-level environment variable '\x7bEnvironmentVariable\x7d' = ".toList ++
    "'\x7bEnvironmentVariableValue\x7d'".toList)

def userTemplate : Str :=
  ("User-level environment variable '\x7bEnvironmentVariable\x7d' = ".toList ++
    "'\x7bEnvironmentVariableValue\x7d'".toList)

def effectiveTemplate : Str :=
  ("Effective environment variable '\x7bEnvironmentVariable\x7d' = ".toList ++
    "'\x7bEnvironmentVariableValue\x7d' (source: \x7bSource\x7d)".toList)

def errorTemplate : Str :=
  "An error occurred while reading environment variables with prefix '\x7bPrefix\x7d'.".toList

/-- `SensitiveEnvironmentVariables.Contains(key, StringComparer.OrdinalIgnoreCase)`. -/
def isSensitiveVariable (key : Str) : Bool :=
  sensitiveEnvironmentVariables.any (equalsIgnoreCase key)

variable (h : EnvironmentHost)

/-- The entries of the loop over the machine or the user table. -/
def scopeEntries (template pre : Str) (table : List EnvironmentEntry) : List LogEntry :=
  (table.filter fun e => h.startsWithCulture e.key pre).map fun e =>
    ⟨.debug, template, [e.key, e.value.getD []]⟩

/-- The loop over the machine or the user scope. -/
def logScope (template pre : Str) : Except Str (List EnvironmentEntry) → Emission
  | .ok table => ⟨scopeEntries h template pre table, none⟩
  | .error ex => ⟨[], some ex⟩

/-- `Environment.GetEnvironmentVariable` in one scope. -/
def getEnvironmentVariable (table : List EnvironmentEntry) (key : Str) : Option Str :=
  (table.find? fun e => h.sameVariable e.key key).bind EnvironmentEntry.value

/-- The scope that a variable is said to come from. All three are read first. -/
def variableSource (env : EnvironmentScopes) (key : Str) : Except Str Str :=
  match env.user, env.machine with
  | .error ex, _ => .error ex
  | .ok _, .error ex => .error ex
  | .ok user, .ok machine =>
    .ok <|
      if !isNullOrEmpty (getEnvironmentVariable h env.process key) then "process".toList
      else if !isNullOrEmpty (getEnvironmentVariable h user key) then "user".toList
      else if !isNullOrEmpty (getEnvironmentVariable h machine key) then "system".toList
      else "unknown".toList

/-- The value that the loop over the effective environment writes. -/
def effectiveValue (e : EnvironmentEntry) : Str :=
  if isSensitiveVariable e.key then "<redacted>".toList else e.value.getD []

/-- The loop over the effective environment. -/
def logEffective (env : EnvironmentScopes) (pre : Str) : List EnvironmentEntry → Emission
  | [] => ⟨[], none⟩
  | e :: es =>
    if !startsWithIgnoreCase pre e.key then logEffective env pre es
    else
      match variableSource h env e.key with
      | .error ex => ⟨[], some ex⟩
      | .ok source =>
        Emission.andThen
          ⟨[⟨.information, effectiveTemplate, [e.key, effectiveValue e, source]⟩], none⟩
          (logEffective env pre es)

/-- The body of the `try` block. -/
def logVariables (minimum : LogLevel) (env : EnvironmentScopes) (pre : Str) : Emission :=
  let scopes : Emission :=
    if isEnabled minimum .debug then
      (logScope h systemTemplate pre env.machine).andThen (logScope h userTemplate pre env.user)
    else ⟨[], none⟩
  scopes.andThen (logEffective h env pre env.process)

/-- The entries of the `try` block, and that of its `catch` block. -/
def Emission.caught (pre : Str) (e : Emission) : List LogEntry :=
  match e.raised with
  | none => e.entries
  | some ex => e.entries ++ [⟨.error, errorTemplate, [ex, pre]⟩]

/-- `LogPrefixedEnvironmentVariables`. -/
def logPrefixedEnvironmentVariables (minimum : LogLevel) (env : EnvironmentScopes) (pre : Str) :
    List LogEntry :=
  if !isEnabled minimum .information then [] else (logVariables h minimum env pre).caught pre

/-- The two runs that `LogDistroPreamble` makes. -/
def logDistroPreamble (minimum : LogLevel) (env : EnvironmentScopes) : List LogEntry :=
  if isEnabled minimum .information then
    logPrefixedEnvironmentVariables h minimum env "OTEL_".toList ++
      logPrefixedEnvironmentVariables h minimum env "ELASTIC_OTEL_".toList
  else []

/-! ### Environments that differ in secrets only -/

/-- Two entries of one variable, with the same value unless it is sensitive, and both empty or
neither. -/
structure SameButSecretValue (e e' : EnvironmentEntry) : Prop where
  key : e.key = e'.key
  value : isSensitiveVariable e.key = false → e.value = e'.value
  isEmpty : isNullOrEmpty e.value = isNullOrEmpty e'.value

/-- Two readings of one scope. -/
inductive SameScope : Except Str (List EnvironmentEntry) → Except Str (List EnvironmentEntry) → Prop
  | read {t t' : List EnvironmentEntry} (h : List.Forall₂ SameButSecretValue t t') :
      SameScope (.ok t) (.ok t')
  | failed (ex : Str) : SameScope (.error ex) (.error ex)

/-- Two environments with the same variables in each scope, whose values differ where the
variable is sensitive and not empty only. -/
structure SameButSecretValues (env env' : EnvironmentScopes) : Prop where
  process : List.Forall₂ SameButSecretValue env.process env'.process
  user : SameScope env.user env'.user
  machine : SameScope env.machine env'.machine

/-- The preamble says nothing about the secrets of the environment. -/
def Silent (minimum : LogLevel) (env : EnvironmentScopes) : Prop :=
  ∀ env', SameButSecretValues env env' →
    logDistroPreamble h minimum env = logDistroPreamble h minimum env'

/-- A table has a sensitive variable that is not empty and that the prefix selects, by the
current culture. -/
def Exposes (pre : Str) (table : List EnvironmentEntry) : Prop :=
  ∃ e ∈ table, h.startsWithCulture e.key pre = true ∧ isSensitiveVariable e.key = true ∧
    isNullOrEmpty e.value = false

/-- The machine scope exposes a secret to one of the two prefixes, or it can be read and the user
scope does. -/
def ExposesSecret (env : EnvironmentScopes) : Prop :=
  ∃ pre ∈ ["OTEL_".toList, "ELASTIC_OTEL_".toList], ∃ machine, env.machine = .ok machine ∧
    (Exposes h pre machine ∨ ∃ user, env.user = .ok user ∧ Exposes h pre user)

/-! ### What the entries depend on -/

variable {h} {env env' : EnvironmentScopes} {t t' : List EnvironmentEntry}

theorem sameButSecretValue_refl (e : EnvironmentEntry) : SameButSecretValue e e :=
  ⟨rfl, fun _ => rfl, rfl⟩

/-- Whether a variable is empty in a scope is no secret. -/
theorem isNullOrEmpty_getEnvironmentVariable (ht : List.Forall₂ SameButSecretValue t t')
    (key : Str) :
    isNullOrEmpty (getEnvironmentVariable h t key) =
      isNullOrEmpty (getEnvironmentVariable h t' key) := by
  rw [getEnvironmentVariable, getEnvironmentVariable]
  induction ht with
  | nil => rfl
  | @cons e e' t t' he _ ih =>
    rw [List.find?_cons, List.find?_cons, ← he.key]
    cases h.sameVariable e.key key with
    | true => exact he.isEmpty
    | false => exact ih

theorem variableSource_congr (henv : SameButSecretValues env env') (key : Str) :
    variableSource h env key = variableSource h env' key := by
  have hprocess := isNullOrEmpty_getEnvironmentVariable (h := h) henv.process key
  have huser := henv.user
  have hmachine := henv.machine
  rw [variableSource, variableSource]
  generalize env.user = user, env'.user = user' at huser
  generalize env.machine = machine, env'.machine = machine' at hmachine
  rcases huser with ⟨hu⟩ | ex
  · rcases hmachine with ⟨hm⟩ | ex
    · simp only [hprocess, isNullOrEmpty_getEnvironmentVariable hu key,
        isNullOrEmpty_getEnvironmentVariable hm key]
    · rfl
  · rfl

theorem effectiveValue_congr {e e' : EnvironmentEntry} (he : SameButSecretValue e e') :
    effectiveValue e = effectiveValue e' := by
  rw [effectiveValue, effectiveValue, ← he.key]
  cases hs : isSensitiveVariable e.key with
  | true => rfl
  | false => rw [he.value hs]

/-- The loop over the effective environment redacts every secret. -/
theorem logEffective_congr (henv : SameButSecretValues env env') (pre : Str)
    (ht : List.Forall₂ SameButSecretValue t t') :
    logEffective h env pre t = logEffective h env' pre t' := by
  induction ht with
  | nil => rfl
  | cons he _ ih =>
    rw [logEffective, logEffective, ih, ← he.key, variableSource_congr henv,
      effectiveValue_congr he]

/-- An entry of an unexposed table is written alike. -/
theorem scopeEntries_congr {template pre : Str} (ht : List.Forall₂ SameButSecretValue t t')
    (hexp : ¬ Exposes h pre t) :
    scopeEntries h template pre t = scopeEntries h template pre t' := by
  rw [scopeEntries, scopeEntries]
  induction ht with
  | nil => rfl
  | @cons e e' t t' he _ ih =>
    have ht : ¬ Exposes h pre t := fun ⟨f, hf, hrest⟩ =>
      hexp ⟨f, List.mem_cons_of_mem e hf, hrest⟩
    rw [List.filter_cons, List.filter_cons, ← he.key]
    split_ifs with hpre
    · have hvalue : e.value.getD [] = e'.value.getD [] := by
        cases hs : isSensitiveVariable e.key with
        | false => rw [he.value hs]
        | true =>
          -- a sensitive variable that the prefix selects is empty in both
          have hempty : isNullOrEmpty e.value = true := by
            by_contra hne
            exact hexp ⟨e, List.mem_cons_self, hpre, hs, Bool.eq_false_iff.mpr hne⟩
          have hempty' := hempty
          rw [he.isEmpty] at hempty'
          rw [isNullOrEmpty, beq_iff_eq] at hempty hempty'
          rw [hempty, hempty']
      rw [List.map_cons, List.map_cons, ih ht, he.key, hvalue]
    · exact ih ht

theorem logScope_congr {template pre : Str} {scope scope' : Except Str (List EnvironmentEntry)}
    (hs : SameScope scope scope') (hexp : ∀ t, scope = .ok t → ¬ Exposes h pre t) :
    logScope h template pre scope = logScope h template pre scope' := by
  rcases hs with ⟨ht⟩ | ex
  · rw [logScope, logScope, scopeEntries_congr ht (hexp _ rfl)]
  · rfl

/-- The entries at `Debug`, when the machine scope exposes nothing, nor the user scope after
it. -/
theorem logScopes_congr {pre : Str} (henv : SameButSecretValues env env')
    (hexp : ∀ machine, env.machine = .ok machine →
      ¬ Exposes h pre machine ∧ ∀ user, env.user = .ok user → ¬ Exposes h pre user) :
    (logScope h systemTemplate pre env.machine).andThen (logScope h userTemplate pre env.user) =
      (logScope h systemTemplate pre env'.machine).andThen
        (logScope h userTemplate pre env'.user) := by
  rw [← logScope_congr henv.machine fun t ht => (hexp t ht).1]
  cases hmachine : env.machine with
  | error ex => rfl
  | ok machine => rw [← logScope_congr henv.user (hexp machine hmachine).2]

/-- An unexposed run writes the same entries. -/
theorem logPrefixedEnvironmentVariables_congr {minimum : LogLevel} {pre : Str}
    (henv : SameButSecretValues env env')
    (hexp : isEnabled minimum .debug = true → ∀ machine, env.machine = .ok machine →
      ¬ Exposes h pre machine ∧ ∀ user, env.user = .ok user → ¬ Exposes h pre user) :
    logPrefixedEnvironmentVariables h minimum env pre =
      logPrefixedEnvironmentVariables h minimum env' pre := by
  have hbody : logVariables h minimum env pre = logVariables h minimum env' pre := by
    rw [logVariables, logVariables, logEffective_congr henv pre henv.process]
    cases hdebug : isEnabled minimum .debug with
    | false => rfl
    | true =>
      simp only [if_true]
      rw [logScopes_congr henv (hexp hdebug)]
  rw [logPrefixedEnvironmentVariables, logPrefixedEnvironmentVariables, hbody]

/-! ### An environment with longer secrets -/

/-- The entry with a longer value, if it is sensitive and not empty. -/
def lengthen (e : EnvironmentEntry) : EnvironmentEntry :=
  if isSensitiveVariable e.key && !isNullOrEmpty e.value then
    { e with value := e.value.map (· ++ ['x']) }
  else e

theorem lengthen_key (e : EnvironmentEntry) : (lengthen e).key = e.key := by
  rw [lengthen]
  split_ifs <;> rfl

theorem sameButSecretValue_lengthen (e : EnvironmentEntry) :
    SameButSecretValue e (lengthen e) := by
  refine ⟨(lengthen_key e).symm, fun hs => ?_, ?_⟩
  · rw [lengthen, hs]
    rfl
  · rw [lengthen]
    split_ifs with hc
    · obtain ⟨-, hne⟩ := Bool.and_eq_true_iff.mp hc
      rw [Bool.not_eq_true'] at hne
      rw [hne]
      cases hv : e.value with
      | none => simp [hv, isNullOrEmpty] at hne
      | some v => simp [isNullOrEmpty]
    · rfl

theorem forall₂_lengthen (t : List EnvironmentEntry) :
    List.Forall₂ SameButSecretValue t (t.map lengthen) := by
  rw [List.forall₂_map_right_iff]
  exact List.forall₂_same.mpr fun e _ => sameButSecretValue_lengthen e

/-- A longer secret shows in the entries of an exposed table. -/
theorem not_exposes_of_scopeEntries_lengthen {template pre : Str} {t : List EnvironmentEntry}
    (heq : scopeEntries h template pre t = scopeEntries h template pre (t.map lengthen)) :
    ¬ Exposes h pre t := by
  rintro ⟨e, he, hpre, hs, hne⟩
  rw [scopeEntries, scopeEntries, List.filter_map, List.map_map] at heq
  have hfilter : t.filter ((fun e => h.startsWithCulture e.key pre) ∘ lengthen) =
      t.filter fun e => h.startsWithCulture e.key pre :=
    List.filter_congr fun f _ => by rw [Function.comp_apply, lengthen_key]
  rw [hfilter] at heq
  have hentry := List.map_inj_left.mp heq e (List.mem_filter.mpr ⟨he, hpre⟩)
  have hvalue : e.value.getD [] = (lengthen e).value.getD [] := by
    simpa [lengthen_key] using hentry
  rw [lengthen, hs, hne] at hvalue
  cases hv : e.value with
  | none => simp [hv, isNullOrEmpty] at hne
  | some v => simp [hv] at hvalue

/-- The environment with longer secrets in the machine and the user scope. -/
def EnvironmentScopes.lengthen (env : EnvironmentScopes) : EnvironmentScopes :=
  { env with
    user := env.user.map (List.map Preamble.lengthen)
    machine := env.machine.map (List.map Preamble.lengthen) }

theorem sameScope_map_lengthen (scope : Except Str (List EnvironmentEntry)) :
    SameScope scope (scope.map (List.map lengthen)) := by
  cases scope with
  | error ex => exact .failed ex
  | ok t => exact .read (forall₂_lengthen t)

theorem sameButSecretValues_lengthen (env : EnvironmentScopes) :
    SameButSecretValues env env.lengthen where
  process := List.forall₂_same.mpr fun e _ => sameButSecretValue_refl e
  user := sameScope_map_lengthen env.user
  machine := sameScope_map_lengthen env.machine

/-! ### How many entries there are -/

/-- The number of entries is no secret. -/
theorem length_scopeEntries (template pre : Str) (ht : List.Forall₂ SameButSecretValue t t') :
    (scopeEntries h template pre t).length = (scopeEntries h template pre t').length := by
  rw [scopeEntries, scopeEntries, List.length_map, List.length_map]
  induction ht with
  | nil => rfl
  | cons he _ ih =>
    rw [List.filter_cons, List.filter_cons, ← he.key]
    split_ifs
    · rw [List.length_cons, List.length_cons, ih]
    · exact ih

/-- The two loops at `Debug`. -/
def debugEmission (h : EnvironmentHost) (env : EnvironmentScopes) (pre : Str) : Emission :=
  (logScope h systemTemplate pre env.machine).andThen (logScope h userTemplate pre env.user)

theorem debugEmission_shape (pre : Str) (henv : SameButSecretValues env env') :
    (debugEmission h env pre).entries.length = (debugEmission h env' pre).entries.length ∧
      (debugEmission h env pre).raised = (debugEmission h env' pre).raised := by
  have huser := henv.user
  have hmachine := henv.machine
  rw [debugEmission, debugEmission]
  generalize env.user = user, env'.user = user' at huser
  generalize env.machine = machine, env'.machine = machine' at hmachine
  rcases hmachine with ⟨hm⟩ | ex
  · have hmlen := length_scopeEntries (h := h) systemTemplate pre hm
    rcases huser with ⟨hu⟩ | ex
    · have hulen := length_scopeEntries (h := h) userTemplate pre hu
      refine ⟨?_, rfl⟩
      simp only [logScope, Emission.andThen, List.length_append, hmlen, hulen]
    · simpa [logScope, Emission.andThen] using hmlen
  · exact ⟨rfl, rfl⟩

/-- The entries after those of a first block, by the exception that ended it. -/
def afterBlock (raised : Option Str) (effective : Emission) (pre : Str) : List LogEntry :=
  (Emission.andThen ⟨[], raised⟩ effective).caught pre

theorem caught_andThen (a b : Emission) (pre : Str) :
    (a.andThen b).caught pre = a.entries ++ afterBlock a.raised b pre := by
  rcases a with ⟨entries, _ | ex⟩
  · rcases b with ⟨entries', _ | ex⟩
    · rfl
    · simp [Emission.andThen, Emission.caught, afterBlock]
  · rfl

theorem isEnabled_information_of_debug {minimum : LogLevel}
    (hdebug : isEnabled minimum .debug = true) : isEnabled minimum .information = true := by
  revert hdebug
  cases minimum <;> decide

/-- A run at `Debug`: the entries of the two loops, then the others. -/
theorem logPrefixedEnvironmentVariables_debug {minimum : LogLevel} (env : EnvironmentScopes)
    (pre : Str) (hdebug : isEnabled minimum .debug = true) :
    logPrefixedEnvironmentVariables h minimum env pre =
      (debugEmission h env pre).entries ++
        afterBlock (debugEmission h env pre).raised (logEffective h env pre env.process) pre := by
  rw [logPrefixedEnvironmentVariables, isEnabled_information_of_debug hdebug, logVariables,
    hdebug, Bool.not_true, if_neg Bool.false_ne_true, if_pos rfl, ← caught_andThen,
    debugEmission]

/-- If the preambles of two environments are the same, so are the entries at `Debug`. -/
theorem debugEntries_eq {minimum : LogLevel} (hdebug : isEnabled minimum .debug = true)
    (henv : SameButSecretValues env env')
    (heq : logDistroPreamble h minimum env = logDistroPreamble h minimum env') :
    ∀ pre ∈ ["OTEL_".toList, "ELASTIC_OTEL_".toList],
      (debugEmission h env pre).entries = (debugEmission h env' pre).entries := by
  -- all that follows the entries at `Debug` is the same, and their number is
  have hafter : ∀ pre,
      afterBlock (debugEmission h env pre).raised (logEffective h env pre env.process) pre =
        afterBlock (debugEmission h env' pre).raised (logEffective h env' pre env'.process) pre :=
    fun pre => by rw [(debugEmission_shape pre henv).2, logEffective_congr henv pre henv.process]
  have hlength := fun pre => (debugEmission_shape (h := h) pre henv).1
  rw [logDistroPreamble, logDistroPreamble, isEnabled_information_of_debug hdebug, if_pos rfl,
    if_pos rfl] at heq
  simp only [logPrefixedEnvironmentVariables_debug _ _ hdebug] at heq
  rw [hafter, hafter, List.append_assoc, List.append_assoc] at heq
  obtain ⟨hotel, hrest⟩ := List.append_inj heq (hlength _)
  obtain ⟨helastic, -⟩ := List.append_inj (List.append_cancel_left hrest) (hlength _)
  intro pre hpre
  rcases List.mem_cons.mp hpre with rfl | hpre
  · exact hotel
  · rw [List.mem_singleton] at hpre
    rw [hpre]
    exact helastic

/-- Same entries with longer secrets: nothing is exposed. -/
theorem not_exposes_of_debugEntries_lengthen {pre : Str} {machine : List EnvironmentEntry}
    (hmachine : env.machine = .ok machine)
    (heq : (debugEmission h env pre).entries = (debugEmission h env.lengthen pre).entries) :
    ¬ Exposes h pre machine ∧ ∀ user, env.user = .ok user → ¬ Exposes h pre user := by
  have hm : env.lengthen.machine = .ok (machine.map lengthen) := by
    rw [EnvironmentScopes.lengthen, hmachine]
    rfl
  have hmlen := length_scopeEntries (h := h) systemTemplate pre (forall₂_lengthen machine)
  rw [debugEmission, debugEmission, hmachine, hm] at heq
  cases huser : env.user with
  | error ex =>
    have hu : env.lengthen.user = .error ex := by
      rw [EnvironmentScopes.lengthen, huser]
      rfl
    simp only [huser, hu, logScope, Emission.andThen, List.append_nil] at heq
    exact ⟨not_exposes_of_scopeEntries_lengthen heq, fun user h => by simp at h⟩
  | ok user =>
    have hu : env.lengthen.user = .ok (user.map lengthen) := by
      rw [EnvironmentScopes.lengthen, huser]
      rfl
    simp only [huser, hu, logScope, Emission.andThen] at heq
    obtain ⟨hsystem, hrest⟩ := List.append_inj heq hmlen
    refine ⟨not_exposes_of_scopeEntries_lengthen hsystem, fun user' huser' => ?_⟩
    obtain rfl : user = user' := by simpa using huser'
    exact not_exposes_of_scopeEntries_lengthen hrest

/-! ### Silent preambles -/

/-- **Secrets in the preamble.** The entries are independent of the values of sensitive variables
exactly when the logger does not write `Debug` entries, or no sensitive variable with a value is
selected by a prefix in the machine scope, nor in the user scope. -/
theorem logDistroPreamble_silent_iff (h : EnvironmentHost) (minimum : LogLevel)
    (env : EnvironmentScopes) :
    Silent h minimum env ↔ (isEnabled minimum .debug = true → ¬ ExposesSecret h env) := by
  constructor
  · rintro hsilent hdebug ⟨pre, hpre, machine, hmachine, hexp⟩
    have heq := debugEntries_eq hdebug (sameButSecretValues_lengthen env)
      (hsilent _ (sameButSecretValues_lengthen env)) pre hpre
    obtain ⟨hm, hu⟩ := not_exposes_of_debugEntries_lengthen hmachine heq
    rcases hexp with hexp | ⟨user, huser, hexp⟩
    · exact hm hexp
    · exact hu user huser hexp
  · intro hquiet env' henv
    have hcongr : ∀ pre ∈ ["OTEL_".toList, "ELASTIC_OTEL_".toList],
        logPrefixedEnvironmentVariables h minimum env pre =
          logPrefixedEnvironmentVariables h minimum env' pre := fun pre hpre =>
      logPrefixedEnvironmentVariables_congr henv fun hdebug machine hmachine =>
        ⟨fun hexp => hquiet hdebug ⟨pre, hpre, machine, hmachine, Or.inl hexp⟩,
          fun user huser hexp =>
            hquiet hdebug ⟨pre, hpre, machine, hmachine, Or.inr ⟨user, huser, hexp⟩⟩⟩
    rw [logDistroPreamble, logDistroPreamble, hcongr _ List.mem_cons_self,
      hcongr _ (List.mem_cons_of_mem _ List.mem_cons_self)]

/-- A machine on which the OTLP headers are set for all users. -/
def machineHeaders : EnvironmentScopes where
  process := []
  user := .ok []
  machine := .ok [⟨otelExporterOtlpHeaders, some "Authorization=secret".toList⟩]

/-- At `Debug`, the headers of the machine scope are written to the log. -/
theorem machineHeaders_not_silent : ¬ Silent EnvironmentHost.ordinal .debug machineHeaders := by
  intro hsilent
  have heq := hsilent _ (sameButSecretValues_lengthen machineHeaders)
  exact absurd heq (by decide)

end ElasticOpenTelemetry.Preamble
