import ElasticOpenTelemetry.Configuration.AcceptedValues
import ElasticOpenTelemetry.Configuration.Options

/-!
# Precedence of the configuration sources

The constructors read the environment first, then the `IConfiguration`, then the user's options;
the precedence is options over environment over `IConfiguration` over the default. The two
orders differ in their first two places, and what makes up for it is the guard in
`ConfigCell.Assign`: every assignment is an offer, and the greatest offering source wins in
whatever order the offers are made (`Precedence.Cell.offers_of_max`).

The closed forms are stated with what the readers return. `sourcesOf` says what a source supplies
without them: an entry of the dictionary with an accepted text, an entry of the `IConfiguration`
with one, a value that the user has set. `precedence_of_sources` puts the two together: each
setting is the answer of the first of its sources, the default being the last one. The log level
is the one setting with a second place to look in the `IConfiguration`, and the one that central
configuration changes afterwards.
-/

namespace ElasticOpenTelemetry

open DotNet EnvironmentVariables FirstAnswer CompositeElasticOpenTelemetryOptions

/-! ### What the sources supply -/

/-- The value of the highest-precedence source that supplies one. -/
def supplied {α : Type} (options environment configuration : Option α) : Option α :=
  options.or (environment.or configuration)

/-- The value that an `IConfiguration` supplies for a setting. -/
def sectionValue {α : Type} (configuration : IConfiguration) (key : Str)
    (parser : Option Str → Option α) : Option α :=
  configurationValue configuration (configurationKey key) parser

/-- The log level that an `IConfiguration` supplies: the setting's own entry, or the non-empty
entry of the logging category, or the default entry of the logging section. -/
def configuredLogLevel (configuration : IConfiguration) : Option LogLevel :=
  let category := configuration "Logging:LogLevel:Elastic.OpenTelemetry".toList
  (sectionValue configuration "LogLevel".toList logLevelParser).or
    (logLevelParser
      ((stringParser category).or (configuration "Logging:LogLevel:Default".toList)))

/-- The last level of a list that parses. -/
def lastParseable (levels : List Str) : Option LogLevel :=
  (levels.filterMap fun level => logLevelParser (some level)).getLast?

/-! ### One cell -/

section OneCell

variable {α : Type}

/-- Offers in the constructors' order, resolved in the order of precedence. -/
theorem value_offers (d options environment configuration : Option α) :
    ([(.environment, environment.map some), (.iConfiguration, configuration.map some),
      (.options, options.map some)].foldl Precedence.Cell.offer
        (⟨d, .default⟩ : Precedence.Cell ConfigSource (Option α))).value =
      (supplied options environment configuration).or d := by
  cases options with
  | some v =>
    rw [Precedence.Cell.offers_of_max (k := .options) (v := some v) (by simp) ?_
      (ConfigSource.default_le _)]
    · rfl
    · intro o ho w hw
      simp only [List.mem_cons, List.not_mem_nil, or_false] at ho
      rcases ho with rfl | rfl | rfl
      · exact Or.inl ConfigSource.environment_lt_options
      · exact Or.inl (ConfigSource.iConfiguration_lt_environment.trans
          ConfigSource.environment_lt_options)
      · exact Or.inr ⟨rfl, (Option.some.inj hw).symm⟩
  | none =>
    cases environment with
    | some v =>
      rw [Precedence.Cell.offers_of_max (k := .environment) (v := some v) (by simp) ?_
        (ConfigSource.default_le _)]
      · rfl
      · intro o ho w hw
        simp only [List.mem_cons, List.not_mem_nil, or_false] at ho
        rcases ho with rfl | rfl | rfl
        · exact Or.inr ⟨rfl, (Option.some.inj hw).symm⟩
        · exact Or.inl ConfigSource.iConfiguration_lt_environment
        · simp at hw
    | none =>
      cases configuration with
      | some v => rfl
      | none => rfl

/-- A setting that is read from one key of each source. -/
theorem value_threeSources {c : ConfigCell α} (hc : c.source = .default)
    (env : EnvironmentDictionary) (key : Str) (configuration : IConfiguration) (fullKey : Str)
    (parser : Option Str → Option α) (options : Option α) :
    (assignIfPresent (setFromConfigurationKey configuration fullKey
        (setFromEnvironment env key c parser) parser) options).value =
      (supplied options (environmentValue env key parser)
        (configurationValue configuration fullKey parser)).or c.value := by
  have hcell : c.toCell = ⟨c.value, .default⟩ := by rw [← hc]
  rw [← value_offers, ← hcell, offer_assignIfPresent, offer_setFromConfigurationKey,
    offer_setFromEnvironment]
  rfl

/-- A setting that is read from its own key below `Elastic:OpenTelemetry`. -/
theorem value_setting {c : ConfigCell α} (hc : c.source = .default) (env : EnvironmentDictionary)
    (key : Str) (configuration : IConfiguration) (parser : Option Str → Option α)
    (options : Option α) :
    (assignIfPresent (setFromConfiguration configuration (setFromEnvironment env key c parser)
        parser) options).value =
      (supplied options (environmentValue env key parser)
        (sectionValue configuration c.key parser)).or c.value := by
  rw [setFromConfiguration, key_setFromEnvironment]
  exact value_threeSources hc env key configuration _ parser options

/-- Such a setting, read by a getter that supplies a default. -/
theorem getD_setting (c : ConfigCell α) (hc : c.source = .default) (env : EnvironmentDictionary)
    (key : Str) (configuration : IConfiguration) (parser : Option Str → Option α)
    (options : Option α) (d : α) :
    (assignIfPresent (setFromConfiguration configuration (setFromEnvironment env key c parser)
        parser) options).value.getD d =
      (supplied options (environmentValue env key parser)
        (sectionValue configuration c.key parser)).getD (c.value.getD d) := by
  rw [value_setting hc, Option.getD_or]

/-- An empty log directory in the options is no value. -/
theorem assign_nonempty (c : ConfigCell Str) (value : Option Str) :
    (if isNullOrEmpty value then c else c.assignFromOptions value) =
      assignIfPresent c (stringParser value) := by
  rw [stringParser]
  by_cases h : isNullOrEmpty value = true
  · rw [if_pos h, if_pos h]; rfl
  · rw [if_neg h, if_neg h]
    cases value with
    | none => exact absurd rfl h
    | some v => rfl

end OneCell

/-! ### The log level -/

/-- The fallback's text is the category entry when it is not empty, and the default entry
otherwise; an empty default entry supplies nothing. -/
theorem configuredLogLevel_eq (configuration : IConfiguration) :
    configuredLogLevel configuration =
      (sectionValue configuration "LogLevel".toList logLevelParser).or
        (logLevelParser (loggingSectionLogLevel configuration)) := by
  rw [configuredLogLevel, loggingSectionLogLevel, stringParser]
  by_cases h : isNullOrEmpty (configuration "Logging:LogLevel:Elastic.OpenTelemetry".toList) = true
  · simp only [h, if_true, Option.none_or]
  · simp only [Bool.not_eq_true] at h
    simp only [h, Bool.false_eq_true, if_false]
    cases hcategory : configuration "Logging:LogLevel:Elastic.OpenTelemetry".toList with
    | none => rw [hcategory] at h; exact absurd h (by decide)
    | some category => rw [Option.some_or]

/-- On a cell that no source has assigned, the parser leaves what the `IConfiguration`
supplies. -/
theorem parseLogLevel_of_default (configuration : IConfiguration) {c : ConfigCell LogLevel}
    (hkey : c.key = "LogLevel".toList) (hcell : c.toCell = ⟨some .warning, .default⟩) :
    (parseLogLevel configuration c).value.getD .warning =
        (configuredLogLevel configuration).getD .warning ∧
      (parseLogLevel configuration c).source ≤ .iConfiguration := by
  obtain ⟨⟨value, source⟩, key, redactor⟩ := c
  obtain ⟨rfl, rfl⟩ : value = some .warning ∧ source = .default := by simpa using hcell
  have hkey' : key = "LogLevel".toList := hkey
  rw [configuredLogLevel_eq, sectionValue, ← hkey', parseLogLevel, setFromConfiguration,
    setFromConfigurationKey_eq, logLevelParser]
  cases configurationValue configuration (configurationKey key) logLevelParser with
  | some level =>
    cases isNullOrEmpty (loggingSectionLogLevel configuration) with
    | true => exact ⟨rfl, le_refl _⟩
    | false => exact ⟨rfl, le_refl _⟩
  | none =>
    cases isNullOrEmpty (loggingSectionLogLevel configuration) with
    | true => exact ⟨rfl, ConfigSource.default_le _⟩
    | false => exact ⟨rfl, le_refl _⟩

/-- On a cell that the environment has assigned, the parser changes nothing. -/
theorem parseLogLevel_of_environment (configuration : IConfiguration) {c : ConfigCell LogLevel}
    (hsource : c.source = .environment) : (parseLogLevel configuration c).toCell = c.toCell := by
  have hset : (setFromConfiguration configuration c logLevelParser).toCell = c.toCell := by
    rw [setFromConfiguration, offer_setFromConfigurationKey]
    cases configurationValue configuration (configurationKey c.key) logLevelParser with
    | none => rfl
    | some level =>
      exact Precedence.Cell.assign_of_lt
        (hsource ▸ ConfigSource.iConfiguration_lt_environment) _
  have hnot : ((setFromConfiguration configuration c logLevelParser).source == .default) =
      false := by
    rw [hset, hsource]
    rfl
  rw [parseLogLevel, hnot, Bool.and_false, if_neg Bool.false_ne_true]
  exact hset

/-- The log level after the three sources. -/
theorem logLevel_threeSources (env : EnvironmentDictionary) (configuration : IConfiguration)
    (options : Option LogLevel) {c : ConfigCell LogLevel} (hkey : c.key = "LogLevel".toList)
    (hcell : c.toCell = ⟨some .warning, .default⟩) :
    (assignIfPresent (parseLogLevel configuration
        (setFromEnvironment env otelLogLevel c logLevelParser)) options).value.getD .warning =
      (supplied options (environmentValue env otelLogLevel logLevelParser)
        (configuredLogLevel configuration)).getD .warning := by
  have hset := offer_setFromEnvironment env otelLogLevel c logLevelParser
  rw [hcell] at hset
  have hkey' : (setFromEnvironment env otelLogLevel c logLevelParser).key = "LogLevel".toList := by
    rw [key_setFromEnvironment, hkey]
  generalize setFromEnvironment env otelLogLevel c logLevelParser = c' at hset hkey' ⊢
  have hle : (parseLogLevel configuration c').source ≤ .options ∧
      (parseLogLevel configuration c').value.getD .warning =
        ((environmentValue env otelLogLevel logLevelParser).or
          (configuredLogLevel configuration)).getD .warning := by
    cases henv : environmentValue env otelLogLevel logLevelParser with
    | some level =>
      rw [henv] at hset
      have hcell' : c'.toCell = ⟨some level, .environment⟩ := hset
      rw [parseLogLevel_of_environment configuration (congrArg Precedence.Cell.source hcell'),
        hcell']
      exact ⟨ConfigSource.environment_lt_options.le, rfl⟩
    | none =>
      rw [henv] at hset
      obtain ⟨hvalue, hsource⟩ := parseLogLevel_of_default configuration hkey' hset
      exact ⟨hsource.trans (ConfigSource.iConfiguration_lt_environment.trans
        ConfigSource.environment_lt_options).le, hvalue⟩
  rw [offer_assignIfPresent, supplied]
  cases options with
  | none => exact hle.2
  | some level => rw [Option.map_some, Precedence.Cell.offer_some,
      Precedence.Cell.assign_of_le hle.1]; rfl

namespace CompositeElasticOpenTelemetryOptions

theorem logLevel_setLogLevelFromCentralConfig (o : CompositeElasticOpenTelemetryOptions)
    (level : Str) :
    (o.setLogLevelFromCentralConfig level).logLevel =
      (logLevelParser (some level)).getD o.logLevel := by
  rw [setLogLevelFromCentralConfig]
  cases logLevelParser (some level) with
  | none => rfl
  | some parsed => simp [logLevel]

/-- **Central configuration**: after any sequence of levels from it, the last one that parses is
in force, and the level is unchanged when none does. -/
theorem logLevel_foldl_setLogLevelFromCentralConfig (o : CompositeElasticOpenTelemetryOptions)
    (levels : List Str) :
    (levels.foldl setLogLevelFromCentralConfig o).logLevel =
      (lastParseable levels).getD o.logLevel := by
  induction levels using List.reverseRecOn with
  | nil => rfl
  | append_singleton levels level ih =>
    rw [List.foldl_concat, logLevel_setLogLevelFromCentralConfig, ih, lastParseable,
      lastParseable, List.filterMap_append, List.getLast?_append]
    cases h : logLevelParser (some level) with
    | none => simp [h]
    | some parsed => simp [h]

end CompositeElasticOpenTelemetryOptions

/-! ### What a source supplies, without the readers -/

section Supplies

variable {α : Type}

/-- A variable that is present, with a text that is accepted. -/
def EnvironmentSupplies (env : EnvironmentDictionary) (key : Str) (Reads : Str → α → Prop)
    (v : α) : Prop :=
  ∃ text, env key = some (some text) ∧ Reads text v

/-- An entry that is present, with a text that is accepted. -/
def ConfigurationSupplies (configuration : IConfiguration) (key : Str) (Reads : Str → α → Prop)
    (v : α) : Prop :=
  ∃ text, configuration key = some text ∧ Reads text v

/-- The sources of a setting in the order of precedence: the user's options, the environment, the
`IConfiguration`. -/
def sourcesOf (options : α → Prop) (env : EnvironmentDictionary) (key : Str)
    (configuration : IConfiguration) (fullKey : Str) (Reads : Str → α → Prop) :
    List (α → Prop) :=
  [options, EnvironmentSupplies env key Reads, ConfigurationSupplies configuration fullKey Reads]

variable {parser : Option Str → Option α} {Reads : Str → α → Prop}

theorem environmentValue_eq_some_iff (h : Accepts parser Reads) (env : EnvironmentDictionary)
    (key : Str) (v : α) :
    environmentValue env key parser = some v ↔ EnvironmentSupplies env key Reads v := by
  rw [environmentValue, getSafeEnvironmentVariable, EnvironmentSupplies]
  cases henv : env key with
  | none => simp [h.empty]
  | some value =>
    cases value with
    | none => simp [h.empty]
    | some text => simp [h.text]

theorem configurationValue_eq_some_iff (h : Accepts parser Reads)
    (configuration : IConfiguration) (key : Str) (v : α) :
    configurationValue configuration key parser = some v ↔
      ConfigurationSupplies configuration key Reads v := by
  rw [configurationValue, Option.bind_eq_some_iff, ConfigurationSupplies]
  simp only [h.text]

/-- The readers return what the sources supply. -/
theorem answers_sourcesOf (h : Accepts parser Reads) (given : Option α) {options : α → Prop}
    (hoptions : ∀ v, given = some v ↔ options v) (env : EnvironmentDictionary) (key : Str)
    (configuration : IConfiguration) (fullKey : Str) :
    Answers [given, environmentValue env key parser,
        configurationValue configuration fullKey parser]
      (sourcesOf options env key configuration fullKey Reads) :=
  .cons hoptions (.cons (environmentValue_eq_some_iff h env key)
    (.cons (configurationValue_eq_some_iff h configuration fullKey) .nil))

theorem supplied_eq_findSome? (options environment configuration : Option α) :
    supplied options environment configuration =
      [options, environment, configuration].findSome? id := by
  cases options with
  | some v => rfl
  | none =>
    cases environment with
    | some v => rfl
    | none => cases configuration <;> rfl

/-- A setting without a default. -/
theorem supplied_eq_some_iff (h : Accepts parser Reads) (given : Option α) {options : α → Prop}
    (hoptions : ∀ v, given = some v ↔ options v) (env : EnvironmentDictionary) (key : Str)
    (configuration : IConfiguration) (fullKey : Str) (v : α) :
    supplied given (environmentValue env key parser)
        (configurationValue configuration fullKey parser) = some v ↔
      FirstOf (sourcesOf options env key configuration fullKey Reads) v := by
  rw [supplied_eq_findSome?]
  exact findSome?_eq_some_iff_firstOf
    (answers_sourcesOf h given hoptions env key configuration fullKey)

/-- No source supplies anything. -/
theorem supplied_eq_none_iff (h : Accepts parser Reads) (given : Option α) {options : α → Prop}
    (hoptions : ∀ v, given = some v ↔ options v) (env : EnvironmentDictionary) (key : Str)
    (configuration : IConfiguration) (fullKey : Str) :
    supplied given (environmentValue env key parser)
        (configurationValue configuration fullKey parser) = none ↔
      Unanswered (sourcesOf options env key configuration fullKey Reads) := by
  rw [supplied_eq_findSome?]
  exact findSome?_eq_none_iff_unanswered
    (answers_sourcesOf h given hoptions env key configuration fullKey)

/-- A setting with a default, which only has to be right when no source supplies a value. -/
theorem getD_supplied_eq_iff (h : Accepts parser Reads) (given : Option α) {options : α → Prop}
    (hoptions : ∀ v, given = some v ↔ options v) (env : EnvironmentDictionary) (key : Str)
    (configuration : IConfiguration) (fullKey : Str) {d : α} {default : α → Prop}
    (hd : Unanswered (sourcesOf options env key configuration fullKey Reads) →
      ∀ v, d = v ↔ default v) (v : α) :
    (supplied given (environmentValue env key parser)
        (configurationValue configuration fullKey parser)).getD d = v ↔
      FirstOf (sourcesOf options env key configuration fullKey Reads ++ [default]) v := by
  rw [supplied_eq_findSome?]
  exact getD_findSome?_eq_iff_firstOf
    (answers_sourcesOf h given hoptions env key configuration fullKey) hd

end Supplies

/-- The text of the logging section that counts: that of the category when it is not empty, and
that of the default entry otherwise. -/
def LoggingSectionSupplies (configuration : IConfiguration) (level : LogLevel) : Prop :=
  ∃ text, FirstOf
      [ConfigurationSupplies configuration "Logging:LogLevel:Elastic.OpenTelemetry".toList
          ReadsText,
        fun text => configuration "Logging:LogLevel:Default".toList = some text] text ∧
    ReadsLevel text level

theorem loggingSection_eq_some_iff (configuration : IConfiguration) (level : LogLevel) :
    logLevelParser ((stringParser (configuration
        "Logging:LogLevel:Elastic.OpenTelemetry".toList)).or
          (configuration "Logging:LogLevel:Default".toList)) = some level ↔
      LoggingSectionSupplies configuration level := by
  have hcategory : ∀ text,
      stringParser (configuration "Logging:LogLevel:Elastic.OpenTelemetry".toList) = some text ↔
        ConfigurationSupplies configuration "Logging:LogLevel:Elastic.OpenTelemetry".toList
          ReadsText text := fun text => by
    rw [← configurationValue_eq_some_iff accepts_stringParser, configurationValue]
    cases configuration "Logging:LogLevel:Elastic.OpenTelemetry".toList <;> rfl
  have hanswers : Answers
      [stringParser (configuration "Logging:LogLevel:Elastic.OpenTelemetry".toList),
        configuration "Logging:LogLevel:Default".toList]
      [ConfigurationSupplies configuration "Logging:LogLevel:Elastic.OpenTelemetry".toList
          ReadsText,
        fun text => configuration "Logging:LogLevel:Default".toList = some text] :=
    .cons hcategory (.cons (fun _ => Iff.rfl) .nil)
  rw [LoggingSectionSupplies]
  simp only [← findSome?_eq_some_iff_firstOf hanswers, ← accepts_logLevelParser.text]
  cases stringParser (configuration "Logging:LogLevel:Elastic.OpenTelemetry".toList) with
  | some text => simp
  | none =>
    cases configuration "Logging:LogLevel:Default".toList with
    | some text => simp
    | none => simp [logLevelParser, isNullOrEmpty]

/-- What no source names: nothing is logged to a target unless logging is asked for, by a verbose
level or by a directory that is not blank, and not switched off by the level `none`; then it is
the standard output in a container, and a file elsewhere. -/
def DefaultTargets (env : EnvironmentDictionary) (level : LogLevel)
    (directories : List (Str → Prop)) (targets : LogTargets) : Prop :=
  let asked := (level = .trace ∨ level = .debug ∨
    ∃ directory, FirstOf directories directory ∧ ∃ c ∈ directory, isWhiteSpace c = false) ∧
      level ≠ .none
  let inContainer := EnvironmentSupplies env "DOTNET_RUNNING_IN_CONTAINER".toList ReadsBool true
  (¬ asked ∧ targets = LogTargets.none) ∨
    (asked ∧ inContainer ∧ targets = LogTargets.stdOut) ∨
    (asked ∧ ¬ inContainer ∧ targets = LogTargets.file)

/-- When no source names targets, a verbose level or a directory that is not blank asks for
logging, and the level `none` switches it off. -/
theorem globalLogEnabled_iff {o : CompositeElasticOpenTelemetryOptions}
    (htargets : o.logTargetsCell.value = none) :
    o.globalLogEnabled = true ↔ (o.logLevel = .trace ∨ o.logLevel = .debug ∨
      isNullOrWhiteSpace o.logDirectoryCell.value = false) ∧ o.logLevel ≠ .none := by
  rw [globalLogEnabled, htargets, logLevel]
  generalize isNullOrWhiteSpace o.logDirectoryCell.value = blank
  cases o.logLevelCell.value with
  | none => cases blank <;> decide
  | some level => cases level <;> cases blank <;> decide

/-- The getter's default for the targets of an object whose cells hold what the sources supply. -/
theorem logTargetsDefault_eq_iff {o : CompositeElasticOpenTelemetryOptions}
    {env : EnvironmentDictionary} {directories : List (Str → Prop)}
    (htargets : o.logTargetsCell.value = none)
    (hdirectory : ∀ directory, o.logDirectoryCell.value = some directory ↔
      FirstOf directories directory)
    (hcontainer : o.runningInContainerCell.value = some true ↔
      EnvironmentSupplies env "DOTNET_RUNNING_IN_CONTAINER".toList ReadsBool true)
    (targets : LogTargets) :
    o.logTargetsDefault = targets ↔ DefaultTargets env o.logLevel directories targets := by
  have hblank : (∃ directory, FirstOf directories directory ∧
      ∃ c ∈ directory, isWhiteSpace c = false) ↔
        isNullOrWhiteSpace o.logDirectoryCell.value = false := by
    simp only [← hdirectory]
    cases o.logDirectoryCell.value <;> simp [isNullOrWhiteSpace]
  simp only [DefaultTargets, ← hcontainer, hblank, ← globalLogEnabled_iff htargets]
  rw [logTargetsDefault]
  by_cases henabled : o.globalLogEnabled = true
  · by_cases hin : o.runningInContainerCell.value = some true
    · simp [henabled, hin, eq_comm]
    · simp [henabled, hin, eq_comm]
  · simp [henabled, eq_comm]

/-! ### All settings -/

/-- Building from options alone is building with an `IConfiguration` that has no entries. -/
theorem ofOptions_eq (p : Platform) (options : ElasticOpenTelemetryOptions)
    (env : EnvironmentDictionary) :
    ofOptions p options env = ofConfigurationAndOptions p (fun _ => none) options env := rfl

/-- Building from an `IConfiguration` alone is building with options that set nothing. -/
theorem ofConfiguration_eq (p : Platform) (configuration : IConfiguration)
    (env : EnvironmentDictionary) :
    ofConfiguration p (some configuration) env =
      ofConfigurationAndOptions p configuration {} env := rfl

/-- Building from the environment alone is building with neither. -/
theorem ofEnvironment_eq (p : Platform) (env : EnvironmentDictionary) :
    ofEnvironment p env = ofConfigurationAndOptions p (fun _ => none) {} env := rfl

/-- The log level, with the logging section as one more source. -/
theorem logLevel_eq_iff (p : Platform) (env : EnvironmentDictionary)
    (configuration : IConfiguration) (options : ElasticOpenTelemetryOptions) (level : LogLevel) :
    (ofConfigurationAndOptions p configuration options env).logLevel = level ↔ FirstOf
      (sourcesOf (options.logLevel = some ·) env otelLogLevel configuration
        "Elastic:OpenTelemetry:LogLevel".toList ReadsLevel ++
          [LoggingSectionSupplies configuration] ++ [(.warning = ·)]) level := by
  have hfour : ∀ a b c d : Option LogLevel,
      supplied a b (c.or d) = [a, b, c, d].findSome? id := by
    rintro (_ | a) (_ | b) (_ | c) (_ | d) <;> rfl
  have hanswers : Answers _ (sourcesOf (options.logLevel = some ·) env otelLogLevel configuration
      "Elastic:OpenTelemetry:LogLevel".toList ReadsLevel ++
        [LoggingSectionSupplies configuration]) :=
    List.rel_append (answers_sourcesOf accepts_logLevelParser options.logLevel (fun _ => Iff.rfl)
      env otelLogLevel configuration _) (.cons (loggingSection_eq_some_iff configuration) .nil)
  rw [← getD_findSome?_eq_iff_firstOf hanswers (fun _ _ => Iff.rfl)]
  exact Eq.congr_left ((logLevel_threeSources env configuration options.logLevel rfl rfl).trans
    (congrArg (Option.getD · LogLevel.warning) (hfour _ _ _ _)))

/-- The container flag, which only the environment sets. -/
theorem runningInContainer_eq_true_iff (p : Platform) (env : EnvironmentDictionary)
    (configuration : IConfiguration) (options : ElasticOpenTelemetryOptions) :
    (ofConfigurationAndOptions p configuration options env).runningInContainerCell.value =
        some true ↔
      EnvironmentSupplies env "DOTNET_RUNNING_IN_CONTAINER".toList ReadsBool true := by
  rw [← environmentValue_eq_some_iff accepts_boolParser]
  change ((setFromEnvironment env dotnetRunningInContainer (initial p).runningInContainerCell
    boolParser).toCell).value = some true ↔
      environmentValue env dotnetRunningInContainer boolParser = some true
  rw [offer_setFromEnvironment]
  cases environmentValue env dotnetRunningInContainer boolParser with
  | none => simp [initial, ConfigCell.new]
  | some b =>
    rw [Option.map_some, Precedence.Cell.offer_some,
      Precedence.Cell.assign_of_le (ConfigSource.default_le _)]

/-- The sources of the log directory; the user's options supply one that is not empty. -/
def directorySources (env : EnvironmentDictionary) (configuration : IConfiguration)
    (options : ElasticOpenTelemetryOptions) : List (Str → Prop) :=
  sourcesOf (fun v => options.logDirectory = some v ∧ v ≠ []) env
    "OTEL_DOTNET_AUTO_LOG_DIRECTORY".toList configuration
    "Elastic:OpenTelemetry:LogDirectory".toList ReadsText

theorem stringParser_eq_some_iff (given : Option Str) (v : Str) :
    stringParser given = some v ↔ given = some v ∧ v ≠ [] := by
  cases given with
  | none => simp [stringParser, isNullOrEmpty]
  | some text =>
    rw [accepts_stringParser.text, ReadsText, Option.some.injEq, eq_comm]
    exact and_congr_right fun h => by rw [h]

theorem value_logDirectoryCell (p : Platform) (env : EnvironmentDictionary)
    (configuration : IConfiguration) (options : ElasticOpenTelemetryOptions) :
    (ofConfigurationAndOptions p configuration options env).logDirectoryCell.value =
      supplied (stringParser options.logDirectory)
        (environmentValue env otelDotnetAutoLogDirectory stringParser)
        (configurationValue configuration "Elastic:OpenTelemetry:LogDirectory".toList
          stringParser) := by
  have hvalue := value_setting (c := (initial p).logDirectoryCell) rfl env
    otelDotnetAutoLogDirectory configuration stringParser (stringParser options.logDirectory)
  rw [← assign_nonempty] at hvalue
  exact hvalue.trans Option.or_none

/-- The log directory that the sources supply, if any. -/
theorem logDirectoryCell_eq_some_iff (p : Platform) (env : EnvironmentDictionary)
    (configuration : IConfiguration) (options : ElasticOpenTelemetryOptions) (directory : Str) :
    (ofConfigurationAndOptions p configuration options env).logDirectoryCell.value =
        some directory ↔
      FirstOf (directorySources env configuration options) directory := by
  rw [value_logDirectoryCell, directorySources, ← supplied_eq_some_iff accepts_stringParser _
    (stringParser_eq_some_iff options.logDirectory)]
  rfl

/-- The log targets, whose default depends on the other settings. -/
theorem logTargets_eq_iff (p : Platform) (env : EnvironmentDictionary)
    (configuration : IConfiguration) (options : ElasticOpenTelemetryOptions)
    (targets : LogTargets) :
    (ofConfigurationAndOptions p configuration options env).logTargets = targets ↔ FirstOf
      (sourcesOf (options.logTargets = some ·) env elasticOtelLogTargets configuration
        "Elastic:OpenTelemetry:LogTargets".toList (ReadsTargets p) ++
          [DefaultTargets env (ofConfigurationAndOptions p configuration options env).logLevel
            (directorySources env configuration options)]) targets := by
  have hvalue := (value_setting (c := (initial p).logTargetsCell) rfl env elasticOtelLogTargets
    configuration (logTargetsParser p) options.logTargets).trans Option.or_none
  rw [← getD_supplied_eq_iff (accepts_logTargetsParser p) options.logTargets (fun _ => Iff.rfl)
    env _ configuration _ (fun hsilent => ?_)]
  · exact Eq.congr_left (congrArg (Option.getD · _) hvalue)
  · rw [← supplied_eq_none_iff (accepts_logTargetsParser p) options.logTargets
      (fun _ => Iff.rfl)] at hsilent
    exact logTargetsDefault_eq_iff (hvalue.trans hsilent)
      (logDirectoryCell_eq_some_iff p env configuration options)
      (runningInContainer_eq_true_iff p env configuration options)

/-- **Precedence of configuration sources.** Each setting of the options built from an
environment, an `IConfiguration` and the user's options has the value of the highest-precedence
source that supplies one, and its default when none does; afterwards the log level is the last
level from central configuration that names one. The constructors that are not given all of the
sources build the same as from sources that supply nothing. -/
theorem precedence_of_sources (p : Platform) (env : EnvironmentDictionary)
    (configuration : IConfiguration) (options : ElasticOpenTelemetryOptions)
    (levels : List Str) :
    let o := ofConfigurationAndOptions p configuration options env
    (∀ v, o.logDirectory = v ↔ FirstOf
      (directorySources env configuration options ++ [(getDefaultLogDirectory p = ·)]) v) ∧
    (∀ v, o.logLevel = v ↔ FirstOf
      (sourcesOf (options.logLevel = some ·) env "OTEL_LOG_LEVEL".toList configuration
        "Elastic:OpenTelemetry:LogLevel".toList ReadsLevel ++
          [LoggingSectionSupplies configuration, (.warning = ·)]) v) ∧
    (∀ v, o.logTargets = v ↔ FirstOf
      (sourcesOf (options.logTargets = some ·) env "ELASTIC_OTEL_LOG_TARGETS".toList configuration
        "Elastic:OpenTelemetry:LogTargets".toList (ReadsTargets p) ++
          [DefaultTargets env o.logLevel
            (directorySources env configuration options)]) v) ∧
    (∀ v, o.skipOtlpExporter = v ↔ FirstOf
      (sourcesOf (options.skipOtlpExporter = some ·) env "ELASTIC_OTEL_SKIP_OTLP_EXPORTER".toList
        configuration "Elastic:OpenTelemetry:SkipOtlpExporter".toList ReadsBool ++
          [(false = ·)]) v) ∧
    (∀ v, o.skipInstrumentationAssemblyScanning = v ↔ FirstOf
      (sourcesOf (options.skipInstrumentationAssemblyScanning = some ·) env
        "ELASTIC_OTEL_SKIP_ASSEMBLY_SCANNING".toList configuration
        "Elastic:OpenTelemetry:SkipInstrumentationAssemblyScanning".toList ReadsBool ++
          [(false = ·)]) v) ∧
    (∀ v, o.opAmpEndpoint = some v ↔ FirstOf
      (sourcesOf (options.opAmpClientOptions.endpoint = some ·) env
        "ELASTIC_OTEL_OPAMP_ENDPOINT".toList configuration
        "Elastic:OpenTelemetry:OpAmpEndpoint".toList ReadsText) v) ∧
    (∀ v, o.opAmpHeaders = some v ↔ FirstOf
      (sourcesOf (options.opAmpClientOptions.headers = some ·) env
        "ELASTIC_OTEL_OPAMP_HEADERS".toList configuration
        "Elastic:OpenTelemetry:OpAmpHeaders".toList ReadsText) v) ∧
    (∀ v, o.serviceName = some v ↔ FirstOf
      (sourcesOf (fun _ => False) env "OTEL_SERVICE_NAME".toList configuration
        "OTEL_SERVICE_NAME".toList ReadsText) v) ∧
    (∀ v, o.resourceAttributes = some v ↔ FirstOf
      (sourcesOf (fun _ => False) env "OTEL_RESOURCE_ATTRIBUTES".toList configuration
        "OTEL_RESOURCE_ATTRIBUTES".toList ReadsText) v) ∧
    (∀ v, (levels.foldl setLogLevelFromCentralConfig o).logLevel = v ↔
      FirstOf (levels.reverse.map ReadsLevel ++ [(o.logLevel = ·)]) v) ∧
    ofOptions p options env = ofConfigurationAndOptions p (fun _ => none) options env ∧
    ofConfiguration p (some configuration) env =
      ofConfigurationAndOptions p configuration {} env ∧
    ofEnvironment p env = ofConfigurationAndOptions p (fun _ => none) {} env := by
  intro o
  refine ⟨fun v => ?_, logLevel_eq_iff p env configuration options,
    logTargets_eq_iff p env configuration options, fun v => ?_, fun v => ?_, fun v => ?_,
    fun v => ?_, fun v => ?_, fun v => ?_, fun v => ?_, ofOptions_eq p options env,
    ofConfiguration_eq p configuration env, ofEnvironment_eq p env⟩
  · rw [directorySources, ← getD_supplied_eq_iff accepts_stringParser _
      (stringParser_eq_some_iff options.logDirectory) env _ configuration _ (fun _ _ => Iff.rfl),
      logDirectory, value_logDirectoryCell]
    rfl
  · rw [← getD_supplied_eq_iff accepts_boolParser _ (fun _ => Iff.rfl) env _ configuration _
      (fun _ _ => Iff.rfl)]
    exact Eq.congr_left (getD_setting (initial p).skipOtlpExporterCell rfl env
      elasticOtelSkipOtlpExporter configuration boolParser options.skipOtlpExporter false)
  · rw [← getD_supplied_eq_iff accepts_boolParser _ (fun _ => Iff.rfl) env _ configuration _
      (fun _ _ => Iff.rfl)]
    exact Eq.congr_left (getD_setting (initial p).skipInstrumentationAssemblyScanningCell rfl env
      elasticOtelSkipAssemblyScanning configuration boolParser
      options.skipInstrumentationAssemblyScanning false)
  · rw [← supplied_eq_some_iff accepts_stringParser _ (fun _ => Iff.rfl)]
    exact Eq.congr_left ((value_setting rfl env elasticOtelOpAmpEndpoint configuration
      stringParser options.opAmpClientOptions.endpoint).trans Option.or_none)
  · rw [← supplied_eq_some_iff accepts_stringParser _ (fun _ => Iff.rfl)]
    exact Eq.congr_left ((value_setting rfl env elasticOtelOpAmpHeaders configuration
      stringParser options.opAmpClientOptions.headers).trans Option.or_none)
  · rw [← supplied_eq_some_iff accepts_stringParser none (by simp)]
    exact Eq.congr_left ((value_threeSources rfl env otelServiceName configuration
      otelServiceName stringParser none).trans Option.or_none)
  · rw [← supplied_eq_some_iff accepts_stringParser none (by simp)]
    exact Eq.congr_left ((value_threeSources rfl env otelResourceAttributes configuration
      otelResourceAttributes stringParser none).trans Option.or_none)
  · rw [← getD_findSome?_eq_iff_firstOf (answers_map accepts_logLevelParser.text levels.reverse)
      (fun _ _ => Iff.rfl), logLevel_foldl_setLogLevelFromCentralConfig, lastParseable,
      List.getLast?_filterMap, List.findSome?_map]
    rfl

end ElasticOpenTelemetry
