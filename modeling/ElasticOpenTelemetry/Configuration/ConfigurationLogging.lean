import Mathlib.Algebra.Order.BigOperators.Group.List
import Mathlib.Algebra.Order.Ring.Nat
import ElasticOpenTelemetry.Configuration.Options

/-!
# Logging the application's configuration

`LogApplicationConfigurationValues` (`CompositeElasticOpenTelemetryOptions.cs`) writes what each
provider of an `IConfigurationRoot` has to say about the `OTEL_` variables and about the
distribution's own settings. Two rules about secrets apply elsewhere: the values of the
`SensitiveEnvironmentVariables` are replaced, and the cell of the OpAMP headers has a redactor.
Here the first list is compared with ordinal case, while configuration keys are
case-insensitive, and the second loop writes values as they are.

A provider is given by its answers. The comparison of two configurations is a two-run
statement: `SameButSecrets` configurations have the same shape, the same values of all keys that
are not sensitive, and set the same sensitive keys, to whatever texts.
`logApplicationConfigurationValues_silent_iff` states which configurations write nothing of
their secrets.
-/

namespace ElasticOpenTelemetry

open DotNet EnvironmentVariables

/-- An `IConfigurationProvider`. Keys are case-insensitive: `TryGet` answers alike on keys that
are equal ignoring case. -/
structure ConfigurationProvider where
  /-- `ToString()` -/
  name : Str
  /-- `GetChildKeys([], null)` -/
  childKeys : List Str
  /-- `TryGet`: no entry, or an entry with a value that may be null -/
  tryGet : Str → Option (Option Str)
  tryGet_congr : ∀ a b, equalsIgnoreCase a b = true → tryGet a = tryGet b

/-- `ElasticOpenTelemetryConfigKeys`. -/
def elasticOpenTelemetryConfigKeys : List Str :=
  ["LogDirectory".toList, "LogLevel".toList, "LogTargets".toList, "SkipOtlpExporter".toList,
   "SkipInstrumentationAssemblyScanning".toList, "OpAmpEndpoint".toList, "OpAmpHeaders".toList]

/-- The text of a logged entry. -/
def configurationMessage (providerName key value : Str) : Str :=
  "IConfiguration [".toList ++ providerName ++ "] '".toList ++ key ++ "' = '".toList ++ value ++
    "'".toList

namespace ConfigurationProvider

/-- The first loop's body: an `OTEL_` variable that the provider lists. -/
def otelMessage (p : ConfigurationProvider) (key : Str) : Option Str :=
  if !startsWith "OTEL_".toList key then none
  else
    match p.tryGet key with
    | some (some value) =>
      let value :=
        if sensitiveEnvironmentVariables.contains key then "<redacted>".toList else value
      some (configurationMessage p.name key value)
    | _ => none

/-- The second loop's body: a setting of the distribution. -/
def elasticMessage (p : ConfigurationProvider) (key : Str) : Option Str :=
  match p.tryGet (configurationKey key) with
  | some (some value) => some (configurationMessage p.name key value)
  | _ => none

/-- The messages about one provider. -/
def messages (p : ConfigurationProvider) : List Str :=
  p.childKeys.filterMap p.otelMessage ++ elasticOpenTelemetryConfigKeys.filterMap p.elasticMessage

end ConfigurationProvider

/-- `LogApplicationConfigurationValues`: nothing is written without an `IConfigurationRoot`. -/
def logApplicationConfigurationValues (configRoot : Option (List ConfigurationProvider)) :
    List Str :=
  (configRoot.getD []).flatMap ConfigurationProvider.messages

/-! ### Secrets -/

/-- The keys whose values are secret. -/
def sensitiveKeys : List Str :=
  sensitiveEnvironmentVariables ++ [configurationKey "OpAmpHeaders".toList]

/-- A key is sensitive when it equals one of the sensitive ones, ignoring case. -/
def isSensitive (key : Str) : Bool := sensitiveKeys.any (equalsIgnoreCase key)

/-- Two providers differ at most in the texts of their sensitive entries. -/
structure SameButSecrets (p p' : ConfigurationProvider) : Prop where
  name : p.name = p'.name
  childKeys : p.childKeys = p'.childKeys
  tryGet : ∀ key, isSensitive key = false → p.tryGet key = p'.tryGet key
  isSet : ∀ key, (p.tryGet key).map Option.isSome = (p'.tryGet key).map Option.isSome

/-- The log says nothing about the secrets of the configuration: one that differs in secrets
only writes the same messages. -/
def Silent (configRoot : List ConfigurationProvider) : Prop :=
  ∀ configRoot', List.Forall₂ SameButSecrets configRoot configRoot' →
    logApplicationConfigurationValues (some configRoot) =
      logApplicationConfigurationValues (some configRoot')

/-- A provider sets the OpAMP headers, or lists a sensitive variable that has a value and whose
name is not written as in the list of sensitive variables. -/
def LogsSecret (p : ConfigurationProvider) : Prop :=
  (∃ value, p.tryGet (configurationKey "OpAmpHeaders".toList) = some (some value)) ∨
    ∃ key ∈ p.childKeys, startsWith "OTEL_".toList key = true ∧ isSensitive key = true ∧
      sensitiveEnvironmentVariables.contains key = false ∧
      ∃ value, p.tryGet key = some (some value)

namespace ConfigurationProvider

variable {p p' : ConfigurationProvider}

theorem otelMessage_eq (p : ConfigurationProvider) (key : Str) :
    p.otelMessage key =
      if startsWith "OTEL_".toList key then
        (p.tryGet key).join.map fun value => configurationMessage p.name key
          (if sensitiveEnvironmentVariables.contains key then "<redacted>".toList else value)
      else none := by
  rw [otelMessage]
  cases startsWith "OTEL_".toList key with
  | false => rfl
  | true => rcases p.tryGet key with _ | _ | value <;> rfl

theorem elasticMessage_eq (p : ConfigurationProvider) (key : Str) :
    p.elasticMessage key =
      (p.tryGet (configurationKey key)).join.map (configurationMessage p.name key) := by
  rw [elasticMessage]
  rcases p.tryGet (configurationKey key) with _ | _ | value <;> rfl

/-- Providers that differ in secrets only set a key to a text alike. -/
theorem exists_value_of_sameButSecrets (h : SameButSecrets p p') {key value : Str}
    (hvalue : p.tryGet key = some (some value)) :
    ∃ value', p'.tryGet key = some (some value') := by
  have hset := h.isSet key
  rw [hvalue] at hset
  rcases hvalue' : p'.tryGet key with _ | _ | value'
  · simp [hvalue'] at hset
  · simp [hvalue'] at hset
  · exact ⟨value', rfl⟩

theorem join_eq_none_of_sameButSecrets (h : SameButSecrets p p') {key : Str}
    (hvalue : (p.tryGet key).join = none) : (p'.tryGet key).join = none := by
  have hset := h.isSet key
  rcases hp : p.tryGet key with _ | _ | value <;> rcases hp' : p'.tryGet key with _ | _ | value' <;>
    simp_all

/-- A sensitive entry of the first loop that is written is redacted, unless the provider logs a
secret. -/
theorem otelMessage_of_sameButSecrets (h : SameButSecrets p p') (hp : ¬ LogsSecret p) {key : Str}
    (hkey : key ∈ p.childKeys) : p.otelMessage key = p'.otelMessage key := by
  rw [otelMessage_eq, otelMessage_eq, h.name]
  by_cases hotel : startsWith "OTEL_".toList key = true
  · rw [if_pos hotel, if_pos hotel]
    cases hsensitive : isSensitive key with
    | false => rw [h.tryGet key hsensitive]
    | true =>
      rcases hvalue : p.tryGet key with _ | _ | value
      · rw [join_eq_none_of_sameButSecrets h (by rw [hvalue]; rfl)]
        rfl
      · rw [join_eq_none_of_sameButSecrets h (by rw [hvalue]; rfl)]
        rfl
      · obtain ⟨value', hvalue'⟩ := exists_value_of_sameButSecrets h hvalue
        have hlisted : sensitiveEnvironmentVariables.contains key = true := by
          by_contra hlisted
          exact hp (Or.inr ⟨key, hkey, hotel, hsensitive, Bool.eq_false_iff.mpr hlisted, value,
            hvalue⟩)
        rw [hvalue', hlisted]
        rfl
  · rw [if_neg hotel, if_neg hotel]

theorem isSensitive_opAmpHeaders :
    isSensitive (configurationKey "OpAmpHeaders".toList) = true := by
  decide +kernel

/-- Of the distribution's settings, only the OpAMP headers are sensitive. -/
theorem isSensitive_configurationKey {key : Str} (hkey : key ∈ elasticOpenTelemetryConfigKeys)
    (hne : key ≠ "OpAmpHeaders".toList) : isSensitive (configurationKey key) = false := by
  have hall : ∀ key ∈ elasticOpenTelemetryConfigKeys, key ≠ "OpAmpHeaders".toList →
      isSensitive (configurationKey key) = false := by decide +kernel
  exact hall key hkey hne

theorem elasticMessage_of_sameButSecrets (h : SameButSecrets p p') (hp : ¬ LogsSecret p)
    {key : Str} (hkey : key ∈ elasticOpenTelemetryConfigKeys) :
    p.elasticMessage key = p'.elasticMessage key := by
  rw [elasticMessage_eq, elasticMessage_eq, h.name]
  by_cases hheaders : key = "OpAmpHeaders".toList
  · subst hheaders
    have hnone : (p.tryGet (configurationKey "OpAmpHeaders".toList)).join = none := by
      rcases hvalue : p.tryGet (configurationKey "OpAmpHeaders".toList) with _ | _ | value
      · rfl
      · rfl
      · exact absurd (Or.inl ⟨value, hvalue⟩) hp
    rw [hnone, join_eq_none_of_sameButSecrets h hnone]
  · rw [h.tryGet _ (isSensitive_configurationKey hkey hheaders)]

/-- A provider that logs no secret writes the same messages whatever its secrets are. -/
theorem messages_of_sameButSecrets (h : SameButSecrets p p') (hp : ¬ LogsSecret p) :
    p.messages = p'.messages := by
  rw [messages, messages, ← h.childKeys]
  exact congrArg₂ (· ++ ·)
    (List.filterMap_congr fun key hkey => otelMessage_of_sameButSecrets h hp hkey)
    (List.filterMap_congr fun key hkey => elasticMessage_of_sameButSecrets h hp hkey)

/-! ### Providers that do -/

theorem isSensitive_congr {a b : Str} (h : equalsIgnoreCase a b = true) :
    isSensitive a = isSensitive b := by
  rw [isSensitive, equalsIgnoreCase_congr h, isSensitive]

theorem sameButSecrets_refl (p : ConfigurationProvider) : SameButSecrets p p :=
  ⟨rfl, rfl, fun _ _ => rfl, fun _ => rfl⟩

/-- The provider with a longer text under one key. -/
def lengthen (p : ConfigurationProvider) (secret : Str) : ConfigurationProvider :=
  { p with
    tryGet := fun key =>
      if equalsIgnoreCase key secret then (p.tryGet key).map (·.map (· ++ ['x']))
      else p.tryGet key
    tryGet_congr := fun a b h => by
      rw [equalsIgnoreCase_congr h, p.tryGet_congr a b h] }

theorem sameButSecrets_lengthen (p : ConfigurationProvider) {secret : Str}
    (h : isSensitive secret = true) : SameButSecrets p (p.lengthen secret) where
  name := rfl
  childKeys := rfl
  tryGet := fun key hkey => by
    refine (if_neg fun heq => ?_).symm
    rw [isSensitive_congr heq, h] at hkey
    exact Bool.noConfusion hkey
  isSet := fun key => by
    change _ = Option.map Option.isSome (if _ then _ else _)
    split_ifs
    · rcases p.tryGet key with _ | _ | value <;> rfl
    · rfl

/-- The number of characters of a message, if there is one. -/
def messageSize (m : Option Str) : ℕ := (m.map List.length).getD 0

private theorem sum_length_filterMap (f : Str → Option Str) (keys : List Str) :
    ((keys.filterMap f).map List.length).sum = (keys.map fun key => messageSize (f key)).sum := by
  induction keys with
  | nil => rfl
  | cons key keys ih =>
    rw [List.filterMap_cons, List.map_cons, List.sum_cons, ← ih, messageSize]
    cases f key <;> simp

private theorem length_between (a b value : Str) :
    (a ++ value ++ b).length = (a ++ [] ++ b).length + value.length := by
  simp only [List.length_append, List.length_nil]
  omega

private theorem length_configurationMessage (providerName key value : Str) :
    (configurationMessage providerName key value).length =
      (configurationMessage providerName key []).length + value.length :=
  length_between _ _ value

/-- A longer text makes its message longer, unless it is redacted. -/
private theorem messageSize_lengthen (p : ConfigurationProvider) (secret entry key : Str)
    (redacted : Bool) :
    let write := fun value => configurationMessage p.name key
      (if redacted then "<redacted>".toList else value)
    messageSize ((p.tryGet entry).join.map write) ≤
        messageSize (((p.lengthen secret).tryGet entry).join.map write) ∧
      (equalsIgnoreCase entry secret = true → redacted = false →
        (∃ value, p.tryGet entry = some (some value)) →
        messageSize ((p.tryGet entry).join.map write) <
          messageSize (((p.lengthen secret).tryGet entry).join.map write)) := by
  have hget : (p.lengthen secret).tryGet entry =
      if equalsIgnoreCase entry secret then (p.tryGet entry).map (·.map (· ++ ['x']))
      else p.tryGet entry := rfl
  intro write
  rw [hget]
  rcases p.tryGet entry with _ | _ | value
  · cases equalsIgnoreCase entry secret <;> simp
  · cases equalsIgnoreCase entry secret <;> simp
  · have hwrite : (write value).length ≤ (write (value ++ ['x'])).length ∧
        (redacted = false → (write value).length < (write (value ++ ['x'])).length) := by
      simp only [write]
      cases redacted with
      | true => simp
      | false =>
        simp only [Bool.false_eq_true, if_false]
        rw [length_configurationMessage, length_configurationMessage _ _ (value ++ ['x']),
          List.length_append, List.length_singleton]
        omega
    cases equalsIgnoreCase entry secret with
    | false => exact ⟨le_refl _, fun h => absurd h (by simp)⟩
    | true => exact ⟨hwrite.1, fun _ hredacted _ => hwrite.2 hredacted⟩

private theorem messageSize_otelMessage (p : ConfigurationProvider) (secret key : Str) :
    messageSize (p.otelMessage key) ≤ messageSize ((p.lengthen secret).otelMessage key) ∧
      (startsWith "OTEL_".toList key = true → equalsIgnoreCase key secret = true →
        sensitiveEnvironmentVariables.contains key = false →
        (∃ value, p.tryGet key = some (some value)) →
        messageSize (p.otelMessage key) < messageSize ((p.lengthen secret).otelMessage key)) := by
  obtain ⟨hle, hlt⟩ := messageSize_lengthen p secret key key
    (sensitiveEnvironmentVariables.contains key)
  rw [otelMessage_eq, otelMessage_eq]
  cases startsWith "OTEL_".toList key with
  | false => simp
  | true => exact ⟨hle, fun _ => hlt⟩

private theorem messageSize_elasticMessage (p : ConfigurationProvider) (secret key : Str) :
    messageSize (p.elasticMessage key) ≤ messageSize ((p.lengthen secret).elasticMessage key) ∧
      (equalsIgnoreCase (configurationKey key) secret = true →
        (∃ value, p.tryGet (configurationKey key) = some (some value)) →
        messageSize (p.elasticMessage key) <
          messageSize ((p.lengthen secret).elasticMessage key)) := by
  obtain ⟨hle, hlt⟩ := messageSize_lengthen p secret (configurationKey key) key false
  rw [elasticMessage_eq, elasticMessage_eq]
  exact ⟨hle, fun h => hlt h rfl⟩

/-- The number of characters of all messages, loop by loop. -/
private theorem sum_length_messages (p : ConfigurationProvider) :
    (p.messages.map List.length).sum =
      (p.childKeys.map fun key => messageSize (p.otelMessage key)).sum +
        (elasticOpenTelemetryConfigKeys.map fun key => messageSize (p.elasticMessage key)).sum := by
  rw [messages, List.map_append, List.sum_append, sum_length_filterMap, sum_length_filterMap]

/-- A secret that the first loop writes shows in the messages. -/
private theorem messages_ne_of_otel (p : ConfigurationProvider) {key : Str}
    (hkey : key ∈ p.childKeys) (hstarts : startsWith "OTEL_".toList key = true)
    (hlisted : sensitiveEnvironmentVariables.contains key = false)
    (hvalue : ∃ value, p.tryGet key = some (some value)) :
    p.messages ≠ (p.lengthen key).messages := by
  intro heq
  have hsize := congrArg (fun ms => (ms.map List.length).sum) heq
  simp only [sum_length_messages] at hsize
  refine absurd hsize (Nat.add_lt_add_of_lt_of_le ?_ ?_).ne
  · exact List.sum_lt_sum _ _ (fun key' _ => (messageSize_otelMessage p key key').1)
      ⟨key, hkey, (messageSize_otelMessage p key key).2 hstarts (equalsIgnoreCase_iff.mpr rfl)
        hlisted hvalue⟩
  · exact List.sum_le_sum fun key' _ => (messageSize_elasticMessage p key key').1

/-- A secret that the second loop writes shows in the messages. -/
private theorem messages_ne_of_elastic (p : ConfigurationProvider) {key : Str}
    (hkey : key ∈ elasticOpenTelemetryConfigKeys)
    (hvalue : ∃ value, p.tryGet (configurationKey key) = some (some value)) :
    p.messages ≠ (p.lengthen (configurationKey key)).messages := by
  intro heq
  have hsize := congrArg (fun ms => (ms.map List.length).sum) heq
  simp only [sum_length_messages] at hsize
  refine absurd hsize (Nat.add_lt_add_of_le_of_lt ?_ ?_).ne
  · exact List.sum_le_sum fun key' _ =>
      (messageSize_otelMessage p (configurationKey key) key').1
  · exact List.sum_lt_sum _ _
      (fun key' _ => (messageSize_elasticMessage p (configurationKey key) key').1)
      ⟨key, hkey, (messageSize_elasticMessage p (configurationKey key) key).2
        (equalsIgnoreCase_iff.mpr rfl) hvalue⟩

/-- A provider that logs a secret has a variant, different in its secrets only, whose messages
are others. -/
theorem exists_messages_ne (hp : LogsSecret p) :
    ∃ p', SameButSecrets p p' ∧ p.messages ≠ p'.messages := by
  rcases hp with hvalue | ⟨key, hkey, hstarts, hsensitive, hlisted, hvalue⟩
  · have hmem : "OpAmpHeaders".toList ∈ elasticOpenTelemetryConfigKeys := by decide
    exact ⟨_, sameButSecrets_lengthen p isSensitive_opAmpHeaders,
      messages_ne_of_elastic p hmem hvalue⟩
  · exact ⟨_, sameButSecrets_lengthen p hsensitive,
      messages_ne_of_otel p hkey hstarts hlisted hvalue⟩

end ConfigurationProvider

open ConfigurationProvider

/-! ### Silent configurations -/

/-- **Secrets in the logged configuration.** The messages are independent of the secrets exactly
when no provider sets the OpAMP headers, and none lists a sensitive variable with a value under
a name in other letter case. -/
theorem logApplicationConfigurationValues_silent_iff (configRoot : List ConfigurationProvider) :
    Silent configRoot ↔ ∀ p ∈ configRoot, ¬ LogsSecret p := by
  constructor
  · intro hsilent p hp hlogs
    obtain ⟨p', hsame, hne⟩ := exists_messages_ne hlogs
    obtain ⟨before, after, rfl⟩ := List.append_of_mem hp
    have hrefl : ∀ l : List ConfigurationProvider, List.Forall₂ SameButSecrets l l := fun l =>
      List.forall₂_same.mpr fun q _ => sameButSecrets_refl q
    have heq := hsilent (before ++ p' :: after)
      (List.rel_append (hrefl before) (List.Forall₂.cons hsame (hrefl after)))
    simp only [logApplicationConfigurationValues, Option.getD_some, List.flatMap_append,
      List.flatMap_cons] at heq
    exact hne (List.append_cancel_right (List.append_cancel_left heq))
  · intro hquiet configRoot' hsame
    rw [logApplicationConfigurationValues, logApplicationConfigurationValues, Option.getD_some,
      Option.getD_some]
    induction hsame with
    | nil => rfl
    | cons h _ ih =>
      rw [List.flatMap_cons, List.flatMap_cons, ih fun q hq => hquiet q (List.mem_cons_of_mem _ hq),
        messages_of_sameButSecrets h (hquiet _ List.mem_cons_self)]

/-- A settings file that sets the OpAMP headers. -/
def headersProvider : ConfigurationProvider where
  name := "JsonConfigurationProvider".toList
  childKeys := ["Elastic".toList]
  tryGet := fun key =>
    if equalsIgnoreCase key (configurationKey "OpAmpHeaders".toList) then
      some (some "Authorization=secret".toList)
    else none
  tryGet_congr := fun a b h => by rw [equalsIgnoreCase_congr h]

/-- The headers of that file are written to the log. -/
theorem headersProvider_not_silent : ¬ Silent [headersProvider] := by
  intro hsilent
  have heq := hsilent [headersProvider.lengthen (configurationKey "OpAmpHeaders".toList)]
    (List.Forall₂.cons (sameButSecrets_lengthen _ isSensitive_opAmpHeaders) List.Forall₂.nil)
  exact absurd heq (by decide +kernel)

end ElasticOpenTelemetry
