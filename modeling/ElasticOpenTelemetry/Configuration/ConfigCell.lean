import Mathlib.Order.Lattice
import ElasticOpenTelemetry.Foundations.Precedence
import ElasticOpenTelemetry.Foundations.Text

/-!
# Configuration cells

`ConfigCell` is a setting's value with the source that supplied it (`ConfigCell.cs`). A cell
instantiates `Precedence.Cell` at the sources of `ConfigSource.cs`, ordered by their ordinals,
and at nullable values: the value of a `ConfigCell<T?>` is an `Option`. The lock around
`Assign` and `Snapshot` makes each of them one step, so a cell is a plain value here.
-/

namespace ElasticOpenTelemetry

open DotNet

/-- Where a configuration value came from; the ordinals define precedence. -/
inductive ConfigSource
  | default
  | iConfiguration
  | environment
  | options
  | property
  | centralConfig
  deriving DecidableEq, Repr

namespace ConfigSource

/-- The enum's ordinal values. -/
def ordinal : ConfigSource → ℕ
  | default => 0
  | iConfiguration => 1
  | environment => 2
  | options => 3
  | property => 4
  | centralConfig => 5

theorem ordinal_injective : Function.Injective ordinal := by
  intro a b h
  cases a <;> cases b <;> first | rfl | simp [ordinal] at h

instance : LinearOrder ConfigSource := LinearOrder.lift' ordinal ordinal_injective

theorem lt_iff {a b : ConfigSource} : a < b ↔ a.ordinal < b.ordinal := Iff.rfl

theorem le_iff {a b : ConfigSource} : a ≤ b ↔ a.ordinal ≤ b.ordinal := Iff.rfl

theorem default_le (s : ConfigSource) : default ≤ s := Nat.zero_le _

theorem iConfiguration_lt_environment : iConfiguration < environment := lt_iff.mpr (by decide)

theorem environment_lt_options : environment < options := lt_iff.mpr (by decide)

theorem options_lt_property : options < property := lt_iff.mpr (by decide)

/-- `ToString()` of the enum. -/
def name : ConfigSource → Str
  | default => "Default".toList
  | iConfiguration => "IConfiguration".toList
  | environment => "Environment".toList
  | options => "Options".toList
  | property => "Property".toList
  | centralConfig => "CentralConfig".toList

end ConfigSource

/-- A configuration setting: its key, its value and source, and how a value is redacted before
it is logged. -/
structure ConfigCell (α : Type) extends Precedence.Cell ConfigSource (Option α) where
  /-- the setting's name, also its key below `Elastic:OpenTelemetry` -/
  key : Str
  /-- applied to the value when the cell is logged -/
  valueRedactor : Option α → Option α := id

namespace ConfigCell

variable {α : Type}

/-- The constructors: a default value, without a redactor unless one is given. -/
def new (key : Str) (value : Option α) (valueRedactor : Option α → Option α := id) :
    ConfigCell α :=
  { value := value, source := .default, key := key, valueRedactor := valueRedactor }

/-- `Assign`: a source of lower precedence does not overwrite one of higher precedence. -/
def assign (c : ConfigCell α) (value : Option α) (source : ConfigSource) : ConfigCell α :=
  { c with toCell := c.toCell.assign value source }

def assignFromEnvironmentVariable (c : ConfigCell α) (value : Option α) : ConfigCell α :=
  c.assign value .environment

def assignFromConfiguration (c : ConfigCell α) (value : Option α) : ConfigCell α :=
  c.assign value .iConfiguration

def assignFromOptions (c : ConfigCell α) (value : Option α) : ConfigCell α :=
  c.assign value .options

def assignFromProperty (c : ConfigCell α) (value : Option α) : ConfigCell α :=
  c.assign value .property

def assignFromCentralConfig (c : ConfigCell α) (value : Option α) : ConfigCell α :=
  c.assign value .centralConfig

/-- Central configuration is the last of the sources: its assignment always takes effect. -/
@[simp] theorem value_assignFromCentralConfig (c : ConfigCell α) (v : Option α) :
    (c.assignFromCentralConfig v).value = v := by
  have hle : c.source ≤ .centralConfig := by
    rw [ConfigSource.le_iff]
    cases c.source <;> decide
  exact congrArg Precedence.Cell.value (Precedence.Cell.assign_of_le hle v)

/-- `ToString` of a cell of strings. -/
def toString (c : ConfigCell Str) : Str :=
  c.key ++ ": '".toList ++
    (match c.value with
      | none => "<null>".toList
      | some v => (c.valueRedactor (some v)).getD []) ++
    "' from [".toList ++ c.source.name ++ "]".toList

end ConfigCell

end ElasticOpenTelemetry
