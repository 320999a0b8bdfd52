import ElasticOpenTelemetry.Foundations.KeyedList
import ElasticOpenTelemetry.Foundations.Text

/-!
# Activities

What the processors read and write of a `System.Diagnostics.Activity`. Times and durations are in
ticks of 100 nanoseconds, and `Ref` names the activities that a parent or a buffer refers to.
-/

namespace ElasticOpenTelemetry

open DotNet

/-- `ActivityKind` -/
inductive ActivityKind
  | internal
  | server
  | client
  | producer
  | consumer
  deriving DecidableEq, Repr

/-- `ActivityStatusCode` -/
inductive ActivityStatusCode
  | unset
  | ok
  | error
  deriving DecidableEq, Repr

/-- The value of a tag; `ω` are the objects of the other types. -/
inductive TagValue (ω : Type)
  | null
  | string (value : Str)
  | int (value : Int32)
  /-- a `double` that is a natural number -/
  | double (value : ℕ)
  | object (value : ω)

/-- `TagObjects`, which `SetTag` changes by `KeyedList.set`. -/
abbrev Tags (ω : Type) := KeyedList Str (TagValue ω)

/-- `Composite` -/
structure Composite where
  compressionStrategy : Str
  count : Int32
  /-- a `double`, which is a natural number here: it is a sum of such -/
  durationSum : ℕ
  deriving DecidableEq, Repr

/-- `Activity` -/
structure Activity (Ref ω : Type) where
  kind : ActivityKind
  operationName : Str
  displayName : Str
  parent : Option Ref
  isStopped : Bool
  status : ActivityStatusCode
  startTimeUtc : ℕ
  duration : ℕ
  activityTraceFlags : BitVec 32
  tags : Tags ω
  /-- the custom property `IsExitSpan` is true -/
  isExitSpan : Bool
  /-- the custom property `Composite`, if it is one -/
  composite : Option Composite

end ElasticOpenTelemetry
