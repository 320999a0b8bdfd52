import Mathlib.Data.Finset.Basic
import ElasticOpenTelemetry.Foundations.Text

/-!
# Signals and instrumentations

The enumerations that the environment switches are about (`Signals.cs` and the
`Instrumentations` folder). `Signals` is a flags enum over `int` whose `All` is `~0`, so it is a
32-bit word here and the enabled signals are read off its bits. `HashSet<T>` is `Finset`.
-/

namespace ElasticOpenTelemetry

open DotNet

/-- `Signals`, a flags enum over `int`. -/
abbrev Signals := BitVec 32

namespace Signals

def none : Signals := 0
def traces : Signals := 1
def metrics : Signals := 2
def logs : Signals := 4
def all : Signals := ~~~0

/-- `HasFlagFast`. -/
def hasFlag (signals flag : Signals) : Bool := signals &&& flag == flag

end Signals

/-- The three signals that have a flag of their own. -/
inductive Signal
  | traces
  | metrics
  | logs
  deriving DecidableEq, Repr

namespace Signal

/-- The signal's flag in `Signals`. -/
def flag : Signal → Signals
  | traces => Signals.traces
  | metrics => Signals.metrics
  | logs => Signals.logs

/-- `ToStringFast()` of the signal's flag. -/
def toStringFast : Signal → Str
  | traces => "Traces".toList
  | metrics => "Metrics".toList
  | logs => "Logs".toList

end Signal

/-- Available trace instrumentations. -/
inductive TraceInstrumentation
  | aspNet | aspNetCore | azure | elasticsearch | elasticTransport | entityFrameworkCore
  | graphql | grpcNetClient | httpClient | kafka | massTransit | mongoDb | mysqlConnector
  | mysqlData | npgsql | nServiceBus | oracleMda | quartz | sqlClient | stackExchangeRedis
  | wcfClient | wcfService
  deriving DecidableEq, Repr

namespace TraceInstrumentation

/-- `TraceInstrumentationExtensions.GetValues()`. -/
def getValues : List TraceInstrumentation :=
  [aspNet, aspNetCore, azure, elasticsearch, elasticTransport, entityFrameworkCore, graphql,
   grpcNetClient, httpClient, kafka, massTransit, mongoDb, mysqlConnector, mysqlData, npgsql,
   nServiceBus, oracleMda, quartz, sqlClient, stackExchangeRedis, wcfClient, wcfService]

theorem mem_getValues (i : TraceInstrumentation) : i ∈ getValues := by
  cases i <;> decide

def toStringFast : TraceInstrumentation → Str
  | aspNet => "AspNet".toList
  | aspNetCore => "AspNetCore".toList
  | azure => "Azure".toList
  | elasticsearch => "Elasticsearch".toList
  | elasticTransport => "ElasticTransport".toList
  | entityFrameworkCore => "EntityFrameworkCore".toList
  | graphql => "Graphql".toList
  | grpcNetClient => "GrpcNetClient".toList
  | httpClient => "HttpClient".toList
  | kafka => "Kafka".toList
  | massTransit => "MassTransit".toList
  | mongoDb => "MongoDb".toList
  | mysqlConnector => "MysqlConnector".toList
  | mysqlData => "MysqlData".toList
  | npgsql => "Npgsql".toList
  | nServiceBus => "NServiceBus".toList
  | oracleMda => "OracleMda".toList
  | quartz => "Quartz".toList
  | sqlClient => "SqlClient".toList
  | stackExchangeRedis => "StackExchangeRedis".toList
  | wcfClient => "WcfClient".toList
  | wcfService => "WcfService".toList

end TraceInstrumentation

/-- Available metric instrumentations. -/
inductive MetricInstrumentation
  | aspNet | aspNetCore | httpClient | netRuntime | process | nServiceBus
  deriving DecidableEq, Repr

namespace MetricInstrumentation

/-- `MetricInstrumentationExtensions.GetValues()`. -/
def getValues : List MetricInstrumentation :=
  [aspNet, aspNetCore, httpClient, netRuntime, process, nServiceBus]

theorem mem_getValues (i : MetricInstrumentation) : i ∈ getValues := by
  cases i <;> decide

def toStringFast : MetricInstrumentation → Str
  | aspNet => "AspNet".toList
  | aspNetCore => "AspNetCore".toList
  | httpClient => "HttpClient".toList
  | netRuntime => "NetRuntime".toList
  | process => "Process".toList
  | nServiceBus => "NServiceBus".toList

end MetricInstrumentation

/-- Available logging instrumentations. -/
inductive LogInstrumentation
  | iLogger
  deriving DecidableEq, Repr

namespace LogInstrumentation

/-- `LogInstrumentationExtensions.GetValues()`. -/
def getValues : List LogInstrumentation := [iLogger]

theorem mem_getValues (i : LogInstrumentation) : i ∈ getValues := by
  cases i; decide

def toStringFast : LogInstrumentation → Str
  | iLogger => "ILogger".toList

end LogInstrumentation

/-- `TraceInstrumentations`. -/
abbrev TraceInstrumentations := Finset TraceInstrumentation

/-- `MetricInstrumentations`. -/
abbrev MetricInstrumentations := Finset MetricInstrumentation

/-- `LogInstrumentations`. -/
abbrev LogInstrumentations := Finset LogInstrumentation

/-- `TraceInstrumentations.All`. -/
def TraceInstrumentations.all : TraceInstrumentations := TraceInstrumentation.getValues.toFinset

/-- `MetricInstrumentations.All`. -/
def MetricInstrumentations.all : MetricInstrumentations :=
  MetricInstrumentation.getValues.toFinset

/-- `LogInstrumentations.All`. -/
def LogInstrumentations.all : LogInstrumentations := LogInstrumentation.getValues.toFinset

end ElasticOpenTelemetry
