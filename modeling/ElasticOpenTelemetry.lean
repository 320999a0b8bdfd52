import ElasticOpenTelemetry.Foundations.Execution
import ElasticOpenTelemetry.Foundations.ProcessPool
import ElasticOpenTelemetry.Foundations.Text
import ElasticOpenTelemetry.Foundations.Utf8
import ElasticOpenTelemetry.Foundations.Json
import ElasticOpenTelemetry.Foundations.Precedence
import ElasticOpenTelemetry.Foundations.FirstAnswer
import ElasticOpenTelemetry.Configuration.ConfigCell
import ElasticOpenTelemetry.Configuration.SharedParsers
import ElasticOpenTelemetry.Configuration.Instrumentations
import ElasticOpenTelemetry.Configuration.EnvironmentParser
import ElasticOpenTelemetry.Configuration.OpAmpHeaders
import ElasticOpenTelemetry.Configuration.Options
import ElasticOpenTelemetry.Configuration.InstrumentationResolution
import ElasticOpenTelemetry.Configuration.SignalFlags
import ElasticOpenTelemetry.Configuration.AcceptedValues
import ElasticOpenTelemetry.Configuration.SourcePrecedence
import ElasticOpenTelemetry.Configuration.PairFormats
import ElasticOpenTelemetry.Configuration.OpAmpIdentity
import ElasticOpenTelemetry.Configuration.RecordedSources
import ElasticOpenTelemetry.Configuration.OptionsHashing
import ElasticOpenTelemetry.OpAmp.CentralConfigJsonParser
import ElasticOpenTelemetry.OpAmp.CentralConfigDocuments
import ElasticOpenTelemetry.OpAmp.NestedLogLevel
import ElasticOpenTelemetry.Foundations.Occurrences
import ElasticOpenTelemetry.Foundations.Separated
import ElasticOpenTelemetry.OpAmp.CentralConfigLanguage
import ElasticOpenTelemetry.Bootstrap
import ElasticOpenTelemetry.OpAmp.FirstConfig
import ElasticOpenTelemetry.Configuration.ConfigurationLogging
import ElasticOpenTelemetry.OpAmp.StartClient
import ElasticOpenTelemetry.OpAmp.ClientTeardown
import ElasticOpenTelemetry.Diagnostics.PreActivation
import ElasticOpenTelemetry.Diagnostics.FileLogger
import ElasticOpenTelemetry.Diagnostics.FileLoggerShutdown
import ElasticOpenTelemetry.Diagnostics.FileLoggerQueue
import ElasticOpenTelemetry.Diagnostics.WriterFailure
import ElasticOpenTelemetry.Diagnostics.LoggerTeardown
import ElasticOpenTelemetry.Diagnostics.DeferredLogger
import ElasticOpenTelemetry.Diagnostics.Handoff
import ElasticOpenTelemetry.Diagnostics.DistroPreamble
import ElasticOpenTelemetry.Foundations.Faults
import ElasticOpenTelemetry.BootstrapFailure
import ElasticOpenTelemetry.BootstrapRelease
import ElasticOpenTelemetry.Diagnostics.DiscardedLogger
import ElasticOpenTelemetry.Diagnostics.SafetyTimerDiscard
import ElasticOpenTelemetry.Diagnostics.BootstrapIsolation
import ElasticOpenTelemetry.Foundations.NestedCalls
import ElasticOpenTelemetry.SignalBuilder
import ElasticOpenTelemetry.BuilderConfiguration
import ElasticOpenTelemetry.Extensions.ServiceCollectionExtensions
import ElasticOpenTelemetry.Extensions.ExporterRegistration
import ElasticOpenTelemetry.Diagnostics.EqualOptions
import ElasticOpenTelemetry.Foundations.CopyOnWrite
import ElasticOpenTelemetry.OpAmp.Subscription
import ElasticOpenTelemetry.Foundations.FixedPattern
import ElasticOpenTelemetry.Diagnostics.LoggingEventListener
import ElasticOpenTelemetry.Diagnostics.EventMessages
import ElasticOpenTelemetry.Foundations.KeyedList
import ElasticOpenTelemetry.Processors.Activity
import ElasticOpenTelemetry.Processors.ElasticCompatibilityProcessor
import ElasticOpenTelemetry.Processors.ActivityExtensions
import ElasticOpenTelemetry.Processors.CompositeDuration
import ElasticOpenTelemetry.Processors.SpanCompressionProcessor
import ElasticOpenTelemetry.Foundations.ListOrder
import ElasticOpenTelemetry.Diagnostics.ProgramOrder
import ElasticOpenTelemetry.Foundations.FixedWidth
import ElasticOpenTelemetry.Foundations.Recycling
import ElasticOpenTelemetry.Diagnostics.LogFormatter
import ElasticOpenTelemetry.Foundations.Blocks
import ElasticOpenTelemetry.Diagnostics.LogFile
import ElasticOpenTelemetry.Diagnostics.EventLines
import ElasticOpenTelemetry.Diagnostics.LoadedAssemblies
import ElasticOpenTelemetry.ComponentsLifetime
import ElasticOpenTelemetry.Foundations.Emission
import ElasticOpenTelemetry.Extensions.InstrumentationRegistration
import ElasticOpenTelemetry.Extensions.InstrumentationIsolation
import ElasticOpenTelemetry.Foundations.Contracts
import ElasticOpenTelemetry.OpAmp.ClientCreation
import ElasticOpenTelemetry.OpAmp.CentralLogLevel
