import OpenStudioOperator.AnalysisSla
import OpenStudioOperator.AnalysisSlaEviction
import OpenStudioOperator.AnalysisSlaEvictionCount
import OpenStudioOperator.AnalysisSlaFleet
import OpenStudioOperator.AnalysisSlaLifecycle
import OpenStudioOperator.AnalysisSlaOneShot
import OpenStudioOperator.AnalysisSlaRefinement
import OpenStudioOperator.AnalysisSlaSteps
import OpenStudioOperator.AnalysisSlaStops
import OpenStudioOperator.Archival
import OpenStudioOperator.ArchivalNames
import OpenStudioOperator.ArchiveScript
import OpenStudioOperator.ClientFactory
import OpenStudioOperator.CrCache
import OpenStudioOperator.DatapointWatchdog
import OpenStudioOperator.DatapointWatchdogBudget
import OpenStudioOperator.DatapointWatchdogClock
import OpenStudioOperator.DatapointWatchdogHygiene
import OpenStudioOperator.DatapointWatchdogRefinement
import OpenStudioOperator.DatapointWatchdogSteps
import OpenStudioOperator.DeploymentSelector
import OpenStudioOperator.DryRun
import OpenStudioOperator.DryRunAudit
import OpenStudioOperator.DryRunHandlers
import OpenStudioOperator.DryRunObservation
import OpenStudioOperator.DryRunParity
import OpenStudioOperator.DryRunSafety
import OpenStudioOperator.DryRunSla
import OpenStudioOperator.DryRunSpelling
import OpenStudioOperator.Effects
import OpenStudioOperator.Events
import OpenStudioOperator.EventsSinks
import OpenStudioOperator.EventsSinksInterleaving
import OpenStudioOperator.Foundation.ConcurrentWriters
import OpenStudioOperator.Foundation.Dict
import OpenStudioOperator.Foundation.Gauges
import OpenStudioOperator.Foundation.History
import OpenStudioOperator.Foundation.IsoFormat
import OpenStudioOperator.Foundation.Json
import OpenStudioOperator.Foundation.JsonPath
import OpenStudioOperator.Foundation.JsonText
import OpenStudioOperator.Foundation.MergeRace
import OpenStudioOperator.Foundation.Pacing
import OpenStudioOperator.Foundation.Program
import OpenStudioOperator.Foundation.PyText
import OpenStudioOperator.Foundation.Raising
import OpenStudioOperator.Foundation.ReadModifyWrite
import OpenStudioOperator.Foundation.Regex
import OpenStudioOperator.Foundation.ShellLexer
import OpenStudioOperator.Foundation.ShellParser
import OpenStudioOperator.Foundation.ShellRules
import OpenStudioOperator.Foundation.ShellSemantics
import OpenStudioOperator.Foundation.SortOn
import OpenStudioOperator.Foundation.StructuralSchema
import OpenStudioOperator.Foundation.UrlParse
import OpenStudioOperator.GuardInstall
import OpenStudioOperator.HandlerFootprints
import OpenStudioOperator.KeyLayout
import OpenStudioOperator.KubeClients
import OpenStudioOperator.LayoutWarning
import OpenStudioOperator.LoggingSetup
import OpenStudioOperator.MetricsServer
import OpenStudioOperator.OpenStudioClient
import OpenStudioOperator.OperatorRuns
import OpenStudioOperator.OscmHandlers
import OpenStudioOperator.PruneEntrypoint
import OpenStudioOperator.PruneExitCodes
import OpenStudioOperator.RedisCredentials
import OpenStudioOperator.RedisDiagnostics
import OpenStudioOperator.RedisLayoutCheck
import OpenStudioOperator.RedisReads
import OpenStudioOperator.RestDecode
import OpenStudioOperator.Retention
import OpenStudioOperator.RetentionDestination
import OpenStudioOperator.RetentionSafety
import OpenStudioOperator.RollingRestart
import OpenStudioOperator.SelectorGrammar
import OpenStudioOperator.Singleton
import OpenStudioOperator.SingletonGuard
import OpenStudioOperator.SingletonGuardRelist
import OpenStudioOperator.Spec
import OpenStudioOperator.StallSensing
import OpenStudioOperator.Status
import OpenStudioOperator.StatusAge
import OpenStudioOperator.StatusCap
import OpenStudioOperator.StatusCapReport
import OpenStudioOperator.StatusConcurrency
import OpenStudioOperator.StatusCorruption
import OpenStudioOperator.StatusDocument
import OpenStudioOperator.StatusEntries
import OpenStudioOperator.StatusMembers
import OpenStudioOperator.StatusReadback
import OpenStudioOperator.StatusRetry
import OpenStudioOperator.StatusSchema
import OpenStudioOperator.StatusSerial
import OpenStudioOperator.StatusStore
import OpenStudioOperator.StatusStoreLaws
import OpenStudioOperator.StatusStoreSparing
import OpenStudioOperator.TimerGauges
import OpenStudioOperator.TimerTicks
import OpenStudioOperator.WebBackgroundMonitor
import OpenStudioOperator.WebBackgroundMonitorSpacing
import OpenStudioOperator.WebBackgroundMonitorTicks
import OpenStudioOperator.WebBackgroundMonitorWindow
import OpenStudioOperator.WorkerRecyclerTicks
