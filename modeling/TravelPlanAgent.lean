import TravelPlanAgent.Planning.Agreement
import TravelPlanAgent.Lifecycle.EditedDays
import TravelPlanAgent.Weather.Risk
import TravelPlanAgent.Weather.Persistence
import TravelPlanAgent.Lifecycle.LockInvariant
import TravelPlanAgent.Lifecycle.ItemIdentity
import TravelPlanAgent.Lifecycle.Concurrency
import TravelPlanAgent.Lifecycle.StuckThread
import TravelPlanAgent.Lifecycle.AllowedActions
import TravelPlanAgent.Lifecycle.NodeSpecs
import TravelPlanAgent.Lifecycle.AttentionPointer
import TravelPlanAgent.Lifecycle.RefreshRecord
import TravelPlanAgent.Lifecycle.Announcements
import TravelPlanAgent.Lifecycle.OpenMoves
import TravelPlanAgent.Graph.HardLoop
import TravelPlanAgent.Planning.TravelWindow
import TravelPlanAgent.Runs.Service
import TravelPlanAgent.Library.Interleaving
import TravelPlanAgent.Library.Blocks
import TravelPlanAgent.Runs.Records
import TravelPlanAgent.Runs.EventStream
import TravelPlanAgent.Runs.TracePaging
import TravelPlanAgent.Runs.Replays
import TravelPlanAgent.Execution.Budget
import TravelPlanAgent.Execution.Tracing
import TravelPlanAgent.Execution.TraceShape
import TravelPlanAgent.Runs.Orphans
import TravelPlanAgent.Runs.Queue
import TravelPlanAgent.Runs.Idempotency
import TravelPlanAgent.Memory.Interchange
import TravelPlanAgent.Planning.RouteCoverage
import TravelPlanAgent.Planning.Materialized
import TravelPlanAgent.Planning.Removals
import TravelPlanAgent.Planning.RepairedDraft
import TravelPlanAgent.Planning.RepairEffects
import TravelPlanAgent.Graph.RepairGuard
import TravelPlanAgent.Planning.ErrorReasons
import TravelPlanAgent.Planning.RepairProgress
import TravelPlanAgent.Planning.RepairStandstill
import TravelPlanAgent.Planning.RepairedCandidate
import TravelPlanAgent.Lifecycle.Clarification
import TravelPlanAgent.Lifecycle.DiffRoundTrip
import TravelPlanAgent.Lifecycle.EditEffect
import TravelPlanAgent.Lifecycle.EditFailures
import TravelPlanAgent.Planning.SolvedDrafts
import TravelPlanAgent.Requirements.Validation
import TravelPlanAgent.Weather.Retention
import TravelPlanAgent.Lifecycle.History
import TravelPlanAgent.Lifecycle.ClarificationBudget
import TravelPlanAgent.Graph.SoftRepairGuard
import TravelPlanAgent.Graph.ExplainedChoice
import TravelPlanAgent.Planning.HeuristicDrafts
import TravelPlanAgent.Planning.RequiredSearch
import TravelPlanAgent.Tools.Cache
import TravelPlanAgent.Tools.CacheSchedules
import TravelPlanAgent.Requirements.Clarification
import TravelPlanAgent.Requirements.Anchors
import TravelPlanAgent.Requirements.Workflow
import TravelPlanAgent.Weather.Providers
import TravelPlanAgent.Weather.Gateway
import TravelPlanAgent.Weather.LocationCodes
import TravelPlanAgent.Tools.ChainHistories
import TravelPlanAgent.Tools.BreakerCounts
import TravelPlanAgent.Tools.PoiKeys
import TravelPlanAgent.Memory.Context
import TravelPlanAgent.Memory.Composition
import TravelPlanAgent.Memory.Application
import TravelPlanAgent.Memory.RequestWins
import TravelPlanAgent.Memory.Service
import TravelPlanAgent.Memory.Views
import TravelPlanAgent.Memory.Histories
import TravelPlanAgent.Memory.Duplicates
import TravelPlanAgent.Memory.Saving
import TravelPlanAgent.Weather.RepairExecution
import TravelPlanAgent.Graph.StepBound
import TravelPlanAgent.Graph.Delivery
import TravelPlanAgent.Graph.Snapshot
import TravelPlanAgent.Graph.SoftRollback
import TravelPlanAgent.Graph.SoftWorth
import TravelPlanAgent.Library.Outcomes
import TravelPlanAgent.Graph.HandoffRefinement
import TravelPlanAgent.Graph.CriticPhase
import TravelPlanAgent.Graph.MeteredRuns
import TravelPlanAgent.Lifecycle.Creation
