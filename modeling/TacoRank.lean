import TacoRank.Accounting
import TacoRank.Coding.Artifacts
import TacoRank.Coding.Redaction
import TacoRank.Coding.Traces
import TacoRank.Config
import TacoRank.Context.Builder
import TacoRank.Context.Packing
import TacoRank.Context.Redaction
import TacoRank.Evaluation.Decisions
import TacoRank.Evaluation.Diagnostics
import TacoRank.Evaluation.Ladder
import TacoRank.Evaluation.Metrics
import TacoRank.Evaluation.NoOp
import TacoRank.Evaluation.PredictionChange
import TacoRank.Evaluation.Proxy
import TacoRank.Evaluation.RankAverage
import TacoRank.Evaluation.Representable
import TacoRank.Evaluation.SeedMargin
import TacoRank.Evaluation.Service
import TacoRank.Evaluation.Slices
import TacoRank.Evaluation.TieLoops
import TacoRank.Evaluation.Trust
import TacoRank.Execution.Artifacts
import TacoRank.Execution.Certificate
import TacoRank.Execution.Launches
import TacoRank.Execution.Runner
import TacoRank.Execution.SealVerification
import TacoRank.Execution.Supervision
import TacoRank.Lib.AsciiJson
import TacoRank.Lib.Csv
import TacoRank.Lib.Dict
import TacoRank.Lib.Elimination
import TacoRank.Lib.Grouping
import TacoRank.Lib.Interleaving
import TacoRank.Lib.Json
import TacoRank.Lib.Lines
import TacoRank.Lib.Log
import TacoRank.Lib.PosixPath
import TacoRank.Lib.Program
import TacoRank.Lib.Ranking
import TacoRank.Lib.Regex
import TacoRank.Lib.Result
import TacoRank.Lib.Rewriting
import TacoRank.Lib.Rounding
import TacoRank.Lib.Seams
import TacoRank.Lib.Selection
import TacoRank.Lib.Shell
import TacoRank.Lib.Statistics
import TacoRank.Lib.TieLoop
import TacoRank.Lib.Transcript
import TacoRank.Lib.Trouble
import TacoRank.Lib.Utf8
import TacoRank.Lib.Window
import TacoRank.Memory.AppendRead
import TacoRank.Memory.Coercion
import TacoRank.Memory.Envelope
import TacoRank.Memory.EventStore
import TacoRank.Memory.LedgerFile
import TacoRank.Memory.Projections
import TacoRank.Memory.Retrieval
import TacoRank.Memory.TamperEvidence
import TacoRank.Orchestrator.Abandonment
import TacoRank.Orchestrator.ActiveExperiment
import TacoRank.Orchestrator.AdapterFailures
import TacoRank.Orchestrator.Attempts
import TacoRank.Orchestrator.BestEvidence
import TacoRank.Orchestrator.BestProvenance
import TacoRank.Orchestrator.Budgets
import TacoRank.Orchestrator.CausationWalk
import TacoRank.Orchestrator.Confirmations
import TacoRank.Orchestrator.Convergence
import TacoRank.Orchestrator.ConvergenceCounters
import TacoRank.Orchestrator.DecisionSpec
import TacoRank.Orchestrator.Discipline
import TacoRank.Orchestrator.EvaluationSpec
import TacoRank.Orchestrator.Exceptions
import TacoRank.Orchestrator.ExecutionSpec
import TacoRank.Orchestrator.ExperimentLane
import TacoRank.Orchestrator.FidelitySpec
import TacoRank.Orchestrator.FinalSelection
import TacoRank.Orchestrator.Finalization
import TacoRank.Orchestrator.Handlers
import TacoRank.Orchestrator.Interleavings
import TacoRank.Orchestrator.Inversion
import TacoRank.Orchestrator.LaneSpec
import TacoRank.Orchestrator.LanesCommute
import TacoRank.Orchestrator.Ledger
import TacoRank.Orchestrator.Lessons
import TacoRank.Orchestrator.Lifecycle
import TacoRank.Orchestrator.Live
import TacoRank.Orchestrator.NodeStep
import TacoRank.Orchestrator.NodeTrace
import TacoRank.Orchestrator.Planning
import TacoRank.Orchestrator.Ports
import TacoRank.Orchestrator.PostStop
import TacoRank.Orchestrator.Proposals
import TacoRank.Orchestrator.Provenance
import TacoRank.Orchestrator.PublicLabels
import TacoRank.Orchestrator.RecordableBest
import TacoRank.Orchestrator.RecoveryContext
import TacoRank.Orchestrator.RecoverySpec
import TacoRank.Orchestrator.Rejections
import TacoRank.Orchestrator.Renumber
import TacoRank.Orchestrator.RepairAuthorization
import TacoRank.Orchestrator.RepairSpec
import TacoRank.Orchestrator.RoundBest
import TacoRank.Orchestrator.RoundSpec
import TacoRank.Orchestrator.Router
import TacoRank.Orchestrator.RunBudget
import TacoRank.Orchestrator.RunStep
import TacoRank.Orchestrator.Scenario
import TacoRank.Orchestrator.State
import TacoRank.Orchestrator.StateMachine
import TacoRank.Recovery.Policy
import TacoRank.Recovery.Soundness
import TacoRank.Reporting.RuntimeStatus
import TacoRank.Reporting.Timing
import TacoRank.Research.Duplicates
import TacoRank.Research.GraphView
import TacoRank.Research.LinUcb
import TacoRank.Research.Normalization
import TacoRank.Research.SearchPolicy
import TacoRank.Safety.DiffSoundness
import TacoRank.Safety.GateSoundness
import TacoRank.Safety.GitDiff
import TacoRank.Safety.OutputGate
import TacoRank.Safety.PathPolicy
import TacoRank.Safety.PredictionReaders
import TacoRank.Safety.ReceiptWrites
import TacoRank.Safety.Receipts
import TacoRank.Schemas
import TacoRank.Sre.Observer
import TacoRank.Text
