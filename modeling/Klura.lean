import Klura.Run.Life
import Klura.Moves.Commit
import Klura.Moves.Finish
import Klura.Moves.Service
import Klura.Moves.Execution
import Klura.Invariants.ExecutionEpoch
import Klura.Contracts.Sha256
import Klura.Invariants.CommitTurns
import Klura.Invariants.StoredReaders
import Klura.Invariants.CommitProgress
import Klura.Moves.Life
import Klura.Invariants.EmitLimits
import Klura.Library.Segments
import Klura.Moves.Spool
import Klura.Moves.Nodes
import Klura.Invariants.RunCompletion
import Klura.Invariants.ChainEnds
import Klura.Call.Attempt
import Klura.Call.Accounting
import Klura.Call.Outcomes
import Klura.Invariants.LockExclusion
import Klura.Library.OrderedMap
import Klura.Library.Rotation
import Klura.Scheduler.Entry
import Klura.Scheduler.Machine
import Klura.Scheduler.Queue
import Klura.Scheduler.Moves
import Klura.Invariants.AdmissionRate
import Klura.Invariants.SchedulerTurns
import Klura.Library.Binary64
import Klura.Library.CodeUnits
import Klura.Library.JsonGrammar
import Klura.Library.JsonReader
import Klura.Library.JsonReading
import Klura.Contracts.StrictJson
import Klura.Contracts.Scanner
import Klura.Library.DecimalNumeral
import Klura.Contracts.CanonicalText
import Klura.Invariants.CanonicalJson
import Klura.Invariants.FollowedItems
import Klura.Invariants.RunOperations
import Klura.Invariants.EgressRules
import Klura.Invariants.BoundaryPolicy
import Klura.Invariants.ExecutionReports
import Klura.Invariants.CapabilityCache
import Klura.Invariants.PrereqReuse
import Klura.Invariants.NodeDemotion
import Klura.Contracts.Versions
import Klura.Library.Replacement
import Klura.Library.Templates
import Klura.Contracts.JsonText
import Klura.Execution.Placeholders
import Klura.Invariants.GraduatedStrategies
import Klura.Invariants.CandidatePromotion
import Klura.Invariants.DeliveredWrites
import Klura.Invariants.IsolatedVerification
import Klura.Invariants.AccountIsolation
import Klura.Invariants.TerminalDescriptors
import Klura.Invariants.RenderedOutput
import Klura.Invariants.MetadataReaders
import Klura.Invariants.PoolContexts
import Klura.Invariants.SharedSessions
import Klura.Invariants.InstantOrder
import Klura.Invariants.SemanticCutoffs
import Klura.Invariants.RefreshChains
import Klura.Invariants.Acknowledgements
import Klura.Invariants.SecretCommands
import Klura.Invariants.RegistryPages
import Klura.Invariants.GraphKeys
import Klura.Invariants.StartUrls
import Klura.Invariants.AttemptTurns
import Klura.Invariants.VersionOrder
import Klura.Invariants.JournalReading
