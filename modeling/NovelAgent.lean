import NovelAgent.Runtime.Versions
import NovelAgent.Runtime.FreshFence
import NovelAgent.Runtime.EffectFrontier
import NovelAgent.Runtime.Cancel
import NovelAgent.Runtime.CommitHistory
import NovelAgent.Runtime.Replay.Equivalence
import NovelAgent.MemoryWrite.Laundering
import NovelAgent.World.Lifecycle
import NovelAgent.Context.Recovery
import NovelAgent.Context.HardLimit
import NovelAgent.Admission.Leases
import NovelAgent.Evidence.CandidateIdentity
import NovelAgent.Evidence.QuoteOverlap
import NovelAgent.Projection.Drain
import NovelAgent.Projection.Published
import NovelAgent.R1.CheckedPaths
import NovelAgent.ModelCalls.Durable
import NovelAgent.ModelCalls.Terminal
import NovelAgent.Editorial.Matching
import NovelAgent.MemoryWrite.SettledOnce
import NovelAgent.MemoryWrite.NonRepairable
import NovelAgent.MemoryWrite.RootFrame
import NovelAgent.Runtime.EffectFinality
import NovelAgent.Runtime.RetryBudget
import NovelAgent.World.DirectiveFrame
import NovelAgent.Editorial.Repair
import NovelAgent.Editorial.DerivedIds
import NovelAgent.Evidence.LedgerSharing
import NovelAgent.Evidence.SliceResolver
import NovelAgent.Loops.RoundProgress
import NovelAgent.ModelCalls.Retries
import NovelAgent.Pipeline.AnchorBuild
import NovelAgent.Pipeline.FairRoutes
import NovelAgent.Pipeline.PassageCharges
import NovelAgent.Retrieval.BudgetTruth
import NovelAgent.Retrieval.FallbackReach
import NovelAgent.Retrieval.InformationGain
import NovelAgent.World.GraphSoundness
import NovelAgent.World.TextTimeline
