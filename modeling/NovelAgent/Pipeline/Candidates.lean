import NovelAgent.Evidence.Selections
import NovelAgent.Pipeline.Units

/-!
# Candidates

What channels find for a need, and what becomes of it: hits in the order of one
channel, candidates ranked over all of them, and the trace of a retrieval.
-/

namespace NovelAgent.Pipeline

open Core Domain

open Retrieval (RetrievalChannel Stage1QueryIntent)

/-- A path of a graph, as far as its seeds are read off it. -/
structure GraphPathReceipt where
  pathId : StableId
  entityPath : List StableId
  others : JsonValue
deriving DecidableEq

/-- A hit of one channel. -/
structure ChannelHit where
  unit : RetrievalUnit
  channel : RetrievalChannel
  channelRank : Nat
  rawScore : ℚ
  candidateCount : Nat
  hitReason : String
  graphPathReceipts : List GraphPathReceipt
deriving DecidableEq

/-- A unit at its place over all channels. -/
structure FusedCandidate where
  unit : RetrievalUnit
  fusedRank : Nat
  rrfScore : ℚ
  channelHits : List ChannelHit
  selected : Bool
  rejectionReason : Option String

/-- A candidate that is selected, or rejected for a reason. -/
def FusedCandidate.mark (candidate : FusedCandidate) (selected : Bool) (reason : Option String) :
    FusedCandidate :=
  { candidate with selected := selected, rejectionReason := reason }

/-- Why a retrieval stops. -/
inductive RetrievalStopReason
  | exactSatisfied
  | budgetSatisfied
  | candidatesExhausted
  | fallbackExhausted
  | noExecutableQuery

/-- What a retrieval reports. -/
structure RetrievalTrace where
  needId : StableId
  intent : Stage1QueryIntent
  allowedChannels : List RetrievalChannel
  channelCandidateCounts : List (RetrievalChannel × Nat)
  candidates : List FusedCandidate
  fusionApplied : Bool
  fallbackUsed : Bool
  fallbackReason : Option String
  stopReason : RetrievalStopReason
  needExecutionStatus : Evidence.NeedExecutionStatus
  callsAllocated : Nat
  requiredNeedFacetIds : List StableId
  irreducibleNeedFacetIds : List StableId
  closedNeedFacetIds : List StableId
  facetReceipts : List Evidence.FacetEvidenceReceipt
  retrievalPages : Nat
  anchorsExpanded : Nat
  spansExpanded : Nat
  l0Tokens : Nat
  directUnitIds : List StableId
  compiledQueryBundle : JsonValue
  effectiveChannels : List RetrievalChannel
  queryUnavailableReasons : List (RetrievalChannel × String)
  fullChaptersRead : Nat
  graphPathCount : Nat
  graphSeedEntityIds : List StableId
  graphExhausted : Bool
  /-- What is said of later stages, which are not part of a retrieval. -/
  others : JsonValue

variable (candidate : FusedCandidate) (selected : Bool) (reason : Option String)

@[simp] theorem FusedCandidate.mark_unit :
    (candidate.mark selected reason).unit = candidate.unit := rfl

@[simp] theorem FusedCandidate.mark_selected :
    (candidate.mark selected reason).selected = selected := rfl

@[simp] theorem FusedCandidate.mark_fusedRank :
    (candidate.mark selected reason).fusedRank = candidate.fusedRank :=
  rfl

@[simp] theorem FusedCandidate.mark_channelHits :
    (candidate.mark selected reason).channelHits = candidate.channelHits := rfl

end NovelAgent.Pipeline
