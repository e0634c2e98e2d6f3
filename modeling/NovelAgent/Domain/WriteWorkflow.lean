import NovelAgent.Domain.Proposals
import NovelAgent.Domain.Runtime

/-!
# The Memory-Write Contract

What a memory write has left to spend and the verified basis it starts from.
-/

namespace NovelAgent.Domain

/-- The budget left. -/
structure MemoryWriteBudgetRemaining where
  curatorRepairs : Nat
  normalizationPasses : Nat
  guardianReviews : Nat
  contextRefreshes : Nat
  totalModelCalls : Nat
  tokenBudget : Nat
  wallClockBudgetMs : Nat

/-- The verified read-only basis of a write. -/
structure CanonicalWriteBasis where
  projectId : ProjectId
  commitId : CommitId
  rootManifest : RootManifest
  canonicalWorld : Option ArtifactRef

end NovelAgent.Domain
