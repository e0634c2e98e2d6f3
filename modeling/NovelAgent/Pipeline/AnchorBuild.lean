import Mathlib.Data.List.Nodup
import Mathlib.Data.List.Sort
import Mathlib.Data.List.TakeWhile
import NovelAgent.Pipeline.Expansion
import NovelAgent.R1.Materialize

/-!
# The Projection of a Basis

Every record of a world, every node and goal of a plan, every block and chapter of a
text becomes a retrieval unit. The identity of a unit is the identity of what it is
made from behind a prefix, so that one namespace takes what many of them hold.
-/

namespace NovelAgent.Pipeline

open Core Domain World List Outcome

open R1 (PlanNode ChapterGoal)

open Retrieval (RetrievalUnitKind)

/-- A plan under its address. -/
structure PlanRoot extends R1.PlanRootDocument where
  rootHash : ArtifactId

/-- What a projection is made from. -/
structure Basis where
  world : WorldRootDocument
  text : TextRootDocument
  plan : Option PlanRoot
  snapshotId : StableId
  canonicalCommit : Option CommitId

/-- `basis_commit` -/
def Basis.commit (basis : Basis) : CommitId := basis.canonicalCommit.getD basis.world.sourceCommit

/-- The canonical value and the story time of a unit. -/
structure CarriedFields where
  canonicalValueId : Option StableId := none
  canonicalizerVersion : Option String := none
  storyTimeStart : Option Int := none
  storyTimeEnd : Option Int := none

def CarriedFields.dump (carried : CarriedFields) : JsonValue :=
  .object [
    ("canonical_value_id", carried.canonicalValueId.elim .null fun id => .string id.root),
    ("canonicalizer_version", carried.canonicalizerVersion.elim .null .string),
    ("story_time_start", carried.storyTimeStart.elim .null .int),
    ("story_time_end", carried.storyTimeEnd.elim .null .int)]

def newUnit (unit : RetrievalUnit) (carried : CarriedFields) : Except String RetrievalUnit :=
  if carried.canonicalValueId.isNone ≠ carried.canonicalizerVersion.isNone then
    .error "canonical value id and canonicalizer version must appear together"
  else if ¬ ordinalsOrdered carried.storyTimeStart carried.storyTimeEnd then
    .error "retrieval unit story time end precedes story time start"
  else { unit with others := carried.dump }.validated

/-- `StableId(...)` -/
def stableId (value : String) : Except String StableId :=
  match StableId.ofString? value with
  | none => .error "String should match pattern '^[A-Za-z0-9][A-Za-z0-9._:-]\x7b0,127\x7d$'"
  | some id => .ok id

section Json

mutual

/-- `json.dumps(..., ensure_ascii=False, sort_keys=True)` -/
def dumps : JsonValue → String
  | .null => "null"
  | .bool true => "true"
  | .bool false => "false"
  | .int value => toString value
  | .float literal => literal
  | .string value => Json.string value
  | .array items => "[" ++ ", ".intercalate (dumpsItems items) ++ "]"
  | .object fields =>
    "\x7b" ++ ", ".intercalate (((dumpsFields fields).insertionSort fun a b => a.1 ≤ b.1).map
      fun field => Json.string field.1 ++ ": " ++ field.2) ++ "\x7d"

def dumpsItems : List JsonValue → List String
  | [] => []
  | item :: items => dumps item :: dumpsItems items

/-- The fields of an object with their texts. -/
def dumpsFields : List (String × JsonValue) → List (String × String)
  | [] => []
  | (key, value) :: fields => (key, dumps value) :: dumpsFields fields

end

end Json

/-- A character that a canonical value is spelled with. -/
def isCanonicalChar (c : Char) : Bool :=
  c.isLower || c.isDigit || (0x4e00 ≤ c.toNat && c.toNat ≤ 0x9fff)

/-- `_normalize`: every run of other characters is one underscore, and none stands at an end. -/
def normalizeValue (casefold : String → String) (value : String) : String :=
  "_".intercalate ((((casefold value).toList.splitOnP fun c => !isCanonicalChar c).filter
    (· ≠ [])).map String.ofList)

/-- `_ALIASES` -/
def canonicalAlias (predicate normalized : String) : String :=
  if predicate = "attitude_toward_event" ∧ normalized = "indifferent_to_ivy_feast" then
    "indifferent_to_fame_from_ivy_feast"
  else normalized

/-- The digits of a hash that an identity is formed with. -/
def shortDigest (digits : Nat) (value : String) : String :=
  String.ofList ((Sha256.hexdigest value).toList.take digits)

/-- `CanonicalAliasRegistry.resolve` -/
def resolveValue (casefold : String → String) (predicate value : String) :
    Except String StableId :=
  stableId ("canonical-value." ++ shortDigest 16 predicate ++ "." ++
    shortDigest 24 (canonicalAlias predicate (normalizeValue casefold value)))

section Units

variable (casefold : String → String) (basis : Basis)

/-- `labels[...]` -/
def labelOf (entityId : StableId) : Except String String :=
  match (basis.world.records .entity).findRev? fun entity => entity.entityId = entityId with
  | none => .error ("KeyError: " ++ entityId.root)
  | some entity => .ok entity.internalLabel.text

/-- `_evidence_snippets` -/
def evidenceSnippets (evidenceRefs : List EvidenceRef) : Except String String := do
  let snippets ← evidenceRefs.mapM fun evidence =>
    resolveEvidenceText "canonical record" evidence basis.text
  pure (" ".intercalate snippets)

/-- `_block_evidence` -/
def blockEvidence (block : TextBlock) : Except String EvidenceRef := do
  let evidenceId ← stableId ("evidence.full." ++ block.blockId.root)
  pure {
    evidenceId := evidenceId
    rootHash := basis.text.rootHash
    objectHash := digest block.text
    chapterId := some block.chapterId
    sceneId := block.sceneId
    span := some ⟨block.blockId, .unicodeCodepoint, 0, block.text.toList.length, Nat.zero_le _⟩
    quoteHash := some (digest block.text)
    supportStatus := .current
    resolvedAtCommit := basis.commit }

/-- A unit with the fields that every unit is given, and the defaults of the others. -/
def plainUnit (unitId : StableId) (unitKind : RetrievalUnitKind) (sourceArtifact : ArtifactId)
    (text : String) : RetrievalUnit where
  unitId := unitId
  unitKind := unitKind
  sourceCommit := basis.commit
  snapshotId := basis.snapshotId
  sourceArtifact := some sourceArtifact
  sourceRefs := []
  contentHash := none
  text := text
  entityIds := []
  predicate := none
  parentUnitId := none
  parentUnitIds := []
  worldline := "main"
  narrativeStart := none
  narrativeEnd := none
  truthClass := none
  accessScope := "writer_safe"
  informationLabel := "observed"
  evidenceRefs := []
  mandatory := false
  others := .null

def recordSources (evidenceRefs : List EvidenceRef) : List ArtifactId :=
  (basis.world.rootHash :: evidenceRefs.map EvidenceRef.rootHash).eraseDups

def entityUnit (entity : Entity) : Except String RetrievalUnit := do
  let unitId ← stableId ("anchor." ++ entity.entityId.root)
  let text := Text.strip (entity.internalLabel.text ++ " " ++ " ".intercalate entity.aliases ++
    " entity_type:" ++ entity.entityType.text)
  newUnit { plainUnit basis unitId .factAnchor basis.world.rootHash text with
    sourceRefs := [basis.world.rootHash]
    entityIds := [entity.entityId]
    predicate := some "entity_identity" } {}

/-- `canonical_value` -/
def canonicalValueOf (state : StateRecord) : Except String (Option StableId) :=
  match state.value with
  | .string value => (resolveValue casefold state.predicate.text value).map some
  | _ => .ok none

def stateUnit (state : StateRecord) : Except String RetrievalUnit := do
  let canonicalValue ← canonicalValueOf casefold state
  let unitId ← stableId ("anchor." ++ state.stateId.root)
  let label ← labelOf basis state.subjectId
  let snippets ← evidenceSnippets basis state.evidenceRefs
  let text := label ++ " " ++ state.predicate.text ++ " " ++ dumps state.value ++ " " ++ snippets
  newUnit { plainUnit basis unitId .stateAnchor basis.world.rootHash text with
    sourceRefs := recordSources basis state.evidenceRefs
    entityIds := [state.subjectId]
    predicate := some state.predicate.text
    truthClass := some state.truthClass
    evidenceRefs := state.evidenceRefs
    mandatory := state.predicate.text ∈ ["alive", "injury", "location", "owns"] }
    { canonicalValueId := canonicalValue
      canonicalizerVersion := canonicalValue.map fun _ => "canonical_value.v1"
      storyTimeStart := state.validTime.startOrdinal
      storyTimeEnd := state.validTime.endOrdinal }

def eventText (event : Event) : Except String String := do
  let participants ← event.participantIds.mapM (labelOf basis)
  let snippets ← evidenceSnippets basis event.evidenceRefs
  pure (Text.strip (" ".intercalate participants ++ " " ++ event.eventType.text ++ " " ++ snippets))

def eventUnit (event : Event) : Except String RetrievalUnit := do
  let unitId ← stableId ("anchor." ++ event.eventId.root)
  let text ← eventText basis event
  newUnit { plainUnit basis unitId .eventAnchor basis.world.rootHash text with
    sourceRefs := recordSources basis event.evidenceRefs
    entityIds := event.participantIds
    predicate := some event.eventType.text
    truthClass := some event.truthClass
    evidenceRefs := event.evidenceRefs }
    { storyTimeStart := event.storyTime.bind StoryTime.startOrdinal
      storyTimeEnd := event.storyTime.bind StoryTime.endOrdinal }

def relationUnit (relation : RelationRecord) : Except String RetrievalUnit := do
  let unitId ← stableId ("anchor." ++ relation.relationId.root)
  let subject ← labelOf basis relation.subjectId
  let object ← labelOf basis relation.objectId
  let snippets ← evidenceSnippets basis relation.evidenceRefs
  let text := subject ++ " " ++ relation.predicate.text ++ " " ++ object ++ " " ++ snippets
  newUnit { plainUnit basis unitId .relationAnchor basis.world.rootHash text with
    sourceRefs := recordSources basis relation.evidenceRefs
    entityIds := [relation.subjectId, relation.objectId]
    predicate := some relation.predicate.text
    truthClass := some relation.truthClass
    evidenceRefs := relation.evidenceRefs }
    { storyTimeStart := relation.validTime.startOrdinal
      storyTimeEnd := relation.validTime.endOrdinal }

def obligationUnit (obligation : PlanObligation) : Except String RetrievalUnit := do
  let unitId ← stableId ("anchor." ++ obligation.obligationId.root)
  let snippets ← evidenceSnippets basis obligation.evidenceRefs
  let text := Text.strip (obligation.kind.value ++ " " ++ obligation.status.value ++ " " ++
    obligation.description.text ++ " " ++ snippets)
  newUnit { plainUnit basis unitId .planAnchor basis.world.rootHash text with
    entityIds := obligation.ownerIds
    predicate := some obligation.kind.value
    informationLabel := "plan"
    evidenceRefs := obligation.evidenceRefs
    mandatory := obligation.status ≠ .resolved } {}

/-- The name of a plan node: a chapter goal may have the node's identity. -/
def planNodeName (plan : PlanRoot) (nodeId : StableId) : String :=
  if nodeId ∈ plan.chapterGoals.map ChapterGoal.goalId then "anchor.plan-node." ++ nodeId.root
  else "anchor." ++ nodeId.root

/-- `plan_node_unit_ids` -/
def planNodeUnitIds (plan : PlanRoot) : Except String (List (StableId × StableId)) :=
  plan.nodes.mapM fun node => do
    let unitId ← stableId (planNodeName plan node.planNodeId)
    pure (node.planNodeId, unitId)

/-- `plan_node_unit_ids.get(...)` -/
def unitIdOf (ids : List (StableId × StableId)) (nodeId : StableId) : Option StableId :=
  (ids.findRev? fun entry => entry.1 = nodeId).map Prod.snd

/-- `node_unit_id` -/
def nodeUnitId (ids : List (StableId × StableId)) (nodeId : StableId) : Except String StableId :=
  match unitIdOf ids nodeId with
  | none => .error ("KeyError: " ++ nodeId.root)
  | some unitId => .ok unitId

/-- The parent of a node's unit. The default of the lookup is formed whether it is needed
    or not. -/
def parentUnitIdOf (ids : List (StableId × StableId)) :
    Option StableId → Except String (Option StableId)
  | none => .ok none
  | some parentId => do
      let fallback ← stableId ("anchor." ++ parentId.root)
      pure (some ((unitIdOf ids parentId).getD fallback))

def nodeUnit (plan : PlanRoot) (ids : List (StableId × StableId)) (node : PlanNode) :
    Except String RetrievalUnit := do
  let unitId ← nodeUnitId ids node.planNodeId
  let parent ← parentUnitIdOf ids node.parentId
  newUnit { plainUnit basis unitId .arcAnchor plan.rootHash (node.title.text ++ " " ++ node.summary)
    with
    parentUnitId := parent
    parentUnitIds := parent.toList
    accessScope := "author_planning"
    informationLabel := "plan" } {}

def goalUnit (plan : PlanRoot) (goal : ChapterGoal) : Except String RetrievalUnit := do
  let unitId ← stableId ("anchor." ++ goal.goalId.root)
  let text := "chapter " ++ toString goal.chapterIndex.val ++ " " ++ goal.summary.text
  newUnit { plainUnit basis unitId .planAnchor plan.rootHash text with
    narrativeStart := some goal.chapterIndex.val
    narrativeEnd := some goal.chapterIndex.val
    accessScope := "author_planning"
    informationLabel := "plan"
    mandatory := true } {}

def blockUnit (block : TextBlock) : Except String RetrievalUnit := do
  let evidence ← blockEvidence basis block
  let unitId ← stableId ("grounded." ++ block.blockId.root)
  newUnit { plainUnit basis unitId .groundedBlock basis.text.rootHash block.text with
    narrativeStart := some block.narrativeIndex
    narrativeEnd := some block.narrativeIndex
    evidenceRefs := [evidence] } {}

/-- The unit of a chapter or a prelude, behind the units of its blocks. -/
def chapterUnits (chapterId : StableId) (index : Nat) (text : String) (blocks : List TextBlock) :
    Except String (List RetrievalUnit) := do
  let grounded ← blocks.mapM (blockUnit basis)
  let unitId ← stableId ("anchor." ++ chapterId.root)
  let chapter ← newUnit { plainUnit basis unitId .chapterAnchor basis.text.rootHash text with
    narrativeStart := some index
    narrativeEnd := some index
    evidenceRefs := grounded.flatMap RetrievalUnit.evidenceRefs } {}
  pure (grounded ++ [chapter])

def blocksIn (scenes : List SceneDocument) : List TextBlock := scenes.flatMap SceneDocument.blocks

/-- The texts of blocks, with a space between two. -/
def joinedText (blocks : List TextBlock) : String := " ".intercalate (blocks.map TextBlock.text)

def chapterText (chapter : ChapterDocument) : String :=
  Text.strip (chapter.title.getD "" ++ " " ++ joinedText (blocksIn chapter.scenes))

def planUnits (plan : PlanRoot) : Except String (List RetrievalUnit) := do
  let ids ← planNodeUnitIds plan
  let nodes ← plan.nodes.mapM (nodeUnit basis plan ids)
  let goals ← plan.chapterGoals.mapM (goalUnit basis plan)
  pure (nodes ++ goals)

def preludeUnits (prelude : PreludeDocument) : Except String (List RetrievalUnit) :=
  chapterUnits basis prelude.preludeId 0 (joinedText (blocksIn prelude.scenes))
    (blocksIn prelude.scenes)

/-- `AnchorBuilder.build` -/
def build : Except String (List RetrievalUnit) := do
  let entities ← (basis.world.records .entity).mapM (entityUnit basis)
  let states ← (basis.world.records .state).mapM (stateUnit casefold basis)
  let events ← (basis.world.records .event).mapM (eventUnit basis)
  let relations ← (basis.world.records .relation).mapM (relationUnit basis)
  let obligations ← (basis.world.records .obligation).mapM (obligationUnit basis)
  let planned ← basis.plan.toList.mapM (planUnits basis)
  let prelude ← basis.text.prelude.toList.mapM (preludeUnits basis)
  let chapters ← basis.text.chapters.mapM fun chapter =>
    chapterUnits basis chapter.chapterId chapter.chapterIndex (chapterText chapter)
      (blocksIn chapter.scenes)
  let units := entities ++ (states ++ (events ++ (relations ++ (obligations ++
    (planned.flatten ++ (prelude.flatten ++ chapters.flatten))))))
  if ¬ (units.map RetrievalUnit.unitId).Nodup then
    .error "anchor build produced duplicate retrieval unit ids"
  else pure (units.map withContentMetadata)

end Units

/-- What units are made from. -/
inductive Source
  | entity (entity : Entity)
  | state (state : StateRecord)
  | event (event : Event)
  | relation (relation : RelationRecord)
  | obligation (obligation : PlanObligation)
  | node (plan : PlanRoot) (node : PlanNode)
  | goal (goal : ChapterGoal)
  | block (block : TextBlock)
  | prelude (prelude : PreludeDocument)
  | chapter (chapter : ChapterDocument)

namespace Source

def name : Source → String
  | .entity record => "anchor." ++ record.entityId.root
  | .state record => "anchor." ++ record.stateId.root
  | .event record => "anchor." ++ record.eventId.root
  | .relation record => "anchor." ++ record.relationId.root
  | .obligation record => "anchor." ++ record.obligationId.root
  | .node plan planned => planNodeName plan planned.planNodeId
  | .goal planned => "anchor." ++ planned.goalId.root
  | .block passage => "grounded." ++ passage.blockId.root
  | .prelude document => "anchor." ++ document.preludeId.root
  | .chapter document => "anchor." ++ document.chapterId.root

def kind : Source → RetrievalUnitKind
  | .entity _ => .factAnchor
  | .state _ => .stateAnchor
  | .event _ => .eventAnchor
  | .relation _ => .relationAnchor
  | .obligation _ => .planAnchor
  | .node _ _ => .arcAnchor
  | .goal _ => .planAnchor
  | .block _ => .groundedBlock
  | .prelude _ => .chapterAnchor
  | .chapter _ => .chapterAnchor

/-- The identity of the unit has room for its prefix, and the unit has a text. The
    sources that are not named here have a text whatever they say. -/
def Fits (basis : Basis) : Source → Prop
  | .event record => ("anchor." ++ record.eventId.root).length ≤ 128 ∧
      ∀ text, eventText basis record = .ok text → text ≠ ""
  | .block passage => ("evidence.full." ++ passage.blockId.root).length ≤ 128 ∧ passage.text ≠ ""
  | .prelude document => ("anchor." ++ document.preludeId.root).length ≤ 128 ∧
      joinedText (blocksIn document.scenes) ≠ ""
  | .chapter document => ("anchor." ++ document.chapterId.root).length ≤ 128 ∧
      chapterText document ≠ ""
  | source => source.name.length ≤ 128

end Source

/-- The sources of a basis, in the order of their units. -/
def sources (basis : Basis) : List Source :=
  (basis.world.records .entity).map .entity ++ ((basis.world.records .state).map .state ++
    ((basis.world.records .event).map .event ++ ((basis.world.records .relation).map .relation ++
    ((basis.world.records .obligation).map .obligation ++
    (basis.plan.toList.flatMap (fun plan =>
      plan.nodes.map (.node plan) ++ plan.chapterGoals.map .goal) ++
    (basis.text.prelude.toList.flatMap (fun prelude =>
      (blocksIn prelude.scenes).map .block ++ [.prelude prelude]) ++
    basis.text.chapters.flatMap (fun chapter =>
      (blocksIn chapter.scenes).map .block ++ [.chapter chapter])))))))

/-- The unit of a source goes by its name, and is of its kind. -/
structure Projects (source : Source) (unit : RetrievalUnit) : Prop where
  name : unit.unitId.root = source.name
  kind : unit.unitKind = source.kind

variable {text : String}

section Rules

variable {value : String} {id : StableId} {unit made : RetrievalUnit} {carried : CarriedFields}

theorem stableId_eq_ok : stableId value = .ok id ↔ id.root = value := by
  rw [← StableId.ofString?_eq_some, stableId]
  cases StableId.ofString? value with
  | none => simp
  | some found => simp

theorem stableId_returns (h : isStableId value = true) : ∃ id, stableId value = .ok id :=
  ⟨⟨value, h⟩, stableId_eq_ok.mpr rfl⟩

theorem isStableId_append {before after : String} (hbefore : isStableId before = true)
    (hafter : after.toList.all isIdChar = true) (hroom : (before ++ after).length ≤ 128) :
    isStableId (before ++ after) = true := by
  rw [isStableId, String.toList_append]
  rw [isStableId] at hbefore
  rw [String.length_append, ← String.length_toList, ← String.length_toList] at hroom
  cases hlist : before.toList with
  | nil => rw [hlist] at hbefore; exact absurd hbefore (by decide)
  | cons first rest =>
    rw [hlist] at hbefore hroom
    simp only [isStableIdChars, Bool.and_eq_true] at hbefore
    simp only [cons_append, isStableIdChars, all_append, length_append,
      Bool.and_eq_true, decide_eq_true_eq, length_cons] at hroom ⊢
    exact ⟨⟨hbefore.1.1, hbefore.1.2, hafter⟩, by omega⟩

theorem root_all_isIdChar (id : StableId) : id.root.toList.all isIdChar = true := by
  have hvalid := id.valid
  rw [isStableId] at hvalid
  cases hroot : id.root.toList with
  | nil => rfl
  | cons first rest =>
    rw [hroot] at hvalid
    simp only [isStableIdChars, Bool.and_eq_true] at hvalid
    rw [all_cons, isIdChar, hvalid.1.1, hvalid.1.2]
    rfl

/-- An identity can be formed behind a prefix that leaves room for it. -/
theorem stableId_prefixed {before : String} (hbefore : isStableId before = true) (id : StableId)
    (hroom : (before ++ id.root).length ≤ 128) : ∃ made, stableId (before ++ id.root) = .ok made :=
  stableId_returns (isStableId_append hbefore (root_all_isIdChar id) hroom)

theorem anchorId_returns (id : StableId) (hroom : ("anchor." ++ id.root).length ≤ 128) :
    ∃ made, stableId ("anchor." ++ id.root) = .ok made :=
  stableId_prefixed (by decide) id hroom

variable (digits : Nat)

theorem shortDigest_all_isIdChar (value : String) :
    (shortDigest digits value).toList.all isIdChar = true := by
  rw [shortDigest, String.toList_ofList, all_eq_true]
  intro c hc
  exact isIdChar_of_isHexDigit c
    (all_eq_true.mp (Sha256.hexdigest_isHex value) c (mem_of_mem_take hc))

theorem shortDigest_length_le (value : String) : (shortDigest digits value).length ≤ digits := by
  rw [shortDigest, String.length_ofList, length_take]
  exact Nat.min_le_left _ _

theorem resolveValue_returns (casefold : String → String) (predicate value : String) :
    ∃ id, resolveValue casefold predicate value = .ok id := by
  have hpredicate := shortDigest_length_le 16 predicate
  have hcanonical :=
    shortDigest_length_le 24 (canonicalAlias predicate (normalizeValue casefold value))
  have hhead : ("canonical-value.").length = 16 := by decide
  have hdot : (".").length = 1 := by decide
  refine stableId_returns (isStableId_append (isStableId_append (isStableId_append (by decide)
    (shortDigest_all_isIdChar 16 predicate) ?_) (by decide) ?_) (shortDigest_all_isIdChar _ _) ?_)
  all_goals simp only [String.length_append]; omega

theorem newUnit_eq_ok (h : newUnit unit carried = .ok made) :
    made = { unit with others := carried.dump } := by
  unfold newUnit RetrievalUnit.validated at h
  split_ifs at h
  exact (Except.ok.inj h).symm

/-- The rules that a unit breaks only if it is given what breaks them. -/
structure Sound (unit : RetrievalUnit) (carried : CarriedFields) : Prop where
  text : unit.text ≠ ""
  worldline : unit.worldline = "main"
  accessScope : unit.accessScope = "writer_safe" ∨ unit.accessScope = "author_planning"
  informationLabel : unit.informationLabel = "observed" ∨ unit.informationLabel = "plan"
  narrative : unit.narrativeStart = unit.narrativeEnd
  parents : unit.parentUnitIds.Nodup
  sources : unit.sourceRefs.Nodup
  canonical : carried.canonicalValueId.isNone = carried.canonicalizerVersion.isNone
  storyTime : ordinalsOrdered carried.storyTimeStart carried.storyTimeEnd = true

/-- A unit with a text, under distinct identities, passes its checks. -/
theorem newUnit_returns (h : Sound unit carried) : ∃ made, newUnit unit carried = .ok made := by
  refine ⟨{ unit with others := carried.dump }, ?_⟩
  have hnarrative : ¬ ∃ start ∈ unit.narrativeStart, ∃ stop ∈ unit.narrativeEnd, stop < start := by
    rintro ⟨start, hstart, stop, hstop, hlt⟩
    rw [h.narrative, Option.mem_def] at hstart
    rw [Option.mem_def, hstart] at hstop
    have heq := Option.some.inj hstop
    omega
  rw [newUnit, if_neg (not_not.mpr h.canonical), if_neg (not_not.mpr h.storyTime),
    RetrievalUnit.validated, if_neg, if_neg hnarrative, if_neg (not_not.mpr h.parents),
    if_neg (not_not.mpr h.sources)]
  rintro (htext | hworldline | hscope | hlabel)
  · exact h.text htext
  · exact absurd (h.worldline.symm.trans hworldline) (by decide)
  · rcases h.accessScope with hsafe | hplanning
    · exact absurd (hsafe.symm.trans hscope) (by decide)
    · exact absurd (hplanning.symm.trans hscope) (by decide)
  · rcases h.informationLabel with hobserved | hplan
    · exact absurd (hobserved.symm.trans hlabel) (by decide)
    · exact absurd (hplan.symm.trans hlabel) (by decide)

theorem strip_ne_empty (h : ¬ Text.isBlank text = true) : Text.strip text ≠ "" := by
  intro hempty
  rw [Text.strip, String.ofList_eq_empty_iff, reverse_eq_nil_iff,
    dropWhile_eq_nil_iff] at hempty
  refine h (all_eq_true.mpr fun c hc => ?_)
  rw [← @takeWhile_append_dropWhile _ Text.isSpace text.toList, mem_append] at hc
  rcases hc with hhead | hrest
  · exact mem_takeWhile_imp hhead
  · exact hempty c (mem_reverse.mpr hrest)

end Rules

variable {entity : Entity} {state : StateRecord} {event : Event} {relation : RelationRecord}
    {obligation : PlanObligation} {plan : PlanRoot} {ids : List (StableId × StableId)}
    {node : PlanNode} {goal : ChapterGoal} {block : TextBlock} {chapterId : StableId} {index : Nat}
    {blocks : List TextBlock}

section Projection

variable {casefold : String → String} {basis : Basis} {unit : RetrievalUnit}
variable {units : List RetrievalUnit}

theorem entityUnit_projects (h : entityUnit basis entity = .ok unit) :
    Projects (.entity entity) unit := by
  simp only [entityUnit, Outcome.bind_eq_ok] at h
  rcases h with ⟨unitId, hunitId, hunit⟩
  rw [newUnit_eq_ok hunit]
  exact ⟨stableId_eq_ok.mp hunitId, rfl⟩

theorem stateUnit_projects (h : stateUnit casefold basis state = .ok unit) :
    Projects (.state state) unit := by
  simp only [stateUnit, Outcome.bind_eq_ok] at h
  rcases h with ⟨_, _, unitId, hunitId, _, _, _, _, hunit⟩
  rw [newUnit_eq_ok hunit]
  exact ⟨stableId_eq_ok.mp hunitId, rfl⟩

theorem eventUnit_projects (h : eventUnit basis event = .ok unit) :
    Projects (.event event) unit := by
  simp only [eventUnit, Outcome.bind_eq_ok] at h
  rcases h with ⟨unitId, hunitId, _, _, hunit⟩
  rw [newUnit_eq_ok hunit]
  exact ⟨stableId_eq_ok.mp hunitId, rfl⟩

theorem relationUnit_projects (h : relationUnit basis relation = .ok unit) :
    Projects (.relation relation) unit := by
  simp only [relationUnit, Outcome.bind_eq_ok] at h
  rcases h with ⟨unitId, hunitId, _, _, _, _, _, _, hunit⟩
  rw [newUnit_eq_ok hunit]
  exact ⟨stableId_eq_ok.mp hunitId, rfl⟩

theorem obligationUnit_projects (h : obligationUnit basis obligation = .ok unit) :
    Projects (.obligation obligation) unit := by
  simp only [obligationUnit, Outcome.bind_eq_ok] at h
  rcases h with ⟨unitId, hunitId, _, _, hunit⟩
  rw [newUnit_eq_ok hunit]
  exact ⟨stableId_eq_ok.mp hunitId, rfl⟩

theorem planNodeUnitIds_name (h : planNodeUnitIds plan = .ok ids) {nodeId unitId : StableId}
    (hunitId : unitIdOf ids nodeId = some unitId) : unitId.root = planNodeName plan nodeId := by
  rw [unitIdOf, List.findRev?_eq_find?_reverse, Option.map_eq_some_iff] at hunitId
  rcases hunitId with ⟨entry, hfind, rfl⟩
  have hfound := List.find?_some hfind
  have hkey : entry.1 = nodeId := of_decide_eq_true hfound
  rcases (mapM_mem h entry).mp (mem_reverse.mp (mem_of_find?_eq_some hfind)) with
    ⟨node, _, hnode⟩
  simp only [Outcome.bind_eq_ok, Outcome.pure_eq_ok] at hnode
  rcases hnode with ⟨made, hmade, rfl⟩
  rw [stableId_eq_ok.mp hmade, ← hkey]

theorem nodeUnit_projects (hids : planNodeUnitIds plan = .ok ids)
    (h : nodeUnit basis plan ids node = .ok unit) : Projects (.node plan node) unit := by
  simp only [nodeUnit, Outcome.bind_eq_ok] at h
  rcases h with ⟨unitId, hunitId, _, _, hunit⟩
  rw [newUnit_eq_ok hunit]
  refine ⟨planNodeUnitIds_name hids ?_, rfl⟩
  rw [nodeUnitId] at hunitId
  cases hfound : unitIdOf ids node.planNodeId with
  | none => rw [hfound] at hunitId; exact absurd hunitId nofun
  | some found => rw [hfound] at hunitId; exact congrArg some (Except.ok.inj hunitId)

theorem goalUnit_projects (h : goalUnit basis plan goal = .ok unit) :
    Projects (.goal goal) unit := by
  simp only [goalUnit, Outcome.bind_eq_ok] at h
  rcases h with ⟨unitId, hunitId, hunit⟩
  rw [newUnit_eq_ok hunit]
  exact ⟨stableId_eq_ok.mp hunitId, rfl⟩

theorem blockUnit_projects (h : blockUnit basis block = .ok unit) :
    Projects (.block block) unit := by
  simp only [blockUnit, Outcome.bind_eq_ok] at h
  rcases h with ⟨_, _, unitId, hunitId, hunit⟩
  rw [newUnit_eq_ok hunit]
  exact ⟨stableId_eq_ok.mp hunitId, rfl⟩

variable {α : Type} {items : List α}

theorem mapM_projects {f : α → Except String RetrievalUnit} {source : α → Source}
    (hf : ∀ a unit, f a = .ok unit → Projects (source a) unit) (h : items.mapM f = .ok units) :
    List.Forall₂ Projects (items.map source) units :=
  forall₂_map_left_iff.mpr ((mapM_linked.mp h).imp hf)

theorem mapM_flatten_projects {f : α → Except String (List RetrievalUnit)}
    {sources : α → List Source} {groups : List (List RetrievalUnit)}
    (hf : ∀ a ∈ items, ∀ units, f a = .ok units → List.Forall₂ Projects (sources a) units)
    (h : items.mapM f = .ok groups) :
    List.Forall₂ Projects (items.flatMap sources) groups.flatten := by
  induction items generalizing groups with
  | nil =>
    rw [mapM_nil, Outcome.pure_eq_ok] at h
    subst h
    exact .nil
  | cons a items ih =>
    simp only [mapM_cons, Outcome.bind_eq_ok, Outcome.pure_eq_ok] at h
    rcases h with ⟨first, hfirst, rest, hrest, rfl⟩
    rw [forall_mem_cons] at hf
    exact rel_append (hf.1 first hfirst) (ih hf.2 hrest)

theorem planUnits_projects (h : planUnits basis plan = .ok units) :
    List.Forall₂ Projects (plan.nodes.map (.node plan) ++ plan.chapterGoals.map .goal) units := by
  simp only [planUnits, Outcome.bind_eq_ok, Outcome.pure_eq_ok] at h
  rcases h with ⟨ids, hids, nodes, hnodes, goals, hgoals, rfl⟩
  exact rel_append (mapM_projects (fun _ _ => nodeUnit_projects hids) hnodes)
    (mapM_projects (fun _ _ => goalUnit_projects) hgoals)

theorem chapterUnits_projects {source : Source}
    (hname : source.name = "anchor." ++ chapterId.root) (hkind : source.kind = .chapterAnchor)
    (h : chapterUnits basis chapterId index text blocks = .ok units) :
    List.Forall₂ Projects (blocks.map .block ++ [source]) units := by
  simp only [chapterUnits, Outcome.bind_eq_ok, Outcome.pure_eq_ok] at h
  rcases h with ⟨grounded, hgrounded, unitId, hunitId, chapter, hchapter, rfl⟩
  refine rel_append (mapM_projects (fun _ _ => blockUnit_projects) hgrounded)
    (.cons ?_ .nil)
  rw [newUnit_eq_ok hchapter]
  exact ⟨(stableId_eq_ok.mp hunitId).trans hname.symm, hkind.symm⟩

variable {sources : List Source}

theorem projects_names (h : List.Forall₂ Projects sources units) :
    units.map (fun unit => unit.unitId.root) = sources.map Source.name := by
  induction h with
  | nil => rfl
  | cons hfirst _ ih => rw [map_cons, map_cons, hfirst.name, ih]

theorem projects_nodup (h : List.Forall₂ Projects sources units) :
    (units.map RetrievalUnit.unitId).Nodup ↔ (sources.map Source.name).Nodup := by
  rw [← projects_names h, show (fun unit : RetrievalUnit => unit.unitId.root) =
    StableId.root ∘ RetrievalUnit.unitId from rfl, ← map_map]
  exact (nodup_map_iff fun _ _ => StableId.root_inj.mp).symm

end Projection

def worldEvidence (world : WorldRootDocument) : List EvidenceRef :=
  (world.records .state).flatMap StateRecord.evidenceRefs ++
    ((world.records .event).flatMap Event.evidenceRefs ++
    ((world.records .relation).flatMap RelationRecord.evidenceRefs ++
    (world.records .obligation).flatMap PlanObligation.evidenceRefs))

/-- Every reference of the world resolves in the text. -/
def Resolves (basis : Basis) : Prop :=
  ∀ evidence ∈ worldEvidence basis.world,
    ∃ quote, resolveEvidenceText "canonical record" evidence basis.text = .ok quote

section Returns

variable {casefold : String → String} {basis : Basis}

theorem evidenceSnippets_returns {evidenceRefs : List EvidenceRef} (hresolves : Resolves basis)
    (h : ∀ evidence ∈ evidenceRefs, evidence ∈ worldEvidence basis.world) :
    ∃ snippets, evidenceSnippets basis evidenceRefs = .ok snippets := by
  rcases (mapM_returns _ evidenceRefs).mpr fun evidence hmem =>
    hresolves evidence (h evidence hmem) with ⟨quotes, hquotes⟩
  exact ⟨_, by rw [evidenceSnippets, hquotes]; rfl⟩

theorem labelOf_returns {entityId : StableId} (h : entityId ∈ basis.world.records.referenced) :
    ∃ label, labelOf basis entityId = .ok label := by
  have hentity := ((Collections.validateReferences_eq_none _).mp basis.world.references).2.2 _ h
  rcases mem_map.mp hentity with ⟨entity, hmem, hid⟩
  unfold labelOf
  cases hfind : (basis.world.records .entity).findRev? fun entity => entity.entityId = entityId with
  | some found => exact ⟨_, rfl⟩
  | none =>
    rw [List.findRev?_eq_find?_reverse, List.find?_eq_none] at hfind
    exact absurd (decide_eq_true hid) (hfind entity (mem_reverse.mpr hmem))

theorem recordSources_nodup (evidenceRefs : List EvidenceRef) :
    (recordSources basis evidenceRefs).Nodup :=
  nodup_eraseDups _

theorem entityUnit_returns (h : (Source.entity entity).Fits basis) :
    ∃ unit, entityUnit basis entity = .ok unit := by
  rcases anchorId_returns entity.entityId h with ⟨unitId, hunitId⟩
  simp only [entityUnit, hunitId, bind, Except.bind]
  refine newUnit_returns ?_
  refine ⟨strip_ne_empty ?_, rfl, .inl rfl, .inl rfl, rfl, nodup_nil,
    nodup_singleton _, rfl, rfl⟩
  simp [Text.isBlank, Text.isSpace]

theorem stateUnit_returns (h : (Source.state state).Fits basis)
    (hmem : state ∈ basis.world.records .state) (hresolves : Resolves basis) :
    ∃ unit, stateUnit casefold basis state = .ok unit := by
  have hcanonical : ∃ canonicalValue, canonicalValueOf casefold state = .ok canonicalValue := by
    unfold canonicalValueOf
    split
    · rename_i value _
      rcases resolveValue_returns casefold state.predicate.text value with ⟨id, hid⟩
      exact ⟨some id, by rw [hid]; rfl⟩
    · exact ⟨none, rfl⟩
  rcases hcanonical with ⟨canonicalValue, hcanonical⟩
  rcases anchorId_returns state.stateId h with ⟨unitId, hunitId⟩
  have hsubject : state.subjectId ∈ basis.world.records.referenced := by
    simp only [Collections.referenced, mem_append, mem_map]
    exact .inl (.inl (.inl (.inr ⟨state, hmem, rfl⟩)))
  rcases labelOf_returns hsubject with ⟨label, hlabel⟩
  rcases evidenceSnippets_returns hresolves fun evidence hevidence =>
    mem_append_left _ (mem_flatMap.mpr ⟨state, hmem, hevidence⟩) with ⟨snippets, hsnippets⟩
  simp only [stateUnit, hcanonical, hunitId, hlabel, hsnippets, bind, Except.bind]
  refine newUnit_returns ?_
  refine ⟨?_, rfl, .inl rfl, .inl rfl, rfl, nodup_nil,
    recordSources_nodup _, ?_, state.validTime.ordered⟩
  · simp [plainUnit]
  · cases canonicalValue <;> rfl

theorem eventUnit_returns (h : (Source.event event).Fits basis)
    (hmem : event ∈ basis.world.records .event) (hresolves : Resolves basis) :
    ∃ unit, eventUnit basis event = .ok unit := by
  rcases anchorId_returns event.eventId h.1 with ⟨unitId, hunitId⟩
  rcases (mapM_returns (labelOf basis) event.participantIds).mpr fun id hid =>
    labelOf_returns (by
      simp only [Collections.referenced, mem_append, mem_flatMap]
      exact .inl (.inl (.inl (.inl ⟨event, hmem, hid⟩)))) with ⟨participants, hparticipants⟩
  rcases evidenceSnippets_returns hresolves fun evidence hevidence =>
    mem_append_right _ (mem_append_left _
      (mem_flatMap.mpr ⟨event, hmem, hevidence⟩)) with ⟨snippets, hsnippets⟩
  have htext : ∃ text, eventText basis event = .ok text :=
    ⟨_, by rw [eventText, hparticipants, hsnippets]; rfl⟩
  rcases htext with ⟨text, htext⟩
  simp only [eventUnit, hunitId, htext, bind, Except.bind]
  refine newUnit_returns ?_
  refine ⟨h.2 text htext, rfl, .inl rfl, .inl rfl, rfl, nodup_nil,
    recordSources_nodup _, rfl, ?_⟩
  cases event.storyTime with
  | none => rfl
  | some storyTime => exact storyTime.ordered

theorem relationUnit_returns (h : (Source.relation relation).Fits basis)
    (hmem : relation ∈ basis.world.records .relation) (hresolves : Resolves basis) :
    ∃ unit, relationUnit basis relation = .ok unit := by
  rcases anchorId_returns relation.relationId h with ⟨unitId, hunitId⟩
  have hsubject : relation.subjectId ∈ basis.world.records.referenced := by
    simp only [Collections.referenced, mem_append, mem_map]
    exact .inl (.inl (.inr ⟨relation, hmem, rfl⟩))
  have hobject : relation.objectId ∈ basis.world.records.referenced := by
    simp only [Collections.referenced, mem_append, mem_map]
    exact .inl (.inr ⟨relation, hmem, rfl⟩)
  rcases labelOf_returns hsubject with ⟨subject, hsubject⟩
  rcases labelOf_returns hobject with ⟨object, hobject⟩
  rcases evidenceSnippets_returns hresolves fun evidence hevidence =>
    mem_append_right _ (mem_append_right _ (mem_append_left _
      (mem_flatMap.mpr ⟨relation, hmem, hevidence⟩))) with ⟨snippets, hsnippets⟩
  simp only [relationUnit, hunitId, hsubject, hobject, hsnippets, bind, Except.bind]
  refine newUnit_returns ?_
  refine ⟨?_, rfl, .inl rfl, .inl rfl, rfl, nodup_nil,
    recordSources_nodup _, rfl, relation.validTime.ordered⟩
  simp [plainUnit]

theorem obligationUnit_returns (h : (Source.obligation obligation).Fits basis)
    (hmem : obligation ∈ basis.world.records .obligation) (hresolves : Resolves basis) :
    ∃ unit, obligationUnit basis obligation = .ok unit := by
  rcases anchorId_returns obligation.obligationId h with ⟨unitId, hunitId⟩
  rcases evidenceSnippets_returns hresolves fun evidence hevidence =>
    mem_append_right _ (mem_append_right _ (mem_append_right _
      (mem_flatMap.mpr ⟨obligation, hmem, hevidence⟩))) with ⟨snippets, hsnippets⟩
  simp only [obligationUnit, hunitId, hsnippets, bind, Except.bind]
  refine newUnit_returns ?_
  refine ⟨strip_ne_empty ?_, rfl, .inl rfl, .inr rfl, rfl, nodup_nil,
    nodup_nil, rfl, rfl⟩
  cases obligation.kind <;> simp [Text.isBlank, Text.isSpace, ObligationKind.value]

theorem planNodeUnitIds_returns (h : ∀ node ∈ plan.nodes, (Source.node plan node).Fits basis) :
    ∃ ids, planNodeUnitIds plan = .ok ids := by
  refine (mapM_returns _ _).mpr fun node hmem => ?_
  have hfits : (planNodeName plan node.planNodeId).length ≤ 128 := h node hmem
  have hname : ∃ unitId, stableId (planNodeName plan node.planNodeId) = .ok unitId := by
    unfold planNodeName at hfits ⊢
    split_ifs at hfits ⊢
    · exact stableId_prefixed (by decide) _ hfits
    · exact stableId_prefixed (by decide) _ hfits
  rcases hname with ⟨unitId, hname⟩
  exact ⟨(node.planNodeId, unitId), by rw [hname]; rfl⟩

theorem nodeUnit_returns (h : ∀ node ∈ plan.nodes, (Source.node plan node).Fits basis)
    (hmem : node ∈ plan.nodes) (hids : planNodeUnitIds plan = .ok ids) :
    ∃ unit, nodeUnit basis plan ids node = .ok unit := by
  have hunitId : ∃ unitId, nodeUnitId ids node.planNodeId = .ok unitId := by
    unfold nodeUnitId unitIdOf
    cases hfind : ids.findRev? fun entry => entry.1 = node.planNodeId with
    | some entry => exact ⟨entry.2, rfl⟩
    | none =>
      -- The identities of all nodes were formed, and with them this one's.
      rw [List.findRev?_eq_find?_reverse, List.find?_eq_none] at hfind
      rcases (mapM_returns _ _).mp ⟨ids, hids⟩ node hmem with ⟨entry, hentry⟩
      have hin := (mapM_mem hids entry).mpr ⟨node, hmem, hentry⟩
      simp only [Outcome.bind_eq_ok, Outcome.pure_eq_ok] at hentry
      rcases hentry with ⟨unitId, _, rfl⟩
      exact absurd (decide_eq_true rfl) (hfind _ (mem_reverse.mpr hin))
  have hparent : ∃ parent, parentUnitIdOf ids node.parentId = .ok parent := by
    cases hparentId : node.parentId with
    | none => exact ⟨none, rfl⟩
    | some parentId =>
      rcases mem_map.mp (plan.parents node hmem parentId hparentId) with
        ⟨parent, hparent, rfl⟩
      have hfits : (planNodeName plan parent.planNodeId).length ≤ 128 := h parent hparent
      have hroom : ("anchor." ++ parent.planNodeId.root).length ≤ 128 := by
        unfold planNodeName at hfits
        have hshared : ("anchor.plan-node.").length = 17 := by decide
        have hhead : ("anchor.").length = 7 := by decide
        split_ifs at hfits
        · rw [String.length_append] at hfits ⊢
          omega
        · exact hfits
      rcases anchorId_returns _ hroom with ⟨fallback, hfallback⟩
      exact ⟨some ((unitIdOf ids parent.planNodeId).getD fallback), by
        rw [parentUnitIdOf, hfallback]; rfl⟩
  rcases hunitId with ⟨unitId, hunitId⟩
  rcases hparent with ⟨parent, hparent⟩
  simp only [nodeUnit, hunitId, hparent, bind, Except.bind]
  refine newUnit_returns ?_
  refine ⟨?_, rfl, .inr rfl, .inr rfl, rfl, ?_, nodup_nil, rfl, rfl⟩
  · simp [plainUnit, node.title.nonEmpty]
  · cases parent with
    | none => exact nodup_nil
    | some parent => exact nodup_singleton parent

theorem goalUnit_returns (h : (Source.goal goal).Fits basis) :
    ∃ unit, goalUnit basis plan goal = .ok unit := by
  rcases anchorId_returns goal.goalId h with ⟨unitId, hunitId⟩
  simp only [goalUnit, hunitId, bind, Except.bind]
  refine newUnit_returns ?_
  refine ⟨?_, rfl, .inr rfl, .inr rfl, rfl, nodup_nil,
    nodup_nil, rfl, rfl⟩
  simp [plainUnit]

theorem blockUnit_returns (h : (Source.block block).Fits basis) :
    ∃ unit, blockUnit basis block = .ok unit := by
  rcases @stableId_prefixed "evidence.full." (by decide) block.blockId h.1 with ⟨evidenceId, hevidenceId⟩
  have hroom : ("grounded." ++ block.blockId.root).length ≤ 128 := by
    have hfits := h.1
    have hevidence : ("evidence.full.").length = 14 := by decide
    have hgrounded : ("grounded.").length = 9 := by decide
    rw [String.length_append] at hfits ⊢
    omega
  rcases stableId_prefixed (by decide) block.blockId hroom with ⟨unitId, hunitId⟩
  simp only [blockUnit, blockEvidence, hevidenceId, hunitId, bind, Except.bind]
  refine newUnit_returns ?_
  exact ⟨h.2, rfl, .inl rfl, .inl rfl, rfl, nodup_nil, nodup_nil,
    rfl, rfl⟩

theorem chapterUnits_returns (h : ∀ block ∈ blocks, (Source.block block).Fits basis)
    (hroom : ("anchor." ++ chapterId.root).length ≤ 128) (htext : text ≠ "") :
    ∃ units, chapterUnits basis chapterId index text blocks = .ok units := by
  rcases (mapM_returns (blockUnit basis) blocks).mpr fun block hmem =>
    blockUnit_returns (h block hmem) with ⟨grounded, hgrounded⟩
  rcases anchorId_returns chapterId hroom with ⟨unitId, hunitId⟩
  have hchapter : ∃ chapter, newUnit { plainUnit basis unitId .chapterAnchor basis.text.rootHash text
      with
      narrativeStart := some index
      narrativeEnd := some index
      evidenceRefs := grounded.flatMap RetrievalUnit.evidenceRefs } {} = .ok chapter :=
    newUnit_returns ⟨htext, rfl, .inl rfl, .inl rfl, rfl, nodup_nil, nodup_nil,
      rfl, rfl⟩
  rcases hchapter with ⟨chapter, hchapter⟩
  exact ⟨grounded ++ [chapter], by
    rw [chapterUnits, hgrounded]
    simp only [hunitId, hchapter, bind, Except.bind]
    rfl⟩

theorem planUnits_returns (hnodes : ∀ node ∈ plan.nodes, (Source.node plan node).Fits basis)
    (hgoals : ∀ goal ∈ plan.chapterGoals, (Source.goal goal).Fits basis) :
    ∃ units, planUnits basis plan = .ok units := by
  rcases planNodeUnitIds_returns hnodes with ⟨ids, hids⟩
  rcases (mapM_returns (nodeUnit basis plan ids) plan.nodes).mpr fun node hmem =>
    nodeUnit_returns hnodes hmem hids with ⟨nodes, hnodeUnits⟩
  rcases (mapM_returns (goalUnit basis plan) plan.chapterGoals).mpr fun goal hmem =>
    goalUnit_returns (hgoals goal hmem) with ⟨goals, hgoalUnits⟩
  exact ⟨nodes ++ goals, by
    rw [planUnits, hids]
    simp only [hnodeUnits, hgoalUnits, bind, Except.bind]
    rfl⟩

theorem collected_projects {entities states events relations obligations : List RetrievalUnit}
    {planned preludes chapters : List (List RetrievalUnit)}
    (hentities : (basis.world.records .entity).mapM (entityUnit basis) = .ok entities)
    (hstates : (basis.world.records .state).mapM (stateUnit casefold basis) = .ok states)
    (hevents : (basis.world.records .event).mapM (eventUnit basis) = .ok events)
    (hrelations : (basis.world.records .relation).mapM (relationUnit basis) = .ok relations)
    (hobligations : (basis.world.records .obligation).mapM (obligationUnit basis) = .ok obligations)
    (hplanned : basis.plan.toList.mapM (planUnits basis) = .ok planned)
    (hpreludes : basis.text.prelude.toList.mapM (preludeUnits basis) = .ok preludes)
    (hchapters : (basis.text.chapters.mapM fun chapter => chapterUnits basis chapter.chapterId
      chapter.chapterIndex (chapterText chapter) (blocksIn chapter.scenes)) = .ok chapters) :
    List.Forall₂ Projects (sources basis) (entities ++ (states ++ (events ++ (relations ++
      (obligations ++ (planned.flatten ++ (preludes.flatten ++ chapters.flatten))))))) := by
  refine rel_append (mapM_projects (fun _ _ => entityUnit_projects) hentities) ?_
  refine rel_append (mapM_projects (fun _ _ => stateUnit_projects) hstates) ?_
  refine rel_append (mapM_projects (fun _ _ => eventUnit_projects) hevents) ?_
  refine rel_append (mapM_projects (fun _ _ => relationUnit_projects) hrelations) ?_
  refine rel_append (mapM_projects (fun _ _ => obligationUnit_projects) hobligations) ?_
  refine rel_append (mapM_flatten_projects (fun _ _ _ => planUnits_projects) hplanned) ?_
  exact rel_append
    (mapM_flatten_projects (fun _ _ _ => chapterUnits_projects rfl rfl) hpreludes)
    (mapM_flatten_projects (fun _ _ _ => chapterUnits_projects rfl rfl) hchapters)

theorem build_eq_ok {units : List RetrievalUnit} (h : build casefold basis = .ok units) :
    List.Forall₂ Projects (sources basis) units ∧ (units.map RetrievalUnit.unitId).Nodup := by
  simp only [build, Outcome.bind_eq_ok] at h
  rcases h with ⟨entities, hentities, states, hstates, events, hevents, relations, hrelations,
    obligations, hobligations, planned, hplanned, preludes, hpreludes, chapters, hchapters, hunits⟩
  split_ifs at hunits with hnodup
  rw [Outcome.pure_eq_ok] at hunits
  subst hunits
  have hcollected := collected_projects hentities hstates hevents hrelations hobligations hplanned
    hpreludes hchapters
  refine ⟨forall₂_map_right_iff.mpr (hcollected.imp fun source unit hunit => ?_), ?_⟩
  · exact ⟨hunit.name, hunit.kind⟩
  · rw [map_map]
    exact hnodup

/-- What a basis that fits is made into. -/
theorem build_fits (hresolves : Resolves basis)
    (hfits : ∀ source ∈ sources basis, source.Fits basis) :
    (((sources basis).map Source.name).Nodup → ∃ units, build casefold basis = .ok units) ∧
      (¬ ((sources basis).map Source.name).Nodup →
        build casefold basis = .error "anchor build produced duplicate retrieval unit ids") := by
  simp only [sources, forall_mem_append, forall_mem_map, forall_mem_flatMap,
    forall_mem_singleton, Option.mem_toList] at hfits
  rcases hfits with ⟨hentity, hstate, hevent, hrelation, hobligation, hplan, hprelude, hchapter⟩
  rcases (mapM_returns (entityUnit basis) _).mpr fun entity hmem =>
    entityUnit_returns (hentity entity hmem) with ⟨entities, hentities⟩
  rcases (mapM_returns (stateUnit casefold basis) _).mpr fun state hmem =>
    stateUnit_returns (hstate state hmem) hmem hresolves with ⟨states, hstates⟩
  rcases (mapM_returns (eventUnit basis) _).mpr fun event hmem =>
    eventUnit_returns (hevent event hmem) hmem hresolves with ⟨events, hevents⟩
  rcases (mapM_returns (relationUnit basis) _).mpr fun relation hmem =>
    relationUnit_returns (hrelation relation hmem) hmem hresolves with ⟨relations, hrelations⟩
  rcases (mapM_returns (obligationUnit basis) _).mpr fun obligation hmem =>
    obligationUnit_returns (hobligation obligation hmem) hmem hresolves with
    ⟨obligations, hobligations⟩
  rcases (mapM_returns (planUnits basis) _).mpr fun plan hmem =>
    planUnits_returns (hplan plan (Option.mem_toList.mp hmem)).1
      (hplan plan (Option.mem_toList.mp hmem)).2 with ⟨planned, hplanned⟩
  rcases (mapM_returns (preludeUnits basis) _).mpr fun prelude hmem =>
    chapterUnits_returns (hprelude prelude (Option.mem_toList.mp hmem)).1
      (hprelude prelude (Option.mem_toList.mp hmem)).2.1
      (hprelude prelude (Option.mem_toList.mp hmem)).2.2 with ⟨preludes, hpreludes⟩
  rcases (mapM_returns (fun chapter : ChapterDocument =>
    chapterUnits basis chapter.chapterId chapter.chapterIndex (chapterText chapter)
      (blocksIn chapter.scenes)) _).mpr fun chapter hmem =>
    chapterUnits_returns (hchapter chapter hmem).1 (hchapter chapter hmem).2.1
      (hchapter chapter hmem).2.2 with ⟨chapters, hchapters⟩
  have hcollected := collected_projects hentities hstates hevents hrelations hobligations hplanned
    hpreludes hchapters
  simp only [build, hentities, hstates, hevents, hrelations, hobligations, hplanned, hpreludes,
    hchapters, bind, Except.bind]
  rw [← projects_nodup hcollected]
  constructor
  · intro hnodup
    exact ⟨_, if_neg (not_not.mpr hnodup)⟩
  · intro hnodup
    exact if_pos hnodup

end Returns

/-- What is built has one unit for each source, under distinct identities. A basis that
    resolves and fits is projected when its names are distinct, and refused otherwise. -/
theorem basis_projected (casefold : String → String) (basis : Basis) :
    (∀ units, build casefold basis = .ok units →
      List.Forall₂ Projects (sources basis) units ∧ (units.map RetrievalUnit.unitId).Nodup) ∧
    (Resolves basis → (∀ source ∈ sources basis, source.Fits basis) →
      (((sources basis).map Source.name).Nodup → ∃ units, build casefold basis = .ok units) ∧
      (¬ ((sources basis).map Source.name).Nodup →
        build casefold basis = .error "anchor build produced duplicate retrieval unit ids")) :=
  ⟨fun _ => build_eq_ok, build_fits⟩

namespace Sample

def heroWorld (stateId : StableId) : WorldRootDocument where
  rootHash := digest "world"
  schemaVersion := ⟨"1.0.0", .refl true⟩
  sourceCommit := digest "commit"
  records
    | .entity => [⟨⟨"hero", by decide⟩, ⟨"person", by decide⟩, ⟨"Ada", by decide⟩, [], []⟩]
    | .state => [⟨stateId, ⟨"hero", by decide⟩, ⟨"alive", by decide⟩, .bool true,
        ⟨⟨"main", main_ne⟩, none, none, none, .refl true⟩, [], .acceptedWorldFact⟩]
    | _ => []
  references := by
    rw [Collections.validateReferences_eq_none]
    simp [Collections.recordIds, Collections.referenced]

def titledBasis (stateId : StableId) : Basis where
  world := heroWorld stateId
  text := {
    rootHash := digest "text"
    schemaVersion := ⟨"1.0.0", .refl true⟩
    prelude := none
    chapters := [⟨⟨"chapter.1", .refl true⟩, 1, some "Arrival", [], le_rfl, by decide⟩]
    valid := by decide }
  plan := none
  snapshotId := ⟨"snapshot", .refl true⟩
  canonicalCommit := none

theorem titledBasis_resolves (stateId : StableId) : Resolves (titledBasis stateId) := by
  intro evidence hmem
  exact absurd hmem (by simp [worldEvidence, titledBasis, heroWorld])

theorem shared_identity_refused :
    Resolves (titledBasis ⟨"chapter.1", by decide⟩) ∧
      ¬ ∃ units, build id (titledBasis ⟨"chapter.1", by decide⟩) = .ok units := by
  refine ⟨titledBasis_resolves _, ?_⟩
  have hbuild : (build id (titledBasis ⟨"chapter.1", by decide⟩)).isOk = false := by decide +kernel
  rintro ⟨units, hunits⟩
  rw [hunits] at hbuild
  exact absurd hbuild (by simp [Except.isOk, Except.toBool])

/-- The type of an event is part of its text. -/
theorem eventText_ne_empty {basis : Basis} {event : Event}
    (hkind : Text.isBlank event.eventType.text = false) (h : eventText basis event = .ok text) :
    text ≠ "" := by
  simp only [eventText, Outcome.bind_eq_ok, Outcome.pure_eq_ok] at h
  obtain ⟨participants, _, snippets, _, rfl⟩ := h
  refine strip_ne_empty ?_
  simp only [Text.isBlank, String.toList_append, all_append, Bool.and_eq_true, not_and]
  rw [Text.isBlank] at hkind
  simp [hkind]

def opening : TextBlock :=
  ⟨⟨"block.0", .refl true⟩, ⟨"prelude", .refl true⟩, some ⟨"scene.0", .refl true⟩, 0, "Ada slept."⟩

def finding : TextBlock :=
  ⟨⟨"block.1", .refl true⟩, ⟨"chapter.1", .refl true⟩, some ⟨"scene.1", .refl true⟩, 1,
    "Ada and Ben found the ring."⟩

def story : TextRootDocument where
  rootHash := digest "text"
  schemaVersion := ⟨"1.0.0", .refl true⟩
  prelude := some ⟨⟨"prelude", .refl true⟩, none,
    [⟨⟨"scene.0", .refl true⟩, 0, none, [opening], by decide⟩], by decide⟩
  chapters := [⟨⟨"chapter.1", .refl true⟩, 1, some "Arrival",
    [⟨⟨"scene.1", .refl true⟩, 0, none, [finding], by decide⟩], le_rfl, by decide⟩]
  valid := by decide

/-- The first seven characters of the chapter. -/
def cited : EvidenceRef where
  evidenceId := ⟨"evidence.1", .refl true⟩
  rootHash := digest "text"
  objectHash := digest finding.text
  chapterId := some finding.chapterId
  sceneId := finding.sceneId
  span := some ⟨finding.blockId, .unicodeCodepoint, 0, 7, by decide⟩
  quoteHash := some (digest (finding.quote ⟨finding.blockId, .unicodeCodepoint, 0, 7, by decide⟩))
  supportStatus := .current
  resolvedAtCommit := digest "commit"

def always : StoryTime := ⟨⟨"main", main_ne⟩, none, none, none, .refl true⟩

def storyWorld : WorldRootDocument where
  rootHash := digest "world"
  schemaVersion := ⟨"1.0.0", .refl true⟩
  sourceCommit := digest "commit"
  records
    | .entity => [⟨⟨"ada", .refl true⟩, ⟨"person", by decide⟩, ⟨"Ada", by decide⟩, [], []⟩,
        ⟨⟨"ben", .refl true⟩, ⟨"person", by decide⟩, ⟨"Ben", by decide⟩, [], []⟩]
    | .state => [⟨⟨"state.1", .refl true⟩, ⟨"ada", .refl true⟩, ⟨"alive", by decide⟩, .bool true,
        always, [cited], .acceptedWorldFact⟩]
    | .event => [⟨⟨"event.1", .refl true⟩, ⟨"discovery", by decide⟩,
        [⟨"ada", .refl true⟩, ⟨"ben", .refl true⟩], some always, none, [], [cited],
        .acceptedWorldFact⟩]
    | .relation => [⟨⟨"relation.1", .refl true⟩, ⟨"knows", by decide⟩, ⟨"ada", .refl true⟩,
        ⟨"ben", .refl true⟩, always, [cited], .acceptedWorldFact⟩]
    | .obligation => [⟨⟨"obligation.1", .refl true⟩, .promise, ⟨"To return.", by decide⟩, .open,
        [⟨"ada", .refl true⟩], none, [cited]⟩]
  references := by
    rw [Collections.validateReferences_eq_none]
    simp [Collections.recordIds, Collections.referenced]
    decide

/-- A node and its child; the goal of the chapter has the identity of the node. -/
def storyPlan : PlanRoot where
  nodes := [⟨⟨"arc", .refl true⟩, ⟨"arc", by decide⟩, ⟨"The ring", by decide⟩, "", none, []⟩,
    ⟨⟨"arc.1", .refl true⟩, ⟨"turn", by decide⟩, ⟨"The find", by decide⟩, "",
      some ⟨"arc", .refl true⟩, []⟩]
  chapterGoals := [⟨⟨"arc", .refl true⟩, ⟨1, Nat.le_refl 1⟩, ⟨"Find it.", by decide⟩, []⟩]
  uniqueNodes := by decide
  parents := by decide
  uniqueGoals := by decide
  rootHash := digest "plan"

def storyBasis : Basis where
  world := storyWorld
  text := story
  plan := some storyPlan
  snapshotId := ⟨"snapshot", .refl true⟩
  canonicalCommit := none

theorem storyBasis_resolves : Resolves storyBasis := by
  intro evidence hmem
  have hcited : evidence = cited := by
    simpa [worldEvidence, storyBasis, storyWorld] using hmem
  have hblock : storyBasis.text.block? finding.blockId = some finding := by decide
  refine ⟨finding.quote ⟨finding.blockId, .unicodeCodepoint, 0, 7, by decide⟩, ?_⟩
  simp only [hcited, resolveEvidenceText, cited, hblock]
  simp [finding]

theorem storyBasis_fits : ∀ source ∈ sources storyBasis, source.Fits storyBasis := by
  simp only [sources, forall_mem_append, forall_mem_map, forall_mem_flatMap,
    forall_mem_singleton, Source.Fits]
  refine ⟨by decide, by decide, ?_, by decide, by decide, by decide, by decide, by decide⟩
  intro event hmem
  rw [show storyBasis.world.records .event = [_] from rfl, mem_singleton] at hmem
  rw [hmem]
  exact ⟨by decide, fun text => eventText_ne_empty (by decide)⟩

/-- Every kind of record, a plan, a prelude and a chapter, all of them citing the text. -/
theorem basis_projected_sample :
    Resolves storyBasis ∧ (∀ source ∈ sources storyBasis, source.Fits storyBasis) ∧
      ∃ units, build id storyBasis = .ok units ∧
        List.Forall₂ Projects (sources storyBasis) units := by
  have hprojected := basis_projected id storyBasis
  have hnodup : ((sources storyBasis).map Source.name).Nodup := by decide +kernel
  obtain ⟨units, hunits⟩ := (hprojected.2 storyBasis_resolves storyBasis_fits).1 hnodup
  exact ⟨storyBasis_resolves, storyBasis_fits, units, hunits, (hprojected.1 units hunits).1⟩

end Sample

end NovelAgent.Pipeline
