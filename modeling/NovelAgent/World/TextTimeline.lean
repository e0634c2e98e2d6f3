import NovelAgent.Context.Items
import NovelAgent.Core.Outcome
import NovelAgent.Core.Run
import NovelAgent.World.Text

/-!
# The Timeline of a Text

How a text root grows: a prelude, chapters one after the other, and a prelude
that was left out at first.
-/

namespace NovelAgent.World

open Core Domain Context List

variable (root : TextRootCopy)

section Stored

def TextBlock.codec : Codec TextBlock :=
  (Codec.object
    (.required "block_id" stableIdCodec <|
      .required "chapter_id" stableIdCodec <|
      .required "narrative_index" .nat <|
      .optional "scene_id" (stableIdCodec.option stableId_ne_null) none <|
      .required "text" .string .nil)
    (by decide)).refine
  (fun block => (block.blockId, block.chapterId, block.narrativeIndex, block.sceneId, block.text,
    ()))
  (fun (blockId, chapterId, narrativeIndex, sceneId, text, _) =>
    some ⟨blockId, chapterId, sceneId, narrativeIndex, text⟩)
  fun _ => rfl

def SceneDocument.codec : Codec SceneDocument :=
  (Codec.object
    (.optional "blocks" (.list TextBlock.codec) [] <|
      .required "scene_id" stableIdCodec <|
      .required "scene_index" .nat <|
      .optional "title" (Codec.string.option Codec.string_ne_null) none .nil)
    (by decide)).refine
  (fun scene => (scene.blocks, scene.sceneId, scene.sceneIndex, scene.title, ()))
  (fun (blocks, sceneId, sceneIndex, title, _) =>
    if h : sceneValid sceneId blocks = true then some ⟨sceneId, sceneIndex, title, blocks, h⟩
    else none)
  fun scene => dif_pos scene.valid

def ChapterDocument.codec : Codec ChapterDocument :=
  (Codec.object
    (.required "chapter_id" stableIdCodec <|
      .required "chapter_index" .nat <|
      .optional "scenes" (.list SceneDocument.codec) [] <|
      .optional "title" (Codec.string.option Codec.string_ne_null) none .nil)
    (by decide)).refine
  (fun chapter => (chapter.chapterId, chapter.chapterIndex, chapter.scenes, chapter.title, ()))
  (fun (chapterId, chapterIndex, scenes, title, _) =>
    if h : 1 ≤ chapterIndex ∧ chapterValid chapterId scenes = true then
      some ⟨chapterId, chapterIndex, title, scenes, h.1, h.2⟩
    else none)
  fun chapter => dif_pos ⟨chapter.positive, chapter.valid⟩

def PreludeDocument.codec : Codec PreludeDocument :=
  (Codec.object
    (.required "prelude_id" stableIdCodec <|
      .required "scenes" (.list SceneDocument.codec) <|
      .optional "title" (Codec.string.option Codec.string_ne_null) none .nil)
    (by decide)).refine
  (fun prelude => (prelude.preludeId, prelude.scenes, prelude.title, ()))
  (fun (preludeId, scenes, title, _) =>
    if h : preludeValid preludeId scenes = true then some ⟨preludeId, title, scenes, h⟩ else none)
  fun prelude => dif_pos prelude.valid

/-- A text root as a copy with replaced fields leaves it: without its rules. -/
structure TextRootCopy where
  rootHash : ArtifactId
  schemaVersion : SchemaVersion
  prelude : Option PreludeDocument
  chapters : List ChapterDocument

def TextRootCopy.codec : Codec TextRootCopy :=
  (Codec.object
    (.required "chapters" (.list ChapterDocument.codec) <|
      .optional "prelude" (PreludeDocument.codec.option fun _ => nofun) none <|
      .required "root_hash" contentHashCodec <|
      .required "schema_version" schemaVersionCodec .nil)
    (by decide)).refine
  (fun root => (root.chapters, root.prelude, root.rootHash, root.schemaVersion, ()))
  (fun (chapters, prelude, rootHash, schemaVersion, _) =>
    some ⟨rootHash, schemaVersion, prelude, chapters⟩)
  fun _ => rfl

/-- A validated text root, without what says that it is valid. -/
def TextRootDocument.copy (document : TextRootDocument) : TextRootCopy :=
  ⟨document.rootHash, document.schemaVersion, document.prelude, document.chapters⟩

/-- The stored form of a text root, and its validation. -/
def TextRootDocument.codec : Codec TextRootDocument :=
  TextRootCopy.codec.refine TextRootDocument.copy
    (fun root =>
      if h : textValid root.prelude root.chapters = true then
        some ⟨root.rootHash, root.schemaVersion, root.prelude, root.chapters, h⟩
      else none)
    fun document => dif_pos document.valid

def TextRootCopy.blockIds (root : TextRootCopy) : List StableId :=
  (blocksOf root.prelude root.chapters).map TextBlock.blockId

theorem load_dump :
    TextRootDocument.codec.load (TextRootCopy.codec.dump root) =
      if h : textValid root.prelude root.chapters = true then
        some ⟨root.rootHash, root.schemaVersion, root.prelude, root.chapters, h⟩
      else none := by
  unfold TextRootDocument.codec Codec.refine
  simp only [Codec.load_dump, Option.bind_some]

theorem load_dump_iff :
    (∃ document, TextRootDocument.codec.load (TextRootCopy.codec.dump root) = some document ∧
      document.copy = root) ↔ textValid root.prelude root.chapters = true := by
  rw [load_dump]
  constructor
  · intro h
    rcases h with ⟨document, hdocument, _⟩
    by_cases hvalid : textValid root.prelude root.chapters = true
    · exact hvalid
    · rw [dif_neg hvalid] at hdocument
      cases hdocument
  · intro hvalid
    exact ⟨_, dif_pos hvalid, rfl⟩

end Stored

section Operations

/-- What an operation may raise. -/
inductive TextTimelineError
  | timeline (message : String)

/-- What an operation did. -/
structure TextRootAdvanceReceipt where
  receiptId : StableId
  sourceId : StableId
  narrativeIndex : Nat
  previousTextRoot : ArtifactId
  resultingTextRoot : ArtifactId
  documentHash : ArtifactId

/-- What can be appended. -/
inductive TimelineDocument
  | prelude (document : PreludeDocument)
  | chapter (document : ChapterDocument)

def TimelineDocument.dump : TimelineDocument → JsonValue
  | .prelude document => PreludeDocument.codec.dump document
  | .chapter document => ChapterDocument.codec.dump document

def TimelineDocument.blockIds : TimelineDocument → List StableId
  | .prelude document => (document.scenes.flatMap SceneDocument.blocks).map TextBlock.blockId
  | .chapter document => (document.scenes.flatMap SceneDocument.blocks).map TextBlock.blockId

/-- `ArtifactId("sha256:" + "0" * 64)` -/
def zeroHash : ArtifactId where
  root := "sha256:" ++ String.ofList (List.replicate 64 '0')
  valid := .refl true

/-- `text_root_content_id` -/
def textRootContentId (root : TextRootCopy) : ArtifactId :=
  digest ((TextRootCopy.codec.dump root).without ["root_hash"]).render

def addressed (provisional : TextRootCopy) : TextRootCopy :=
  { provisional with rootHash := textRootContentId provisional }

/-- `SequentialTextRootService.empty` -/
def SequentialTextRootService.empty (schemaVersion : SchemaVersion) : TextRootCopy :=
  addressed ⟨zeroHash, schemaVersion, none, []⟩

/-- The receipt of an advance. What its identity is hashed from names the
    operation, where that is not an append. -/
def advanceReceipt (head : String) (hhead : isStableId head = true)
    (hfit : head.toList.length + 2 * 12 ≤ 128) (operation : List (String × JsonValue))
    (sourceId : StableId) (narrativeIndex : Nat) (previous resulting documentHash : ArtifactId) :
    TextRootAdvanceReceipt where
  receiptId :=
    let payload := JsonValue.object <|
      [("document_hash", .string documentHash.root), ("narrative_index", .int narrativeIndex)] ++
        operation ++
        [("previous_text_root", .string previous.root),
          ("resulting_text_root", .string resulting.root), ("source_id", .string sourceId.root)]
    { root := head ++ (HexToken.ofDigest 12 HexToken.twelve_le payload.render).text
      valid := isStableId_append_token head _ hhead hfit }
  sourceId := sourceId
  narrativeIndex := narrativeIndex
  previousTextRoot := previous
  resultingTextRoot := resulting
  documentHash := documentHash

/-- The number that the next chapter has to bear. -/
def TextRootCopy.expectedIndex (root : TextRootCopy) : Nat :=
  root.chapters.getLast?.elim 1 fun chapter => chapter.chapterIndex + 1

/-- The root with a document, before it has its address. -/
def provisionalAppend (current : TextRootCopy) :
    TimelineDocument → Except TextTimelineError (TextRootCopy × Nat)
  | .prelude document =>
    if current.prelude.isSome ∨ current.chapters ≠ [] then
      .error (.timeline "Prelude can only be appended to an empty TextRoot")
    else .ok ({ current with rootHash := zeroHash, prelude := some document }, 0)
  | .chapter document =>
    if document.chapterIndex ≠ current.expectedIndex then
      .error (.timeline ("chapter append must be continuous: expected " ++
        toString current.expectedIndex ++ ", received " ++ toString document.chapterIndex))
    else
      .ok ({ current with rootHash := zeroHash, chapters := current.chapters ++ [document] },
        document.chapterIndex)

/-- `SequentialTextRootService.append` -/
def SequentialTextRootService.append (current : TextRootCopy) (sourceId : StableId) (document : TimelineDocument) :
    Except TextTimelineError (TextRootCopy × TextRootAdvanceReceipt) := do
  let (provisional, narrativeIndex) ← provisionalAppend current document
  let resulting := addressed provisional
  pure (resulting, advanceReceipt "text-root-advance." (by decide) (by decide) [] sourceId
    narrativeIndex current.rootHash resulting.rootHash (digest document.dump.render))

/-- `SequentialTextRootService.backfill_missing_prelude` -/
def SequentialTextRootService.backfillMissingPrelude (current : TextRootCopy)
    (sourceId : StableId) (prelude : PreludeDocument) :
    Except TextTimelineError (TextRootCopy × TextRootAdvanceReceipt) :=
  if current.prelude.isSome then
    .error (.timeline "Prelude backfill requires a missing prelude")
  else if current.chapters = [] then
    .error (.timeline "Prelude backfill requires an existing chapter history")
  else
    let resulting := addressed { current with rootHash := zeroHash, prelude := some prelude }
    .ok (resulting, advanceReceipt "text-root-backfill." (by decide) (by decide)
      [("operation", .string "backfill_missing_prelude")] sourceId 0 current.rootHash
      resulting.rootHash (digest (PreludeDocument.codec.dump prelude).render))

/-- The operations. -/
inductive TimelineOperation
  | append (sourceId : StableId) (document : TimelineDocument)
  | backfill (sourceId : StableId) (prelude : PreludeDocument)

def TimelineOperation.document : TimelineOperation → TimelineDocument
  | .append _ document => document
  | .backfill _ prelude => .prelude prelude

def TimelineOperation.perform (current : TextRootCopy) :
    TimelineOperation → Except TextTimelineError (TextRootCopy × TextRootAdvanceReceipt)
  | .append sourceId document => SequentialTextRootService.append current sourceId document
  | .backfill sourceId prelude =>
    SequentialTextRootService.backfillMissingPrelude current sourceId prelude

end Operations

section Steps

variable {current resulting : TextRootCopy} {operation : TimelineOperation}
  {receipt : TextRootAdvanceReceipt}

/-- What an operation does that is not refused: its receipt leads from the old
    root to the new one, and the root gets a prelude or its next chapter. -/
theorem perform_eq_ok (h : operation.perform current = .ok (resulting, receipt)) :
    (receipt.previousTextRoot = current.rootHash ∧
      receipt.resultingTextRoot = resulting.rootHash) ∧
    ((∃ prelude, operation.document = .prelude prelude ∧ current.prelude = none ∧
        resulting.prelude = some prelude ∧ resulting.chapters = current.chapters) ∨
      ∃ chapter, operation.document = .chapter chapter ∧
        chapter.chapterIndex = current.expectedIndex ∧ resulting.prelude = current.prelude ∧
        resulting.chapters = current.chapters ++ [chapter]) := by
  cases operation with
  | append sourceId document =>
    simp only [TimelineOperation.perform, SequentialTextRootService.append,
      Outcome.bind_eq_ok, Outcome.pure_eq_ok, Prod.exists, Prod.mk.injEq] at h
    rcases h with ⟨provisional, narrativeIndex, hprovisional, hresulting, hreceipt⟩
    refine ⟨⟨by rw [← hreceipt]; rfl, by rw [← hreceipt, ← hresulting]; rfl⟩, ?_⟩
    cases document with
    | prelude prelude =>
      left
      simp only [provisionalAppend] at hprovisional
      by_cases hrefused : current.prelude.isSome ∨ current.chapters ≠ []
      · rw [if_pos hrefused] at hprovisional
        cases hprovisional
      · rw [if_neg hrefused, Except.ok.injEq, Prod.mk.injEq] at hprovisional
        rw [not_or, Bool.not_eq_true, Option.isSome_eq_false_iff, Option.isNone_iff_eq_none]
          at hrefused
        rw [← hresulting, ← hprovisional.1]
        exact ⟨prelude, rfl, hrefused.1, rfl, rfl⟩
    | chapter chapter =>
      right
      simp only [provisionalAppend] at hprovisional
      by_cases hrefused : chapter.chapterIndex ≠ current.expectedIndex
      · rw [if_pos hrefused] at hprovisional
        cases hprovisional
      · rw [if_neg hrefused, Except.ok.injEq, Prod.mk.injEq] at hprovisional
        rw [← hresulting, ← hprovisional.1]
        exact ⟨chapter, rfl, not_not.mp hrefused, rfl, rfl⟩
  | backfill sourceId prelude =>
    simp only [TimelineOperation.perform, SequentialTextRootService.backfillMissingPrelude] at h
    by_cases hprelude : current.prelude.isSome = true
    · rw [if_pos hprelude] at h
      cases h
    · rw [if_neg hprelude] at h
      by_cases hchapters : current.chapters = []
      · rw [if_pos hchapters] at h
        cases h
      · rw [if_neg hchapters, Except.ok.injEq, Prod.mk.injEq] at h
        rw [Bool.not_eq_true, Option.isSome_eq_false_iff, Option.isNone_iff_eq_none] at hprelude
        refine ⟨⟨by rw [← h.2]; rfl, by rw [← h.2, ← h.1]; rfl⟩, Or.inl ?_⟩
        rw [← h.1]
        exact ⟨prelude, rfl, hprelude, rfl, rfl⟩

/-- What is there before an operation is there after it. -/
def KeepsDocuments (before after : TextRootCopy) : Prop :=
  (∀ prelude, before.prelude = some prelude → after.prelude = some prelude) ∧
    before.chapters <+: after.chapters

theorem KeepsDocuments.refl : KeepsDocuments root root :=
  ⟨fun _ h => h, prefix_refl _⟩

theorem perform_keeps (h : operation.perform current = .ok (resulting, receipt)) :
    KeepsDocuments current resulting := by
  rcases (perform_eq_ok h).2 with ⟨prelude, _, hnone, _, hchapters⟩ |
    ⟨chapter, _, _, hprelude, hchapters⟩
  · refine ⟨fun other hother => ?_, by simp only [hchapters, prefix_refl]⟩
    rw [hnone] at hother
    cases hother
  · refine ⟨fun other hother => by rw [hprelude, hother], ?_⟩
    rw [hchapters]
    exact prefix_append _ _

/-- The chapters bear the numbers from one on. -/
def Numbered (root : TextRootCopy) : Prop :=
  root.chapters.map ChapterDocument.chapterIndex = List.range' 1 root.chapters.length

theorem Numbered.expectedIndex (h : Numbered current) :
    current.expectedIndex = current.chapters.length + 1 := by
  unfold Numbered at h
  unfold TextRootCopy.expectedIndex
  -- the last chapter bears the number of chapters
  cases hlast : current.chapters.getLast? with
  | none =>
    rw [List.getLast?_eq_none_iff] at hlast
    rw [hlast]
    rfl
  | some chapter =>
    have hindex := congrArg List.getLast? h
    rw [List.getLast?_map, hlast, List.getLast?_range'] at hindex
    by_cases hempty : current.chapters.length = 0
    · rw [if_pos hempty] at hindex
      cases hindex
    · rw [if_neg hempty, Option.map_some, Option.some.injEq] at hindex
      rw [Option.elim_some, hindex]
      omega

theorem perform_numbered (h : operation.perform current = .ok (resulting, receipt))
    (hnumbered : Numbered current) : Numbered resulting := by
  rcases (perform_eq_ok h).2 with ⟨_, _, _, _, hchapters⟩ | ⟨chapter, _, hindex, _, hchapters⟩
  · unfold Numbered
    rw [hchapters]
    exact hnumbered
  · rw [hnumbered.expectedIndex] at hindex
    unfold Numbered at *
    rw [hchapters, map_append, hnumbered, length_append, length_singleton,
      List.range'_concat, map_singleton, hindex, Nat.mul_comm, Nat.mul_one, Nat.add_comm]

theorem perform_blockIds (h : operation.perform current = .ok (resulting, receipt)) :
    resulting.blockIds.Perm (current.blockIds ++ operation.document.blockIds) := by
  unfold TextRootCopy.blockIds blocksOf
  rcases (perform_eq_ok h).2 with ⟨prelude, hdocument, hnone, hsome, hchapters⟩ |
    ⟨chapter, hdocument, _, hprelude, hchapters⟩
  · rw [hdocument, hnone, hsome, hchapters]
    simp only [Option.elim_some, Option.elim_none, nil_append, flatMap_append,
      map_append, TimelineDocument.blockIds]
    exact perm_append_comm
  · rw [hdocument, hprelude, hchapters]
    simp only [flatMap_append, flatMap_singleton, map_append,
      TimelineDocument.blockIds, append_assoc]
    exact Perm.refl _

/-- The roots of a text whose chapters are numbered are valid if no block occurs twice. -/
theorem Numbered.textValid_iff (h : Numbered current) :
    textValid current.prelude current.chapters = true ↔ current.blockIds.Nodup := by
  have hindexes : (current.chapters.map ChapterDocument.chapterIndex).Pairwise (· < ·) := by
    rw [h]
    exact pairwise_lt_range'
  unfold textValid TextRootCopy.blockIds
  rw [Bool.and_eq_true, decide_eq_true_eq, decide_eq_true_eq]
  exact and_iff_right hindexes

end Steps

section Runs

/-- A root with the receipts of how it came to be. -/
structure Timeline where
  root : TextRootCopy
  receipts : List TextRootAdvanceReceipt

namespace Timeline

/-- Perform an operation. One that raises changes nothing. -/
def step (timeline : Timeline) (operation : TimelineOperation) : Timeline :=
  match operation.perform timeline.root with
  | .ok (resulting, receipt) => ⟨resulting, timeline.receipts ++ [receipt]⟩
  | .error _ => timeline

/-- Before any operation. -/
def start (schemaVersion : SchemaVersion) : Timeline :=
  ⟨SequentialTextRootService.empty schemaVersion, []⟩

/-- The receipts lead from one address to another. -/
def ChainedFrom (hash : ArtifactId) : List TextRootAdvanceReceipt → ArtifactId → Prop
  | [], last => hash = last
  | receipt :: rest, last =>
    receipt.previousTextRoot = hash ∧ ChainedFrom receipt.resultingTextRoot rest last

theorem ChainedFrom.append {receipts : List TextRootAdvanceReceipt} {hash last : ArtifactId}
    (h : ChainedFrom hash receipts last) {receipt : TextRootAdvanceReceipt}
    (hprevious : receipt.previousTextRoot = last) :
    ChainedFrom hash (receipts ++ [receipt]) receipt.resultingTextRoot := by
  induction receipts generalizing hash with
  | nil =>
    unfold ChainedFrom at h
    exact ⟨by rw [hprevious, h], rfl⟩
  | cons first rest ih => exact ⟨h.1, ih h.2⟩

/-- What an operation adds is not there yet. -/
def Fresh (timeline : Timeline) (operation : TimelineOperation) : Prop :=
  (operation.perform timeline.root).isOk = true →
    (timeline.root.blockIds ++ operation.document.blockIds).Nodup

variable {schemaVersion : SchemaVersion} (operations : List TimelineOperation)

variable (timeline : Timeline)

theorem step_keeps (operation : TimelineOperation) :
    KeepsDocuments timeline.root (step timeline operation).root := by
  unfold step
  cases h : operation.perform timeline.root with
  | error _ => exact KeepsDocuments.refl _
  | ok result => exact perform_keeps h

theorem run_numbered :
    Numbered (run step (start schemaVersion) operations).root := by
  refine run_invariant step (fun timeline => Numbered timeline.root) ?_
    (start schemaVersion) rfl operations
  intro timeline operation hnumbered
  unfold step
  cases h : operation.perform timeline.root with
  | error _ => exact hnumbered
  | ok result => exact perform_numbered h hnumbered

theorem run_chained :
    ChainedFrom (SequentialTextRootService.empty schemaVersion).rootHash
      (run step (start schemaVersion) operations).receipts
      (run step (start schemaVersion) operations).root.rootHash := by
  refine run_invariant step (fun timeline =>
    ChainedFrom (SequentialTextRootService.empty schemaVersion).rootHash timeline.receipts
      timeline.root.rootHash) ?_ (start schemaVersion) rfl operations
  intro timeline operation hchained
  unfold step
  cases h : operation.perform timeline.root with
  | error _ => exact hchained
  | ok result =>
    have hreceipt := (perform_eq_ok h).1
    simp only
    rw [← hreceipt.2]
    exact hchained.append hreceipt.1

theorem run_blockIds :
    timeline.root.blockIds.Subperm (run step timeline operations).root.blockIds := by
  refine run_invariant step (fun other => timeline.root.blockIds.Subperm other.root.blockIds) ?_ _
    (List.Subperm.refl _) operations
  intro other operation hblocks
  unfold step
  cases h : operation.perform other.root with
  | error _ => exact hblocks
  | ok result =>
    exact hblocks.trans ((sublist_append_left _ _).subperm.trans
      (perform_blockIds h).symm.subperm)

/-- No block of a root occurs twice exactly if every operation brought new ones,
    by induction on the operations from the first one on. -/
theorem run_nodup_iff (hnodup : timeline.root.blockIds.Nodup) :
    (run step timeline operations).root.blockIds.Nodup ↔
      Guarded step Fresh timeline operations := by
  induction operations generalizing timeline with
  | nil => exact iff_of_true hnodup trivial
  | cons operation rest ih =>
    rw [run_cons, Guarded]
    have hstep : (step timeline operation).root.blockIds.Nodup ↔ Fresh timeline operation := by
      unfold Fresh step
      cases h : operation.perform timeline.root with
      | error _ => exact iff_of_true hnodup fun hok => absurd hok Bool.false_ne_true
      | ok result =>
        simp only [Except.isOk, Except.toBool, forall_const]
        exact (perform_blockIds h).nodup_iff
    by_cases hfresh : Fresh timeline operation
    · rw [ih _ (hstep.mpr hfresh)]
      exact (and_iff_right hfresh).symm
    · refine iff_of_false ?_ fun h => hfresh h.1
      intro hlater
      rcases run_blockIds rest (step timeline operation) with ⟨blocks, hperm, hsublist⟩
      exact hfresh (hstep.mp (hperm.nodup_iff.mp (hlater.sublist hsublist)))

/-- In every run of the service the chapters are numbered from one on, the
    documents stay and the receipts form a chain. The root is valid, and loads
    from its stored form, exactly if every operation brought only new blocks. -/
theorem timeline_appendOnly (schemaVersion : SchemaVersion)
    (operations : List TimelineOperation) :
    let final := run step (start schemaVersion) operations
    (Numbered final.root ∧
      (∀ earlier operation later, operations = earlier ++ operation :: later →
        KeepsDocuments (run step (start schemaVersion) earlier).root
          (run step (start schemaVersion) (earlier ++ [operation])).root) ∧
      ChainedFrom (SequentialTextRootService.empty schemaVersion).rootHash final.receipts
        final.root.rootHash) ∧
    (textValid final.root.prelude final.root.chapters = true ↔
      Guarded step Fresh (start schemaVersion) operations) ∧
    ((∃ document, TextRootDocument.codec.load (TextRootCopy.codec.dump final.root) =
        some document ∧ document.copy = final.root) ↔
      Guarded step Fresh (start schemaVersion) operations) := by
  have hnumbered := @run_numbered schemaVersion operations
  have hvalid := hnumbered.textValid_iff.trans
    (run_nodup_iff operations (start schemaVersion) nodup_nil)
  refine ⟨⟨hnumbered, ?_, run_chained operations⟩, hvalid, (load_dump_iff _).trans hvalid⟩
  intro earlier operation later _
  rw [run_append]
  exact step_keeps _ operation

end Timeline

end Runs

namespace Sample

def timelineChapter (number : Nat) (hpositive : 1 ≤ number) : ChapterDocument where
  chapterId := ⟨"chapter.1", .refl true⟩
  chapterIndex := number
  title := none
  scenes := [{
    sceneId := ⟨"scene.1", .refl true⟩
    sceneIndex := 0
    title := none
    blocks := [⟨⟨"block.1", .refl true⟩, ⟨"chapter.1", .refl true⟩,
      some ⟨"scene.1", .refl true⟩, 0, "text"⟩]
    valid := by decide }]
  positive := hpositive
  valid := by decide

/-- Two chapters are appended, and the block of the second is called like that of the first. -/
def repeatedBlock : List TimelineOperation :=
  [.append ⟨"source.1", by decide⟩ (.chapter (timelineChapter 1 Nat.one_pos)),
    .append ⟨"source.2", by decide⟩ (.chapter (timelineChapter 2 Nat.two_pos))]

end Sample

open Sample

/-- Both chapters are accepted, and the root that holds them does not load. -/
theorem repeatedBlock_not_valid :
    let final := run Timeline.step (Timeline.start ⟨"1.0.0", by decide⟩) repeatedBlock
    final.receipts.length = 2 ∧ textValid final.root.prelude final.root.chapters = false ∧
      TextRootDocument.codec.load (TextRootCopy.codec.dump final.root) = none := by
  intro final
  have hprelude : final.root.prelude = none := rfl
  have hchapters : final.root.chapters =
      [timelineChapter 1 (by decide), timelineChapter 2 (by decide)] := rfl
  have hinvalid : textValid final.root.prelude final.root.chapters = false := by
    rw [hprelude, hchapters]
    decide
  refine ⟨rfl, hinvalid, ?_⟩
  rw [load_dump]
  exact dif_neg (by rw [hinvalid]; exact Bool.false_ne_true)

end NovelAgent.World
