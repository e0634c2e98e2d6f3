import NovelAgent.World.Records

/-!
# Text and Evidence

The text of a project, and what it takes for a reference into it to hold.
-/

namespace NovelAgent.World

open Core Domain

/-- A block of text. -/
structure TextBlock where
  blockId : StableId
  chapterId : StableId
  sceneId : Option StableId
  narrativeIndex : Nat
  text : String
deriving DecidableEq

def sceneValid (sceneId : StableId) (blocks : List TextBlock) : Bool :=
  (blocks.map TextBlock.blockId).Nodup &&
    (blocks.all fun block => block.sceneId = some sceneId) &&
    (blocks.map TextBlock.narrativeIndex).Pairwise (· ≤ ·)

/-- A scene and its blocks. -/
structure SceneDocument where
  sceneId : StableId
  sceneIndex : Nat
  title : Option String
  blocks : List TextBlock
  valid : sceneValid sceneId blocks = true

def chapterValid (chapterId : StableId) (scenes : List SceneDocument) : Bool :=
  (scenes.map SceneDocument.sceneId).Nodup &&
    (scenes.all fun scene => scene.blocks.all fun block => block.chapterId = chapterId) &&
    (scenes.map SceneDocument.sceneIndex).Pairwise (· ≤ ·)

/-- A chapter and its scenes. -/
structure ChapterDocument where
  chapterId : StableId
  chapterIndex : Nat
  title : Option String
  scenes : List SceneDocument
  positive : 1 ≤ chapterIndex
  valid : chapterValid chapterId scenes = true

def preludeValid (preludeId : StableId) (scenes : List SceneDocument) : Bool :=
  (scenes.all fun scene => scene.blocks.all fun block => block.chapterId = preludeId) &&
    (scenes.map SceneDocument.sceneIndex).Pairwise (· < ·)

/-- What precedes the first chapter. -/
structure PreludeDocument where
  preludeId : StableId
  title : Option String
  scenes : List SceneDocument
  valid : preludeValid preludeId scenes = true

/-- The blocks of a prelude and chapters, in narrative order. -/
def blocksOf (prelude : Option PreludeDocument) (chapters : List ChapterDocument) :
    List TextBlock :=
  (prelude.elim [] PreludeDocument.scenes ++ chapters.flatMap ChapterDocument.scenes).flatMap
    SceneDocument.blocks

def textValid (prelude : Option PreludeDocument) (chapters : List ChapterDocument) : Bool :=
  (chapters.map ChapterDocument.chapterIndex).Pairwise (· < ·) &&
    ((blocksOf prelude chapters).map TextBlock.blockId).Nodup

/-- The text, block by block. -/
structure TextRootDocument where
  rootHash : ArtifactId
  schemaVersion : SchemaVersion
  prelude : Option PreludeDocument
  chapters : List ChapterDocument
  valid : textValid prelude chapters = true

namespace TextRootDocument

def blocks (root : TextRootDocument) : List TextBlock :=
  blocksOf root.prelude root.chapters

def block? (root : TextRootDocument) (blockId : StableId) : Option TextBlock :=
  root.blocks.find? fun block => block.blockId = blockId

def chapterIndex? (root : TextRootDocument) (chapterId : StableId) : Option Nat :=
  (root.chapters.findRev? fun chapter => chapter.chapterId = chapterId).map
    ChapterDocument.chapterIndex

end TextRootDocument

/-- The text of a span. -/
def TextBlock.quote (block : TextBlock) (span : TextSpanRef) : String :=
  String.ofList ((block.text.toList.drop span.start).take (span.stop - span.start))

/-- Check a reference against a text, with the reason why it does not hold. -/
def validateEvidenceRef (evidence : EvidenceRef) (root : TextRootDocument) : Except String Unit :=
  match evidence.span with
  | none => .error "gold evidence must resolve to its declared text root"
  | some span =>
    if evidence.rootHash ≠ root.rootHash then
      .error "gold evidence must resolve to its declared text root"
    else
      match root.block? span.blockId with
      | none => .error "gold evidence references a missing block"
      | some block =>
        if evidence.chapterId ≠ some block.chapterId ∨ evidence.sceneId ≠ block.sceneId then
          .error "gold evidence chapter or scene does not match its block"
        else if evidence.objectHash ≠ digest block.text then
          .error "gold evidence object hash does not match block text"
        else if block.text.toList.length < span.stop then
          .error "gold evidence codepoint span exceeds block length"
        else if evidence.quoteHash ≠ some (digest (block.quote span)) then
          .error "gold evidence quote hash mismatch"
        else .ok ()

end NovelAgent.World
