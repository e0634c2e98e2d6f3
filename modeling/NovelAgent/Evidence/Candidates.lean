import NovelAgent.Core.Occurrences
import NovelAgent.Core.Spans
import NovelAgent.Core.Splitting
import NovelAgent.Core.Text
import NovelAgent.World.Text

/-!
# Evidence Candidates

The catalogue of a chapter: spans of its text that a model may cite. A block is
cut into sentences, or into lines of dialogue where it has at most one
sentence. A piece that is too long is cut into windows that overlap, and spans
of white space are left out.
-/

namespace NovelAgent.Evidence

open Core Domain World

/-- What the service over candidates may raise. A failed validation counts as
    a `ValueError`, and no other error does. -/
inductive CandidateError
  | value (message : String)
  | validation (message : String)
  | lookup (message : String)
  | key (id : StableId)
  | assertion
deriving DecidableEq

namespace CandidateError

/-- The errors that `except ValueError` catches. -/
def IsValueError : CandidateError → Prop
  | .value _ => True
  | .validation _ => True
  | .lookup _ => False
  | .key _ => False
  | .assertion => False

instance : DecidablePred IsValueError := fun error => by
  cases error <;> unfold IsValueError <;> infer_instance

end CandidateError

/-- A span of a chapter that may be cited. -/
@[ext]
structure EvidenceCandidate where
  candidateId : StableId
  blockId : StableId
  chapterIndex : Nat
  sceneIndex : Nat
  text : String
  start : Nat
  stop : Nat
  contentHash : ArtifactId
  positive : 1 ≤ chapterIndex
  written : text ≠ ""
  ordered : start < stop

instance : DecidableEq EvidenceCandidate := fun _ _ => decidable_of_iff _ EvidenceCandidate.ext_iff.symm

def EvidenceCandidate.span (candidate : EvidenceCandidate) : Span :=
  ⟨candidate.start, candidate.stop⟩

def candidatePayload (blockId : StableId) (chapterIndex sceneIndex : Nat) (text : String)
    (start stop : Nat) : JsonValue :=
  .object [
    ("block_id", .string blockId.root),
    ("chapter_index", .int chapterIndex),
    ("end", .int stop),
    ("scene_index", .int sceneIndex),
    ("start", .int start),
    ("text", .string text)]

/-- The identity under a payload. -/
def candidateIdOf (payload : JsonValue) : StableId where
  root := "evidence-candidate." ++ (HexToken.ofDigest 12 HexToken.twelve_le payload.render).text
  valid := isStableId_append_token _ _ (by decide) (by decide)

/-- Make a candidate, unless its fields do not validate. -/
def makeCandidate (blockId : StableId) (chapterIndex sceneIndex : Nat) (text : String)
    (start stop : Nat) : Except CandidateError EvidenceCandidate :=
  let payload := candidatePayload blockId chapterIndex sceneIndex text start stop
  if hpositive : 1 ≤ chapterIndex then
    if hwritten : text ≠ "" then
      if hordered : start < stop then
        .ok {
          candidateId := candidateIdOf payload
          blockId, chapterIndex, sceneIndex, text, start, stop
          contentHash := digest payload.render
          positive := hpositive
          written := hwritten
          ordered := hordered }
      else .error (.validation "evidence candidate requires start < end")
    else .error (.validation "text")
  else .error (.validation "chapter_index")

/-- What the identity of a candidate should be hashed from. -/
def EvidenceCandidate.payload (candidate : EvidenceCandidate) : JsonValue :=
  candidatePayload candidate.blockId candidate.chapterIndex candidate.sceneIndex candidate.text
    candidate.start candidate.stop

/-- A candidate is hashed from its own fields. -/
structure EvidenceCandidate.Addressed (candidate : EvidenceCandidate) : Prop where
  candidateId_eq : candidate.candidateId = candidateIdOf candidate.payload
  contentHash_eq : candidate.contentHash = digest candidate.payload.render

section Made

variable {blockId : StableId} {chapterIndex sceneIndex start stop : Nat} {text : String}
  {candidate : EvidenceCandidate}

/-- What a candidate is made of. -/
theorem makeCandidate_fields
    (h : makeCandidate blockId chapterIndex sceneIndex text start stop = .ok candidate) :
    candidate.blockId = blockId ∧ candidate.chapterIndex = chapterIndex ∧
      candidate.sceneIndex = sceneIndex ∧ candidate.text = text ∧ candidate.start = start ∧
      candidate.stop = stop ∧ candidate.Addressed := by
  unfold makeCandidate at h
  simp only at h
  split at h
  · split at h
    · split at h
      · rw [← Except.ok.inj h]
        exact ⟨rfl, rfl, rfl, rfl, rfl, rfl, rfl, rfl⟩
      · cases h
    · cases h
  · cases h

/-- When one is made. -/
theorem makeCandidate_returns (hchapter : 1 ≤ chapterIndex) (htext : text ≠ "")
    (hspan : start < stop) :
    ∃ candidate, makeCandidate blockId chapterIndex sceneIndex text start stop = .ok candidate := by
  unfold makeCandidate
  simp only [hchapter, hspan, dif_pos, ne_eq, htext, not_false_eq_true]
  exact ⟨_, rfl⟩

end Made

/-- The bounds of a catalogue. Without the last one it covers the chapter. -/
structure EvidenceCandidateGenerator where
  maxChars : Nat
  targetMax : Nat
  maxChapter : Option Nat
  maxCharsPositive : 1 ≤ maxChars
  maxChapterPositive : ∀ cap ∈ maxChapter, 1 ≤ cap

def sentenceMarks : List Char := ['。', '！', '？', '!', '?', '；', ';']

/-- A sentence ends after its mark and the white space that follows. -/
def sentenceSplit : Splitter Char where
  blank := Text.isSpace
  cuts _ c := c ∈ sentenceMarks
  trims _ := true

/-- A line of dialogue ends with its closing mark. -/
def dialogueSplit : Splitter Char where
  blank := Text.isSpace
  cuts _ c := c ∈ ['”', '"', '』']
  trims _ := false

/-- The pieces of a text: its sentences, or its lines of dialogue. -/
def segment (text : List Char) : List (List Char) :=
  let sentences := (sentenceSplit.split text).filter fun part => part ≠ []
  let parts :=
    if sentences.length ≤ 1 then (dialogueSplit.split text).filter fun part => part ≠ []
    else sentences
  if parts = [] then [text] else parts

/-- Where the pieces of a text stand, each searched for behind the last one. -/
def locate (text : List Char) : Nat → List (List Char) → List Span
  | _, [] => []
  | cursor, part :: rest =>
    let start := (findFrom part text cursor).getD cursor
    ⟨start, start + part.length⟩ :: locate text (start + part.length) rest

/-- Windows over a text up to its end. The first argument bounds their number. -/
def windowsFrom (window step stop : Nat) : Nat → Nat → List Span
  | 0, _ => []
  | fuel + 1, pos =>
    if pos < stop then
      let upTo := min (pos + window) stop
      ⟨pos, upTo⟩ :: (if stop ≤ upTo then [] else windowsFrom window step stop fuel (pos + step))
    else []

namespace EvidenceCandidateGenerator

variable (generator : EvidenceCandidateGenerator)

/-- A span, cut into windows that overlap by half if it is too long. -/
def windowSpans (start stop : Nat) : List Span :=
  if stop - start ≤ generator.maxChars then [⟨start, stop⟩]
  else
    let window := min generator.targetMax generator.maxChars
    windowsFrom window (max 1 (window / 2)) stop (stop - start) start

/-- The spans of a text that are not white space. -/
def blockSpans (text : List Char) : List Span :=
  ((locate text 0 (segment text)).flatMap fun s =>
    generator.windowSpans s.start s.stop).filter fun s =>
      ¬ (slice text s.start s.stop).all Text.isSpace

/-- The candidates of a block. -/
def blockCandidates (blockId : StableId) (chapterIndex sceneIndex : Nat) (text : String) :
    Except CandidateError (List EvidenceCandidate) :=
  let chars := text.toList
  let make (s : Span) := makeCandidate blockId chapterIndex sceneIndex
    (String.ofList (slice chars s.start s.stop)) s.start s.stop
  if chars = [] then .ok []
  else do
    let candidates ← (generator.blockSpans chars).mapM make
    if candidates = [] ∧ ¬ chars.all Text.isSpace then
      (generator.windowSpans 0 chars.length).mapM make
    else pure candidates

/-- The candidates of the blocks of a chapter, up to the bound of the
    catalogue. A block comes with the position of its scene. -/
def collect (chapterIndex : Nat) : List EvidenceCandidate → List (Nat × TextBlock) →
    Except CandidateError (List EvidenceCandidate)
  | candidates, [] => .ok candidates
  | candidates, (sceneIndex, block) :: rest => do
      let more ← generator.blockCandidates block.blockId chapterIndex sceneIndex block.text
      let candidates := candidates ++ more
      match generator.maxChapter with
      | some cap =>
        if cap ≤ candidates.length then pure (candidates.take cap)
        else collect chapterIndex candidates rest
      | none => collect chapterIndex candidates rest

end EvidenceCandidateGenerator

/-- The blocks of some scenes, each with the position of its scene. -/
def numberedBlocks (scenes : List SceneDocument) : List (Nat × TextBlock) :=
  scenes.zipIdx.flatMap fun scene => scene.1.blocks.map fun block => (scene.2, block)

def chapterAt (root : TextRootDocument) (chapterIndex : Nat) :
    Except CandidateError ChapterDocument :=
  match root.chapters.find? fun chapter => chapter.chapterIndex = chapterIndex with
  | some chapter => .ok chapter
  | none => .error (.lookup ("chapter does not exist: " ++ toString chapterIndex))

def EvidenceCandidateGenerator.generate (generator : EvidenceCandidateGenerator)
    (root : TextRootDocument) (chapterIndex : Nat) :
    Except CandidateError (List EvidenceCandidate) := do
  let chapter ← chapterAt root chapterIndex
  generator.collect chapterIndex [] (numberedBlocks chapter.scenes)

end NovelAgent.Evidence
