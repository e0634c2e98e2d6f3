import NovelAgent.Core.SimplePaths
import NovelAgent.World.Text

/-!
# R1 Rows

The relational projection of a world: a row for each record of a commit, and
the entities it is about, each in a role.
-/

namespace NovelAgent.R1

open Core Domain World List

/-- A record of a commit. -/
structure R1RecordRow where
  rowId : String
  projectId : String
  sourceCommit : String
  recordKind : String
  recordId : String
  predicate : Option String
  validStart : Option Int
  validEnd : Option Int
  worldline : Option String
  narrativeStart : Option Int
  narrativeEnd : Option Int
  accessScope : String
  truthClass : Option String
  recordJson : JsonValue
deriving DecidableEq

/-- The part an entity has in a record. -/
structure R1RecordEntityRow where
  rowId : String
  entityId : String
  role : String
deriving DecidableEq

/-- The two tables with their keys, in the order in which they are read. -/
structure R1Tables where
  records : List R1RecordRow
  associations : List R1RecordEntityRow
  primaryKey : (records.map R1RecordRow.rowId).Nodup
  uniqueKey : associations.Nodup

/-- Set the value of a key in a dictionary. -/
def assign (roles : List (String × String)) (role entityId : String) : List (String × String) :=
  if role ∈ roles.map Prod.fst then
    roles.map fun entry => if entry.1 = role then (role, entityId) else entry
  else roles ++ [(role, entityId)]

variable (roles : List (String × String)) (role entityId role' : String)

theorem lookup_overwrite :
    (roles.map fun entry => if entry.1 = role then (role, entityId) else entry).lookup role' =
      (roles.lookup role').map fun old => if role' = role then entityId else old := by
  induction roles with
  | nil => rfl
  | cons entry roles ih =>
    obtain ⟨key, value⟩ := entry
    by_cases hkey : role' = key
    · subst hkey
      by_cases hrole : role' = role
      · subst hrole
        simp
      · simp [hrole]
    · have hfalse : (role' == key) = false := by simpa using hkey
      by_cases hrole : key = role
      · subst hrole
        simp only [map_cons, if_true, lookup_cons, hfalse]
        exact ih
      · simp only [map_cons, if_neg hrole, lookup_cons, hfalse]
        exact ih

theorem lookup_assign :
    (assign roles role entityId).lookup role' =
      if role' = role then some entityId else roles.lookup role' := by
  unfold assign
  by_cases hmem : role ∈ roles.map Prod.fst
  · rw [if_pos hmem, lookup_overwrite]
    by_cases hrole : role' = role
    · obtain ⟨entry, hentry, heq⟩ := mem_map.mp hmem
      have hfound : (roles.lookup role').isSome = true := by
        rw [lookup_isSome_iff]
        exact ⟨entry, hentry, by simp [hrole, heq]⟩
      obtain ⟨old, hold⟩ := Option.isSome_iff_exists.mp hfound
      rw [hold, Option.map_some, if_pos hrole, if_pos hrole]
    · simp [hrole]
  · rw [if_neg hmem, lookup_append]
    by_cases hrole : role' = role
    · have hnone : roles.lookup role' = none := by
        rw [lookup_eq_none_iff]
        intro entry hentry
        rw [hrole]
        exact bne_iff_ne.mpr fun heq => hmem (heq ▸ mem_map_of_mem hentry)
      rw [hnone, if_pos hrole, hrole]
      simp
    · have hfalse : (role' == role) = false := by simpa using hrole
      simp [hrole, lookup_cons, hfalse]

/-- The entities of a row, by role. A role that is read twice keeps its last entity. -/
def endpoints (associations : List R1RecordEntityRow) (rowId : String) : List (String × String) :=
  (associations.filter fun association => association.rowId = rowId).foldl
    (fun roles association => assign roles association.role association.entityId) []

/-- The evidence of a payload. What is not an object is passed over. -/
def evidenceRefs (payload : JsonValue) : Except String (List EvidenceRef) :=
  match payload.get? "evidence_refs" with
  | some (.array items) =>
    (items.filter fun item => item.fields?.isSome).mapM fun item =>
      match EvidenceRef.codec.load item with
      | some evidence => .ok evidence
      | none => .error "evidence reference does not validate"
  | _ => .ok []

theorem evidenceRefs_dump {payload : JsonValue} {refs : List EvidenceRef}
    (h : payload.get? "evidence_refs" = some (EvidenceRef.codec.list.dump refs)) :
    evidenceRefs payload = .ok refs := by
  have hobject : ∀ evidence : EvidenceRef, (EvidenceRef.codec.dump evidence).fields?.isSome = true :=
    fun _ => rfl
  have hall : (refs.map EvidenceRef.codec.dump).filter (fun item => item.fields?.isSome) =
      refs.map EvidenceRef.codec.dump := by
    rw [filter_eq_self]
    intro item hitem
    obtain ⟨evidence, -, rfl⟩ := mem_map.mp hitem
    exact hobject evidence
  unfold evidenceRefs
  rw [h]
  simp only [Codec.list, hall, Outcome.mapM_linked, forall₂_map_left_iff, Codec.load_dump,
    Except.ok.injEq]
  exact forall₂_same.mpr fun _ _ => rfl

/-- How a path takes an edge. -/
inductive Direction
  | forward
  | reverse
deriving DecidableEq

def Direction.value : Direction → String
  | .forward => "forward"
  | .reverse => "reverse"

/-- How far a path was checked. -/
inductive GraphPathDereferenceStatus
  | relationRowsVerified
  | l0Verified

/-- What a path receipt says. -/
structure GraphPathFields where
  pathId : StableId
  sourceCommit : CommitId
  snapshotId : StableId
  seedEntityIds : List StableId
  relationRowIds : List StableId
  relationIds : List StableId
  entityPath : List StableId
  predicates : List String
  directions : List Direction
  validTime : List StoryTime
  edgeSemantics : List String
  evidenceRefs : List EvidenceRef
  dereferenceStatus : GraphPathDereferenceStatus

/-- The first rule of a receipt that its fields break. A direction that is neither forward nor
    reverse is excluded by the type. -/
def GraphPathFields.violation (receipt : GraphPathFields) : Option String :=
  let edgeCount := receipt.relationIds.length
  if receipt.seedEntityIds = [] ∨ receipt.relationRowIds = [] ∨ receipt.relationIds = [] ∨
      receipt.entityPath.length < 2 ∨ receipt.predicates = [] ∨ receipt.directions = [] ∨
      receipt.validTime = [] ∨ receipt.edgeSemantics = [] ∨ receipt.evidenceRefs = [] then
    some "Tuple should have more items after validation"
  else if ¬ (receipt.relationRowIds.length = edgeCount ∧ receipt.predicates.length = edgeCount ∧
      receipt.directions.length = edgeCount ∧ receipt.validTime.length = edgeCount ∧
      receipt.edgeSemantics.length = edgeCount) then
    some "graph path edge metadata lengths must match"
  else if receipt.entityPath.length ≠ edgeCount + 1 then
    some "graph path entity count must be edge count plus one"
  else if ¬ receipt.entityPath.head?.any (· ∈ receipt.seedEntityIds) then
    some "graph path must start at one of its declared seeds"
  else if receipt.edgeSemantics.any (· ≠ "canonical") then
    some "graph path receipt only permits canonical edge semantics"
  else none

/-- A path receipt: its fields keep the rules. -/
structure GraphPathReceipt extends GraphPathFields where
  shaped : toGraphPathFields.violation = none

def GraphPathReceipt.build (fields : GraphPathFields) : Except String GraphPathReceipt :=
  match h : fields.violation with
  | none => .ok ⟨fields, h⟩
  | some message => .error message

def pathParts (sourceCommit : CommitId) (snapshotId : StableId) (rowIds entityPath : List StableId)
    (directions : List Direction) : List String :=
  sourceCommit.root :: snapshotId.root ::
    (rowIds.map StableId.root ++ (entityPath.map StableId.root ++ directions.map Direction.value))

/-- What a path's identity is the hash of: its parts, with a NUL between them. -/
def pathPayload (sourceCommit : CommitId) (snapshotId : StableId)
    (rowIds entityPath : List StableId) (directions : List Direction) : String :=
  "\x00".intercalate (pathParts sourceCommit snapshotId rowIds entityPath directions)

/-- The hash of a text, in hexadecimal digits. -/
def hexToken (text : String) : HexToken 32 where
  text := Sha256.hexdigest text
  length_eq := Sha256.hexdigest_toList_length text
  isHex := Sha256.hexdigest_isHex text

/-- The identity of a path. -/
def graphPathId (sourceCommit : CommitId) (snapshotId : StableId)
    (rowIds entityPath : List StableId) (directions : List Direction) : StableId where
  root := "graph-path." ++
    (hexToken (pathPayload sourceCommit snapshotId rowIds entityPath directions)).text
  valid := isStableId_append_token _ _ (by decide) (by decide)

def commitSnapshot (sourceCommit : CommitId) : StableId where
  root := "snapshot.r1." ++ String.ofList (sourceCommit.root.toList.drop 7)
  valid := by
    have h := sourceCommit.valid
    simp only [isContentHash, Bool.and_eq_true, beq_iff_eq] at h
    exact isStableId_append_token "snapshot.r1."
      (⟨String.ofList (sourceCommit.root.toList.drop 7), by simpa using h.2, by simpa using h.1.2⟩ :
        HexToken 32) (by decide) (by decide)

theorem intercalate_inj {separator : Char} {parts parts' : List String}
    (hparts : ∀ part ∈ parts, separator ∉ part.toList)
    (hparts' : ∀ part ∈ parts', separator ∉ part.toList) (hne : parts ≠ []) (hne' : parts' ≠ [])
    (h : (String.singleton separator).intercalate parts =
      (String.singleton separator).intercalate parts') : parts = parts' := by
  have hsplit : ∀ {texts : List String}, (∀ text ∈ texts, separator ∉ text.toList) → texts ≠ [] →
      ((String.singleton separator).intercalate texts).toList.splitOn separator =
        texts.map String.toList := by
    intro texts htexts hnonempty
    rw [String.toList_intercalate, String.toList_singleton]
    refine splitOn_intercalate separator ?_ (by simpa using hnonempty)
    intro chars hchars
    obtain ⟨text, htext, rfl⟩ := mem_map.mp hchars
    exact htexts text htext
  have hlists := hsplit hparts hne
  rw [h, hsplit hparts' hne'] at hlists
  exact map_injective_iff.mpr (fun _ _ => String.toList_inj.mp) hlists.symm

theorem nul_not_mem_stableId (id : StableId) : '\x00' ∉ id.root.toList := by
  intro hmem
  have h := id.valid
  unfold isStableId at h
  cases hchars : id.root.toList with
  | nil =>
    rw [hchars] at hmem
    exact absurd hmem (by simp)
  | cons first rest =>
    rw [hchars] at h hmem
    simp only [isStableIdChars, Bool.and_eq_true, all_eq_true] at h
    rcases mem_cons.mp hmem with rfl | hmem
    · exact absurd h.1.1 (by decide)
    · exact absurd (h.1.2 _ hmem) (by decide)

theorem nul_not_mem_contentHash (hash : ContentHash) : '\x00' ∉ hash.root.toList := by
  intro hmem
  have h := hash.valid
  simp only [isContentHash, Bool.and_eq_true, beq_iff_eq, all_eq_true] at h
  rw [← take_append_drop 7 hash.root.toList, mem_append, h.1.1] at hmem
  rcases hmem with hmem | hmem
  · exact absurd hmem (by decide)
  · exact absurd (h.1.2 _ hmem) (by decide)

theorem nul_not_mem_pathParts {sourceCommit : CommitId} {snapshotId : StableId}
    {rowIds entityPath : List StableId} {directions : List Direction} :
    ∀ part ∈ pathParts sourceCommit snapshotId rowIds entityPath directions,
      '\x00' ∉ part.toList := by
  intro part hpart
  simp only [pathParts, mem_cons, mem_append, mem_map] at hpart
  rcases hpart with rfl | rfl | ⟨id, -, rfl⟩ | ⟨id, -, rfl⟩ | ⟨direction, -, rfl⟩
  · exact nul_not_mem_contentHash sourceCommit
  · exact nul_not_mem_stableId snapshotId
  · exact nul_not_mem_stableId id
  · exact nul_not_mem_stableId id
  · cases direction <;> decide

variable {sourceCommit sourceCommit' : CommitId} {snapshotId snapshotId' : StableId}
    {rowIds rowIds' entityPath entityPath' : List StableId}
    {directions directions' : List Direction}

/-- The payload determines the path: the parts come one by one, and their number says how many
    are rows. -/
theorem pathPayload_inj (hentities : entityPath.length = rowIds.length + 1)
    (hentities' : entityPath'.length = rowIds'.length + 1)
    (hdirections : directions.length = rowIds.length)
    (hdirections' : directions'.length = rowIds'.length)
    (h : pathPayload sourceCommit snapshotId rowIds entityPath directions =
      pathPayload sourceCommit' snapshotId' rowIds' entityPath' directions') :
    sourceCommit = sourceCommit' ∧ snapshotId = snapshotId' ∧ rowIds = rowIds' ∧
      entityPath = entityPath' ∧ directions = directions' := by
  have hparts : pathParts sourceCommit snapshotId rowIds entityPath directions =
      pathParts sourceCommit' snapshotId' rowIds' entityPath' directions' :=
    intercalate_inj nul_not_mem_pathParts nul_not_mem_pathParts (by simp [pathParts])
      (by simp [pathParts]) h
  simp only [pathParts, List.cons.injEq] at hparts
  obtain ⟨hcommit, hsnapshot, hrest⟩ := hparts
  have hlength := congrArg List.length hrest
  simp only [length_append, length_map] at hlength
  obtain ⟨hrows, hrest⟩ := append_inj hrest (by simp; omega)
  obtain ⟨hpath, hways⟩ := append_inj hrest (by simp; omega)
  refine ⟨?_, StableId.root_inj.mp hsnapshot, ?_, ?_, ?_⟩
  · cases sourceCommit
    cases sourceCommit'
    simpa using hcommit
  · exact map_injective_iff.mpr (fun _ _ => StableId.root_inj.mp) hrows
  · exact map_injective_iff.mpr (fun _ _ => StableId.root_inj.mp) hpath
  · exact map_injective_iff.mpr
      (fun way way' hway => by cases way <;> cases way' <;> simp_all [Direction.value]) hways

theorem hexdigest_of_graphPathId
    (h : graphPathId sourceCommit snapshotId rowIds entityPath directions =
      graphPathId sourceCommit' snapshotId' rowIds' entityPath' directions') :
    Sha256.hexdigest (pathPayload sourceCommit snapshotId rowIds entityPath directions) =
      Sha256.hexdigest (pathPayload sourceCommit' snapshotId' rowIds' entityPath' directions') := by
  have hroot := congrArg (fun id => id.root.toList) h
  simp only [graphPathId, hexToken, String.toList_append] at hroot
  exact String.toList_inj.mp (append_cancel_left hroot)

end NovelAgent.R1
