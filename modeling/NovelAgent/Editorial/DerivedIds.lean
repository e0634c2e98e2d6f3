import NovelAgent.Editorial.RetryRequests

/-!
# Collisions of Derived Identities

When the identities of requests and of the requests derived from them are all
different, so that a ledger keyed by them keeps every call apart.
-/

namespace NovelAgent.Editorial

open Core Domain ModelCalls List

section Retries

theorem stableId_length (id : StableId) : id.root.toList.length ≤ 128 := by
  have hvalid : isStableIdChars id.root.toList = true := id.valid
  cases hchars : id.root.toList with
  | nil => simp
  | cons c rest =>
    rw [hchars] at hvalid
    simp only [isStableIdChars, Bool.and_eq_true, decide_eq_true_eq] at hvalid
    rw [length_cons]
    omega

variable {first second : StableId}

theorem toList_inj : first.root.toList = second.root.toList ↔ first = second := by
  rw [String.toList_inj, StableId.root_inj]

/-- Children with one suffix differ where their parents do, as far as the suffix
    leaves room for them. -/
theorem retryId_inj (suffix : RetrySuffix) (first second : StableId) :
    retryId suffix first = retryId suffix second ↔
      first.root.toList.take suffix.room = second.root.toList.take suffix.room := by
  rw [← toList_inj, retryId_toList, retryId_toList, append_cancel_right_eq]

theorem contractRetry_ne_noChangeRetry (first second : StableId) :
    retryId contractRetrySuffix first ≠ retryId noChangeRetrySuffix second := by
  intro heq
  rw [← toList_inj, retryId_toList, retryId_toList] at heq
  have hcontract : contractRetrySuffix.text.toList.reverse =
      ['1', 'y', 'r', 't', 'e', 'r', '-', 't'] ++ "cartnoc.".toList := by decide
  have hnoChange : noChangeRetrySuffix.text.toList.reverse =
      ['1', 'y', 'r', 't', 'e', 'r', '-', 'e'] ++ "gnahc-on.".toList := by decide
  -- the suffixes differ in the eighth character from their ends
  have hreverse := congrArg List.reverse heq
  rw [reverse_append, reverse_append, hcontract, hnoChange] at hreverse
  simp at hreverse

/-- A request is called like a child if its identity is as long as one may be
    and ends like a child, or if it is the identity of another with the suffix. -/
theorem retryId_mem_iff (suffix : RetrySuffix) {names : List StableId} {name : StableId}
    (hname : name ∈ names) : (∃ parent ∈ names, retryId suffix parent = name) ↔
      (name.root.toList.length = 128 ∧ suffix.text.toList <:+ name.root.toList) ∨
        ∃ parent ∈ names, name.root.toList = parent.root.toList ++ suffix.text.toList := by
  have hshort := suffix.short
  have hroom : suffix.room + suffix.text.toList.length = 128 := by
    unfold RetrySuffix.room
    omega
  constructor
  · intro h
    rcases h with ⟨parent, hparent, hchild⟩
    rw [← toList_inj, retryId_toList] at hchild
    by_cases hfits : parent.root.toList.length ≤ suffix.room
    · right
      rw [take_of_length_le hfits] at hchild
      exact ⟨parent, hparent, hchild.symm⟩
    · left
      have hlength : (parent.root.toList.take suffix.room).length = suffix.room := by
        rw [length_take]
        omega
      rw [← hchild]
      constructor
      · rw [length_append]
        omega
      · exact suffix_append _ _
  · intro h
    rcases h with ⟨hfull, hends⟩ | ⟨parent, hparent, hlonger⟩
    · -- such a request is its own child
      rcases hends with ⟨head, hhead⟩
      have hlength := congrArg List.length hhead
      rw [length_append] at hlength
      have hcut : head.length = suffix.room := by omega
      refine ⟨name, hname, ?_⟩
      rw [← toList_inj, retryId_toList, ← hhead, ← hcut, take_left]
    · have hlength := congrArg List.length hlonger
      have hbound := stableId_length name
      rw [length_append] at hlength
      refine ⟨parent, hparent, ?_⟩
      rw [← toList_inj, retryId_toList, take_of_length_le (by omega), hlonger]

/-- The identities of requests, of their retries after a refused answer, and of
    their retries after a repair without a change. -/
def editorIds (requests : List EditorRequest) : List StableId :=
  requests.map (fun request => request.requestId) ++
    requests.map (fun request => (editorContractRetryRequest request).requestId) ++
    requests.map fun request => (editorNoChangeRetryRequest request).requestId

/-- The requests differ before the cut of the longer suffix, no identity of full
    length ends in a suffix, and none is another with a suffix. -/
structure EditorNamesApart (requests : List EditorRequest) : Prop where
  heads : ∀ first ∈ requests, ∀ second ∈ requests, first.requestId ≠ second.requestId →
    first.requestId.root.toList.take 111 ≠ second.requestId.root.toList.take 111
  full : ∀ request ∈ requests, ∀ suffix ∈ [contractRetrySuffix, noChangeRetrySuffix],
    request.requestId.root.toList.length = 128 →
      ¬ suffix.text.toList <:+ request.requestId.root.toList
  longer : ∀ request ∈ requests, ∀ suffix ∈ [contractRetrySuffix, noChangeRetrySuffix],
    ∀ parent ∈ requests,
      request.requestId.root.toList ≠ parent.requestId.root.toList ++ suffix.text.toList

theorem retryId_apart_iff (suffix : RetrySuffix) (requests : List EditorRequest) :
    (∀ request ∈ requests, ∀ parent ∈ requests,
      request.requestId ≠ retryId suffix parent.requestId) ↔
    ∀ request ∈ requests,
      (request.requestId.root.toList.length = 128 →
        ¬ suffix.text.toList <:+ request.requestId.root.toList) ∧
      ∀ parent ∈ requests,
        request.requestId.root.toList ≠ parent.requestId.root.toList ++ suffix.text.toList := by
  refine forall₂_congr fun request hrequest => ?_
  have hmem : request.requestId ∈ requests.map fun request => request.requestId :=
    mem_map_of_mem hrequest
  have hiff := not_congr (retryId_mem_iff suffix hmem)
  simp only [mem_map, exists_exists_and_eq_and, not_or, not_and, not_exists] at hiff
  constructor
  · intro h
    exact hiff.mp fun parent hparent heq => h parent hparent heq.symm
  · intro h parent hparent heq
    exact hiff.mpr h parent hparent heq.symm

theorem take_contractRoom (h : first.root.toList.take 111 ≠ second.root.toList.take 111) :
    first.root.toList.take contractRetrySuffix.room ≠
      second.root.toList.take contractRetrySuffix.room := by
  intro heq
  have htake := congrArg (List.take 111) heq
  have hroom : min 111 contractRetrySuffix.room = 111 := by decide
  rw [take_take, take_take, hroom] at htake
  exact h htake

theorem editorIds_nodup_iff {requests : List EditorRequest}
    (hnames : (requests.map fun request => request.requestId).Nodup) :
    (editorIds requests).Nodup ↔ EditorNamesApart requests := by
  have hroom : noChangeRetrySuffix.room = 111 := by decide
  have hcontract := retryId_apart_iff contractRetrySuffix requests
  have hnoChange := retryId_apart_iff noChangeRetrySuffix requests
  unfold editorIds editorContractRetryRequest editorNoChangeRetryRequest
  constructor
  · intro h
    simp only [nodup_append, mem_append, forall_mem_map] at h
    rcases h with ⟨⟨_, _, happart⟩, hchildren, hlater⟩
    have hfirst := hcontract.mp fun request hrequest parent hparent =>
      happart request hrequest parent hparent
    have hsecond := hnoChange.mp fun request hrequest parent hparent =>
      hlater _ (Or.inl (mem_map_of_mem hrequest)) parent hparent
    refine ⟨?_, ?_, ?_⟩
    · intro first hfirst second hsecond hne heq
      have hpair := inj_on_of_nodup_map hchildren hfirst hsecond
        ((retryId_inj noChangeRetrySuffix _ _).mpr (by rw [hroom]; exact heq))
      exact hne (congrArg (fun request => request.requestId) hpair)
    · intro request hrequest suffix hsuffix
      rcases mem_pair.mp hsuffix with rfl | rfl
      · exact (hfirst request hrequest).1
      · exact (hsecond request hrequest).1
    · intro request hrequest suffix hsuffix
      rcases mem_pair.mp hsuffix with rfl | rfl
      · exact (hfirst request hrequest).2
      · exact (hsecond request hrequest).2
  · intro h
    have hfirst := hcontract.mpr fun request hrequest =>
      ⟨h.full request hrequest _ (by simp), h.longer request hrequest _ (by simp)⟩
    have hsecond := hnoChange.mpr fun request hrequest =>
      ⟨h.full request hrequest _ (by simp), h.longer request hrequest _ (by simp)⟩
    have hpairs : requests.Pairwise fun first second =>
        first.requestId ≠ second.requestId := pairwise_map.mp hnames
    have hheads : ∀ suffix : RetrySuffix, (∀ first second : StableId,
        first.root.toList.take 111 ≠ second.root.toList.take 111 →
          first.root.toList.take suffix.room ≠ second.root.toList.take suffix.room) →
        (requests.map fun request => retryId suffix request.requestId).Nodup := by
      intro suffix hcut
      rw [Nodup, pairwise_map]
      refine hpairs.imp_of_mem ?_
      intro first second hfirst hsecond hne heq
      exact hcut _ _ (h.heads first hfirst second hsecond hne) ((retryId_inj suffix _ _).mp heq)
    simp only [nodup_append, mem_append, forall_mem_map]
    refine ⟨⟨hnames, hheads _ fun _ _ => take_contractRoom, hfirst⟩,
      hheads _ fun _ _ hne => by rw [hroom]; exact hne, ?_⟩
    intro name hname parent hparent
    rcases hname with hname | hname
    · rcases mem_map.mp hname with ⟨request, hrequest, rfl⟩
      exact hsecond request hrequest parent hparent
    · rcases mem_map.mp hname with ⟨request, _, rfl⟩
      exact contractRetry_ne_noChangeRetry _ _

end Retries

section Bounded

/-- The digest of a request's identity that its children bear. -/
def parentDigest (request : TextRequest) : String :=
  (HexToken.ofDigest 12 HexToken.twelve_le request.requestId.root).text

/-- What may stand before the digest in the identity of a child. -/
def requestScopes (request : TextRequest) : List String :=
  (match request.attemptId with
    | none => []
    | some attemptId => ["model-request." ++ attemptId.root, attemptId.root]) ++
  ["model-request." ++ request.taskId.root, request.taskId.root]

/-- A name of a request that holds the digest of its identity. -/
def scopedName (request : TextRequest) (scope : String) : String :=
  scope ++ "." ++ parentDigest request

/-- The first scope whose name is an identity with the suffix. -/
def scopeFor (request : TextRequest) (suffix : String) : Option String :=
  (requestScopes request).find? fun scope => isStableId (scopedName request scope ++ suffix)

variable {request : TextRequest}

theorem scopeFor_valid {suffix scope : String} (h : scopeFor request suffix = some scope) :
    isStableId (scopedName request scope ++ suffix) = true := by
  unfold scopeFor at h
  simpa using List.find?_some h

theorem boundedStableId_map (make : String → String) (parts : List String) (id : StableId) :
    boundedStableId (parts.map make) = some id ↔
      ∃ part, parts.find? (fun part => isStableId (make part)) = some part ∧
        id.root = make part := by
  unfold boundedStableId
  induction parts with
  | nil => simp
  | cons part rest ih =>
    rw [map_cons, List.findSome?_cons, List.find?_cons]
    cases hvalid : isStableId (make part) with
    | true =>
      have hid : StableId.ofString? (make part) = some ⟨make part, hvalid⟩ := dif_pos hvalid
      rw [hid]
      constructor
      · intro heq
        rw [Option.some.injEq] at heq
        exact ⟨part, rfl, by rw [← heq]⟩
      · intro h
        rcases h with ⟨chosen, hchosen, hroot⟩
        rw [Option.some.injEq] at hchosen
        subst hchosen
        rw [Option.some.injEq, ← StableId.root_inj, hroot]
    | false =>
      have hid : StableId.ofString? (make part) = none := dif_neg (by simp [hvalid])
      rw [hid]
      exact ih

variable {suffix : String}

/-- The names that a bounded child gets: its parent's with the suffix if that is
    an identity, else the first of the names that hold the digest. -/
theorem boundedModelRequestId_eq_some {id : StableId} :
    boundedModelRequestId request suffix = some id ↔
      id.root = request.requestId.root ++ suffix ∨
        (isStableId (request.requestId.root ++ suffix) = false ∧
          ∃ scope, scopeFor request suffix = some scope ∧
            id.root = scopedName request scope ++ suffix) := by
  have hcandidates : boundedModelRequestId request suffix =
      (StableId.ofString? (request.requestId.root ++ suffix)).or (boundedStableId
        ((requestScopes request).map fun scope => scopedName request scope ++ suffix)) := by
    have hlist : boundedModelRequestId request suffix =
        boundedStableId ((request.requestId.root ++ suffix) ::
          (requestScopes request).map fun scope => scopedName request scope ++ suffix) := by
      unfold boundedModelRequestId requestScopes
      cases request.attemptId with
      | none => rfl
      | some _ => rfl
    rw [hlist, boundedStableId, List.findSome?_cons]
    cases StableId.ofString? (request.requestId.root ++ suffix) with
    | none => rfl
    | some _ => rfl
  rw [hcandidates]
  cases hvalid : isStableId (request.requestId.root ++ suffix) with
  | true =>
    have hid : StableId.ofString? (request.requestId.root ++ suffix) = some ⟨_, hvalid⟩ :=
      dif_pos hvalid
    rw [hid, Option.some_or, Option.some.injEq, ← StableId.root_inj]
    simp [eq_comm]
  | false =>
    have hid : StableId.ofString? (request.requestId.root ++ suffix) = none :=
      dif_neg (by simp [hvalid])
    have hother : id.root ≠ request.requestId.root ++ suffix := by
      intro heq
      rw [← heq, id.valid] at hvalid
      cases hvalid
    rw [hid, Option.none_or, boundedStableId_map]
    simp [hother, scopeFor]

/-- The identities that the children of bounded requests bear. -/
def boundedIds (requests : List TextRequest) (suffix : String) : List StableId :=
  requests.map (fun request => request.requestId) ++
    requests.filterMap fun request => boundedModelRequestId request suffix

/-- No identity is another with the suffix, and none is the name, with or without
    the suffix, that a request which is too long for the suffix falls back to. -/
structure BoundedNamesApart (requests : List TextRequest) (suffix : String) : Prop where
  longer : ∀ request ∈ requests, ∀ parent ∈ requests,
    request.requestId.root ≠ parent.requestId.root ++ suffix
  scope_ne : ∀ request ∈ requests, ∀ parent ∈ requests,
    isStableId (parent.requestId.root ++ suffix) = false → ∀ scope ∈ scopeFor parent suffix,
      request.requestId.root ≠ scopedName parent scope
  scopedChild_ne : ∀ request ∈ requests, ∀ parent ∈ requests,
    isStableId (parent.requestId.root ++ suffix) = false → ∀ scope ∈ scopeFor parent suffix,
      request.requestId.root ≠ scopedName parent scope ++ suffix

theorem parentDigest_eq {first second : TextRequest} {scope scope' : String}
    (h : scopedName first scope = scopedName second scope') :
    parentDigest first = parentDigest second := by
  have hlist := congrArg String.toList h
  simp only [scopedName, String.toList_append] at hlist
  have hlength : (parentDigest first).toList.length = (parentDigest second).toList.length := by
    unfold parentDigest
    rw [HexToken.length_eq, HexToken.length_eq]
  exact String.toList_inj.mp (append_inj_right' hlist hlength)

theorem append_left_inj {first second suffix : String} (h : first ++ suffix = second ++ suffix) :
    first = second := by
  have hlist := congrArg String.toList h
  rw [String.toList_append, String.toList_append, append_cancel_right_eq] at hlist
  exact String.toList_inj.mp hlist

theorem boundedIds_nodup_iff {requests : List TextRequest}
    (hnames : (requests.map fun request => request.requestId).Nodup)
    (hdigest : ∀ first ∈ requests, ∀ second ∈ requests,
      parentDigest first = parentDigest second → first.requestId = second.requestId) :
    (boundedIds requests suffix).Nodup ↔ BoundedNamesApart requests suffix := by
  have hpairs : (requests.filterMap fun request => boundedModelRequestId request suffix).Nodup ↔
      requests.Pairwise fun first second => ∀ a, boundedModelRequestId first suffix = some a →
        ∀ b, boundedModelRequestId second suffix = some b → a ≠ b := pairwise_filterMap
  unfold boundedIds
  rw [nodup_append, hpairs]
  simp only [forall_mem_map, mem_filterMap]
  constructor
  · intro h
    rcases h with ⟨_, hchildren, happart⟩
    have hother : ∀ request ∈ requests, ∀ parent ∈ requests,
        boundedModelRequestId parent suffix ≠ some request.requestId := by
      intro request hrequest parent hparent heq
      exact happart request hrequest _ ⟨parent, hparent, heq⟩ rfl
    refine ⟨?_, ?_, ?_⟩
    · intro request hrequest parent hparent heq
      exact hother request hrequest parent hparent
        (boundedModelRequestId_eq_some.mpr (Or.inl heq))
    · -- the full name of one child would be the name that another falls back to
      intro request hrequest parent hparent hlong scope hscope heq
      have hvalid := scopeFor_valid hscope
      have hne : request ≠ parent := by
        intro hsame
        rw [← hsame, heq, hvalid] at hlong
        cases hlong
      have hfirst : boundedModelRequestId request suffix = some ⟨_, hvalid⟩ :=
        boundedModelRequestId_eq_some.mpr (Or.inl (by rw [heq]))
      have hsecond : boundedModelRequestId parent suffix = some ⟨_, hvalid⟩ :=
        boundedModelRequestId_eq_some.mpr (Or.inr ⟨hlong, scope, hscope, rfl⟩)
      have hsymm : Std.Symm fun first second : TextRequest =>
          ∀ a, boundedModelRequestId first suffix = some a →
            ∀ b, boundedModelRequestId second suffix = some b → a ≠ b := by
        constructor
        intro _ _ hpair a ha b hb heq
        exact hpair b hb a ha heq.symm
      exact hchildren.forall hrequest hparent hne _ hfirst _ hsecond rfl
    · intro request hrequest parent hparent hlong scope hscope heq
      exact hother request hrequest parent hparent
        (boundedModelRequestId_eq_some.mpr (Or.inr ⟨hlong, scope, hscope, heq⟩))
  · intro h
    refine ⟨hnames, ?_, ?_⟩
    · refine (pairwise_map.mp hnames).imp_of_mem ?_
      intro first second hfirst hsecond hne a ha b hb heq
      rw [boundedModelRequestId_eq_some, heq] at ha
      rw [boundedModelRequestId_eq_some] at hb
      rcases ha with ha | ⟨hlong, scope, hscope, ha⟩
      · rcases hb with hb | ⟨hlong', scope', hscope', hb⟩
        · exact hne (StableId.root_inj.mp (append_left_inj (ha.symm.trans hb)))
        · exact h.scope_ne first hfirst second hsecond hlong' scope' hscope'
            (append_left_inj (ha.symm.trans hb))
      · rcases hb with hb | ⟨hlong', scope', hscope', hb⟩
        · exact h.scope_ne second hsecond first hfirst hlong scope hscope
            (append_left_inj (hb.symm.trans ha))
        · exact hne (hdigest first hfirst second hsecond
            (parentDigest_eq (append_left_inj (ha.symm.trans hb))))
    · intro request hrequest name hname heq
      rcases hname with ⟨parent, hparent, hchild⟩
      rw [boundedModelRequestId_eq_some, ← heq] at hchild
      rcases hchild with hchild | ⟨hlong, scope, hscope, hchild⟩
      · exact h.longer request hrequest parent hparent hchild
      · exact h.scopedChild_ne request hrequest parent hparent hlong scope hscope hchild

end Bounded

/-- When the identities of requests and of their children are all different: for
    the children of the editor, and for bounded children with one suffix where the
    digests of the requests tell them apart. -/
theorem derivedIds_nodup_iff (requests : List EditorRequest) (suffix : String)
    (hnames : (requests.map fun request => request.requestId).Nodup)
    (hdigest : ∀ first ∈ requests, ∀ second ∈ requests,
      parentDigest first.toTextRequest = parentDigest second.toTextRequest →
        first.requestId = second.requestId) :
    ((editorIds requests).Nodup ↔ EditorNamesApart requests) ∧
    ((boundedIds (requests.map EditorRequest.toTextRequest) suffix).Nodup ↔
      BoundedNamesApart (requests.map EditorRequest.toTextRequest) suffix) := by
  constructor
  · exact editorIds_nodup_iff hnames
  · refine boundedIds_nodup_iff ?_ ?_
    · rw [map_map]
      exact hnames
    · simp only [forall_mem_map]
      exact hdigest

namespace Sample

def longRequest (last : Char) (hlast : isIdChar last = true) : EditorRequest :=
  editorRequest {
    root := String.ofList (List.replicate 127 'q' ++ [last])
    valid := by
      have hletter : isAlnum 'q' = true := by decide
      have hletters : ∀ n, (List.replicate n 'q').all isIdChar = true := by
        intro n
        rw [all_eq_true]
        intro c hc
        rw [eq_of_mem_replicate hc]
        decide
      unfold isStableId
      rw [String.toList_ofList, replicate_succ, cons_append]
      simp only [isStableIdChars, all_append, hletter, hletters, Bool.and_eq_true,
        decide_eq_true_eq]
      exact ⟨⟨trivial, trivial, by simpa using hlast⟩, by simp⟩ }

def first : EditorRequest := editorRequest ⟨"request.1", .refl true⟩

def second : EditorRequest := editorRequest ⟨"request.2", by decide⟩

end Sample

open Sample

/-- Two requests of full length that differ in the last character get the same children. -/
theorem editorIds_collide :
    (longRequest 'a' (by decide)).requestId ≠
      (longRequest 'b' (by decide)).requestId ∧
    (editorContractRetryRequest (longRequest 'a' (by decide))).requestId =
      (editorContractRetryRequest (longRequest 'b' (by decide))).requestId ∧
    (editorNoChangeRetryRequest (longRequest 'a' (by decide))).requestId =
      (editorNoChangeRetryRequest (longRequest 'b' (by decide))).requestId := by
  have hchars : ∀ last hlast, (longRequest last hlast).requestId.root.toList =
      List.replicate 127 'q' ++ [last] := fun _ _ => String.toList_ofList
  have htake : ∀ room ≤ 127, ∀ last hlast,
      (longRequest last hlast).requestId.root.toList.take room =
        List.replicate room 'q' := by
    intro room hroom last hlast
    rw [hchars, take_append_of_le_length (by simpa using hroom), take_replicate,
      min_eq_left hroom]
  have hcut : contractRetrySuffix.room ≤ 127 := by decide
  have hlater : noChangeRetrySuffix.room ≤ 127 := by decide
  refine ⟨?_, ?_, ?_⟩
  · rw [Ne, ← toList_inj, hchars, hchars]
    simp
  · refine (retryId_inj contractRetrySuffix _ _).mpr ?_
    rw [htake _ hcut, htake _ hcut]
  · refine (retryId_inj noChangeRetrySuffix _ _).mpr ?_
    rw [htake _ hlater, htake _ hlater]

/-- Two requests whose digests differ. -/
theorem derivedIds_nodup_iff_sample :
    ((editorIds [first, second]).Nodup ↔
      EditorNamesApart [first, second]) ∧
    ((boundedIds ([first, second].map EditorRequest.toTextRequest) ".child").Nodup ↔
      BoundedNamesApart ([first, second].map EditorRequest.toTextRequest)
        ".child") ∧
    (editorIds [first, second]).Nodup ∧
    (boundedIds ([first, second].map EditorRequest.toTextRequest) ".child").Nodup := by
  have hnames : first.requestId ≠ second.requestId := by decide
  have hdigest : parentDigest first.toTextRequest ≠
      parentDigest second.toTextRequest := by
    intro heq
    have hchars := congrArg String.toList heq
    simp only [parentDigest, HexToken.ofDigest, String.toList_ofList, Sha256.hexdigest] at hchars
    exact absurd hchars (by decide +kernel)
  have hcondition := derivedIds_nodup_iff [first, second] ".child" (by simp [hnames]) (by
    intro request hrequest other hother heq
    rcases mem_pair.mp hrequest with rfl | rfl
    · rcases mem_pair.mp hother with rfl | rfl
      · rfl
      · exact absurd heq hdigest
    · rcases mem_pair.mp hother with rfl | rfl
      · exact absurd heq.symm hdigest
      · rfl)
  exact ⟨hcondition.1, hcondition.2, by decide +kernel, by decide +kernel⟩

end NovelAgent.Editorial
