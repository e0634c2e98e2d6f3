import Mathlib.Data.List.Nodup
import Mathlib.Data.List.Perm.Basic

/-!
# Lists of Keyed Records

Collections that are edited one record at a time: a record is created at the
end, replaced where it stands, or retired.
-/

namespace NovelAgent.Core.Keyed

open List

/-- What an edit does to the record of its key. -/
inductive Action
  | create
  | replace
  | retire
deriving DecidableEq

/-- An edit: an action, and the record that carries its key. -/
structure Edit (α : Type) where
  action : Action
  record : α

variable {α ι : Type} [DecidableEq ι] (key : α → ι)

abbrev keys (records : List α) : List ι := records.map key

/-- Put a record in the place of the first one under its key. -/
def replaceFirst (record : α) : List α → List α
  | [] => []
  | x :: rest => if key x = key record then record :: rest else x :: replaceFirst record rest

/-- Whether the collection has what an edit asks for. -/
def Applicable (records : List α) (e : Edit α) : Prop :=
  match e.action with
  | .create => key e.record ∉ keys key records
  | .replace => key e.record ∈ keys key records
  | .retire => key e.record ∈ keys key records

instance (records : List α) (e : Edit α) : Decidable (Applicable key records e) := by
  unfold Applicable
  cases e.action <;> infer_instance

/-- The collection after an edit that it has what is asked for. -/
def write (records : List α) (e : Edit α) : List α :=
  match e.action with
  | .create => records ++ [e.record]
  | .replace => replaceFirst key e.record records
  | .retire => records.eraseP fun x => key x = key e.record

/-- One edit. -/
def edit (records : List α) (e : Edit α) : Option (List α) :=
  if Applicable key records e then some (write key records e) else none

/-- A list of edits, one after another. -/
def edits (records : List α) (es : List (Edit α)) : Option (List α) :=
  es.foldlM (edit key) records

/-- What becomes of a record under edits with distinct keys. -/
def after (es : List (Edit α)) (x : α) : Option α :=
  match es.find? fun e => key e.record = key x with
  | none => some x
  | some e => if e.action = .retire then none else some e.record

/-- The closed form of what a list of edits creates. -/
def created (es : List (Edit α)) : List α :=
  (es.filter fun e => e.action = .create).map Edit.record

theorem edits_cons (records : List α) (e : Edit α) (es : List (Edit α)) :
    edits key records (e :: es) =
      if Applicable key records e then edits key (write key records e) es else none := by
  rw [edits, foldlM_cons, edit]
  split
  · rfl
  · rfl

variable {x : α}

section Lemmas

variable {key}

variable {records : List α}

theorem replaceFirst_eq_map (h : (keys key records).Nodup) (record : α) :
    replaceFirst key record records =
      records.map fun x => if key x = key record then record else x := by
  induction records with
  | nil => rfl
  | cons x rest ih =>
    rw [keys, map_cons, nodup_cons] at h
    rw [replaceFirst, map_cons]
    by_cases hx : key x = key record
    · rw [if_pos hx, if_pos hx]
      congr 1
      refine (map_id' rest).symm.trans (map_congr_left fun y hy => ?_)
      have hne : key y ≠ key record := fun heq =>
        h.1 (hx.trans heq.symm ▸ mem_map_of_mem hy)
      rw [if_neg hne]
    · rw [if_neg hx, if_neg hx, ih h.2]

theorem eraseP_eq_filter (h : (keys key records).Nodup) (k : ι) :
    (records.eraseP fun x => key x = k) = records.filter fun x => key x ≠ k := by
  induction records with
  | nil => rfl
  | cons x rest ih =>
    rw [keys, map_cons, nodup_cons] at h
    by_cases hx : key x = k
    · rw [eraseP_cons_of_pos (by simp [hx]), filter_cons_of_neg (by simp [hx])]
      refine (filter_eq_self.mpr fun y hy => ?_).symm
      rw [decide_eq_true_eq]
      intro heq
      exact h.1 (hx.trans heq.symm ▸ mem_map_of_mem hy)
    · rw [eraseP_cons_of_neg (by simp [hx]), filter_cons_of_pos (by simp [hx]), ih h.2]

theorem mem_keys_write (h : (keys key records).Nodup) (e : Edit α) {k : ι} (hk : k ≠ key e.record) :
    k ∈ keys key (write key records e) ↔ k ∈ keys key records := by
  rw [write]
  cases e.action with
  | create => simp [keys, hk]
  | replace =>
    simp only [replaceFirst_eq_map h, keys, map_map, mem_map, Function.comp_apply]
    constructor
    · rintro ⟨x, hx, hkey⟩
      by_cases hsame : key x = key e.record
      · rw [if_pos hsame] at hkey
        exact absurd hkey.symm hk
      · rw [if_neg hsame] at hkey
        exact ⟨x, hx, hkey⟩
    · rintro ⟨x, hx, rfl⟩
      exact ⟨x, hx, by rw [if_neg hk]⟩
  | retire =>
    simp only [eraseP_eq_filter h, keys, mem_map, mem_filter, decide_eq_true_eq]
    constructor
    · rintro ⟨x, ⟨hx, _⟩, hkey⟩
      exact ⟨x, hx, hkey⟩
    · rintro ⟨x, hx, rfl⟩
      exact ⟨x, ⟨hx, hk⟩, rfl⟩

variable {e : Edit α}

theorem nodup_write (h : (keys key records).Nodup) (he : Applicable key records e) :
    (keys key (write key records e)).Nodup := by
  rw [Applicable] at he
  rw [write]
  cases haction : e.action with
  | create =>
    rw [haction] at he
    simp only at he ⊢
    rw [keys, map_append]
    exact h.append (nodup_singleton _) (disjoint_singleton.mpr he)
  | replace =>
    simp only [replaceFirst_eq_map h, keys, map_map]
    have hkeys : (key ∘ fun x => if key x = key e.record then e.record else x) = key := by
      funext x
      rw [Function.comp_apply]
      split
      · rename_i hx
        exact hx.symm
      · rfl
    rw [hkeys]
    exact h
  | retire =>
    simp only [eraseP_eq_filter h]
    exact h.sublist (filter_sublist.map key)

theorem after_cons (e : Edit α) (es : List (Edit α)) (x : α) :
    after key (e :: es) x =
      if key e.record = key x then (if e.action = .retire then none else some e.record)
      else after key es x := by
  rw [after, List.find?_cons]
  by_cases h : key e.record = key x
  · simp [h]
  · simp [h, after]

variable {es : List (Edit α)}

theorem after_of_notMem (h : key x ∉ es.map fun e => key e.record) : after key es x = some x := by
  have hnone : (es.find? fun e => key e.record = key x) = none := by
    rw [List.find?_eq_none]
    intro e he heq
    exact h (mem_map.mpr ⟨e, he, by simpa using heq⟩)
  rw [after, hnone]

/-- One edit and then what the others make of its result is what all of them
    make of the records there were. -/
theorem filterMap_write (h : (keys key records).Nodup) (he : Applicable key records e)
    (hfresh : key e.record ∉ es.map fun e => key e.record) :
    (write key records e).filterMap (after key es) ++ created es =
      records.filterMap (after key (e :: es)) ++ created (e :: es) := by
  rw [Applicable] at he
  rw [write]
  cases haction : e.action with
  | create =>
    rw [haction] at he
    have hother : records.filterMap (after key (e :: es)) = records.filterMap (after key es) := by
      refine filterMap_congr fun x hx => ?_
      rw [after_cons, if_neg]
      intro heq
      exact he (heq ▸ mem_map_of_mem hx)
    simp [hother, created, haction, after_of_notMem hfresh]
  | replace =>
    simp only [replaceFirst_eq_map h, filterMap_map]
    have hcreated : created (e :: es) = created es := by simp [created, haction]
    rw [hcreated]
    congr 1
    refine filterMap_congr fun x _ => ?_
    rw [after_cons, Function.comp_apply]
    by_cases hx : key x = key e.record
    · rw [if_pos hx, if_pos hx.symm, after_of_notMem hfresh, haction]
      simp
    · rw [if_neg hx, if_neg (Ne.symm hx)]
  | retire =>
    simp only [eraseP_eq_filter h, filterMap_filter]
    have hcreated : created (e :: es) = created es := by simp [created, haction]
    rw [hcreated]
    congr 1
    refine filterMap_congr fun x _ => ?_
    rw [after_cons]
    by_cases hx : key x = key e.record
    · simp [hx, haction]
    · simp [hx, Ne.symm hx]

/-- A list of edits with distinct keys, in one formula. The induction is on the edits; the
    collection is general because the rest of the list starts from the result of the first. -/
theorem edits_eq (h : (keys key records).Nodup) (hes : (es.map fun e => key e.record).Nodup) :
    edits key records es =
      if ∀ e ∈ es, Applicable key records e then
        some (records.filterMap (after key es) ++ created es)
      else none := by
  induction es generalizing records with
  | nil =>
    have hnil : (fun x => after key [] x) = some := by
      funext x
      rfl
    simp [edits, created, hnil]
  | cons e es ih =>
    rw [map_cons, nodup_cons] at hes
    rw [edits_cons]
    by_cases he : Applicable key records e
    · rw [if_pos he, ih (nodup_write h he) hes.2, filterMap_write h he hes.1]
      have hrest : (∀ e' ∈ es, Applicable key (write key records e) e') ↔
          ∀ e' ∈ e :: es, Applicable key records e' := by
        rw [forall_mem_cons, and_iff_right he]
        refine forall₂_congr fun e' he' => ?_
        have hne : key e'.record ≠ key e.record := fun heq =>
          hes.1 (heq ▸ mem_map_of_mem he')
        unfold Applicable
        cases e'.action <;> simp only [mem_keys_write h e hne]
      simp only [hrest]
    · rw [if_neg he, if_neg]
      intro hall
      exact he (hall e (mem_cons_self ..))

/-- What a list of edits that applies has found and left. -/
theorem edits_some {records result : List α} (h : (keys key records).Nodup)
    (hes : (es.map fun e => key e.record).Nodup) (hresult : edits key records es = some result) :
    (∀ e ∈ es, Applicable key records e) ∧
      result = records.filterMap (after key es) ++ created es := by
  rw [edits_eq h hes] at hresult
  split at hresult
  · rename_i happ
    exact ⟨happ, (Option.some.inj hresult).symm⟩
  · exact absurd hresult (by simp)

theorem edits_create {records new result : List α}
    (h : edits key records (new.map (Edit.mk .create)) = some result) :
    result = records ++ new := by
  induction new generalizing records with
  | nil =>
    rw [append_nil]
    exact (Option.some.inj h).symm
  | cons record new ih =>
    rw [map_cons, edits_cons] at h
    split at h
    · have hwrite : write key records ⟨.create, record⟩ = records ++ [record] := rfl
      rw [hwrite] at h
      rw [ih h, append_assoc, singleton_append]
    · exact absurd h (by simp)

theorem created_perm {es es' : List (Edit α)} (hperm : es.Perm es') :
    (created es).Perm (created es') :=
  (hperm.filter _).map _

theorem after_perm {es es' : List (Edit α)} (hes : (es.map fun e => key e.record).Nodup)
    (hperm : es.Perm es') : after key es = after key es' := by
  funext x
  have hes' : (es'.map fun e => key e.record).Nodup := (hperm.map _).nodup_iff.mp hes
  -- At most one edit names the key, so both lists find the same one.
  have hfind : (es.find? fun e => key e.record = key x) =
      es'.find? fun e => key e.record = key x := by
    cases hfound : es.find? fun e => key e.record = key x with
    | none =>
      rw [List.find?_eq_none] at hfound
      rw [eq_comm, List.find?_eq_none]
      exact fun e he => hfound e (hperm.mem_iff.mpr he)
    | some e =>
      have hmem := hperm.mem_iff.mp (mem_of_find?_eq_some hfound)
      have hkey : key e.record = key x := by simpa using List.find?_some hfound
      rcases hfound' : es'.find? fun e => key e.record = key x with _ | e'
      · rw [List.find?_eq_none] at hfound'
        exact absurd (by simpa using hkey) (hfound' e hmem)
      · have hkey' : key e'.record = key x := by simpa using List.find?_some hfound'
        rw [hfound', inj_on_of_nodup_map hes' hmem (mem_of_find?_eq_some hfound')
          (hkey.trans hkey'.symm)]
  rw [after, after, hfind]

/-- In another order the edits apply as well, and only the created records
    may stand in another order. -/
theorem edits_perm {records result : List α} (h : (keys key records).Nodup) {es es' : List (Edit α)}
    (hes : (es.map fun e => key e.record).Nodup) (hperm : es.Perm es')
    (hresult : edits key records es = some result) :
    edits key records es' = some (records.filterMap (after key es) ++ created es') := by
  rcases edits_some h hes hresult with ⟨happ, _⟩
  rw [edits_eq h ((hperm.map _).nodup_iff.mp hes), after_perm hes hperm, if_pos]
  exact fun e he => happ e (hperm.mem_iff.mpr he)

theorem edit_eq_some {records records' : List α} :
    edit key records e = some records' ↔
      Applicable key records e ∧ write key records e = records' := by
  rw [edit]
  split
  · rename_i happ
    simp [happ]
  · rename_i happ
    simp [happ]

theorem mem_replaceFirst {record : α} (h : key record ∈ keys key records) :
    record ∈ replaceFirst key record records := by
  induction records with
  | nil => exact absurd h not_mem_nil
  | cons x rest ih =>
    rw [replaceFirst]
    by_cases hx : key x = key record
    · simp [hx]
    · have hrest : key record ∈ keys key rest := by
        rcases mem_cons.mp h with heq | hrest
        · exact absurd heq.symm hx
        · exact hrest
      rw [if_neg hx]
      exact mem_cons_of_mem _ (ih hrest)

end Lemmas

section Related

variable {key} {R : α → α → Prop} {xs ys : List α}

omit [DecidableEq ι] in
theorem map_eq_of_related (hkey : ∀ a b, R a b → key a = key b) (h : List.Forall₂ R xs ys) :
    xs.map key = ys.map key := by
  induction h with
  | nil => rfl
  | cons hxy _ ih => rw [map_cons, map_cons, hkey _ _ hxy, ih]

omit [DecidableEq ι] in
theorem exists_related_left (h : List.Forall₂ R xs ys) {y : α} (hy : y ∈ ys) :
    ∃ x ∈ xs, R x y := by
  induction h with
  | nil => exact absurd hy not_mem_nil
  | cons hxy _ ih =>
    rcases mem_cons.mp hy with rfl | hy
    · exact ⟨_, mem_cons_self .., hxy⟩
    · rcases ih hy with ⟨x, hx, hrel⟩
      exact ⟨x, mem_cons_of_mem _ hx, hrel⟩

omit [DecidableEq ι] in
theorem exists_related_right (h : List.Forall₂ R xs ys) (hx : x ∈ xs) : ∃ y ∈ ys, R x y := by
  induction h with
  | nil => exact absurd hx not_mem_nil
  | cons hxy _ ih =>
    rcases mem_cons.mp hx with rfl | hx
    · exact ⟨_, mem_cons_self .., hxy⟩
    · rcases ih hx with ⟨y, hy, hrel⟩
      exact ⟨y, mem_cons_of_mem _ hy, hrel⟩

/-- Two collections of records that are related one by one stay so when related
    records take their places in both. -/
theorem replaceFirst_linked {β : Type} {key' : β → ι} {R : α → β → Prop} {xs : List α}
    {ys : List β} (hkey : ∀ a b, R a b → key a = key' b) (h : List.Forall₂ R xs ys)
    {r : α} {r' : β} (hr : R r r') :
    List.Forall₂ R (replaceFirst key r xs) (replaceFirst key' r' ys) := by
  induction h with
  | nil => exact List.Forall₂.nil
  | cons hxy hrest ih =>
    rw [replaceFirst, replaceFirst, ← hkey _ _ hxy, ← hkey _ _ hr]
    split
    · exact List.Forall₂.cons hr hrest
    · exact List.Forall₂.cons hxy ih

variable {r r' : α}

section

variable (hkey : ∀ a b, R a b → key a = key b) (h : List.Forall₂ R xs ys)

include hkey h

theorem replaceFirst_related (hr : R r r') :
    List.Forall₂ R (replaceFirst key r xs) (replaceFirst key r' ys) :=
  replaceFirst_linked hkey h hr

theorem eraseP_related (k : ι) :
    List.Forall₂ R (xs.eraseP fun x => key x = k) (ys.eraseP fun y => key y = k) := by
  induction h with
  | nil => exact List.Forall₂.nil
  | cons hxy hrest ih =>
    rw [eraseP_cons, eraseP_cons, hkey _ _ hxy, Bool.cond_eq_ite, Bool.cond_eq_ite]
    split
    · exact hrest
    · exact List.Forall₂.cons hxy ih

/-- Collections whose records are related one by one stay so under edits that
    do the same with related records. -/
theorem edit_related {action : Action} (hr : R r r') {xs' : List α}
    (hedit : edit key xs ⟨action, r⟩ = some xs') :
    ∃ ys', edit key ys ⟨action, r'⟩ = some ys' ∧ List.Forall₂ R xs' ys' := by
  rcases edit_eq_some.mp hedit with ⟨happ, rfl⟩
  have happ' : Applicable key ys ⟨action, r'⟩ := by
    unfold Applicable at happ ⊢
    simp only [← hkey _ _ hr, keys, ← map_eq_of_related hkey h]
    exact happ
  refine ⟨_, edit_eq_some.mpr ⟨happ', rfl⟩, ?_⟩
  cases action with
  | create => exact rel_append h (List.Forall₂.cons hr List.Forall₂.nil)
  | replace => exact replaceFirst_related hkey h hr
  | retire =>
    have herase := eraseP_related hkey h (key r)
    simp only [write]
    rwa [← hkey _ _ hr]

end

/-- A record that takes the place of one that is related to the same records
    leaves the collection related. -/
theorem replaceFirst_restated (h : List.Forall₂ R xs ys) {r : α}
    (hr : ∀ x ∈ xs, key x = key r → ∀ y, R x y → R r y) :
    List.Forall₂ R (replaceFirst key r xs) ys := by
  induction h with
  | nil => exact List.Forall₂.nil
  | cons hxy hrest ih =>
    rw [replaceFirst]
    split
    · rename_i heq
      exact List.Forall₂.cons (hr _ (mem_cons_self ..) heq _ hxy) hrest
    · exact List.Forall₂.cons hxy (ih fun x hx => hr x (mem_cons_of_mem _ hx))

end Related

end NovelAgent.Core.Keyed
