import Mathlib.Data.List.Basic
import NovelAgent.Core.Json

/-!
# JSON Values and Codecs

Values read from JSON documents, and the pairs of functions that carry typed
data in and out of them.
-/

namespace NovelAgent.Core

open List

/-- A JSON document. A float is its shortest literal. -/
inductive JsonValue
  | null
  | bool (value : Bool)
  | int (value : Int)
  | float (literal : String)
  | string (value : String)
  | array (items : List JsonValue)
  | object (fields : List (String × JsonValue))

namespace JsonValue

mutual

/-- Equality of documents is decidable. -/
def decEq : (a b : JsonValue) → Decidable (a = b)
  | .null, .null => isTrue rfl
  | .bool a, .bool b => decidable_of_iff (a = b) (by simp)
  | .int a, .int b => decidable_of_iff (a = b) (by simp)
  | .float a, .float b => decidable_of_iff (a = b) (by simp)
  | .string a, .string b => decidable_of_iff (a = b) (by simp)
  | .array a, .array b =>
    match decEqItems a b with
    | isTrue h => isTrue (h ▸ rfl)
    | isFalse h => isFalse fun heq => h (JsonValue.array.inj heq)
  | .object a, .object b =>
    match decEqFields a b with
    | isTrue h => isTrue (h ▸ rfl)
    | isFalse h => isFalse fun heq => h (JsonValue.object.inj heq)
  -- The rest are pairs of different shapes.
  | .null, .bool _ | .null, .int _ | .null, .float _ | .null, .string _ | .null, .array _
  | .null, .object _ | .bool _, .null | .bool _, .int _ | .bool _, .float _ | .bool _, .string _
  | .bool _, .array _ | .bool _, .object _ | .int _, .null | .int _, .bool _ | .int _, .float _
  | .int _, .string _ | .int _, .array _ | .int _, .object _ | .float _, .null
  | .float _, .bool _ | .float _, .int _ | .float _, .string _ | .float _, .array _
  | .float _, .object _ | .string _, .null | .string _, .bool _ | .string _, .int _
  | .string _, .float _ | .string _, .array _ | .string _, .object _ | .array _, .null
  | .array _, .bool _ | .array _, .int _ | .array _, .float _ | .array _, .string _
  | .array _, .object _ | .object _, .null | .object _, .bool _ | .object _, .int _
  | .object _, .float _ | .object _, .string _ | .object _, .array _ => isFalse nofun

/-- Equality of the items of two arrays is decidable. -/
def decEqItems : (a b : List JsonValue) → Decidable (a = b)
  | [], [] => isTrue rfl
  | [], _ :: _ => isFalse nofun
  | _ :: _, [] => isFalse nofun
  | x :: xs, y :: ys =>
    match decEq x y, decEqItems xs ys with
    | isTrue h, isTrue h' => isTrue (h ▸ h' ▸ rfl)
    | isFalse h, _ => isFalse fun heq => h (List.cons.inj heq).1
    | _, isFalse h => isFalse fun heq => h (List.cons.inj heq).2

/-- Equality of the fields of two objects is decidable. -/
def decEqFields : (a b : List (String × JsonValue)) → Decidable (a = b)
  | [], [] => isTrue rfl
  | [], _ :: _ => isFalse nofun
  | _ :: _, [] => isFalse nofun
  | (k, x) :: xs, (l, y) :: ys =>
    if hk : k = l then
      match decEq x y, decEqFields xs ys with
      | isTrue h, isTrue h' => isTrue (hk ▸ h ▸ h' ▸ rfl)
      | isFalse h, _ => isFalse fun heq => h (Prod.mk.inj (List.cons.inj heq).1).2
      | _, isFalse h => isFalse fun heq => h (List.cons.inj heq).2
    else isFalse fun heq => hk (Prod.mk.inj (List.cons.inj heq).1).1

end

instance : DecidableEq JsonValue := decEq

mutual

/-- The compact text of a document. -/
def render : JsonValue → String
  | .null => "null"
  | .bool true => "true"
  | .bool false => "false"
  | .int value => toString value
  | .float literal => literal
  | .string value => Json.string value
  | .array items => Json.array (renderItems items)
  | .object fields => Json.object (renderFields fields)

def renderItems : List JsonValue → List String
  | [] => []
  | item :: items => render item :: renderItems items

/-- The fields of an object with their texts. -/
def renderFields : List (String × JsonValue) → List (String × String)
  | [] => []
  | (key, value) :: fields => (key, render value) :: renderFields fields

end

def fields? : JsonValue → Option (List (String × JsonValue))
  | .object fields => some fields
  | _ => none

def string? : JsonValue → Option String
  | .string text => some text
  | _ => none

/-- The value of a field, if the document is an object that has it. -/
def get? (document : JsonValue) (key : String) : Option JsonValue :=
  document.fields?.bind (List.lookup key)

def without (keys : List String) : JsonValue → JsonValue
  | .object fields => .object (fields.filter fun field => field.1 ∉ keys)
  | document => document

end JsonValue

/-- A pair of functions between a type and the documents that stand for its values. -/
structure Codec (α : Type) where
  dump : α → JsonValue
  load : JsonValue → Option α
  load_dump : ∀ a, load (dump a) = some a

attribute [simp] Codec.load_dump

namespace Codec

variable {α β : Type}

/-- A document that stands for itself. -/
def document : Codec JsonValue where
  dump := id
  load := some
  load_dump _ := rfl

def string : Codec String where
  dump := .string
  load := JsonValue.string?
  load_dump _ := rfl

theorem string_ne_null (text : String) : string.dump text ≠ .null := nofun

/-- An integer. Neither a float nor a truth value is one. -/
def int : Codec Int where
  dump := .int
  load
    | .int value => some value
    | _ => none
  load_dump _ := rfl

theorem int_ne_null (value : Int) : int.dump value ≠ .null := nofun

/-- A truth value. -/
def bool : Codec Bool where
  dump := .bool
  load
    | .bool value => some value
    | _ => none
  load_dump _ := rfl

/-- The codec of a validated type over that of its raw data. -/
def refine (codec : Codec β) (raw : α → β) (validate : β → Option α)
    (h : ∀ a, validate (raw a) = some a) : Codec α where
  dump a := codec.dump (raw a)
  load v := (codec.load v).bind validate
  load_dump a := by simp [h]

/-- A value of an enumeration, by its name. -/
def enum (name : α → String) (values : List α)
    (h : ∀ a, (values.find? fun b => name b = name a) = some a) : Codec α :=
  string.refine name (fun text => values.find? fun b => name b = text) h

/-- An integer that is not negative. -/
def nat : Codec Nat :=
  int.refine Int.ofNat (fun value => if 0 ≤ value then some value.toNat else none)
    fun n => by simp

/-- A value that may be null. -/
def option (codec : Codec α) (h : ∀ a, codec.dump a ≠ .null) : Codec (Option α) where
  dump
    | none => .null
    | some a => codec.dump a
  load v := if v = .null then some none else (codec.load v).map some
  load_dump
    | none => rfl
    | some a => by simp [h a]

/-- An array. -/
def list (codec : Codec α) : Codec (List α) where
  dump items := .array (items.map codec.dump)
  load
    | .array items => items.mapM codec.load
    | _ => none
  load_dump items := by
    simp only
    induction items with
    | nil => rfl
    | cons a items ih => simp [mapM_cons, ih]

/-- A pair, as an array of two. -/
def pair (first : Codec α) (second : Codec β) : Codec (α × β) where
  dump value := .array [first.dump value.1, second.dump value.2]
  load
    | .array [a, b] => do pure (← first.load a, ← second.load b)
    | _ => none
  load_dump value := by simp

theorem pair_ne_null (first : Codec α) (second : Codec β) (value : α × β) :
    (pair first second).dump value ≠ .null := nofun

/-- A dictionary, with its entries in the order of their keys. -/
def dict (codec : Codec α) : Codec (List (String × α)) where
  dump entries := .object (entries.map fun entry => (entry.1, codec.dump entry.2))
  load v := v.fields?.bind fun fields =>
    fields.mapM fun field => (codec.load field.2).map fun value => (field.1, value)
  load_dump entries := by
    simp only [JsonValue.fields?, Option.bind_some]
    induction entries with
    | nil => rfl
    | cons entry entries ih => simp [mapM_cons, ih]

end Codec

/-- Some fields of an object, as one value. The load looks each field up by
    its key, so it does not depend on what else the object holds. -/
structure Fields (α : Type) where
  keys : List String
  dump : α → List (String × JsonValue)
  load : (String → Option JsonValue) → Option α
  dump_keys : ∀ a, (dump a).map Prod.fst = keys
  load_dump : ∀ a look, (∀ field ∈ dump a, look field.1 = some field.2) → load look = some a

namespace Fields

variable {α β : Type}

/-- No fields. -/
def nil : Fields Unit where
  keys := []
  dump _ := []
  load _ := some ()
  dump_keys _ := rfl
  load_dump _ _ _ := rfl

/-- One more field. A missing one loads as `missing`, which is nothing for a
    field that is required. -/
def field (key : String) (codec : Codec α) (missing : Option α) (rest : Fields β) :
    Fields (α × β) where
  keys := key :: rest.keys
  dump a := (key, codec.dump a.1) :: rest.dump a.2
  load look := do
    let head ← (look key).elim missing codec.load
    let tail ← rest.load look
    pure (head, tail)
  dump_keys a := by simp [rest.dump_keys]
  load_dump a look h := by
    have hhead : look key = some (codec.dump a.1) := h _ (mem_cons_self ..)
    have htail : rest.load look = some a.2 :=
      rest.load_dump a.2 look fun field hfield => h field (mem_cons_of_mem _ hfield)
    simp [hhead, htail]

/-- A field that has to be there. -/
def required (key : String) (codec : Codec α) (rest : Fields β) : Fields (α × β) :=
  field key codec none rest

/-- A field with a default. -/
def optional (key : String) (codec : Codec α) (default : α) (rest : Fields β) : Fields (α × β) :=
  field key codec (some default) rest

end Fields

/-- What loads from a list loads from every order of it, in that order. -/
theorem mapM_perm {α β : Type} (f : α → Option β) {items items' : List α} {values : List β}
    (hperm : items.Perm items') (h : items.mapM f = some values) :
    ∃ values', items'.mapM f = some values' ∧ values.Perm values' := by
  induction hperm generalizing values with
  | nil => exact ⟨values, h, Perm.refl _⟩
  | cons x _ ih =>
    simp only [mapM_cons, bind, Option.bind_eq_some_iff, pure] at h ⊢
    rcases h with ⟨y, hy, ys, hys, hvalues⟩
    rcases ih hys with ⟨ys', hys', hperm⟩
    refine ⟨y :: ys', ⟨y, hy, ys', hys', rfl⟩, ?_⟩
    rw [← Option.some.inj hvalues]
    exact hperm.cons y
  | swap x y l =>
    simp only [mapM_cons, bind, Option.bind_eq_some_iff, pure] at h ⊢
    rcases h with ⟨b, hb, ys, ⟨a, ha, l', hl', hys⟩, hvalues⟩
    refine ⟨a :: b :: l', ⟨a, ha, b :: l', ⟨b, hb, l', hl', rfl⟩, rfl⟩, ?_⟩
    rw [← Option.some.inj hvalues, ← Option.some.inj hys]
    exact Perm.swap ..
  | trans _ _ ih ih' =>
    rcases ih h with ⟨values', h', hperm⟩
    rcases ih' h' with ⟨values'', h'', hperm'⟩
    exact ⟨values'', h'', hperm.trans hperm'⟩

/-- Where the fields load from one object they load from another, to a value
    that stands in a relation to the first. -/
def Fields.Loads {α : Type} (fields : Fields α) (given given' : List (String × JsonValue))
    (related : α → α → Prop) : Prop :=
  ∀ a, (fields.load fun key => given.lookup key) = some a →
    ∃ a', (fields.load fun key => given'.lookup key) = some a' ∧ related a a'

namespace Fields

variable {α β : Type} {given given' : List (String × JsonValue)}

variable {key : String} {codec : Codec α} {missing : Option α} {rest : Fields β}

/-- A field loads what its key holds, or what it takes when the key is missing. -/
theorem load_field {look : String → Option JsonValue} {a : α} {b : β} :
    (field key codec missing rest).load look = some (a, b) ↔
      (look key).elim missing codec.load = some a ∧ rest.load look = some b := by
  simp [field, Option.bind_eq_some_iff]

theorem loads_nil : nil.Loads given given' fun _ _ => True :=
  fun a _ => ⟨a, rfl, trivial⟩

variable {relatedRest : β → β → Prop}

/-- One field more: its own values are related, and those of the rest are. -/
theorem loads_field {related : α → α → Prop}
    (hhead : ∀ a, (given.lookup key).elim missing codec.load = some a →
      ∃ a', (given'.lookup key).elim missing codec.load = some a' ∧ related a a')
    (hrest : rest.Loads given given' relatedRest) :
    (field key codec missing rest).Loads given given' fun a a' =>
      related a.1 a'.1 ∧ relatedRest a.2 a'.2 := by
  rintro ⟨head, tail⟩ h
  rcases load_field.mp h with ⟨hload, hloadRest⟩
  rcases hhead _ hload with ⟨head', hload', hrelated⟩
  rcases hrest _ hloadRest with ⟨tail', hloadRest', hrelatedRest⟩
  exact ⟨(head', tail'), load_field.mpr ⟨hload', hloadRest'⟩, hrelated, hrelatedRest⟩

/-- A field whose key holds the same in both objects loads the same. -/
theorem loads_same (h : given'.lookup key = given.lookup key)
    (hrest : rest.Loads given given' relatedRest) :
    (field key codec missing rest).Loads given given' fun a a' =>
      a.1 = a'.1 ∧ relatedRest a.2 a'.2 :=
  loads_field (fun a ha => ⟨a, by rw [h, ha], rfl⟩) hrest

end Fields

/-- Under distinct keys the lookup of a field's key finds that field. -/
theorem lookup_of_nodup {fields : List (String × JsonValue)} (h : (fields.map Prod.fst).Nodup)
    {field : String × JsonValue} (hfield : field ∈ fields) :
    fields.lookup field.1 = some field.2 := by
  induction fields with
  | nil => exact absurd hfield not_mem_nil
  | cons head rest ih =>
    rw [map_cons, nodup_cons] at h
    rw [lookup_cons]
    rcases mem_cons.mp hfield with rfl | hrest
    · simp
    · have hne : field.1 ≠ head.1 := by
        intro heq
        exact h.1 (heq ▸ mem_map_of_mem hrest)
      rw [beq_false_of_ne hne]
      exact ih h.2 hrest

/-- A record: an object that holds nothing but its fields. -/
def Codec.object {α : Type} (fields : Fields α) (h : fields.keys.Nodup) : Codec α where
  dump a := .object (fields.dump a)
  load v := do
    let given ← v.fields?
    if given.all fun field => field.1 ∈ fields.keys then
      fields.load fun key => given.lookup key
    else none
  load_dump a := by
    have hknown : ((fields.dump a).all fun field => field.1 ∈ fields.keys) = true := by
      rw [all_eq_true]
      intro field hfield
      rw [decide_eq_true_eq, ← fields.dump_keys a]
      exact mem_map_of_mem hfield
    have hload : (fields.load fun key => (fields.dump a).lookup key) = some a :=
      fields.load_dump a _ fun field hfield =>
        lookup_of_nodup ((fields.dump_keys a).symm ▸ h) hfield
    simp [JsonValue.fields?, hknown, hload]

/-- A record loads from an object of known keys from which its fields load. -/
theorem Codec.object_load {α : Type} {fields : Fields α} {h : fields.keys.Nodup}
    {given : List (String × JsonValue)} {a : α} :
    (Codec.object fields h).load (.object given) = some a ↔
      (∀ field ∈ given, field.1 ∈ fields.keys) ∧
        (fields.load fun key => given.lookup key) = some a := by
  have hload : (Codec.object fields h).load (.object given) =
      if given.all fun field => field.1 ∈ fields.keys then
        fields.load fun key => given.lookup key
      else none := rfl
  rw [hload]
  split
  · rename_i hknown
    simp only [all_eq_true, decide_eq_true_eq] at hknown
    exact (and_iff_right hknown).symm
  · rename_i hknown
    simp only [all_eq_true, decide_eq_true_eq] at hknown
    simp only [reduceCtorEq, false_iff, not_and]
    exact fun hall => absurd hall hknown

end NovelAgent.Core
