import Mathlib.Data.List.Sort
import NovelAgent.Core.Codec

/-!
# Comparing and Updating JSON Values

Documents are compared the way the language compares them: a truth value is a
number, a float may equal an integer, and a field that is missing is null.
-/

namespace NovelAgent.Core.JsonValue

/-- The integer that a float literal stands for, if its fraction is zero. -/
def wholeFloat? (literal : String) : Option Int :=
  let digits := literal.toList
  if digits.drop (digits.length - 2) = ['.', '0'] then
    (String.ofList (digits.take (digits.length - 2))).toInt?
  else none

mutual

/-- A document with every number that is an integer written as one. -/
def numbers : JsonValue → JsonValue
  | .bool value => .int (if value then 1 else 0)
  | .float literal => ((wholeFloat? literal).map JsonValue.int).getD (.float literal)
  | .array items => .array (numbersItems items)
  | .object fields => .object (numbersFields fields)
  | document => document

def numbersItems : List JsonValue → List JsonValue
  | [] => []
  | item :: items => numbers item :: numbersItems items

def numbersFields : List (String × JsonValue) → List (String × JsonValue)
  | [] => []
  | (key, value) :: fields => (key, numbers value) :: numbersFields fields

end

/-- Documents that compare as equal. -/
def same (a b : JsonValue) : Bool := a.numbers = b.numbers

/-- Fields compare as equal, where a missing one is null. -/
def sameField (a b : Option JsonValue) : Bool :=
  (a.getD .null).same (b.getD .null)

/-- A document with another value under a key. -/
def set (document : JsonValue) (key : String) (value : JsonValue) : JsonValue :=
  match document with
  | .object fields =>
    if fields.any fun field => field.1 = key then
      .object (fields.map fun field => if field.1 = key then (key, value) else field)
    else .object (fields.orderedInsert (fun a b => a.1 ≤ b.1) (key, value))
  | document => document

/-- The integer of a document. A truth value is one. -/
def int? : JsonValue → Option Int
  | .int value => some value
  | .bool value => some (if value then 1 else 0)
  | _ => none

/-- A document read as a text. -/
def text : JsonValue → String
  | .string value => value
  | .null => "None"
  | .bool true => "True"
  | .bool false => "False"
  | document => document.render

section Set

variable {key : String} {value : JsonValue} {fields : List (String × JsonValue)}

theorem set_of_mem (h : (fields.lookup key).isSome) :
    (JsonValue.object fields).set key value =
      .object (fields.map fun field => if field.1 = key then (key, value) else field) := by
  have hany : (fields.any fun field => field.1 = key) = true := by
    rw [List.any_eq_true]
    rcases List.lookup_isSome_iff.mp h with ⟨field, hfield, hkey⟩
    have heq : key = field.1 := by simpa using hkey
    exact ⟨field, hfield, by simp [heq]⟩
  rw [set, if_pos hany]

theorem lookup_map_set (other : String) :
    (fields.map fun field => if field.1 = key then (key, value) else field).lookup other =
      if other = key then (fields.lookup key).map fun _ => value else fields.lookup other := by
  induction fields with
  | nil => simp
  | cons field fields ih =>
    rcases field with ⟨name, old⟩
    rw [List.map_cons, List.lookup_cons, List.lookup_cons]
    by_cases hname : name = key
    · subst hname
      by_cases hother : other = name
      · simp [hother]
      · simp [hother, ih, List.lookup_cons, beq_false_of_ne hother]
    · by_cases hother : other = key
      · subst hother
        simp [hname, ih, beq_false_of_ne (Ne.symm hname)]
      · simp [hname, hother, ih, List.lookup_cons]

/-- What is found after an update. -/
theorem get?_set {document : JsonValue} (h : (document.get? key).isSome) (other : String) :
    (document.set key value).get? other =
      if other = key then some value else document.get? other := by
  cases document with
  | object fields =>
    have hlookup : (fields.lookup key).isSome := h
    rw [set_of_mem hlookup]
    change (fields.map _).lookup other = if other = key then _ else fields.lookup other
    rw [lookup_map_set]
    rcases Option.isSome_iff_exists.mp hlookup with ⟨old, hold⟩
    rw [hold, Option.map_some]
  | null => exact absurd h (by simp [get?, fields?])
  | bool value => exact absurd h (by simp [get?, fields?])
  | int value => exact absurd h (by simp [get?, fields?])
  | float literal => exact absurd h (by simp [get?, fields?])
  | string value => exact absurd h (by simp [get?, fields?])
  | array items => exact absurd h (by simp [get?, fields?])

end Set

end NovelAgent.Core.JsonValue
