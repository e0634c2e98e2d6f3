import NovelAgent.World.Records

/-!
# The Predicate Registry

The relations the world may hold, and which entities each may stand between.
-/

namespace NovelAgent.World

open Core Domain

/-- How many objects are allowed. -/
inductive PredicateMultiplicity
  | many
  | oneObjectPerSubject
deriving DecidableEq

/-- Which way a state points. -/
inductive StateRelationDirection
  | subjectToObject
  | objectToSubject
deriving DecidableEq

/-- A relation of the vocabulary. -/
structure PredicateDefinition where
  predicate : String
  multiplicity : PredicateMultiplicity
  allowedSubjectTypes : List String
  allowedObjectTypes : List String

/-- A state that says a relation. -/
structure StateRelationRule where
  statePredicate : String
  relationPredicate : String
  direction : StateRelationDirection

namespace PredicateRegistry

def anyTypes : List String := ["*"]

def characterTypes : List String := ["character", "person"]

def creatureTypes : List String := ["creature", "animal", "beast"]

def placeTypes : List String := ["location", "organization", "setting"]

def objectTypes : List String := ["artifact", "item", "object", "location", "organization"]

/-- Every relation of the vocabulary may have any number of objects. -/
def definition (predicate : String) (subjectTypes objectTypes : List String) :
    PredicateDefinition where
  predicate := predicate
  multiplicity := .many
  allowedSubjectTypes := subjectTypes
  allowedObjectTypes := objectTypes

/-- The vocabulary. -/
def definitions : List PredicateDefinition :=
  [definition "affiliated_with" anyTypes anyTypes,
    definition "member_of" characterTypes placeTypes,
    definition "enrolled_in" characterTypes placeTypes,
    definition "mentor_of" characterTypes characterTypes,
    definition "teacher_of" characterTypes characterTypes,
    definition "travels_with" characterTypes characterTypes,
    definition "mounts" characterTypes creatureTypes,
    definition "protects" characterTypes anyTypes,
    definition "opposes" anyTypes anyTypes,
    definition "possesses" anyTypes objectTypes,
    definition "owns" anyTypes objectTypes,
    definition "transfers_to" anyTypes anyTypes,
    definition "knows_about" characterTypes anyTypes,
    definition "hides_from" anyTypes anyTypes,
    definition "discloses_to" anyTypes anyTypes,
    definition "promised_to" characterTypes anyTypes,
    definition "owes" anyTypes anyTypes,
    definition "located_at" anyTypes placeTypes,
    definition "resides_at" characterTypes placeTypes]

/-- The states that say a relation. -/
def stateRules : List StateRelationRule :=
  [⟨"affiliation", "affiliated_with", .subjectToObject⟩,
    ⟨"member_of", "member_of", .subjectToObject⟩,
    ⟨"enrollment_status", "enrolled_in", .subjectToObject⟩,
    ⟨"mentor", "mentor_of", .objectToSubject⟩,
    ⟨"teacher", "teacher_of", .objectToSubject⟩,
    ⟨"teaches", "teacher_of", .subjectToObject⟩,
    ⟨"travel_companion", "travels_with", .subjectToObject⟩,
    ⟨"protects", "protects", .subjectToObject⟩,
    ⟨"opposes", "opposes", .subjectToObject⟩,
    ⟨"possesses", "possesses", .subjectToObject⟩,
    ⟨"owns", "owns", .subjectToObject⟩,
    ⟨"is_owner_of", "owns", .subjectToObject⟩,
    ⟨"transfers_to", "transfers_to", .subjectToObject⟩,
    ⟨"knows_about", "knows_about", .subjectToObject⟩,
    ⟨"hides_from", "hides_from", .subjectToObject⟩,
    ⟨"discloses_to", "discloses_to", .subjectToObject⟩,
    ⟨"promised_to", "promised_to", .subjectToObject⟩,
    ⟨"owes", "owes", .subjectToObject⟩,
    ⟨"location", "located_at", .subjectToObject⟩,
    ⟨"residence", "resides_at", .subjectToObject⟩]

/-- The rule of a state that says a relation. -/
def stateRule (statePredicate : String) : Option StateRelationRule :=
  stateRules.find? fun rule => rule.statePredicate = statePredicate

/-- The definition of a predicate. -/
def require (predicate : String) : Except String PredicateDefinition :=
  match definitions.find? fun definition => definition.predicate = predicate with
  | none => .error ("predicate is not registered: " ++ predicate)
  | some definition => .ok definition

def typeAllowed (entityType : String) (allowed : List String) : Bool :=
  "*" ∈ allowed || entityType ∈ allowed

/-- A predicate may stand between two types. -/
def validateEntityTypes (predicate subjectType objectType : String) : Except String Unit := do
  let definition ← require predicate
  if !typeAllowed subjectType definition.allowedSubjectTypes then
    throw ("predicate " ++ predicate ++ " rejects subject type " ++ subjectType)
  if !typeAllowed objectType definition.allowedObjectTypes then
    throw ("predicate " ++ predicate ++ " rejects object type " ++ objectType)

theorem stateRule_relationPredicate_ne {statePredicate : String} {rule : StateRelationRule}
    (h : stateRule statePredicate = some rule) : rule.relationPredicate ≠ "" := by
  have hall : (stateRules.all fun rule => rule.relationPredicate ≠ "") = true := by decide
  simpa using List.all_eq_true.mp hall rule (List.mem_of_find?_eq_some h)

end PredicateRegistry

end NovelAgent.World
