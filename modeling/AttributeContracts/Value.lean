/-
# Attribute values, constraints and constraint types

An attribute may hold anything a host program can hand in, so values are one
dynamic type: plain data, functions, classes, records, other objects known only
by a tag, arrays, and constraints. A constraint carries its type, and a
constraint type carries the definitions of its attributes with their defaults,
which are values again. The four notions are therefore defined together.

An array may have holes, positions that count for its length and hold nothing.
What goes through an array from element to element passes over them; what asks
for a position finds `undefined` there, and so does what copies an array.

Everything that has an identity of its own carries it as a field. Sameness of
two values is then nothing but equality, decided in the module on sameness, and
no table of live objects is needed to say what a comparison means.
-/

import AttributeContracts.Descriptor
import AttributeContracts.Members
import AttributeContracts.Numeral.Text

namespace AttributeContracts

/-- The methods by which a constraint is recognised. -/
inductive Method where
  | annotationType
  | attribute
  | attributeNames
deriving DecidableEq, Repr

mutual

/-- What an attribute may hold. -/
inductive Value where
  | undefined
  | null
  | bool (b : Bool)
  | number (n : Double)
  | bigint (n : Int)
  | text (s : String)
  /-- A function that is not a class. -/
  | function (identity : Identity) (name : String)
  | classRef (c : ClassRef)
  /-- A plain record. A bare one does not inherit the members that others have. -/
  | record (identity : Identity) (bare : Bool) (members : List (String × Value))
  /-- An object of which only its tag is known. -/
  | tagged (identity : Identity) (tag : String)
  /-- An array, with nothing at each of its holes. -/
  | array (elements : List (Option Value))
  | constraint (c : Constraint)

/-- A constraint: made by the builder, one of the two markers, or written by
hand. -/
inductive Constraint where
  /-- Synthesized from resolved attribute values. -/
  | synthesized (identity : Identity) (type : ConstraintType) (values : List (String × Value))
  /-- Marks a property for cascaded validation. -/
  | valid
  /-- Converts the validated group when cascading. -/
  | convertGroup (identity : Identity) (source target : Value)
  /-- Written by hand: its answers are scripted, its text included, it may list
  other names than its type declares, and it may lack methods. -/
  | literal (identity : Identity) (type : ConstraintType) (answers : List (String × Answer))
      (names? : Option (List String)) (wording : Answer) (missing : List Method)

/-- What a hand-written constraint does when it is asked for an attribute or for
its text. -/
inductive Answer where
  | returns (value : Value)
  | raises (message : String)
  /-- Throws a value that need not be an error. -/
  | throws (value : Value)

/-- A named set of attribute definitions, as they were given. -/
structure ConstraintType where
  identity : Identity
  name : String
  definitions : List (String × AttributeDefinition)

/-- The declared type of an attribute and the default it declares, if any. -/
structure AttributeDefinition where
  type : Descriptor
  default? : Option Value

end

namespace Value

/-- The array of some values, without holes. -/
def arrayOf (values : List Value) : Value := .array (values.map some)

/-- The values in an array, without its holes. -/
def present (elements : List (Option Value)) : List Value := elements.filterMap id

@[simp] theorem mem_present {value : Value} {elements : List (Option Value)} :
    value ∈ present elements ↔ some value ∈ elements := by
  simp [present]

@[simp] theorem present_map_some (values : List Value) : present (values.map some) = values := by
  simp [present]

/-- What is found at a position of an array. -/
def atPosition (element? : Option Value) : Value := element?.getD .undefined

/-- Whether a value is an object, functions included. -/
def isObject : Value → Bool
  | .undefined | .null | .bool _ | .number _ | .bigint _ | .text _ => false
  | _ => true

/-- Whether a value is an array with holes of its own. Holes of arrays inside it
do not count. -/
def hasHoles : Value → Bool
  | .array elements => elements.any Option.isNone
  | _ => false

/-- The copy of a value that a constraint keeps. An array is copied position by
position, which leaves it without holes. -/
def kept : Value → Value
  | .array elements => arrayOf (elements.map atPosition)
  | value => value

theorem kept_of_not_hasHoles {value : Value} (dense : value.hasHoles = false) :
    value.kept = value := by
  cases value with
  | array elements =>
      have filled : ∀ element? ∈ elements, some (atPosition element?) = id element? := by
        intro element? listed
        cases element? with
        | none =>
            have holed : elements.any Option.isNone = true := List.any_eq_true.2 ⟨_, listed, rfl⟩
            exact absurd (holed.symm.trans dense) (by decide)
        | some element => rfl
      rw [kept, arrayOf, List.map_map]
      exact congrArg Value.array ((List.map_congr_left filled).trans (List.map_id elements))
  | _ => rfl

end Value

namespace AttributeDefinition

/-- A definition whose default is a given value, where `undefined` means that
none is declared. -/
def declare (type : Descriptor) : Value → AttributeDefinition
  | .undefined => ⟨type, none⟩
  | value => ⟨type, some value⟩

/-- The declared default, `undefined` when there is none. -/
def defaultValue (definition : AttributeDefinition) : Value :=
  definition.default?.getD .undefined

end AttributeDefinition

namespace ConstraintType

/-- Whether a type declares an attribute of its own under a name. -/
def declares (type : ConstraintType) (name : String) : Bool :=
  Members.declares type.definitions name

/-- The definition of an attribute: the last one given for its name. -/
def definition? (type : ConstraintType) (name : String) : Option AttributeDefinition :=
  Members.find? type.definitions name

/-- The declared names in the order of enumeration. -/
def attributeNames (type : ConstraintType) : List String :=
  Members.names type.definitions

/-- The part of a qualified name after its last dot. -/
def simpleName (type : ConstraintType) : String :=
  String.ofList (type.name.toList.reverse.takeWhile (· ≠ '.')).reverse

/-- The type of the cascade marker, which declares nothing. -/
def valid : ConstraintType := ⟨.named "validation.Valid", "validation.Valid", []⟩

/-- The type of the group conversion marker: two classes without defaults. -/
def convertGroup : ConstraintType where
  identity := .named "validation.groups.ConvertGroup"
  name := "validation.groups.ConvertGroup"
  definitions :=
    [("from", ⟨.classOf none, none⟩), ("to", ⟨.classOf none, none⟩)]

end ConstraintType

/-- A synthesized constraint that keeps copies of some values. -/
def Constraint.ofValues (identity : Identity) (type : ConstraintType)
    (values : List (String × Value)) : Constraint :=
  .synthesized identity type (values.map fun member => (member.1, member.2.kept))

end AttributeContracts
