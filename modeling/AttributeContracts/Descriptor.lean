/-
# Type descriptors

The declared type of an attribute, as a closed set of forms over strings,
numbers, booleans, classes with an optional bound, enumerations, constraints of
an optional type name, and arrays. Assignability compares two descriptors
without looking at any value; the guard that looks at values is a separate
definition, so that the two can be compared.
-/

import AttributeContracts.ClassRef

namespace AttributeContracts

/-- The declared type of an attribute. -/
inductive Descriptor where
  | string
  | number
  | boolean
  /-- A class, optionally a subclass of the bound. -/
  | classOf (bound? : Option ClassRef)
  /-- One of some texts; the enumeration has a name of its own. -/
  | enumOf (name : String) (values : List String)
  /-- A constraint, optionally of the named constraint type. -/
  | constraint (typeName? : Option String)
  | arrayOf (component : Descriptor)
deriving DecidableEq, Repr

namespace Descriptor

/-- How a type is called in messages. -/
def displayName : Descriptor → String
  | .string => "string"
  | .number => "number"
  | .boolean => "boolean"
  | .classOf none => "Class<?>"
  | .classOf (some bound) => "Class<? extends " ++ bound.name ++ ">"
  | .enumOf name _ => name
  | .constraint none => "Constraint"
  | .constraint (some typeName) => typeName
  | .arrayOf component => component.displayName ++ "[]"

def isArray : Descriptor → Bool
  | .arrayOf _ => true
  | _ => false

/-- Whether a value declared as the first type may stand where the second is
expected. An absent bound or type name accepts everything of its form; an
enumeration accepts another of its own name with no further values; arrays
follow their components. -/
def isAssignable : Descriptor → Descriptor → Bool
  | .string, .string => true
  | .number, .number => true
  | .boolean, .boolean => true
  | .classOf _, .classOf none => true
  | .classOf (some found), .classOf (some bound) => found.isSubclassOf bound
  | .enumOf found values, .enumOf expected allowed =>
      found = expected && values.all allowed.contains
  | .constraint _, .constraint none => true
  | .constraint (some found), .constraint (some expected) => found = expected
  | .arrayOf found, .arrayOf expected => found.isAssignable expected
  | _, _ => false

end Descriptor

end AttributeContracts
