/-
# Accessors

The accessors of a constraint type: one per declared name, with the declared
type and default. A snapshot lists all of them in the order of enumeration; a
single one is found by its name. Only own declarations count, never the members
that every record has.
-/

import AttributeContracts.Value

namespace AttributeContracts

/-- One accessor of a constraint type. Without a declared default its default is
`undefined`. -/
structure Accessor where
  name : String
  type : Descriptor
  defaultValue : Value

namespace Accessor

/-- The accessor that a definition gives under a name. -/
def ofDefinition (name : String) (definition : AttributeDefinition) : Accessor :=
  ⟨name, definition.type, definition.defaultValue⟩

end Accessor

namespace ConstraintType

/-- Every declared accessor, in the order of enumeration. -/
def accessors (type : ConstraintType) : List Accessor :=
  (Members.enumerate type.definitions).map fun member => .ofDefinition member.1 member.2

/-- The accessor of one name, if the type declares it. -/
def accessor? (type : ConstraintType) (name : String) : Option Accessor :=
  (type.definition? name).map (.ofDefinition name)

end ConstraintType

end AttributeContracts
