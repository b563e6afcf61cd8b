/-
# Well-known attributes

The attributes that every constraint type may carry. The set is closed: message,
groups and payload have to declare defaults; the validation target and the slot
of multi-valued containers may do without.

A kind knows the name and the type of its attribute. It puts values into an
attribute map without a check and takes them out with one.
-/

import AttributeContracts.Attribute.Map
import AttributeContracts.Failure.Message
import AttributeContracts.Guard

namespace AttributeContracts

/-- A well-known attribute. -/
structure AttributeKind where
  attributeName : String
  type : Descriptor
  permitsEmptyDefault : Bool
deriving DecidableEq, Repr

namespace AttributeKind

/-- What a constraint applies to. -/
def validationTargets : List String := ["IMPLICIT", "RETURN_VALUE", "PARAMETERS"]

def message : AttributeKind := ⟨"message", .string, false⟩
def groups : AttributeKind := ⟨"groups", .arrayOf (.classOf none), false⟩
def payload : AttributeKind := ⟨"payload", .arrayOf (.classOf (some .payload)), false⟩
def validationAppliesTo : AttributeKind :=
  ⟨"validationAppliesTo", .enumOf "ConstraintTarget" validationTargets, true⟩
def value : AttributeKind := ⟨"value", .arrayOf (.constraint none), true⟩

/-- Every kind, in the order in which they are listed and checked. -/
def all : List AttributeKind := [message, groups, payload, validationAppliesTo, value]

/-- The kind of a name. -/
def forName? (name : String) : Option AttributeKind :=
  all.find? fun kind => kind.attributeName = name

/-- Whether a name is that of a well-known attribute. -/
def isWellKnown (name : String) : Bool := (forName? name).isSome

/-- Puts a value under the kind's name and answers the value it replaces. -/
def put (kind : AttributeKind) (map : AttributeMap) (value : Value) :
    Option Value × AttributeMap :=
  (map.get? kind.attributeName, map.put kind.attributeName value)

/-- A value that has the kind's type, or the failure that it has not. -/
def check (kind : AttributeKind) (value : Value) : Except Failure Value := do
  if ← kind.type.accepts value then pure value
  else throw (.unfit kind.attributeName value ("Invalid '" ++ kind.attributeName ++ "' value: "))

/-- The kind's value in a map. An absent name gives none. -/
def get (kind : AttributeKind) (map : AttributeMap) : Except Failure (Option Value) :=
  match map.get? kind.attributeName with
  | none => pure none
  | some value => some <$> kind.check value

/-- The kind's value in a map, which has to be there. -/
def require (kind : AttributeKind) (map : AttributeMap) : Except Failure Value :=
  match map.get? kind.attributeName with
  | none =>
      throw (.schemaViolation kind.attributeName .undefined
        ("Missing '" ++ kind.attributeName ++ "' value"))
  | some value => kind.check value

end AttributeKind

end AttributeContracts
