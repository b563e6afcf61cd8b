/-
# Reading a constraint

The three questions a constraint answers: its type, its attribute names and the
value of one attribute. A synthesized constraint checks the stored value against
the declared type each time it is read, so an ill-typed value can be stored,
shown and compared but not read. The markers and hand-written constraints give
what they have without a check.
-/

import AttributeContracts.Failure.Message
import AttributeContracts.Guard

namespace AttributeContracts

/-- The members that every record has without declaring them. -/
def sharedMember? (name : String) : Option Value :=
  let functions :=
    ["toString", "toLocaleString", "valueOf", "hasOwnProperty", "isPrototypeOf",
      "propertyIsEnumerable", "__defineGetter__", "__defineSetter__",
      "__lookupGetter__", "__lookupSetter__"]
  if name = "__proto__" then some (.record (.named name) false [])
  else if name = "constructor" then some (.classRef .object)
  else if functions.contains name then some (.function (.named name) name)
  else none

namespace Constraint

/-- The constraint type a constraint answers with. -/
def annotationType (c : Constraint) : Except Failure ConstraintType :=
  if c.offers .annotationType then .ok c.type else .error .misuse

/-- The attribute names a constraint lists: its own list if it was written by
hand with one, else what its type declares. -/
def attributeNames (c : Constraint) : Except Failure (List String) :=
  if c.offers .attributeNames then
    match c with
    | .literal _ _ _ (some names) _ _ => .ok names
    | _ => .ok c.type.attributeNames
  else .error .misuse

/-- The failure of reading a stored value that has not the declared type. -/
def illTyped (type : ConstraintType) (name : String) (value : Value) : Failure :=
  .unfit name value ("Invalid '" ++ name ++ "' value for " ++ type.name ++ ": ")

/-- The value of one attribute. The group conversion keeps its two ends in a
record and answers for any member of it. -/
def valueOf (c : Constraint) (name : String) : Except Failure Value :=
  match c with
  | .synthesized _ type values =>
      match type.definition? name with
      | none => .error (.unknownAttribute type.name name)
      | some definition => do
          let value := Value.stored values name
          if ← definition.type.accepts value then .ok value
          else .error (illTyped type name value)
  | .valid => .error (.unknownAttribute ConstraintType.valid.name name)
  | .convertGroup _ source target =>
      if name = "from" then .ok source
      else if name = "to" then .ok target
      else .ok ((sharedMember? name).getD .undefined)
  | .literal _ _ answers _ _ _ =>
      if c.offers .attribute then
        match Members.find? answers name with
        | some (.returns value) => .ok value
        | some (.raises message) => .error (.scripted message)
        | some (.throws value) => .error (.thrown value)
        | none => .ok .undefined
      else .error .misuse

end Constraint

namespace Value

/-- The attribute names of a value that is taken for a constraint. -/
def attributeNames : Value → Except Failure (List String)
  | .constraint c => c.attributeNames
  | _ => .error .misuse

/-- An attribute of a value that is taken for a constraint. -/
def valueOf : Value → String → Except Failure Value
  | .constraint c, name => c.valueOf name
  | _, _ => .error .misuse

end Value

end AttributeContracts
