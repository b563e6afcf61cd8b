/-
# Guards

Whether a value is an instance of a declared type. The guard is written apart
from assignability: this one inspects values, that one compares declarations.

A record that is taken for a constraint has no constraint type to answer with,
so asking it for its type's name is a misuse. That is the only way in which a
guard can fail instead of answering. The guard of an array passes over holes.
-/

import AttributeContracts.Failure
import AttributeContracts.Value.Recognition

namespace AttributeContracts

namespace Value

/-- The constraint type a value answers with. A plain function in its place
answers nothing; a class cannot be called. -/
def annotationType? : Value → Except Failure (Option ConstraintType)
  | .constraint c => if c.offers .annotationType then .ok (some c.type) else .error .misuse
  | .record _ _ members =>
      match Members.find? members Method.annotationType.name with
      | some (.function ..) => .ok none
      | _ => .error .misuse
  | _ => .error .misuse

end Value

namespace Descriptor

/-- Whether a value is an instance of a declared type. What is in an array is
tried in order until something is refused. -/
def accepts : Descriptor → Value → Except Failure Bool
  | .string, .text _ => .ok true
  | .number, .number _ => .ok true
  | .boolean, .bool _ => .ok true
  | .classOf none, .classRef _ => .ok true
  | .classOf (some bound), .classRef c => .ok (c.isSubclassOf bound)
  | .enumOf _ values, .text s => .ok (values.contains s)
  | .constraint none, value => .ok value.isConstraintLike
  | .constraint (some typeName), value =>
      if value.isConstraintLike then
        match value.annotationType? with
        | .ok (some type) => .ok (type.name = typeName)
        | .ok none => .error .misuse
        | .error failure => .error failure
      else .ok false
  | .arrayOf component, .array elements => (Value.present elements).allM component.accepts
  | _, _ => .ok false

end Descriptor

end AttributeContracts
