/-
# Subclass questions about arbitrary values

Two classes are compared by their chains. The question can also be put to values
that are no classes. A value is below itself even then, where identity of
numbers goes by value: not-a-number is not below itself, and the zeros are below
each other. Otherwise the left value must lead instances of its own, which only a
class does, or a record with an object under the name for it. Two arrays are two
things even when their elements agree.
-/

import AttributeContracts.Guard
import AttributeContracts.Value.Sameness

namespace AttributeContracts

namespace Value

/-- Identity of values, with numbers compared by value and no two arrays alike. -/
def identicalTo : Value → Value → Bool
  | .number .nan, .number .nan => false
  | .number (.finite _ 0 _), .number (.finite _ 0 _) => true
  | .array _, .array _ => false
  | a, b => a = b

/-- Whether a value leads instances of its own. -/
def leadsInstances : Value → Bool
  | .classRef _ => true
  | .record _ _ members => (Members.find? members "prototype").any isObject
  | _ => false

/-- Whether a value is another one or a class below it. Asking an absent value,
or asking about a base that cannot be called, is a misuse, and so is asking
something that leads instances about a function that leads none. -/
def isSubclassOf (candidate base : Value) : Except Failure Bool :=
  if candidate.identicalTo base then .ok true
  else
    match candidate, base with
    | .undefined, _ => .error .misuse
    | .null, _ => .error .misuse
    | .classRef c, .classRef bound => .ok (c.isSubclassOf bound)
    | _, .classRef _ => .ok false
    | _, .function .. => if candidate.leadsInstances then .error .misuse else .ok false
    | _, _ => .error .misuse

/-- On classes the question is the one about their chains. -/
theorem isSubclassOf_classRef (c bound : ClassRef) :
    (Value.classRef c).isSubclassOf (.classRef bound) = .ok (c.isSubclassOf bound) := by
  unfold isSubclassOf
  split
  · next same =>
      have : c = bound := by simpa [identicalTo] using same
      simp [this]
  · rfl

end Value

end AttributeContracts
