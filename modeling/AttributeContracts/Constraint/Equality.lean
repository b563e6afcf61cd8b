/-
# Structural equality

Two values are equal when they are the same, when they are arrays with equal
elements, or when they are constraints of one type whose attributes, as the
left one lists them, read as equal values. Reading can fail, so comparing can
fail too; it stops at the first difference. The holes of a left array are passed
over, whatever the right one has there, while a hole of a right array counts as
`undefined`.

A synthesized constraint has a comparison of its own that takes the left values
as they are stored and reads only the right ones.
-/

import AttributeContracts.Constraint.Reading
import AttributeContracts.Value.Sameness

namespace AttributeContracts

mutual

/-- Whether a value equals another one. -/
def Value.equalTo (a b : Value) : Except Failure Bool :=
  if a = b then .ok true
  else
    match a with
    | .array xs =>
        match b with
        | .array ys =>
            if xs.length = ys.length then Value.elementsEqualTo xs ys else .ok false
        | _ => .ok false
    | .constraint c =>
        if (Value.constraint c).isConstraint && b.isConstraint then do
          let left ← (Value.constraint c).annotationType?
          let right ← b.annotationType?
          if left = right then
            let names ← c.attributeNames
            let comparisons := c.comparisons
            names.allM fun name => do
              let mine ← c.valueOf name
              let theirs ← b.valueOf name
              match Members.find? comparisons name with
              | some compare => compare theirs
              | none => .ok (mine = theirs)
          else .ok false
        else .ok false
    | .record identity bare members =>
        if (Value.record identity bare members).isConstraint && b.isConstraint then do
          let left ← (Value.record identity bare members).annotationType?
          let right ← b.annotationType?
          if left = right then .error .misuse else .ok false
        else .ok false
    | _ => .ok false
termination_by structural a

/-- Compares the elements of two arrays of one length. -/
def Value.elementsEqualTo (xs ys : List (Option Value)) : Except Failure Bool :=
  match xs with
  | [] => .ok true
  | none :: xs =>
      match ys with
      | [] => .ok true
      | _ :: ys => Value.elementsEqualTo xs ys
  | some x :: xs =>
      match ys with
      | [] => .ok true
      | y :: ys => do
          if ← x.equalTo (Value.atPosition y) then Value.elementsEqualTo xs ys else .ok false
termination_by structural xs

/-- How each value that a constraint holds compares with another one. -/
def Constraint.comparisons (c : Constraint) : Members (Value → Except Failure Bool) :=
  match c with
  | .synthesized _ _ values => Value.memberComparisons values
  | .valid => []
  | .convertGroup _ source target =>
      [("from", fun other => source.equalTo other), ("to", fun other => target.equalTo other)]
  | .literal _ _ answers _ _ _ => Answer.memberComparisons answers
termination_by structural c

def Value.memberComparisons (values : List (String × Value)) :
    Members (Value → Except Failure Bool) :=
  match values with
  | [] => []
  | (name, value) :: rest =>
      (name, fun other => value.equalTo other) :: Value.memberComparisons rest
termination_by structural values

def Answer.memberComparisons (answers : List (String × Answer)) :
    Members (Value → Except Failure Bool) :=
  match answers with
  | [] => []
  | (name, answer) :: rest => (name, answer.comparison) :: Answer.memberComparisons rest
termination_by structural answers

/-- How the answer of a hand-written constraint compares; one that fails has
been noticed when it was read. -/
def Answer.comparison (answer : Answer) : Value → Except Failure Bool :=
  match answer with
  | .returns value => fun other => value.equalTo other
  | .raises message => fun _ => .error (.scripted message)
  | .throws value => fun _ => .error (.thrown value)
termination_by structural answer

end

namespace Constraint

/-- Whether a synthesized constraint equals a value: they are the same, or the
value is a constraint of the same type whose attributes read as equal to the
stored ones. No other constraint can be asked. -/
def equals (c : Constraint) (other : Value) : Except Failure Bool :=
  match c with
  | .synthesized _ type values =>
      if other = .constraint c then .ok true
      else if other.isConstraint then do
        let found ← other.annotationType?
        if found = some type then
          type.attributeNames.allM fun name => do
            let theirs ← other.valueOf name
            (Value.stored values name).equalTo theirs
        else .ok false
      else .ok false
  | _ => .error .misuse

end Constraint

end AttributeContracts
