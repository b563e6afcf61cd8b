/-
# Sameness of values

Two values are the same when they are equal: identities are part of the values
that have one, arrays are compared by what they hold at each position, and
numbers are kept in canonical form, so not-a-number is the same as itself and the two zeros differ.
The comparison looks at identities first, which settles almost every case, and
this module proves that it decides equality.
-/

import AttributeContracts.Value

namespace AttributeContracts

mutual

/-- Compares two values, identities first. -/
def Value.same : Value → Value → Bool
  | .undefined, .undefined => true
  | .null, .null => true
  | .bool a, .bool b => a = b
  | .number a, .number b => a = b
  | .bigint a, .bigint b => a = b
  | .text a, .text b => a = b
  | .function i a, .function j b => i = j && a = b
  | .classRef a, .classRef b => a = b
  | .record i a xs, .record j b ys => i = j && a = b && Value.sameMembers xs ys
  | .tagged i a, .tagged j b => i = j && a = b
  | .array xs, .array ys => Value.sameElements xs ys
  | .constraint a, .constraint b => a.same b
  | _, _ => false
termination_by structural x => x

def Value.sameElements : List (Option Value) → List (Option Value) → Bool
  | [], [] => true
  | none :: xs, none :: ys => Value.sameElements xs ys
  | some x :: xs, some y :: ys => x.same y && Value.sameElements xs ys
  | _, _ => false
termination_by structural x => x

def Value.sameMembers : List (String × Value) → List (String × Value) → Bool
  | [], [] => true
  | (m, x) :: xs, (n, y) :: ys => m = n && x.same y && Value.sameMembers xs ys
  | _, _ => false
termination_by structural x => x

def Constraint.same : Constraint → Constraint → Bool
  | .synthesized i s xs, .synthesized j t ys =>
      i = j && s.same t && Value.sameMembers xs ys
  | .valid, .valid => true
  | .convertGroup i a b, .convertGroup j c d => i = j && a.same c && b.same d
  | .literal i s xs names wording missing, .literal j t ys names' wording' missing' =>
      i = j && s.same t && Answer.sameMembers xs ys && names = names'
        && wording.same wording' && missing = missing'
  | _, _ => false
termination_by structural x => x

def Answer.same : Answer → Answer → Bool
  | .returns a, .returns b => a.same b
  | .raises a, .raises b => a = b
  | .throws a, .throws b => a.same b
  | _, _ => false
termination_by structural x => x

def Answer.sameMembers : List (String × Answer) → List (String × Answer) → Bool
  | [], [] => true
  | (m, x) :: xs, (n, y) :: ys => m = n && x.same y && Answer.sameMembers xs ys
  | _, _ => false
termination_by structural x => x

def ConstraintType.same : ConstraintType → ConstraintType → Bool
  | ⟨i, a, xs⟩, ⟨j, b, ys⟩ => i = j && a = b && AttributeDefinition.sameMembers xs ys
termination_by structural x => x

def AttributeDefinition.same : AttributeDefinition → AttributeDefinition → Bool
  | ⟨s, x⟩, ⟨t, y⟩ => s = t && AttributeDefinition.sameDefault x y
termination_by structural x => x

def AttributeDefinition.sameDefault : Option Value → Option Value → Bool
  | none, none => true
  | some x, some y => x.same y
  | _, _ => false
termination_by structural x => x

def AttributeDefinition.sameMembers :
    List (String × AttributeDefinition) → List (String × AttributeDefinition) → Bool
  | [], [] => true
  | (m, x) :: xs, (n, y) :: ys => m = n && x.same y && AttributeDefinition.sameMembers xs ys
  | _, _ => false
termination_by structural x => x

end

mutual

/-- The comparison decides equality of values. -/
theorem Value.same_iff (a b : Value) : a.same b = true ↔ a = b := by
  cases a <;> cases b <;>
    simp [Value.same, Value.sameMembers_iff, Value.sameElements_iff, Constraint.same_iff,
      and_assoc]
termination_by structural a

private theorem Value.sameElements_iff (xs ys : List (Option Value)) :
    Value.sameElements xs ys = true ↔ xs = ys := by
  match xs, ys with
  | [], [] => simp [Value.sameElements]
  | [], _ :: _ => simp [Value.sameElements]
  | _ :: _, [] => simp [Value.sameElements]
  | none :: xs, none :: ys => simp [Value.sameElements, Value.sameElements_iff]
  | none :: xs, some y :: ys => simp [Value.sameElements]
  | some x :: xs, none :: ys => simp [Value.sameElements]
  | some x :: xs, some y :: ys =>
      simp [Value.sameElements, Value.same_iff, Value.sameElements_iff]
termination_by structural xs

private theorem Value.sameMembers_iff (xs ys : List (String × Value)) :
    Value.sameMembers xs ys = true ↔ xs = ys := by
  match xs, ys with
  | [], [] => simp [Value.sameMembers]
  | [], _ :: _ => simp [Value.sameMembers]
  | _ :: _, [] => simp [Value.sameMembers]
  | (m, x) :: xs, (n, y) :: ys =>
      simp [Value.sameMembers, Value.same_iff, Value.sameMembers_iff]
termination_by structural xs

/-- The comparison decides equality of constraints. -/
theorem Constraint.same_iff (a b : Constraint) : a.same b = true ↔ a = b := by
  cases a <;> cases b <;>
    simp [Constraint.same, Value.same_iff, Value.sameMembers_iff, Answer.sameMembers_iff,
      Answer.same_iff, ConstraintType.same_iff, and_assoc]
termination_by structural a

private theorem Answer.same_iff (a b : Answer) : a.same b = true ↔ a = b := by
  cases a <;> cases b <;> simp [Answer.same, Value.same_iff]
termination_by structural a

private theorem Answer.sameMembers_iff (xs ys : List (String × Answer)) :
    Answer.sameMembers xs ys = true ↔ xs = ys := by
  match xs, ys with
  | [], [] => simp [Answer.sameMembers]
  | [], _ :: _ => simp [Answer.sameMembers]
  | _ :: _, [] => simp [Answer.sameMembers]
  | (m, x) :: xs, (n, y) :: ys =>
      simp [Answer.sameMembers, Answer.same_iff, Answer.sameMembers_iff]
termination_by structural xs

/-- The comparison decides equality of constraint types. -/
theorem ConstraintType.same_iff (s t : ConstraintType) : s.same t = true ↔ s = t := by
  cases s; cases t
  simp [ConstraintType.same, AttributeDefinition.sameMembers_iff, and_assoc]
termination_by structural s

private theorem AttributeDefinition.same_iff (a b : AttributeDefinition) :
    a.same b = true ↔ a = b := by
  cases a; cases b
  simp [AttributeDefinition.same, AttributeDefinition.sameDefault_iff]
termination_by structural a

private theorem AttributeDefinition.sameDefault_iff (x y : Option Value) :
    AttributeDefinition.sameDefault x y = true ↔ x = y := by
  cases x <;> cases y <;> simp [AttributeDefinition.sameDefault, Value.same_iff]
termination_by structural x

private theorem AttributeDefinition.sameMembers_iff
    (xs ys : List (String × AttributeDefinition)) :
    AttributeDefinition.sameMembers xs ys = true ↔ xs = ys := by
  match xs, ys with
  | [], [] => simp [AttributeDefinition.sameMembers]
  | [], _ :: _ => simp [AttributeDefinition.sameMembers]
  | _ :: _, [] => simp [AttributeDefinition.sameMembers]
  | (m, x) :: xs, (n, y) :: ys =>
      simp [AttributeDefinition.sameMembers, AttributeDefinition.same_iff,
        AttributeDefinition.sameMembers_iff]
termination_by structural xs

end

instance : DecidableEq Value := fun a b => decidable_of_iff _ (Value.same_iff a b)

instance : DecidableEq Constraint := fun a b => decidable_of_iff _ (Constraint.same_iff a b)

instance : DecidableEq ConstraintType :=
  fun s t => decidable_of_iff _ (ConstraintType.same_iff s t)

end AttributeContracts
