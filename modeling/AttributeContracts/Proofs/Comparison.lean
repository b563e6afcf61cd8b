/-
# Comparing values step by step

The comparison of values walks the left one. Of a constraint it keeps the comparisons
of what is held, and looks them up by the name that was read; since what is held under
a name compares as what is read under it, the walk can be stated with readings alone.

Equality looks no further than sameness at a value that is neither an array nor taken
for a constraint.
-/

import AttributeContracts.Constraint.Equality
import AttributeContracts.Proofs.Synthesized

namespace AttributeContracts

open Outcome

namespace Value

/-- A value is equal to itself, whatever it holds. -/
@[simp] theorem equalTo_self (value : Value) : value.equalTo value = .ok true := by
  unfold equalTo
  rw [if_pos rfl]

/-- Whether a value is neither an array nor taken for a constraint, so that equality
looks no further than sameness. -/
def isAtom : Value → Bool
  | .array _ => false
  | .constraint _ => false
  | value => !value.isConstraint

theorem isConstraint_of_isAtom {value : Value} (atom : value.isAtom = true) :
    value.isConstraint = false := by
  cases value <;> simp_all [isAtom]

theorem equalTo_of_isAtom {value : Value} (atom : value.isAtom = true) (other : Value) :
    value.equalTo other = .ok (decide (value = other)) := by
  have unlike := isConstraint_of_isAtom atom
  unfold equalTo
  by_cases same : value = other
  · simp [same]
  · cases value <;> simp_all [isAtom]

/-- An atom on the right is equal to nothing but itself. -/
theorem equalTo_isAtom {other : Value} (atom : other.isAtom = true) (value : Value) :
    value.equalTo other = .ok (decide (value = other)) := by
  have unlike := isConstraint_of_isAtom atom
  unfold equalTo
  by_cases same : value = other
  · simp [same]
  · cases value with
    | array elements => cases other <;> simp_all [isAtom]
    | _ => simp [same, unlike]

end Value

/-! ## Comparing what is read -/

theorem Value.memberComparisons_eq (values : List (String × Value)) :
    Value.memberComparisons values =
      values.map fun member => (member.1, fun other => member.2.equalTo other) := by
  induction values with
  | nil => rfl
  | cons member rest ih =>
      obtain ⟨name, value⟩ := member
      rw [Value.memberComparisons, ih, List.map_cons]

theorem Answer.memberComparisons_eq (answers : List (String × Answer)) :
    Answer.memberComparisons answers =
      answers.map fun member => (member.1, member.2.comparison) := by
  induction answers with
  | nil => rfl
  | cons member rest ih =>
      obtain ⟨name, answer⟩ := member
      rw [Answer.memberComparisons, ih, List.map_cons]

namespace Constraint

/-- The members that every record shares are atoms. -/
theorem isAtom_sharedMember (name : String) :
    ((sharedMember? name).getD .undefined).isAtom = true := by
  simp only [sharedMember?]
  split
  · rfl
  · split
    · rfl
    · split <;> rfl

/-- What a constraint holds under a name compares as the value that is read under
it. -/
theorem compare_of_valueOf {c : Constraint} {name : String} {mine : Value}
    (read : c.valueOf name = .ok mine) (theirs : Value) :
    (match Members.find? c.comparisons name with
      | some compare => compare theirs
      | none => .ok (decide (mine = theirs))) = mine.equalTo theirs := by
  cases c with
  | synthesized identity type values =>
      obtain ⟨stored, _⟩ := valueOf_synthesized_eq_ok.1 read
      rw [comparisons, Value.memberComparisons_eq,
        Members.find?_map (fun (value other : Value) => value.equalTo other)]
      rw [Value.stored] at stored
      cases held : Members.find? values name with
      | some value =>
          rw [held] at stored
          cases stored
          rfl
      | none =>
          rw [held] at stored
          cases stored
          exact (Value.equalTo_of_isAtom rfl theirs).symm
  | valid => cases read
  | convertGroup identity source target =>
      by_cases isSource : name = "from"
      · subst isSource
        cases read
        rfl
      · by_cases isTarget : name = "to"
        · subst isTarget
          cases read
          rfl
        · rw [valueOf, if_neg isSource, if_neg isTarget] at read
          cases read
          have absent : Members.find? (Constraint.convertGroup identity source target).comparisons
              name = none := by
            simp [comparisons, Members.find?, Ne.symm isSource, Ne.symm isTarget]
          rw [absent]
          exact (Value.equalTo_of_isAtom (isAtom_sharedMember name) theirs).symm
  | literal identity type answers names? wording missing =>
      rw [comparisons, Answer.memberComparisons_eq, Members.find?_map Answer.comparison]
      rw [valueOf] at read
      split at read
      · cases held : Members.find? answers name with
        | some answer =>
            cases answer with
            | returns value =>
                rw [held] at read
                cases read
                rfl
            | raises message =>
                rw [held] at read
                cases read
            | throws value =>
                rw [held] at read
                cases read
        | none =>
            rw [held] at read
            cases read
            exact (Value.equalTo_of_isAtom rfl theirs).symm
      · cases read

/-- Reads an attribute of a constraint and of another value, and compares what they
give. -/
def agreesAt (c : Constraint) (other : Value) (name : String) : Except Failure Bool := do
  let mine ← c.valueOf name
  let theirs ← other.valueOf name
  mine.equalTo theirs

theorem agreesAt_of_reads {c d : Constraint} {name : String} {mine theirs : Value}
    (left : c.valueOf name = .ok mine) (right : d.valueOf name = .ok theirs) :
    c.agreesAt (.constraint d) name = mine.equalTo theirs := by
  rw [agreesAt, left, ok_bind, Value.valueOf, right, ok_bind]

end Constraint

namespace Value

/-! ## The comparison case by case -/

theorem elementsEqualTo_self (elements : List (Option Value)) :
    elementsEqualTo elements elements = .ok true := by
  induction elements with
  | nil => rfl
  | cons element rest ih =>
      cases element with
      | none => rw [elementsEqualTo, ih]
      | some value =>
          rw [elementsEqualTo, atPosition, Option.getD_some, equalTo_self, ok_bind, if_pos rfl, ih]

theorem equalTo_array (xs ys : List (Option Value)) :
    (Value.array xs).equalTo (.array ys) =
      if xs.length = ys.length then elementsEqualTo xs ys else .ok false := by
  rw [equalTo]
  split
  · next same =>
      cases same
      rw [if_pos rfl, elementsEqualTo_self]
  · rfl

/-- The copy of an array has `undefined` where the array is read as `undefined`. -/
theorem elementsEqualTo_atPosition (elements : List (Option Value)) :
    elementsEqualTo ((elements.map atPosition).map some) elements = .ok true := by
  induction elements with
  | nil => rfl
  | cons element rest ih =>
      rw [List.map_cons, List.map_cons, elementsEqualTo, equalTo_self, ok_bind, if_pos rfl, ih]

/-- A copy equals what it was made of. -/
theorem equalTo_of_kept (value : Value) : value.kept.equalTo value = .ok true := by
  cases value with
  | array elements =>
      rw [kept, arrayOf, equalTo_array, List.length_map, List.length_map, if_pos rfl,
        elementsEqualTo_atPosition]
  | _ => exact equalTo_self _

theorem equalTo_array_constraint (xs : List (Option Value)) (c : Constraint) :
    (Value.array xs).equalTo (.constraint c) = .ok false := by
  have distinct : Value.array xs ≠ .constraint c := by
    intro same
    cases same
  unfold equalTo
  rw [if_neg distinct]

theorem equalTo_constraint (c : Constraint) (other : Value) :
    (Value.constraint c).equalTo other =
      if .constraint c = other then .ok true
      else if (Value.constraint c).isConstraint && other.isConstraint then do
        let left ← (Value.constraint c).annotationType?
        let right ← other.annotationType?
        if left = right then
          let names ← c.attributeNames
          names.allM (c.agreesAt other)
        else .ok false
      else .ok false := by
  have read (name : String) :
      (c.valueOf name >>= fun mine => other.valueOf name >>= fun theirs =>
        match Members.find? c.comparisons name with
        | some compare => compare theirs
        | none => .ok (decide (mine = theirs))) =
      c.agreesAt other name := by
    rw [Constraint.agreesAt]
    cases isRead : c.valueOf name with
    | error failure => rfl
    | ok mine =>
        rw [ok_bind, ok_bind]
        congr 1
        funext theirs
        exact Constraint.compare_of_valueOf isRead theirs
  rw [equalTo]
  split
  · rfl
  · split
    · congr 1
      funext left
      congr 1
      funext right
      split
      · congr 1
        funext names
        exact allM_congr fun name _ => read name
      · rfl
    · rfl

theorem equalTo_constraint_array (c : Constraint) (ys : List (Option Value)) :
    (Value.constraint c).equalTo (.array ys) = .ok false := by
  have distinct : Value.constraint c ≠ .array ys := by
    intro same
    cases same
  have unlike : ¬((Value.constraint c).isConstraint && (Value.array ys).isConstraint) = true := by
    rw [Bool.and_eq_true]
    rintro ⟨_, isArray⟩
    cases isArray
  rw [equalTo_constraint, if_neg distinct, if_neg unlike]

/-- A whole constraint offers every method. -/
theorem offers_of_isConstraint {c : Constraint} (whole : (Value.constraint c).isConstraint = true)
    (method : Method) : c.offers method = true := by
  rw [isConstraint, isConstraintLike, Bool.and_eq_true, Bool.and_eq_true] at whole
  obtain ⟨⟨hasType, hasReading⟩, hasNames⟩ := whole
  cases method
  · exact hasType
  · exact hasReading
  · exact hasNames

/-- A whole constraint answers with the type it was made with. -/
theorem annotationType?_of_isConstraint {c : Constraint}
    (whole : (Value.constraint c).isConstraint = true) :
    (Value.constraint c).annotationType? = .ok (some c.type) := by
  rw [annotationType?, if_pos (offers_of_isConstraint whole .annotationType)]

/-- Two constraints that can be read compare by their types and then by what they
answer; whether they are the same makes no difference. -/
theorem equalTo_constraint_of_reads {c d : Constraint} {names : List String}
    (wholeLeft : (Value.constraint c).isConstraint = true)
    (wholeRight : (Value.constraint d).isConstraint = true)
    (listed : c.attributeNames = .ok names)
    (reads : ∀ name ∈ names, ∃ value, c.valueOf name = .ok value) :
    (Value.constraint c).equalTo (.constraint d) =
      if c.type = d.type then names.allM (c.agreesAt (.constraint d)) else .ok false := by
  rw [equalTo_constraint]
  split
  · next same =>
      cases same
      rw [if_pos rfl]
      symm
      apply allM_eq_ok_true.2
      intro name isListed
      obtain ⟨value, read⟩ := reads name isListed
      rw [Constraint.agreesAt_of_reads read read, equalTo_self]
  · rw [wholeLeft, wholeRight, Bool.and_self, if_pos rfl, annotationType?_of_isConstraint wholeLeft,
      annotationType?_of_isConstraint wholeRight, ok_bind, ok_bind, listed, ok_bind]
    simp only [Option.some.injEq]

end Value

end AttributeContracts
