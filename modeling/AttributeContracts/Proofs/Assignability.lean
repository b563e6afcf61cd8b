/-
# What assignability promises

Assignability compares two declared types without a value, and the guards look at
values without comparing types. The two are written apart, so that nothing but a
proof ties them together.

The tie goes through a relation that is neither of them: the rules by which one
declared type narrows another. The comparison decides exactly that relation, and
each rule keeps the values that a guard takes. Nesting of arrays is then the only
thing left for an induction.
-/

import AttributeContracts.Guard
import AttributeContracts.Proofs.Outcome

namespace AttributeContracts

open Outcome

namespace ClassRef

/-- A class of payloads. -/
def severity : ClassRef := .derived (.drawn 0) "Severity" .payload

/-- A class two steps below the base class of payloads. -/
def fatal : ClassRef := .derived (.drawn 1) "Fatal" .severity

end ClassRef

namespace Descriptor

/-- The rules by which a declared type narrows another one. An absent bound or
type name is the widest of its form, and it never stands on the narrower side
unless it stands on both. -/
inductive Narrows : Descriptor → Descriptor → Prop
  | string : Narrows .string .string
  | number : Narrows .number .number
  | boolean : Narrows .boolean .boolean
  | anyClass (bound? : Option ClassRef) : Narrows (.classOf bound?) (.classOf none)
  | subclass {found bound : ClassRef} (below : found.isSubclassOf bound = true) :
      Narrows (.classOf (some found)) (.classOf (some bound))
  | enumOf {values allowed : List String} (name : String)
      (included : ∀ text ∈ values, text ∈ allowed) :
      Narrows (.enumOf name values) (.enumOf name allowed)
  | anyConstraint (typeName? : Option String) :
      Narrows (.constraint typeName?) (.constraint none)
  | namedConstraint (typeName : String) :
      Narrows (.constraint (some typeName)) (.constraint (some typeName))
  | arrayOf {found expected : Descriptor} (components : Narrows found expected) :
      Narrows (.arrayOf found) (.arrayOf expected)

/-- The comparison of declarations follows the rules. -/
theorem Narrows.isAssignable {found expected : Descriptor} (narrows : Narrows found expected) :
    found.isAssignable expected = true := by
  induction narrows with
  | string => rfl
  | number => rfl
  | boolean => rfl
  | anyClass bound? => cases bound? <;> rfl
  | subclass below => exact below
  | enumOf name included => simpa [Descriptor.isAssignable] using included
  | anyConstraint typeName? => cases typeName? <;> rfl
  | namedConstraint typeName => simp [Descriptor.isAssignable]
  | arrayOf components ih => exact ih

/-- Whatever the comparison lets through is an instance of a rule. -/
theorem narrows_of_isAssignable {found expected : Descriptor}
    (assignable : found.isAssignable expected = true) : Narrows found expected := by
  fun_induction Descriptor.isAssignable found expected with
  | case1 => exact .string
  | case2 => exact .number
  | case3 => exact .boolean
  | case4 bound? => exact .anyClass bound?
  | case5 found bound => exact .subclass assignable
  | case6 found values expected allowed =>
      rw [Bool.and_eq_true, decide_eq_true_eq] at assignable
      obtain ⟨rfl, included⟩ := assignable
      exact .enumOf found (by simpa using included)
  | case7 typeName? => exact .anyConstraint typeName?
  | case8 found expected =>
      obtain rfl := of_decide_eq_true assignable
      exact .namedConstraint found
  | case9 found expected ih => exact .arrayOf (ih assignable)
  | case10 => exact absurd assignable Bool.false_ne_true

/-- The comparison decides the rules. -/
theorem isAssignable_iff_narrows {found expected : Descriptor} :
    found.isAssignable expected = true ↔ Narrows found expected :=
  ⟨narrows_of_isAssignable, Narrows.isAssignable⟩

/-! ## What a guard takes -/

theorem accepts_anyClass_iff {value : Value} :
    (Descriptor.classOf none).accepts value = .ok true ↔ ∃ c, value = .classRef c := by
  cases value <;> simp [accepts]

theorem accepts_subclass_iff {bound : ClassRef} {value : Value} :
    (Descriptor.classOf (some bound)).accepts value = .ok true ↔
      ∃ c, value = .classRef c ∧ c.isSubclassOf bound = true := by
  cases value <;> simp [accepts]

theorem accepts_enumOf_iff {name : String} {values : List String} {value : Value} :
    (Descriptor.enumOf name values).accepts value = .ok true ↔
      ∃ text, value = .text text ∧ text ∈ values := by
  cases value <;> simp [accepts]

theorem accepts_anyConstraint_iff {value : Value} :
    (Descriptor.constraint none).accepts value = .ok true ↔ value.isConstraintLike = true := by
  simp [accepts]

/-- A named constraint type is asked for its name only once the value has been
taken for a constraint. -/
theorem isConstraintLike_of_accepts {typeName : String} {value : Value}
    (accepted : (Descriptor.constraint (some typeName)).accepts value = .ok true) :
    value.isConstraintLike = true := by
  by_cases like : value.isConstraintLike = true
  · exact like
  · simp [accepts, like] at accepted

theorem accepts_arrayOf_iff {component : Descriptor} {value : Value} :
    (Descriptor.arrayOf component).accepts value = .ok true ↔
      ∃ elements, value = .array elements ∧
        ∀ element, some element ∈ elements → component.accepts element = .ok true := by
  cases value <;> simp [accepts, allM_eq_ok_true]

/-- Arrays are taken by array types alone, and element by element. -/
theorem accepts_array_iff {descriptor : Descriptor} {elements : List (Option Value)} :
    descriptor.accepts (.array elements) = .ok true ↔ ∃ component,
      descriptor = .arrayOf component ∧
        ∀ element, some element ∈ elements → component.accepts element = .ok true := by
  cases descriptor with
  | arrayOf component => simp [accepts, allM_eq_ok_true]
  | classOf bound? => cases bound? <;> simp [accepts]
  | constraint typeName? =>
      cases typeName? <;> simp [accepts, Value.isConstraintLike, Value.offers]
  | _ => simp [accepts]

/-- No guard takes `undefined`. -/
theorem accepts_undefined (type : Descriptor) : type.accepts .undefined = .ok false := by
  cases type with
  | classOf bound? => cases bound? <;> rfl
  | constraint typeName? => cases typeName? <;> rfl
  | _ => rfl

/-- Every rule keeps the values that a guard takes. -/
theorem Narrows.accepts {found expected : Descriptor} (narrows : Narrows found expected) :
    ∀ {value : Value}, found.accepts value = .ok true → expected.accepts value = .ok true := by
  induction narrows with
  | string => exact id
  | number => exact id
  | boolean => exact id
  | anyClass bound? =>
      intro value accepted
      rw [accepts_anyClass_iff]
      cases bound? with
      | none => exact accepts_anyClass_iff.1 accepted
      | some bound =>
          obtain ⟨c, isClass, _⟩ := accepts_subclass_iff.1 accepted
          exact ⟨c, isClass⟩
  | subclass below =>
      intro value accepted
      obtain ⟨c, isClass, belowFound⟩ := accepts_subclass_iff.1 accepted
      exact accepts_subclass_iff.2 ⟨c, isClass, ClassRef.isSubclassOf_trans belowFound below⟩
  | enumOf name included =>
      intro value accepted
      obtain ⟨text, isText, listed⟩ := accepts_enumOf_iff.1 accepted
      exact accepts_enumOf_iff.2 ⟨text, isText, included text listed⟩
  | anyConstraint typeName? =>
      intro value accepted
      rw [accepts_anyConstraint_iff]
      cases typeName? with
      | none => exact accepts_anyConstraint_iff.1 accepted
      | some typeName => exact isConstraintLike_of_accepts accepted
  | namedConstraint typeName => exact id
  | arrayOf components ih =>
      intro value accepted
      obtain ⟨elements, isArray, each⟩ := accepts_arrayOf_iff.1 accepted
      exact accepts_arrayOf_iff.2 ⟨elements, isArray, fun element held => ih (each element held)⟩

/-- A value of the narrower declared type is a value of the wider one, and the
wider guard answers without failing even where it has to ask a constraint for its
type. -/
theorem isAssignable_sound {found expected : Descriptor}
    (assignable : found.isAssignable expected = true) {value : Value}
    (accepted : found.accepts value = .ok true) : expected.accepts value = .ok true :=
  (narrows_of_isAssignable assignable).accepts accepted

/-- Below two arrays, a class two steps down the chain is still taken. -/
theorem isAssignable_sound_nested_classes :
    (arrayOf (.arrayOf (.classOf (some .severity)))).isAssignable
        (.arrayOf (.arrayOf (.classOf (some .payload)))) = true ∧
      (arrayOf (.arrayOf (.classOf (some .severity)))).accepts
        (.arrayOf [.array [], .arrayOf [.classRef .fatal, .classRef .severity]]) = .ok true ∧
      (arrayOf (.arrayOf (.classOf (some .payload)))).accepts
        (.arrayOf [.array [], .arrayOf [.classRef .fatal, .classRef .severity]]) = .ok true := by
  have assignable : (arrayOf (.arrayOf (.classOf (some .severity)))).isAssignable
      (.arrayOf (.arrayOf (.classOf (some .payload)))) = true := rfl
  exact ⟨assignable, rfl, isAssignable_sound assignable rfl⟩

end Descriptor

end AttributeContracts
