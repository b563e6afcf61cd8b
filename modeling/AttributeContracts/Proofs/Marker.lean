/-
# The conversion marker and its copy

The marker of a group conversion keeps its two ends in a record, and its copy through the builder
is a synthesized constraint. Under the two declared names both answer the same class, and what is
compared with them from the right cannot tell one from the other.

Under any other name they part. The copy fails, while the marker answers for every member of its
record, those included that every record has, and `undefined` for all others. A constraint that is
written by hand and lists such a name notices this when it is compared: with the copy the
comparison fails where it goes on with the marker.
-/

import AttributeContracts.Proofs.Blame

namespace AttributeContracts

open Outcome

namespace Value

/-- A constraint that can be read is compared by its type and by what it answers, and whether it
is the same as the other value makes no difference. -/
theorem equalTo_of_reads {c : Constraint} {names : List String}
    (whole : (Value.constraint c).isConstraint = true) (listed : c.attributeNames = .ok names)
    (reads : ∀ name ∈ names, ∃ value, c.valueOf name = .ok value) (other : Value) :
    (Value.constraint c).equalTo other =
      if other.isConstraint then do
        let found ← other.annotationType?
        if some c.type = found then names.allM (c.agreesAt other) else .ok false
      else .ok false := by
  by_cases same : Value.constraint c = other
  · subst same
    rw [equalTo_constraint_of_reads whole whole listed reads, if_pos whole,
      annotationType?_of_isConstraint whole, ok_bind, if_pos rfl, if_pos rfl]
  · rw [equalTo_constraint, if_neg same, whole, Bool.true_and,
      annotationType?_of_isConstraint whole, ok_bind, listed]
    rfl

/-- Two different constraints are compared by what the left one lists. -/
theorem equalTo_constraint_of_ne {c d : Constraint} (differ : c ≠ d)
    (whole : (Value.constraint d).isConstraint = true) :
    (Value.constraint c).equalTo (.constraint d) =
      if (Value.constraint c).isConstraint = true ∧ c.type = d.type then do
        let names ← c.attributeNames
        names.allM (c.agreesAt (.constraint d))
      else .ok false := by
  rw [equalTo_constraint, if_neg fun same => differ (Value.constraint.inj same), whole,
    Bool.and_true]
  cases wholeLeft : (Value.constraint c).isConstraint with
  | false => rw [if_neg Bool.false_ne_true, if_neg fun both => Bool.false_ne_true both.1]
  | true =>
      rw [if_pos rfl, annotationType?_of_isConstraint wholeLeft,
        annotationType?_of_isConstraint whole, ok_bind, ok_bind]
      simp only [Option.some.injEq, true_and]

/-- Two constraints of one type that list the same names and answer the same under them compare
alike with every value. -/
theorem equalTo_congr {c d : Constraint} {names : List String} (sameType : c.type = d.type)
    (wholeLeft : (Value.constraint c).isConstraint = true)
    (wholeRight : (Value.constraint d).isConstraint = true)
    (listedLeft : c.attributeNames = .ok names) (listedRight : d.attributeNames = .ok names)
    (answers : ∀ name ∈ names, ∃ value, c.valueOf name = .ok value ∧ d.valueOf name = .ok value)
    (other : Value) : (Value.constraint c).equalTo other = (Value.constraint d).equalTo other := by
  have left : ∀ name ∈ names, ∃ value, c.valueOf name = .ok value := fun name listed =>
    (answers name listed).imp fun _ => And.left
  have right : ∀ name ∈ names, ∃ value, d.valueOf name = .ok value := fun name listed =>
    (answers name listed).imp fun _ => And.right
  have alike : ∀ name ∈ names, c.agreesAt other name = d.agreesAt other name := by
    intro name listed
    obtain ⟨value, mine, theirs⟩ := answers name listed
    rw [Constraint.agreesAt, Constraint.agreesAt, mine, theirs]
  rw [equalTo_of_reads wholeLeft listedLeft left, equalTo_of_reads wholeRight listedRight right,
    allM_congr alike, sameType]

end Value

namespace Constraint

/-- The marker of a conversion between two classes. -/
def conversion (identity : Identity) (source target : ClassRef) : Constraint :=
  .convertGroup identity (.classRef source) (.classRef target)

variable {identity drawn : Identity} {source target : ClassRef} {values : List (String × Value)}
  {name : String}

/-- Under a declared name the marker answers a class. -/
theorem valueOf_conversion_of_declares
    (declared : ConstraintType.convertGroup.declares name = true) :
    ∃ c, (conversion identity source target).valueOf name = .ok (.classRef c) := by
  obtain rfl | rfl := ConstraintType.declares_convertGroup_iff.1 declared
  · exact ⟨source, rfl⟩
  · exact ⟨target, rfl⟩

/-- Under any other name it answers what a record of its ends holds there. -/
theorem valueOf_conversion_of_not_declares
    (undeclared : ConstraintType.convertGroup.declares name = false) :
    (conversion identity source target).valueOf name =
      .ok ((sharedMember? name).getD .undefined) := by
  rw [← Bool.not_eq_true, ConstraintType.declares_convertGroup_iff, not_or] at undeclared
  rw [conversion, valueOf, if_neg undeclared.1, if_neg undeclared.2]

section

variable (stores : ∀ name, ConstraintType.convertGroup.declares name = true →
  (conversion identity source target).valueOf name = .ok (Value.stored values name))
include stores

/-- What stores the two classes answers them as well, since they have the declared type. -/
theorem valueOf_copy_of_declares (declared : ConstraintType.convertGroup.declares name = true) :
    ∃ c, (synthesized drawn .convertGroup values).valueOf name = .ok (.classRef c) ∧
      (conversion identity source target).valueOf name = .ok (.classRef c) := by
  have stored := stores name declared
  obtain ⟨c, read⟩ : ∃ c, (conversion identity source target).valueOf name = .ok (.classRef c) :=
    valueOf_conversion_of_declares declared
  refine ⟨c, valueOf_synthesized_eq_ok.2 ⟨Except.ok.inj (stored.symm.trans read), ?_⟩, read⟩
  obtain rfl | rfl := ConstraintType.declares_convertGroup_iff.1 declared
  · exact ⟨_, rfl, rfl⟩
  · exact ⟨_, rfl, rfl⟩

/-- From the left the two compare alike with every value. -/
theorem equalTo_copy (other : Value) :
    (Value.constraint (synthesized drawn .convertGroup values)).equalTo other =
      (Value.constraint (conversion identity source target)).equalTo other := by
  have listed : (conversion identity source target).attributeNames =
      .ok ConstraintType.convertGroup.attributeNames := rfl
  refine Value.equalTo_congr (c := synthesized drawn .convertGroup values)
    (d := conversion identity source target) rfl rfl rfl rfl listed (fun name held => ?_) other
  obtain ⟨c, copied, read⟩ := valueOf_copy_of_declares stores
    (ConstraintType.mem_attributeNames.1 held)
  exact ⟨_, copied, read⟩

/-- From the right they do so under the names that are declared. Under another one that can be read
off the left side, only the copy fails. -/
theorem agreesAt_copy (c : Constraint) (name : String) :
    c.agreesAt (.constraint (synthesized drawn .convertGroup values)) name =
        c.agreesAt (.constraint (conversion identity source target)) name ∨
      ConstraintType.convertGroup.declares name = false ∧
        c.agreesAt (.constraint (synthesized drawn .convertGroup values)) name =
          .error (.unknownAttribute ConstraintType.convertGroup.name name) := by
  rw [agreesAt, agreesAt, Value.valueOf, Value.valueOf]
  cases c.valueOf name with
  | error failure => exact .inl rfl
  | ok mine =>
      rw [ok_bind, ok_bind]
      cases declared : ConstraintType.convertGroup.declares name with
      | true =>
          obtain ⟨c, copied, read⟩ := valueOf_copy_of_declares stores declared
          rw [copied, read]
          exact .inl rfl
      | false =>
          rw [valueOf_synthesized_of_not_declares declared]
          exact .inr ⟨rfl, rfl⟩

/-- So a constraint on the left notices the copy only by a name that it lists and the type does not
declare. There the comparison with the copy fails. -/
theorem equalTo_of_copy (c : Constraint) :
    (Value.constraint c).equalTo (.constraint (synthesized drawn .convertGroup values)) =
        (Value.constraint c).equalTo (.constraint (conversion identity source target)) ∨
      ∃ names name, c.attributeNames = .ok names ∧ name ∈ names ∧
        ConstraintType.convertGroup.declares name = false ∧
        (Value.constraint c).equalTo (.constraint (synthesized drawn .convertGroup values)) =
          .error (.unknownAttribute ConstraintType.convertGroup.name name) := by
  have alike (other : Value) :
      (Value.constraint (synthesized drawn .convertGroup values)).equalTo other =
        (Value.constraint (conversion identity source target)).equalTo other :=
    equalTo_copy stores other
  by_cases isMarker : c = conversion identity source target
  · subst isMarker
    left
    rw [← alike, Value.equalTo_self, Value.equalTo_self]
  by_cases isCopy : c = synthesized drawn .convertGroup values
  · subst isCopy
    left
    rw [alike (.constraint (conversion identity source target)), Value.equalTo_self,
      Value.equalTo_self]
  rw [Value.equalTo_constraint_of_ne isCopy rfl, Value.equalTo_constraint_of_ne isMarker rfl]
  by_cases compared : (Value.constraint c).isConstraint = true ∧ c.type = .convertGroup
  · rw [if_pos (by exact compared), if_pos (by exact compared)]
    cases listed : c.attributeNames with
    | error failure => exact .inl rfl
    | ok names =>
        rw [ok_bind, ok_bind]
        refine (allM_eq_or_error fun name _ => agreesAt_copy stores c name).imp id ?_
        rintro ⟨name, held, undeclared, failed⟩
        exact ⟨names, name, rfl, held, undeclared, failed⟩
  · rw [if_neg (by exact compared), if_neg (by exact compared)]
    exact .inl rfl

end

/-- A conversion marker and its copy through the builder. The copy is made wherever the scope
grants it. It has the type and the names of the marker, answers the same classes under these names,
and from the left compares alike with every value. No other name is answered by the copy; the
marker answers all of them, with what every record has or with `undefined`. So a constraint that is
compared with the two from the right side finds them alike as well, unless it lists such a name:
then the comparison with the copy may fail there. -/
theorem conversion_copy (options : BuilderOptions) {session making : Session}
    (genuine : session.Genuine)
    (readable : ∀ earlier, session.permitsReading options.scope? earlier = .ok ())
    (granted : making.permits options.scope? .createInstance = .ok ())
    (identity : Identity) (source target : ClassRef) :
    ∃ builder copy,
      ((Builder.fromInstance (conversion identity source target) options).run session).1 =
        .ok builder ∧
      (builder.createConstraint.run making).1 = .ok copy ∧
      copy.annotationType = (conversion identity source target).annotationType ∧
      copy.attributeNames = (conversion identity source target).attributeNames ∧
      (∀ name, ConstraintType.convertGroup.declares name = true → ∃ c,
        copy.valueOf name = .ok (.classRef c) ∧
          (conversion identity source target).valueOf name = .ok (.classRef c)) ∧
      (∀ name, ConstraintType.convertGroup.declares name = false →
        copy.valueOf name = .error (.unknownAttribute ConstraintType.convertGroup.name name) ∧
          (conversion identity source target).valueOf name =
            .ok ((sharedMember? name).getD .undefined)) ∧
      (∀ other, (Value.constraint copy).equalTo other =
        (Value.constraint (conversion identity source target)).equalTo other) ∧
      ∀ c : Constraint,
        (Value.constraint c).equalTo (.constraint copy) =
            (Value.constraint c).equalTo (.constraint (conversion identity source target)) ∨
          ∃ names name, c.attributeNames = .ok names ∧ name ∈ names ∧
            ConstraintType.convertGroup.declares name = false ∧
            (Value.constraint c).equalTo (.constraint copy) =
              .error (.unknownAttribute ConstraintType.convertGroup.name name) := by
  have answered : (conversion identity source target).annotationType =
      .ok ConstraintType.convertGroup := rfl
  obtain ⟨builder, copied⟩ : ∃ builder,
      ((Builder.fromInstance (conversion identity source target) options).run session).1 =
        .ok builder := by
    refine (Builder.exists_fromInstance_iff genuine answered).2 fun place name listed => ?_
    have declared := ConstraintType.mem_attributeNames.1 (List.mem_of_getElem? listed)
    obtain ⟨c, read⟩ := valueOf_conversion_of_declares declared
    exact readable_iff.2 ⟨readable place, _, read⟩
  obtain ⟨drawn, values, created, held⟩ :=
    Builder.createConstraint_of_fromInstance genuine copied granted
  -- A class is stored as it is.
  have stores : ∀ name, ConstraintType.convertGroup.declares name = true →
      (conversion identity source target).valueOf name =
        .ok (Value.stored (values.map fun member => (member.1, member.2.kept)) name) := by
    intro name declared
    obtain ⟨c, read⟩ : ∃ c, (conversion identity source target).valueOf name =
        .ok (.classRef c) := valueOf_conversion_of_declares declared
    have isClass := Except.ok.inj ((held name declared).symm.trans read)
    rw [Value.stored_map_kept, isClass, read]
    rfl
  refine ⟨builder, _, copied, created, rfl, rfl, ?_, ?_, ?_, ?_⟩
  · exact fun name declared => valueOf_copy_of_declares stores declared
  · exact fun name undeclared => ⟨valueOf_synthesized_of_not_declares undeclared,
      valueOf_conversion_of_not_declares undeclared⟩
  · exact equalTo_copy stores
  · exact equalTo_of_copy stores

/-- Written by hand: a conversion that lists a name which its type does not declare. -/
def strayConversion : Constraint :=
  .literal (.drawn 2) .convertGroup [] (some ["groups"]) (.returns (.text "@ConvertGroup")) []

/-- The marker of a conversion from the default group is equal to its copy and answers `toString`,
which the copy does not; and it is the stray conversion that tells them apart. -/
theorem conversion_copy_stray :
    ∃ builder copy,
      ((Builder.fromInstance (conversion (.drawn 0) .defaultGroup .payload) {}).run .initial).1 =
        .ok builder ∧
      (builder.createConstraint.run .initial).1 = .ok copy ∧
      copy.valueOf "toString" =
        .error (.unknownAttribute "validation.groups.ConvertGroup" "toString") ∧
      (conversion (.drawn 0) .defaultGroup .payload).valueOf "toString" =
        .ok (.function (.named "toString") "toString") ∧
      (Value.constraint copy).equalTo
        (.constraint (conversion (.drawn 0) .defaultGroup .payload)) = .ok true ∧
      (Value.constraint strayConversion).equalTo
        (.constraint (conversion (.drawn 0) .defaultGroup .payload)) = .ok true ∧
      (Value.constraint strayConversion).equalTo (.constraint copy) =
        .error (.unknownAttribute "validation.groups.ConvertGroup" "groups") := by
  obtain ⟨builder, copy, copied, created, _, _, _, parts, alike, _⟩ :=
    conversion_copy {} Session.genuine_initial (fun _ => rfl) rfl (.drawn 0) .defaultGroup .payload
  obtain ⟨refused, answered⟩ := parts "toString" rfl
  refine ⟨builder, copy, copied, created, refused, answered, ?_, ?_, ?_⟩
  · rw [alike, Value.equalTo_self]
  · rfl
  · cases copied
    cases created
    rfl

/-- So a copy does not answer like the marker under every name. -/
theorem conversion_copy_not_always_alike :
    ¬∀ (identity : Identity) (source target : ClassRef) (builder : Builder) (copy : Constraint),
      ((Builder.fromInstance (conversion identity source target) {}).run .initial).1 =
          .ok builder →
        (builder.createConstraint.run .initial).1 = .ok copy →
        ∀ name,
          (∃ value, (conversion identity source target).valueOf name = .ok value ∧
            copy.valueOf name = .ok value) ∨
          ∃ one two, (conversion identity source target).valueOf name = .error one ∧
            copy.valueOf name = .error two ∧ one.code? = some .unknownAttribute ∧
            two.code? = some .unknownAttribute := by
  intro always
  rcases always (.drawn 0) .defaultGroup .payload _ _ rfl rfl "groups" with
    ⟨value, _, copied⟩ | ⟨one, two, failed, _⟩
  · cases copied
  · cases failed

end Constraint

end AttributeContracts
