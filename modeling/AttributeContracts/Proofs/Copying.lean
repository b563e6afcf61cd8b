/-
# Copies of a constraint

A builder begun from a constraint reads every declared attribute of it, and what it
creates stores copies of what was read. The new constraint answers for the declared names
only, and checks what the original may hand out unchecked; where it answers, it answers the
same.

The two halves meet at the values themselves: under each declared name the new constraint
stores a copy of what the original was read to hold, whatever the accessors were named or
ordered. Such a copy equals its original, and differs from it only where that has holes.
-/

import AttributeContracts.Proofs.Builder
import AttributeContracts.Proofs.Comparison

namespace AttributeContracts

open Outcome

namespace Builder

/-- A builder that was begun from a constraint creates one of its type that stores,
under each declared name, a copy of what the constraint was read to hold. -/
theorem createConstraint_of_fromInstance {constraint : Constraint} {options : BuilderOptions}
    {session : Session} (genuine : session.Genuine) {builder : Builder}
    (copied : ((fromInstance constraint options).run session).1 = .ok builder)
    {making : Session} (granted : making.permits options.scope? .createInstance = .ok ()) :
    ∃ identity values,
      (builder.createConstraint.run making).1 =
          .ok (.ofValues identity constraint.type values) ∧
        ∀ name, constraint.type.declares name = true →
          constraint.valueOf name = .ok (Value.stored values name) := by
  obtain ⟨answered, copies⟩ := copies_of_fromInstance genuine copied
  have ofType : builder.type = constraint.type :=
    (Constraint.type_eq_of_annotationType answered).symm
  have accessors : builder.accessors = builder.type.accessors := copies.frame.accessors
  have scope : builder.scope? = options.scope? := copies.frame.scope?
  have resolves : ∀ accessor ∈ builder.type.accessors,
      ∃ value, builder.resolve accessor = .ok value := by
    intro accessor declared
    obtain ⟨value, _, held⟩ := copies.reads accessor declared
    exact ⟨value, resolve_of_get? held⟩
  obtain ⟨values, resolved⟩ := resolveAll_answers resolves
  refine ⟨.drawn making.nextSerial, values, ?_, ?_⟩
  · rw [run_createConstraint_fst, accessors, resolved, ok_bind, scope, granted, ofType]
    rfl
  · intro name declared
    rw [← ofType] at declared
    obtain ⟨definition, found⟩ := ConstraintType.exists_definition declared
    have isAccessor := ConstraintType.mem_accessors_of_definition found
    obtain ⟨value, read, held⟩ := copies.reads _ isAccessor
    have stored := resolve_stored resolved isAccessor
    rw [resolve_of_get? held] at stored
    cases stored
    exact read

end Builder

namespace Constraint

/-- A synthesized constraint equals one of its type that reads as equal to what it stores,
even if it cannot be read itself. -/
theorem equals_of_reads {constraint : Constraint}
    (whole : (Value.constraint constraint).isConstraint = true)
    {values : List (String × Value)}
    (reads : ∀ name ∈ constraint.type.attributeNames, ∃ theirs,
      constraint.valueOf name = .ok theirs ∧
        (Value.stored values name).equalTo theirs = .ok true) (identity : Identity) :
    (Constraint.synthesized identity constraint.type values).equals (.constraint constraint) =
      .ok true := by
  rw [equals]
  by_cases same :
      Value.constraint constraint = .constraint (.synthesized identity constraint.type values)
  · rw [if_pos same]
  · rw [if_neg same, if_pos whole, Value.annotationType?_of_isConstraint whole, ok_bind,
      if_pos rfl]
    apply allM_eq_ok_true.2
    intro name listed
    obtain ⟨theirs, read, equal⟩ := reads name listed
    rw [Value.valueOf, read, ok_bind, equal]

/-- It answers with the copies that it keeps, where their type is the declared one. -/
theorem valueOf_ofValues (identity : Identity) {type : ConstraintType}
    (values : List (String × Value)) {name : String} {definition : AttributeDefinition}
    (found : type.definition? name = some definition) :
    (Constraint.ofValues identity type values).valueOf name =
      definition.type.accepts (Value.stored values name).kept >>= fun accepted =>
        if accepted then .ok (Value.stored values name).kept
        else .error (illTyped type name (Value.stored values name).kept) := by
  rw [ofValues, valueOf_synthesized found, Value.stored_map_kept]

/-- A value of the declared type is answered, unless it has holes: then its copy is refused. -/
theorem valueOf_ofValues_of_accepts (identity : Identity) {type : ConstraintType}
    {values : List (String × Value)} {name : String} {definition : AttributeDefinition}
    (found : type.definition? name = some definition)
    (accepted : definition.type.accepts (Value.stored values name) = .ok true) :
    let value := Value.stored values name
    (Constraint.ofValues identity type values).valueOf name =
      if value.hasHoles then .error (illTyped type name value.kept) else .ok value := by
  intro value
  rw [valueOf_ofValues identity values found]
  cases holed : value.hasHoles with
  | true =>
      rw [Descriptor.accepts_kept_of_hasHoles accepted holed]
      rfl
  | false =>
      rw [Value.kept_of_not_hasHoles holed, accepted]
      rfl

/-- Copying a constraint through the builder: the copy is of its type, lists the declared
names, equals it, and answers every attribute that has the declared type with the same value,
where that has no holes. A copy of a synthesized constraint also looks the same. -/
theorem createConstraint_copy {constraint : Constraint}
    (whole : (Value.constraint constraint).isConstraint = true) {options : BuilderOptions}
    {session : Session} (genuine : session.Genuine) {builder : Builder}
    (copied : ((Builder.fromInstance constraint options).run session).1 = .ok builder)
    {making : Session} (granted : making.permits options.scope? .createInstance = .ok ()) :
    ∃ copy, (builder.createConstraint.run making).1 = .ok copy ∧
      copy.annotationType = constraint.annotationType ∧
      copy.attributeNames = .ok constraint.type.attributeNames ∧
      copy.equals (.constraint constraint) = .ok true ∧
      (∀ name definition value, constraint.type.definition? name = some definition →
        constraint.valueOf name = .ok value → definition.type.accepts value = .ok true →
        copy.valueOf name =
          if value.hasHoles then .error (illTyped constraint.type name value.kept)
          else .ok value) ∧
      ∀ identity type values, constraint = .ofValues identity type values →
        copy.text = constraint.text ∧ copy.toPlain = constraint.toPlain := by
  obtain ⟨drawn, values, created, stores⟩ :=
    Builder.createConstraint_of_fromInstance genuine copied granted
  have answers : constraint.annotationType = .ok constraint.type := by
    rw [annotationType, if_pos (Value.offers_of_isConstraint whole .annotationType)]
  refine ⟨.ofValues drawn constraint.type values, created, answers.symm, rfl, ?_, ?_, ?_⟩
  · refine equals_of_reads whole (fun name listed => ?_) drawn
    refine ⟨_, stores name (ConstraintType.mem_attributeNames.1 listed), ?_⟩
    rw [Value.stored_map_kept, Value.equalTo_of_kept]
  · intro name definition value found read accepted
    have stored := stores name (ConstraintType.declares_of_definition found)
    cases read.symm.trans stored
    exact valueOf_ofValues_of_accepts drawn found accepted
  · rintro identity type own rfl
    have agree : ∀ name ∈ type.attributeNames,
        Value.stored (values.map fun member => (member.1, member.2.kept)) name =
          Value.stored (own.map fun member => (member.1, member.2.kept)) name := by
      intro name listed
      have read := stores name (ConstraintType.mem_attributeNames.1 listed)
      obtain ⟨same, _⟩ := valueOf_synthesized_eq_ok.1 read
      rw [Value.stored_map_kept] at same
      rw [Value.stored_map_kept, Value.stored_map_kept, ← same, Value.kept_kept]
    exact ⟨text_congr agree, toPlain_congr agree⟩

/-- A constraint type with a number and a text, neither with a default. -/
def gauge : ConstraintType where
  identity := .drawn 2
  name := "example.Gauge"
  definitions := [("limit", ⟨.number, none⟩), ("unit", ⟨.string, none⟩)]

/-- A hand-written constraint that hands out a text for the number and nothing for the
text. -/
def scriptedGauge : Constraint :=
  .literal (.drawn 3) gauge [("limit", .returns (.text "high"))] none (.returns (.text "@Gauge")) []

/-- The builder begun from it. -/
def gaugeBuilder : Builder :=
  ((Builder.mk gauge gauge.accessors .empty (some 0) .silent).store "limit" (.text "high")).store
    "unit" .undefined

/-- Neither of its values can be read off the copy, and still the two are equal. -/
theorem createConstraint_copy_gauge :
    ((Builder.fromInstance scriptedGauge { scope? := some 0 }).run .restricted).1 =
        .ok gaugeBuilder ∧
      ∃ copy, (gaugeBuilder.createConstraint.run .restricted).1 = .ok copy ∧
        copy.equals (.constraint scriptedGauge) = .ok true := by
  have copied : ((Builder.fromInstance scriptedGauge { scope? := some 0 }).run .restricted).1 =
      .ok gaugeBuilder := rfl
  have granted : Session.restricted.permits (some 0) .createInstance = .ok () := rfl
  obtain ⟨copy, created, _, _, equal, _⟩ :=
    createConstraint_copy rfl Session.genuine_restricted copied granted
  exact ⟨copied, copy, created, equal⟩

/-- A constraint type with a list of texts. -/
def shelf : ConstraintType where
  identity := .drawn 4
  name := "example.Shelf"
  definitions := [("labels", ⟨.arrayOf .string, none⟩)]

/-- A hand-written constraint of that type whose list is nothing but a hole. -/
def holedShelf : Constraint :=
  .literal (.drawn 5) shelf [("labels", .returns (.array [none]))] none
    (.returns (.text "@Shelf")) []

/-- A list with a hole has the declared type, and a copy of the constraint refuses to answer
it. -/
theorem createConstraint_not_always_copies :
    (Value.constraint holedShelf).isConstraint = true ∧
      holedShelf.valueOf "labels" = .ok (.array [none]) ∧
      (Descriptor.arrayOf .string).accepts (.array [none]) = .ok true ∧
      ∃ builder copy,
        ((Builder.fromInstance holedShelf {}).run .initial).1 = .ok builder ∧
          (builder.createConstraint.run .initial).1 = .ok copy ∧
          copy.valueOf "labels" = .error (.schemaViolation "labels" (.arrayOf [.undefined])
            "Invalid 'labels' value for example.Shelf: [undefined]") :=
  ⟨rfl, rfl, rfl, _, _, rfl, rfl, rfl⟩

end Constraint

end AttributeContracts
