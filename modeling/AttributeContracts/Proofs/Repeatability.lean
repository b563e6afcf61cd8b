/-
# Constraints made twice

A builder that is asked twice makes two constraints of one type with the same values. They have
one text and one plain form. Whether they are equal is another question: a comparison takes its
own values as they are stored and reads those of the other side, and reading looks at the
declared types, which creating does not.

So the two are equal when the copy of every value that was resolved has its declared type. If
one has not, they are neither equal nor different: the comparison fails, from either side, with
the reading of the first such value.
-/

import AttributeContracts.Proofs.Comparison
import AttributeContracts.Proofs.First
import AttributeContracts.Proofs.Synthesis

namespace AttributeContracts

open Outcome

namespace Constraint

variable {i j : Identity}

/-- Who made a constraint does not show when it is read. -/
theorem valueOf_twin (i j : Identity) (type : ConstraintType) (values : List (String × Value)) :
    (synthesized i type values).valueOf = (synthesized j type values).valueOf := rfl

/-- The comparison with another constraint of the same type and values finds no difference, so
all that is left of it are the readings. -/
theorem equals_twin (apart : i ≠ j) (type : ConstraintType) (values : List (String × Value)) :
    (synthesized i type values).equals (.constraint (synthesized j type values)) =
      type.attributeNames.mapM (synthesized j type values).valueOf >>= fun _ => .ok true := by
  have other : Value.constraint (synthesized j type values) ≠
      .constraint (synthesized i type values) := by
    intro same
    cases same
    exact apart rfl
  have whole : (Value.constraint (synthesized j type values)).isConstraint = true := rfl
  have ofType : some (synthesized j type values).type = some type := rfl
  rw [equals, if_neg other, if_pos whole, Value.annotationType?_of_isConstraint whole, ok_bind,
    if_pos ofType, ← allM_bind_true]
  apply allM_congr
  intro name _
  rw [Value.valueOf]
  cases read : (synthesized j type values).valueOf name with
  | error failure => rfl
  | ok theirs =>
      obtain ⟨rfl, _⟩ := valueOf_synthesized_eq_ok.1 read
      rw [ok_bind, ok_bind, Value.equalTo_self]

end Constraint

namespace Builder

variable {builder : Builder} {session later : Session} {first second : Constraint}

/-! ## Creating twice -/

/-- A created constraint has the identity that was next and copies of the values that were
resolved. -/
theorem eq_ofValues_of_created
    (created : (builder.createConstraint.run session).1 = .ok first) :
    ∃ values, builder.resolveAll builder.accessors = .ok values ∧
      first = .ofValues (.drawn session.nextSerial) builder.type values := by
  rw [run_createConstraint_fst] at created
  obtain ⟨values, resolved, made⟩ := bind_eq_ok.1 created
  obtain ⟨_, _, same⟩ := bind_eq_ok.1 made
  cases same
  exact ⟨values, resolved, rfl⟩

/-- Creating uses up one identity. -/
theorem nextSerial_of_created
    (created : (builder.createConstraint.run session).1 = .ok first) :
    (builder.createConstraint.run session).2.nextSerial = session.nextSerial + 1 := by
  rw [run_createConstraint_fst] at created
  obtain ⟨values, resolved, made⟩ := bind_eq_ok.1 created
  obtain ⟨_, granted, _⟩ := bind_eq_ok.1 made
  rw [createConstraint, Action.run_bind, Action.run_ofExcept, resolved]
  refine Action.run_bind_snd (fun after => after.nextSerial = session.nextSerial + 1) ?_ ?_
  · rw [Action.run_privileged_drawIdentity (mapError_eq_ok.1 granted)]
    cases builder.scope? <;> rfl
  · intro constraint reached drawn
    refine Action.run_bind_snd (fun after => after.nextSerial = session.nextSerial + 1) ?_ ?_
    · rw [Action.run_log_snd _ ⟨_, _, _⟩]
      exact drawn
    · exact fun _ _ printed => printed

/-- What a builder makes now and what it makes later are twins. -/
theorem twins_of_created (made : (builder.createConstraint.run session).1 = .ok first)
    (again : (builder.createConstraint.run later).1 = .ok second)
    (isLater : (builder.createConstraint.run session).2.nextSerial ≤ later.nextSerial) :
    ∃ i j values, i ≠ j ∧ first = .synthesized i builder.type values ∧
      second = .synthesized j builder.type values := by
  obtain ⟨values, resolved, rfl⟩ := eq_ofValues_of_created made
  obtain ⟨others, alsoResolved, rfl⟩ := eq_ofValues_of_created again
  cases resolved.symm.trans alsoResolved
  rw [nextSerial_of_created made] at isLater
  refine ⟨_, _, _, ?_, rfl, rfl⟩
  intro same
  rw [Identity.drawn.injEq] at same
  omega

/-! ## Whether the two are equal -/

/-- Whether the copy of what a declared name resolves to has the declared type. -/
def Typed (builder : Builder) (name : String) : Prop :=
  ∀ definition, builder.type.definition? name = some definition →
    definition.type.accepts ((builder.get? name).getD definition.defaultValue).kept = .ok true

/-- Those are the names that a created constraint answers. -/
theorem Reachable.typed_iff (reachable : builder.Reachable)
    (created : (builder.createConstraint.run session).1 = .ok first) {name : String}
    (isListed : name ∈ builder.type.attributeNames) :
    builder.Typed name ↔ ∃ value, first.valueOf name = .ok value := by
  obtain ⟨definition, found⟩ :=
    ConstraintType.exists_definition (ConstraintType.mem_attributeNames.1 isListed)
  have read := reachable.valueOf_created created found
  constructor
  · intro typed
    have accepted := typed definition found
    exact ⟨_, by rw [read]; exact bind_eq_ok.2 ⟨true, accepted, rfl⟩⟩
  · rintro ⟨value, answered⟩ other alsoFound
    cases found.symm.trans alsoFound
    rw [read] at answered
    obtain ⟨accepted, isAccepted, going⟩ := bind_eq_ok.1 answered
    cases accepted with
    | true => exact isAccepted
    | false => cases going

/-- Two constraints that a builder makes look the same, and each equals the other exactly when
all that was resolved has its declared type once it is copied. They never differ: if something
has not, either comparison fails as the first such attribute does when it is read. -/
theorem equals_created_iff_typed (reachable : builder.Reachable)
    (made : (builder.createConstraint.run session).1 = .ok first)
    (again : (builder.createConstraint.run later).1 = .ok second)
    (isLater : (builder.createConstraint.run session).2.nextSerial ≤ later.nextSerial) :
    first ≠ second ∧ first.text = second.text ∧ first.toPlain = second.toPlain ∧
      second.equals (.constraint first) = first.equals (.constraint second) ∧
      (first.equals (.constraint second) = .ok true ↔
        ∀ name ∈ builder.type.attributeNames, builder.Typed name) ∧
      first.equals (.constraint second) ≠ .ok false ∧
      ∀ failure, first.equals (.constraint second) = .error failure ↔ ∃ place name,
        FirstWithout (fun _ => builder.Typed) builder.type.attributeNames place name ∧
          first.valueOf name = .error failure := by
  have typed {name : String} (isListed : name ∈ builder.type.attributeNames) :
      builder.Typed name ↔ ∃ value, first.valueOf name = .ok value :=
    reachable.typed_iff made isListed
  obtain ⟨i, j, values, apart, rfl, rfl⟩ := twins_of_created made again isLater
  have compared := Constraint.equals_twin apart builder.type values
  have turned := Constraint.equals_twin apart.symm builder.type values
  rw [Constraint.valueOf_twin j i] at compared
  have answers (place : Nat) (name : String)
      (held : builder.type.attributeNames[place]? = some name) :
      builder.Typed name ↔
        Answers (Constraint.synthesized i builder.type values).valueOf place name :=
    typed (List.mem_of_getElem? held)
  have distinct : Constraint.synthesized i builder.type values ≠
      .synthesized j builder.type values := by
    intro same
    cases same
    exact apart rfl
  refine ⟨distinct, rfl, rfl, turned.trans compared.symm, ?_, ?_, ?_⟩
  · rw [compared]
    constructor
    · intro equal name isListed
      obtain ⟨results, mapped, _⟩ := bind_eq_ok.1 equal
      exact (typed isListed).2 (exists_mapM_iff.1 ⟨results, mapped⟩ name isListed)
    · intro all
      obtain ⟨results, mapped⟩ := exists_mapM_iff.2 fun name isListed =>
        (typed isListed).1 (all name isListed)
      rw [mapped]
      rfl
  · rw [compared]
    intro differ
    obtain ⟨_, _, never⟩ := bind_eq_ok.1 differ
    cases never
  · intro failure
    have stops : (builder.type.attributeNames.mapM
          (Constraint.synthesized i builder.type values).valueOf >>= fun _ => .ok true) =
        .error failure ↔ builder.type.attributeNames.mapM
          (Constraint.synthesized i builder.type values).valueOf = .error failure := by
      cases builder.type.attributeNames.mapM
        (Constraint.synthesized i builder.type values).valueOf <;> simp
    rw [compared, stops, mapM_eq_error_iff]
    simp only [FirstWithout.congr answers]

/-- The number of two dimmers is not a number, and neither of them can be compared with the
other. -/
theorem equals_created_iff_typed_dimmer :
    ∃ first second, (dimmerBuilder.createConstraint.run .restricted).1 = .ok first ∧
      (dimmerBuilder.createConstraint.run
        (dimmerBuilder.createConstraint.run .restricted).2).1 = .ok second ∧
      first.equals (.constraint second) = .error (.schemaViolation "level" .undefined
        "Invalid 'level' value for example.Dimmer: undefined") ∧
      second.equals (.constraint first) = .error (.schemaViolation "level" .undefined
        "Invalid 'level' value for example.Dimmer: undefined") := by
  have made : (dimmerBuilder.createConstraint.run .restricted).1 = .ok _ := rfl
  have again : (dimmerBuilder.createConstraint.run
      (dimmerBuilder.createConstraint.run .restricted).2).1 = .ok _ := rfl
  obtain ⟨_, _, _, turned, _, _, fails⟩ :=
    equals_created_iff_typed reachable_dimmerBuilder made again (Nat.le_refl _)
  have untyped : ¬dimmerBuilder.Typed "level" := by
    intro typed
    cases typed ⟨.number, none⟩ rfl
  have isFirst : FirstWithout (fun _ => dimmerBuilder.Typed) dimmer.attributeNames 0 "level" :=
    ⟨rfl, untyped, fun _ _ less => absurd less (Nat.not_lt_zero _)⟩
  have failed := (fails _).2 ⟨0, "level", isFirst, rfl⟩
  exact ⟨_, _, made, again, failed, turned.trans failed⟩

/-- So what a builder makes twice need not be equal. -/
theorem created_not_always_equal :
    ¬∀ (builder : Builder) (session : Session) (first second : Constraint), builder.Reachable →
      (builder.createConstraint.run session).1 = .ok first →
      (builder.createConstraint.run (builder.createConstraint.run session).2).1 = .ok second →
        first.equals (.constraint second) = .ok true ∧
          second.equals (.constraint first) = .ok true := by
  intro always
  have equal := (always dimmerBuilder .restricted _ _ reachable_dimmerBuilder rfl rfl).1
  cases equal

end Builder

end AttributeContracts
