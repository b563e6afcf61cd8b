/-
# Synthesized constraints

A synthesized constraint stores whatever it was made from and looks at the declared
type only when an attribute is read. Reading therefore answers the stored value or
fails; it never answers anything else.

What is stored is a copy, in which `undefined` stands where an array had a hole. A guard passes
over the hole and refuses what the copy has there, so an array that was accepted before it was
copied is then read only if it had no holes.

What is stored under the declared names is all that can be seen of it: neither the
order in which values were stored nor a value stored under another name shows in its
text or in its plain form.
-/

import AttributeContracts.Constraint.Plain
import AttributeContracts.Proofs.Accessors
import AttributeContracts.Proofs.Assignability
import AttributeContracts.Proofs.Outcome

namespace AttributeContracts

open Outcome

/-! ## Copies -/

namespace Value

/-- What is stored of copied values is the copy of what was stored. -/
theorem stored_map_kept (values : List (String × Value)) (name : String) :
    stored (values.map fun member => (member.1, member.2.kept)) name =
      (stored values name).kept := by
  rw [stored, stored, Members.find?_map kept]
  cases Members.find? values name <;> rfl

@[simp] theorem hasHoles_kept (value : Value) : value.kept.hasHoles = false := by
  cases value with
  | array elements => simp [kept, arrayOf, hasHoles]
  | _ => rfl

/-- A copy is a value itself where nothing has to be filled in. -/
theorem kept_kept (value : Value) : value.kept.kept = value.kept :=
  kept_of_not_hasHoles (hasHoles_kept value)

/-- Only an array has holes, and a copy of it has `undefined` there. -/
theorem exists_undefined_of_hasHoles {value : Value} (holed : value.hasHoles = true) :
    ∃ elements, value = .array elements ∧ Value.undefined ∈ elements.map atPosition := by
  cases value with
  | array elements =>
      obtain ⟨element?, held, absent⟩ := List.any_eq_true.1 holed
      rw [Option.isNone_iff_eq_none] at absent
      exact ⟨elements, rfl, List.mem_map.2 ⟨element?, held, by rw [absent]; rfl⟩⟩
  | _ => cases holed

end Value

namespace Descriptor

variable {type : Descriptor} {value : Value}

/-- What was accepted is refused once its holes are filled. -/
theorem accepts_kept_of_hasHoles (accepted : type.accepts value = .ok true)
    (holed : value.hasHoles = true) : type.accepts value.kept = .ok false := by
  obtain ⟨elements, rfl, filled⟩ := Value.exists_undefined_of_hasHoles holed
  obtain ⟨component, rfl, each⟩ := accepts_array_iff.1 accepted
  have decided : ∀ element ∈ elements.map Value.atPosition,
      Decides (component.accepts element) (component.accepts element = .ok true) := by
    refine List.forall_mem_map.2 fun element? held => ?_
    cases element? with
    | none =>
        rw [Value.atPosition, Option.getD_none, accepts_undefined]
        exact decides_false nofun
    | some element =>
        rw [Value.atPosition, Option.getD_some, each element held]
        exact ⟨true, rfl, by simp⟩
  obtain ⟨answer, answered, agrees⟩ := decides_allM decided
  have refused : answer = false := by
    refine Bool.eq_false_iff.2 fun all => ?_
    cases (accepts_undefined component).symm.trans (agrees.1 all _ filled)
  rw [Value.kept, Value.arrayOf, accepts, Value.present_map_some, answered, refused]

/-- A copy is accepted exactly if the value was and nothing had to be filled in. -/
theorem accepts_kept_iff : type.accepts value.kept = .ok true ↔
    type.accepts value = .ok true ∧ value.hasHoles = false := by
  by_cases holed : value.hasHoles = true
  · refine iff_of_false (fun accepted => ?_) (fun both => by simp [holed] at both)
    obtain ⟨elements, rfl, filled⟩ := Value.exists_undefined_of_hasHoles holed
    obtain ⟨component, rfl, each⟩ := accepts_array_iff.1 accepted
    have taken := each .undefined (List.mem_map_of_mem filled)
    cases (accepts_undefined component).symm.trans taken
  · rw [Bool.not_eq_true] at holed
    rw [Value.kept_of_not_hasHoles holed, and_iff_left holed]

end Descriptor

/-! ## Reading -/

namespace Constraint

variable {identity : Identity} {type : ConstraintType} {values : List (String × Value)}
  {name : String}

/-- A declared attribute answers its stored value when that has the declared type. -/
theorem valueOf_synthesized {definition : AttributeDefinition}
    (found : type.definition? name = some definition) :
    (Constraint.synthesized identity type values).valueOf name =
      definition.type.accepts (Value.stored values name) >>= fun accepted =>
        if accepted then .ok (Value.stored values name)
        else .error (illTyped type name (Value.stored values name)) := by
  rw [valueOf, found]

/-- A name that is not declared is not answered, whatever is stored under it. -/
theorem valueOf_synthesized_of_not_declares (undeclared : type.declares name = false) :
    (Constraint.synthesized identity type values).valueOf name =
      .error (.unknownAttribute type.name name) := by
  rw [ConstraintType.declares_eq_isSome, Option.isSome_eq_false_iff,
    Option.isNone_iff_eq_none] at undeclared
  rw [valueOf, undeclared]

/-- A successful reading names the stored value and the guard that took it. -/
theorem valueOf_synthesized_eq_ok {value : Value} :
    (Constraint.synthesized identity type values).valueOf name = .ok value ↔
      Value.stored values name = value ∧ ∃ definition,
        type.definition? name = some definition ∧ definition.type.accepts value = .ok true := by
  cases found : type.definition? name with
  | none => simp [valueOf, found]
  | some definition =>
      rw [valueOf_synthesized found, bind_eq_ok]
      constructor
      · rintro ⟨accepted, answered, read⟩
        cases accepted with
        | false => cases read
        | true =>
            cases read
            exact ⟨rfl, definition, rfl, answered⟩
      · rintro ⟨rfl, _, same, answered⟩
        cases same
        exact ⟨true, answered, rfl⟩

/-! ## What shows of the stored values -/

variable {other : Identity} {first second : List (String × Value)}

/-- The text, or the failure to have one, depends on the values stored under the declared
names. -/
theorem text_congr (agree : ∀ name ∈ type.attributeNames,
      Value.stored first name = Value.stored second name) :
    (Constraint.synthesized identity type first).text =
      (Constraint.synthesized other type second).text := by
  rw [text_synthesized, text_synthesized, mapM_congr fun name listed => by rw [agree name listed]]

/-- So does the plain form, or the failure to have one. -/
theorem toPlain_congr (agree : ∀ name ∈ type.attributeNames,
      Value.stored first name = Value.stored second name) :
    (Constraint.synthesized identity type first).toPlain =
      (Constraint.synthesized other type second).toPlain := by
  rw [toPlain, toPlain, mapM_congr fun name listed => by rw [agree name listed]]

end Constraint

end AttributeContracts
