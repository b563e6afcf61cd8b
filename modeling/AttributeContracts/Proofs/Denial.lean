/-
# Denials of access

A permission that a scope does not grant is a failure of its own kind, which can also be the
cause of another one. Nothing else fails for want of access: neither finding a text for a
value, nor a guard, nor a constraint that is asked for an attribute. What a host raises when
it is asked counts as its own failure, whatever it means by it.

The renderings are followed by induction on the values, since each of them fails as one of
its parts does.
-/

import AttributeContracts.Attribute.Kind
import AttributeContracts.Proofs.Synthesized

namespace AttributeContracts

open Outcome

namespace Failure

/-- A failure that is a denial of access, or was caused by one. -/
inductive Denies : Failure → Prop
  | denied (permission : String) : Denies (.accessDenied permission)
  | caused {failure cause : Failure} (causes : failure.cause? = some cause)
      (denies : Denies cause) : Denies failure

/-- Whether a failure is a denial by itself. -/
def isDenial : Failure → Bool
  | .accessDenied _ => true
  | _ => false

/-- What is no denial by itself and has no cause denies nothing. -/
theorem not_denies {failure : Failure} (other : failure.isDenial = false)
    (causeless : failure.cause? = none) : ¬failure.Denies := by
  intro denies
  cases denies with
  | denied permission => exact Bool.noConfusion other
  | caused causes _ =>
      rw [causeless] at causes
      cases causes

/-- A failed copy denies access only if the reading did. -/
theorem configurationRead_not_denies {cause : Failure} (granted : ¬cause.Denies)
    (typeName accessor : String) :
    ¬(Failure.configurationRead typeName accessor cause).Denies := by
  intro denies
  cases denies with
  | caused causes denies =>
      cases causes
      exact granted denies

end Failure

/-- An outcome that is no failure for want of access. -/
def Outcome.Undenied {α : Type} (outcome : Except Failure α) : Prop :=
  ∀ failure, outcome = .error failure → ¬failure.Denies

namespace Outcome.Undenied

variable {α β : Type}

theorem ok (value : α) : Undenied (.ok value : Except Failure α) := nofun

theorem error {failure : Failure} (other : failure.isDenial = false)
    (causeless : failure.cause? = none) : Undenied (.error failure : Except Failure α) := by
  rintro _ ⟨⟩
  exact Failure.not_denies other causeless

theorem bind {outcome : Except Failure α} {next : α → Except Failure β}
    (first : Undenied outcome) (others : ∀ value, Undenied (next value)) :
    Undenied (outcome >>= next) := by
  cases outcome with
  | ok value => exact others value
  | error failure =>
      rintro _ ⟨⟩
      exact first failure rfl

theorem mapM {step : α → Except Failure β} {elements : List α}
    (each : ∀ element ∈ elements, Undenied (step element)) : Undenied (elements.mapM step) := by
  induction elements with
  | nil => exact ok []
  | cons first rest ih =>
      rw [List.forall_mem_cons] at each
      rw [List.mapM_cons]
      exact each.1.bind fun _ => (ih each.2).bind fun _ => ok _

theorem allM {test : α → Except Failure Bool} {elements : List α}
    (each : ∀ element ∈ elements, Undenied (test element)) : Undenied (elements.allM test) := by
  intro failure failed
  obtain ⟨element, held, fails⟩ := allM_eq_error failed
  exact each element held failure fails

end Outcome.Undenied

/-! ## Renderings -/

theorem Value.undenied_primitiveText (members : List (String × Value)) :
    Undenied (Value.primitiveText members) := by
  rw [Value.primitiveText]
  split
  · exact .ok _
  · exact .error rfl rfl

theorem Value.undenied_recordText (bare : Bool) (members : List (String × Value)) :
    Undenied (Value.recordText bare members) := by
  rw [Value.recordText]
  split
  · exact .ok _
  · exact .error rfl rfl
  · exact Value.undenied_primitiveText members
  · split
    · exact Value.undenied_primitiveText members
    · exact .ok _

theorem ConstraintType.undenied_instanceText (type : ConstraintType)
    {descriptions : Members (Except Failure String)}
    (each : ∀ member ∈ descriptions, Undenied member.2) :
    Undenied (type.instanceText descriptions) := by
  rw [ConstraintType.instanceText]
  refine Undenied.bind (Undenied.mapM fun name _ => Undenied.bind ?_ fun _ => .ok _) fun _ => .ok _
  cases found : Members.find? descriptions name with
  | none => exact .ok _
  | some description => exact each _ (Members.mem_of_find? found)

mutual

/-- No value fails to be described for want of access. -/
theorem Value.undenied_describe : (value : Value) → Undenied value.describe
  | .undefined | .null | .bool _ | .number _ | .bigint _ | .text _ | .function .. | .classRef _
  | .tagged .. => by
      rw [Value.describe]
      exact .ok _
  | .record identity bare members => by
      rw [Value.describe]
      split
      · exact Value.undenied_recordText bare members
      · exact .ok _
  | .array elements => by
      rw [Value.describe]
      exact (Value.undenied_describeElements elements).bind fun _ => .ok _
  | .constraint c => by
      rw [Value.describe]
      split
      · exact c.undenied_text
      · exact .ok _
termination_by structural value => value

theorem Value.undenied_describeElements : (elements : List (Option Value)) →
    Undenied (Value.describeElements elements)
  | [] => .ok _
  | none :: rest => (Value.undenied_describeElements rest).bind fun _ => .ok _
  | some value :: rest => value.undenied_describe.bind fun _ =>
      (Value.undenied_describeElements rest).bind fun _ => .ok _
termination_by structural elements => elements

theorem Value.undenied_describeMembers : (members : List (String × Value)) →
    ∀ member ∈ Value.describeMembers members, Undenied member.2
  | [] => nofun
  | (_, value) :: rest => List.forall_mem_cons.2
      ⟨value.undenied_describe, Value.undenied_describeMembers rest⟩
termination_by structural members => members

theorem Value.undenied_wording : (value : Value) → Undenied value.wording
  | .undefined | .null | .bool _ | .number _ | .bigint _ | .text _ | .function .. | .classRef _
  | .tagged .. => by
      rw [Value.wording]
      exact .ok _
  | .record _ bare members => by
      rw [Value.wording]
      exact Value.undenied_recordText bare members
  | .array elements => by
      rw [Value.wording]
      exact (Value.undenied_wordElements elements).bind fun _ => .ok _
  | .constraint c => by
      rw [Value.wording]
      exact c.undenied_text
termination_by structural value => value

theorem Value.undenied_wordElements : (elements : List (Option Value)) →
    Undenied (Value.wordElements elements)
  | [] => .ok _
  | none :: rest => (Value.undenied_wordElements rest).bind fun _ => .ok _
  | some value :: rest => by
      have following (first : String) :
          Undenied (Value.wordElements rest >>= fun others => pure (first :: others)) :=
        (Value.undenied_wordElements rest).bind fun _ => .ok _
      unfold Value.wordElements
      split
      · exact following ""
      · exact following ""
      · exact value.undenied_wording.bind following
termination_by structural elements => elements

theorem Value.undenied_wordMembers : (members : List (String × Value)) →
    ∀ member ∈ Value.wordMembers members, Undenied member.2
  | [] => nofun
  | (_, value) :: rest => List.forall_mem_cons.2
      ⟨value.undenied_wording, Value.undenied_wordMembers rest⟩
termination_by structural members => members

theorem Value.undenied_nameWording : (value : Value) → Undenied value.nameWording
  | .undefined | .null => .error rfl rfl
  | .bool _ | .number _ | .bigint _ | .text _ | .function .. | .classRef _ | .tagged ..
  | .array _ | .constraint _ => by
      rw [Value.nameWording]
      exact .ok _
      all_goals nofun
  | .record _ _ members => by
      rw [Value.nameWording]
      cases found : Members.find? (Value.wordMembers members) "name" with
      | none => exact .ok _
      | some wording => exact Value.undenied_wordMembers members _ (Members.mem_of_find? found)
termination_by structural value => value

theorem Answer.undenied_wording : (answer : Answer) → Undenied answer.wording
  | .returns value => by
      rw [Answer.wording]
      split
      · exact .error rfl rfl
      · exact value.undenied_wording
  | .raises _ => .error rfl rfl
  | .throws _ => .error rfl rfl
termination_by structural answer => answer

theorem Constraint.undenied_text : (c : Constraint) → Undenied c.text
  | .synthesized _ type values => type.undenied_instanceText (Value.undenied_describeMembers values)
  | .valid => .ok _
  | .convertGroup _ source target =>
      source.undenied_nameWording.bind fun _ => target.undenied_nameWording.bind fun _ => .ok _
  | .literal _ _ _ _ wording _ => wording.undenied_wording
termination_by structural c => c

end

/-- A value that is reported as unfit is reported without a denial. -/
theorem Failure.undenied_unfit {α : Type} (attributeName : String) (value : Value)
    (lead : String) :
    Undenied (.error (Failure.unfit attributeName value lead) : Except Failure α) := by
  rintro _ ⟨⟩
  rw [unfit]
  split
  · exact not_denies rfl rfl
  · next failure failed => exact value.undenied_describe failure failed

/-! ## Guards and readings -/

theorem Value.undenied_annotationType? (value : Value) : Undenied value.annotationType? := by
  unfold annotationType?
  split
  · split
    · exact .ok _
    · exact .error rfl rfl
  · split
    · exact .ok _
    · exact .error rfl rfl
  · exact .error rfl rfl

/-- A guard is not denied: that of an array fails as that of one of its elements does. -/
theorem Descriptor.undenied_accepts (type : Descriptor) (value : Value) :
    Undenied (type.accepts value) := by
  induction type generalizing value with
  | constraint typeName? =>
      cases typeName? with
      | none => cases value <;> exact .ok _
      | some typeName =>
          rw [accepts]
          split
          · split
            · exact .ok _
            · exact .error rfl rfl
            · next failure asked =>
                rintro _ ⟨⟩
                exact value.undenied_annotationType? failure asked
          · exact .ok _
  | arrayOf component ih =>
      cases value with
      | array elements => exact .allM fun element _ => ih element
      | _ => exact .ok _
  | classOf bound? => cases bound? <;> cases value <;> exact .ok _
  | _ => cases value <;> exact .ok _

/-- Reading an attribute never fails for want of access. -/
theorem Constraint.undenied_valueOf (constraint : Constraint) (name : String) :
    Undenied (constraint.valueOf name) := by
  cases constraint with
  | synthesized identity type values =>
      cases found : type.definition? name with
      | none =>
          rw [valueOf, found]
          exact .error rfl rfl
      | some definition =>
          rw [valueOf_synthesized found]
          refine (definition.type.undenied_accepts _).bind fun accepted => ?_
          split
          · exact .ok _
          · exact Failure.undenied_unfit _ _ _
  | valid => exact .error rfl rfl
  | convertGroup identity source target =>
      rw [valueOf]
      split
      · exact .ok _
      · split <;> exact .ok _
  | literal identity type answers names? wording missing =>
      rw [valueOf]
      split
      · split
        · exact .ok _
        · exact .error rfl rfl
        · exact .error rfl rfl
        · exact .ok _
      · exact .error rfl rfl

theorem Constraint.undenied_annotationType (constraint : Constraint) :
    Undenied constraint.annotationType := by
  rw [annotationType]
  split
  · exact .ok _
  · exact .error rfl rfl

/-- Nor does the check of a value that was read. -/
theorem AttributeKind.undenied_check (kind : AttributeKind) (value : Value) :
    Undenied (kind.check value) := by
  refine (kind.type.undenied_accepts value).bind fun accepted => ?_
  split
  · exact .ok _
  · exact Failure.undenied_unfit _ _ _

end AttributeContracts
