/-
# A validator that collects everything

The validator that the programs of this library are run with, with the messages it is known for.
It goes through a schema and a document together and stops nowhere.
-/

import AttributeContracts.Config.Validator

namespace AttributeContracts

namespace SchemaIssue

/-- An issue of a part, as an issue of the whole. -/
def below (segment : String) (issue : SchemaIssue) : SchemaIssue :=
  { issue with instancePath := segment ++ issue.instancePath }

@[simp] theorem charge_below (segment : String) (issue : SchemaIssue) :
    (issue.below segment).charge = issue.charge.below segment := rfl

/-- A document of the wrong type. -/
def wrongType (expected : String) : SchemaIssue := ⟨"", "type", some ("must be " ++ expected)⟩

/-- A text that is too short. -/
def tooShort (least : Nat) : SchemaIssue :=
  ⟨"", "minLength", some ("must NOT have fewer than " ++ toString least ++ " characters")⟩

/-- A document that is none of the listed texts. -/
def unlisted : SchemaIssue := ⟨"", "enum", some "must be equal to one of the allowed values"⟩

/-- A member that is none of the properties. -/
def additional : SchemaIssue :=
  ⟨"", "additionalProperties", some "must NOT have additional properties"⟩

end SchemaIssue

mutual

/-- The issues of a document with a schema. -/
def Schema.issues : Schema → Document → List SchemaIssue
  | .boolean, .bool _ => []
  | .boolean, _ => [.wrongType "boolean"]
  | .string least, .text s => if s.length < least then [.tooShort least] else []
  | .string _, _ => [.wrongType "string"]
  | .enum values, .text s => if s ∈ values then [] else [.unlisted]
  | .enum _, _ => [.unlisted]
  | .array items, .list documents => documents.zipIdx.flatMap fun item =>
      (items.issues item.1).map (SchemaIssue.below (Schema.position item.2))
  | .array _, _ => [.wrongType "array"]
  | .object properties, .object members =>
      (Schema.additional properties members).map (fun _ => .additional) ++
        Schema.propertyIssues members properties
  | .object _, _ => [.wrongType "object"]
termination_by structural schema => schema

/-- The issues of the members of an object with some properties. -/
def Schema.propertyIssues (members : Members Document) :
    List (String × Schema) → List SchemaIssue
  | [] => []
  | (name, schema) :: rest =>
      let issues := match Document.member members name with
        | .absent => []
        | member => (schema.issues member).map (SchemaIssue.below (Schema.segment name))
      issues ++ Schema.propertyIssues members rest
termination_by structural properties => properties

end

namespace Validator

/-- Refuses a document for all its issues. -/
def collecting : Validator := fun schema document =>
  match schema.issues document with
  | [] => ⟨true, none⟩
  | issues => ⟨false, some issues⟩

theorem issues_collecting (schema : Schema) (document : Document) :
    collecting.issues schema document = schema.issues document := by
  unfold issues collecting
  split <;> simp_all

theorem charges_collecting (schema : Schema) (document : Document) :
    collecting.charges schema document = (schema.issues document).map SchemaIssue.charge := by
  rw [charges, issues_collecting]

private theorem charge_propertyIssues (members : Members Document)
    (properties : List (String × Schema)) :
    (Schema.propertyIssues members properties).map SchemaIssue.charge =
      properties.flatMap fun property =>
        (collecting.propertyCharges property.2 (Document.member members property.1)).map
          (Charge.below (Schema.segment property.1)) := by
  induction properties with
  | nil => rfl
  | cons property rest ih =>
      rw [Schema.propertyIssues, List.map_append, ih, List.flatMap_cons]
      congr 1
      cases Document.member members property.1 <;>
        simp [propertyCharges, charges_collecting]

/-- The validator implements every keyword. -/
theorem collects_collecting : collecting.Collects where
  valid_iff schema document := by
    rw [charges_collecting, List.map_eq_nil_iff, collecting]
    split <;> simp_all
  boolean document := by
    rw [charges_collecting]
    cases document <;> rfl
  string least document := by
    rw [charges_collecting]
    cases document with
    | text s =>
        by_cases short : s.length < least
        · simp only [Schema.issues, short, if_true]
          rfl
        · simp only [Schema.issues, short, if_false]
          rfl
    | _ => rfl
  enum values document := by
    rw [charges_collecting]
    cases document with
    | text s =>
        by_cases listed : s ∈ values
        · simp only [Schema.issues, listed, if_true]
          rfl
        · simp only [Schema.issues, listed, if_false]
          rfl
    | _ => rfl
  array items document := by
    rw [charges_collecting]
    cases document with
    | list documents =>
        simp [Schema.issues, List.map_flatMap, charges_collecting, Function.comp_def]
    | _ => rfl
  object properties document := by
    rw [charges_collecting]
    cases document with
    | object members =>
        rw [Schema.issues, List.map_append, charge_propertyIssues, List.map_map]
        rfl
    | _ => rfl

end Validator

end AttributeContracts
