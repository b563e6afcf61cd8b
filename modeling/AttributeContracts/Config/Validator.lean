/-
# Schemas and validators

A schema says by keywords what a document may be. Whether a document keeps to a schema is not
decided by this library but by a validator, which answers with a verdict and, if that is negative,
leaves a list of issues. An issue names the place in the document by a pointer, the keyword that
was broken, and perhaps a message.

What the library relies on is that a validator implements the keywords one by one and collects
everything it finds. This is said here of any validator, keyword by keyword: a schema charges a
part of a document just as it charges that part on its own, at the place of the part. Messages are
left to the validator.
-/

import AttributeContracts.Config.Document

namespace AttributeContracts

/-- A schema, by the keywords it is written with. -/
inductive Schema where
  /-- Objects of these properties, with no additional ones. -/
  | object (properties : List (String × Schema))
  /-- Arrays of items that all keep to one schema. -/
  | array (items : Schema)
  /-- Texts of some minimal length. -/
  | string (minLength : Nat)
  | boolean
  /-- One of the listed texts, whatever the type of the document. -/
  | enum (values : List String)

/-- What a validator says of one departure from a schema. -/
structure SchemaIssue where
  instancePath : String
  keyword : String
  message? : Option String
deriving DecidableEq, Repr

/-- The answer of a validator about a document. -/
structure Verdict where
  valid : Bool
  errors? : Option (List SchemaIssue)

/-- Answers for each schema and document. -/
abbrev Validator := Schema → Document → Verdict

/-- A departure from a schema: where it is, and which keyword is broken. -/
structure Charge where
  path : String
  keyword : String
deriving DecidableEq, Repr

/-- A charge against a part, as a charge against the whole. -/
def Charge.below (segment : String) (charge : Charge) : Charge :=
  ⟨segment ++ charge.path, charge.keyword⟩

def SchemaIssue.charge (issue : SchemaIssue) : Charge := ⟨issue.instancePath, issue.keyword⟩

namespace Schema

/-- The segment of a pointer that leads to a property. -/
def segment (name : String) : String :=
  String.ofList ('/' :: name.toList.flatMap fun c =>
    if c = '~' then ['~', '0'] else if c = '/' then ['~', '1'] else [c])

/-- The segment of a pointer that leads to an item. -/
def position (index : Nat) : String := "/" ++ toString index

/-- The members that are not among the properties of an object. -/
def additional (properties : List (String × Schema)) (members : Members Document) :
    List String :=
  (Members.names members).filter fun name => name ∉ properties.map Prod.fst

end Schema

namespace Validator

variable (validator : Validator)

/-- The issues that a validator leaves about a document. -/
def issues (schema : Schema) (document : Document) : List SchemaIssue :=
  (validator schema document).errors?.getD []

/-- What a validator charges a document with. -/
def charges (schema : Schema) (document : Document) : List Charge :=
  (validator.issues schema document).map SchemaIssue.charge

/-- What a validator charges a property with: nothing where it is absent. -/
def propertyCharges (schema : Schema) : Document → List Charge
  | .absent => []
  | member => validator.charges schema member

/-- A validator that implements the keywords of schemas and collects all issues. The keywords for
items and properties apply to arrays and objects only, and the one for lengths only to texts: what
is of another type breaks the type alone. -/
structure Collects : Prop where
  /-- A document is refused exactly when an issue is left about it. -/
  valid_iff (schema : Schema) (document : Document) :
    (validator schema document).valid = true ↔ validator.charges schema document = []
  boolean (document : Document) : validator.charges .boolean document =
    match document with
    | .bool _ => []
    | _ => [⟨"", "type"⟩]
  string (least : Nat) (document : Document) : validator.charges (.string least) document =
    match document with
    | .text s => if s.length < least then [⟨"", "minLength"⟩] else []
    | _ => [⟨"", "type"⟩]
  enum (values : List String) (document : Document) : validator.charges (.enum values) document =
    match document with
    | .text s => if s ∈ values then [] else [⟨"", "enum"⟩]
    | _ => [⟨"", "enum"⟩]
  /-- The items are charged in turn, each at its position. -/
  array (items : Schema) (document : Document) : validator.charges (.array items) document =
    match document with
    | .list documents => documents.zipIdx.flatMap fun item =>
        (validator.charges items item.1).map (Charge.below (Schema.position item.2))
    | _ => [⟨"", "type"⟩]
  /-- Additional members are charged first, one by one as they are enumerated, and then the
  properties in the order of the schema. -/
  object (properties : List (String × Schema)) (document : Document) :
    validator.charges (.object properties) document =
      match document with
      | .object members =>
          (Schema.additional properties members).map (fun _ => ⟨"", "additionalProperties"⟩) ++
            properties.flatMap fun property =>
              (validator.propertyCharges property.2 (Document.member members property.1)).map
                (Charge.below (Schema.segment property.1))
      | _ => [⟨"", "type"⟩]

end Validator

end AttributeContracts
