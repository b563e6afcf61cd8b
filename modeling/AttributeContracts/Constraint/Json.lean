/-
# Values as JSON text

The JSON text of a value, if it has one: undefined values and functions have
none, which drops them from records and leaves a null in arrays, as a hole does. A synthesized
constraint stands for its plain form, and within that form classes and
functions have already become names. Big integers have no JSON text at all.
-/

import AttributeContracts.Constraint.Plain

namespace AttributeContracts

namespace Json

/-- An array of element texts. -/
def array (elements : List (Option String)) : String :=
  "[" ++ ",".intercalate (elements.map fun element => element.getD "null") ++ "]"

/-- A record of member texts in the given order, without the absent ones. -/
def object (members : List (String × Option String)) : String :=
  let present := members.filterMap fun member =>
    member.2.map fun body => Text.quote member.1 ++ ":" ++ body
  "\x7b" ++ ",".intercalate present ++ "\x7d"

/-- A number; JSON has none that are not finite. -/
def number : Double → String
  | .finite negative mantissa exponent => (Double.finite negative mantissa exponent).text
  | _ => "null"

/-- A constraint in plain form. -/
def instanceText (typeName : String) (attributes : List (String × Option String)) : String :=
  object [("type", some (Text.quote typeName)), ("attributes", some (object attributes))]

/-- A record. Its own conversion method takes precedence: a plain function
answers nothing, and a class cannot be called. -/
def record (members : List (String × Value))
    (texts : Members (Except Failure (Option String))) : Except Failure (Option String) :=
  match Members.find? members "toJSON" with
  | some (.function ..) => .ok none
  | some (.classRef _) => .error .misuse
  | _ => do
      let parts ← (Members.enumerate texts).mapM fun member => do
        let body ← member.2
        pure (member.1, body)
      pure (some (object parts))

/-- The listed attributes of a constraint in plain form. -/
def attributes (names : List String) (texts : Members (Except Failure (Option String))) :
    Except Failure (List (String × Option String)) := do
  let assigned ← names.mapM fun name => do
    let body ← (Members.find? texts name).getD (.ok none)
    pure (name, body)
  pure (assignedMembers assigned)

end Json

mutual

/-- The JSON text of a value; with `named`, of its plain form. -/
def Value.json (named : Bool) : Value → Except Failure (Option String)
  | .undefined => .ok none
  | .null => .ok (some "null")
  | .bool b => .ok (some (if b then "true" else "false"))
  | .number n => .ok (some (Json.number n))
  | .bigint _ => .error .misuse
  | .text s => .ok (some (Text.quote s))
  | .function _ name => .ok (if named then some (Text.quote name) else none)
  | .classRef c => .ok (if named then some (Text.quote c.name) else none)
  | .record _ _ members => Json.record members (Value.jsonMembers false members)
  | .tagged .. => .ok (some (Json.object []))
  | .array elements => (fun texts => some (Json.array texts)) <$> Value.jsonElements named elements
  | .constraint c =>
      if named then
        if (Value.constraint c).isConstraint then do
          let names ← c.attributeNames
          let attributes ← Json.attributes names c.jsonForms
          pure (some (Json.instanceText c.type.name attributes))
        else .ok (some (Json.object []))
      else c.json
termination_by structural value => value

def Value.jsonElements (named : Bool) :
    List (Option Value) → Except Failure (List (Option String))
  | [] => .ok []
  | none :: rest => do
      let others ← Value.jsonElements named rest
      pure (none :: others)
  | some value :: rest => do
      let first ← value.json named
      let others ← Value.jsonElements named rest
      pure (first :: others)
termination_by structural elements => elements

def Value.jsonMembers (named : Bool) :
    List (String × Value) → Members (Except Failure (Option String))
  | [] => []
  | (name, value) :: rest => (name, value.json named) :: Value.jsonMembers named rest
termination_by structural values => values

def Answer.jsonMembers : List (String × Answer) → Members (Except Failure (Option String))
  | [] => []
  | (name, answer) :: rest => (name, answer.json) :: Answer.jsonMembers rest
termination_by structural answers => answers

def Answer.json : Answer → Except Failure (Option String)
  | .returns value => value.json true
  | .raises message => .error (.scripted message)
  | .throws value => .error (.thrown value)
termination_by structural answer => answer

/-- The texts of the plain forms of what a constraint holds. -/
def Constraint.jsonForms : Constraint → Members (Except Failure (Option String))
  | .synthesized _ _ values => Value.jsonMembers true values
  | .valid => []
  | .convertGroup _ source target => [("from", source.json true), ("to", target.json true)]
  | .literal _ _ answers _ _ _ => Answer.jsonMembers answers
termination_by structural c => c

/-- The JSON text of a constraint. A synthesized one is converted to its plain
form first, and a failure of that comes before any other. The group conversion
keeps its ends in a record of its own, and nothing else has members to show. -/
def Constraint.json : Constraint → Except Failure (Option String)
  | .synthesized identity type values => do
      let _ ← (Constraint.synthesized identity type values).toPlain
      let attributes ← Json.attributes type.attributeNames (Value.jsonMembers true values)
      pure (some (Json.instanceText type.name attributes))
  | .convertGroup _ source target => do
      let ends ← Json.record [] [("from", source.json false), ("to", target.json false)]
      pure (some (Json.object [("values", ends)]))
  | .valid => .ok (some (Json.object []))
  | .literal .. => .ok (some (Json.object []))
termination_by structural c => c

end

end AttributeContracts
