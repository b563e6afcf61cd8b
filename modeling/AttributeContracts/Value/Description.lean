/-
# Values as text

Two renderings of a value. The description is for messages: texts are quoted,
arrays are bracketed, and what is taken for a constraint gives its own text. The
wording is what the value reads as inside other text: texts stand bare and
arrays are joined by commas. A hole of an array leaves nothing between its
commas in either rendering.

Not every object has a text. A record may hide the conversion that it inherits,
or inherit none, and a hand-written constraint may fail when it is asked. Then
the rendering of everything around it fails as well, at the first such place.

Both walk the value itself. The text of a synthesized constraint lists its
declared names in order with the descriptions of the stored values, whether or
not those values have the declared types.
-/

import AttributeContracts.Failure
import AttributeContracts.Text.Quoted
import AttributeContracts.Value.Recognition

namespace AttributeContracts

/-- The text of an object without a text of its own, by its tag. -/
def objectText (tag : String) : String := "[object " ++ tag ++ "]"

/-- A class and a function that is none are described alike, by name. -/
def functionText (name : String) : String :=
  if name = "" then "function" else "class " ++ name

/-- The text of a record by what it is the value of, which a plain function among
its members answers with `undefined`. The inherited answer is the record itself. -/
def Value.primitiveText (members : List (String × Value)) : Except Failure String :=
  match Members.find? members "valueOf" with
  | some (.function ..) => .ok "undefined"
  | _ => .error .misuse

/-- The text of a record. Its own conversion comes first: a plain function answers
`undefined`, a class cannot be called, and anything else is passed over. A bare
record has no inherited one, and whoever hides that has none either. -/
def Value.recordText (bare : Bool) (members : List (String × Value)) : Except Failure String :=
  match Members.find? members "toString" with
  | some (.function ..) => .ok "undefined"
  | some (.classRef _) => .error .misuse
  | some _ => Value.primitiveText members
  | none => if bare then Value.primitiveText members else .ok (objectText "Object")

/-- The text of a constraint of a type, given the descriptions of its attributes. -/
def ConstraintType.instanceText (type : ConstraintType)
    (descriptions : Members (Except Failure String)) : Except Failure String := do
  let parts ← type.attributeNames.mapM fun name => do
    let description ← (Members.find? descriptions name).getD (.ok "undefined")
    pure (name ++ "=" ++ description)
  pure ("@" ++ type.simpleName ++ "(" ++ ", ".intercalate parts ++ ")")

/-- The text of a group conversion, given the names of its ends. -/
def conversionText (source target : String) : String :=
  "@ConvertGroup(from=" ++ source ++ ", to=" ++ target ++ ")"

mutual

/-- A value as it appears in messages. -/
def Value.describe : Value → Except Failure String
  | .undefined => .ok "undefined"
  | .null => .ok "null"
  | .bool b => .ok (if b then "true" else "false")
  | .number n => .ok n.text
  | .bigint n => .ok (toString n)
  | .text s => .ok (Text.quote s)
  | .function _ name => .ok (functionText name)
  | .classRef c => .ok (functionText c.name)
  | .record identity bare members =>
      if (Value.record identity bare members).isConstraintLike then Value.recordText bare members
      else .ok (objectText "Object")
  | .tagged _ tag => .ok (objectText tag)
  | .array elements => do
      let parts ← Value.describeElements elements
      pure ("[" ++ ", ".intercalate parts ++ "]")
  | .constraint c =>
      if (Value.constraint c).isConstraintLike then c.text else .ok (objectText "Object")
termination_by structural value => value

/-- The descriptions in an array, up to the first failure. -/
def Value.describeElements : List (Option Value) → Except Failure (List String)
  | [] => .ok []
  | none :: rest => do
      let others ← Value.describeElements rest
      pure ("" :: others)
  | some value :: rest => do
      let first ← value.describe
      let others ← Value.describeElements rest
      pure (first :: others)
termination_by structural elements => elements

/-- The descriptions of stored values, under their names. -/
def Value.describeMembers : List (String × Value) → Members (Except Failure String)
  | [] => []
  | (name, value) :: rest => (name, value.describe) :: Value.describeMembers rest
termination_by structural members => members

/-- A value as it reads inside other text. -/
def Value.wording : Value → Except Failure String
  | .undefined => .ok "undefined"
  | .null => .ok "null"
  | .bool b => .ok (if b then "true" else "false")
  | .number n => .ok n.text
  | .bigint n => .ok (toString n)
  | .text s => .ok s
  | .function _ name => .ok ("function " ++ name ++ "() {}")
  | .classRef c => .ok ("class " ++ c.name ++ " {}")
  | .record _ bare members => Value.recordText bare members
  | .tagged _ tag => .ok (objectText tag)
  | .array elements => do
      let parts ← Value.wordElements elements
      pure (",".intercalate parts)
  | .constraint c => c.text
termination_by structural value => value

/-- The wordings in an array, up to the first failure. What is absent or null
leaves nothing, like a hole. -/
def Value.wordElements : List (Option Value) → Except Failure (List String)
  | [] => .ok []
  | none :: rest => do
      let others ← Value.wordElements rest
      pure ("" :: others)
  | some value :: rest => do
      let first ← match value with
        | .undefined => .ok ""
        | .null => .ok ""
        | other => other.wording
      let others ← Value.wordElements rest
      pure (first :: others)
termination_by structural elements => elements

/-- The wordings of stored values, under their names. -/
def Value.wordMembers : List (String × Value) → Members (Except Failure String)
  | [] => []
  | (name, value) :: rest => (name, value.wording) :: Value.wordMembers rest
termination_by structural members => members

/-- The name a value goes by: that of a class or function, or what a record's own
member of that name reads as. What is absent or null cannot be asked for it. -/
def Value.nameWording : Value → Except Failure String
  | .undefined => .error .misuse
  | .null => .error .misuse
  | .function _ name => .ok name
  | .classRef c => .ok c.name
  | .record _ _ members =>
      (Members.find? (Value.wordMembers members) "name").getD (.ok "undefined")
  | _ => .ok "undefined"
termination_by structural value => value

/-- The text that a hand-written constraint gives. An object in its place has no
text that counts. -/
def Answer.wording : Answer → Except Failure String
  | .returns value => if value.isObject then .error .misuse else value.wording
  | .raises message => .error (.scripted message)
  | .throws value => .error (.thrown value)
termination_by structural answer => answer

/-- The text of a constraint. -/
def Constraint.text : Constraint → Except Failure String
  | .synthesized _ type values => type.instanceText (Value.describeMembers values)
  | .valid => .ok "@Valid()"
  | .convertGroup _ source target => do
      let sourceName ← source.nameWording
      let targetName ← target.nameWording
      pure (conversionText sourceName targetName)
  | .literal _ _ _ _ wording _ => wording.wording
termination_by structural c => c

end

/-- The stored value of a name, `undefined` when nothing is stored. -/
def Value.stored (values : List (String × Value)) (name : String) : Value :=
  (Members.find? values name).getD .undefined

theorem Value.describeMembers_eq (values : List (String × Value)) :
    Value.describeMembers values = values.map fun member => (member.1, member.2.describe) := by
  induction values with
  | nil => simp only [Value.describeMembers, List.map_nil]
  | cons member rest ih =>
      obtain ⟨name, value⟩ := member
      simp only [Value.describeMembers, List.map_cons, ih]

/-- A synthesized constraint reads as its declared names, each with the
description of its stored value. -/
theorem Constraint.text_synthesized (identity : Identity) (type : ConstraintType)
    (values : List (String × Value)) :
    (Constraint.synthesized identity type values).text = (do
      let parts ← type.attributeNames.mapM fun name => do
        let description ← (Value.stored values name).describe
        pure (name ++ "=" ++ description)
      pure ("@" ++ type.simpleName ++ "(" ++ ", ".intercalate parts ++ ")")) := by
  have part (name : String) :
      (Members.find? (Value.describeMembers values) name).getD (.ok "undefined") =
        (Value.stored values name).describe := by
    rw [Value.describeMembers_eq, Members.find?_map, Value.stored]
    cases Members.find? values name with
    | none => simp only [Option.map_none, Option.getD_none, Value.describe]
    | some value => simp only [Option.map_some, Option.getD_some]
  rw [Constraint.text, ConstraintType.instanceText]
  simp only [part]

end AttributeContracts
