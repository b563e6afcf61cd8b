/-
# What failures say

An error has a message. A raised value that is no error is reported as the text
it reads as, and some values have none: then the report fails in its turn, and
what it fails with takes the place of what was to be reported. The same goes for
a value that is reported as unfit and cannot be described.
-/

import AttributeContracts.Value.Description

namespace AttributeContracts

namespace Failure

/-- What a failure says when it is reported. -/
def message : Failure → Except Failure String
  | .definition violation => .ok violation.message
  | .unknownAttribute constraintType attributeName =>
      .ok ("Constraint " ++ constraintType ++ " has no '" ++ attributeName ++ "' attribute")
  | .schemaViolation _ _ message => .ok message
  | .configurationRead constraintType accessor _ =>
      .ok ("Cannot access constraint " ++ constraintType ++ " element: " ++ accessor)
  | .instanceCreation message _ => .ok message
  | .accessDenied permission =>
      .ok ("Access denied: '" ++ permission ++ "' requires a privileged scope")
  | .metadata _ message _ => .ok message
  | .invalidConfig issues =>
      .ok ("Invalid metadata config:\n" ++
        "\n".intercalate (issues.map fun issue => "  - " ++ issue.path ++ ": " ++ issue.message))
  | .scripted message => .ok message
  | .thrown value => value.wording
  | .misuse => .ok "unsupported operation"
  | .malformedJson => .ok "malformed document"
  | .malformedYaml => .ok "malformed document"
  | .unresolvedAlias => .ok "unresolved alias"
  | .unmergeable => .ok "only maps can be merged"
  | .unreadableFile => .ok "unreadable file"

/-- The failure of reading a value as something that it is not. Its message ends
with the description of the value; a value that cannot be described fails so. -/
def unfit (attributeName : String) (value : Value) (lead : String) : Failure :=
  match value.describe with
  | .ok description => .schemaViolation attributeName value (lead ++ description)
  | .error failure => failure

end Failure

end AttributeContracts
