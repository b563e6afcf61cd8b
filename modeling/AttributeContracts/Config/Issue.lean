/-
# Issues of a configuration document

An issue names the place in the document, the rule that was broken and a
message. A document is reported with all of its issues at once.
-/

namespace AttributeContracts

/-- One departure of a configuration document from its schema. -/
structure ConfigIssue where
  path : String
  message : String
  keyword : String
deriving DecidableEq, Repr

end AttributeContracts
