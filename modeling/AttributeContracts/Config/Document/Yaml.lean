/-
# Documents written in YAML

Reads a stream with one document. An empty stream is a null document. A stream
can be malformed, and a well-formed one can still have an alias without an
anchor before it.
-/

import AttributeContracts.Yaml.Node.Document
import AttributeContracts.Yaml.Stream

namespace AttributeContracts

/-- The document that a YAML text spells. -/
def Document.ofYaml (text : String) : Except Failure Document :=
  match Yaml.read? text with
  | none => .error .malformedYaml
  | some none => .ok .null
  | some (some node) => Prod.fst <$> node.document []

end AttributeContracts
