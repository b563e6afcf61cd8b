/-
# Documents

What a configuration document can hold once it has been read, whatever it was
written in. The absent document is that of a caller who gave none, and a member
may be absent although it is listed.
-/

import AttributeContracts.Members
import AttributeContracts.Numeral.Double

namespace AttributeContracts

/-- A document, or a part of one. -/
inductive Document where
  | absent
  | null
  | bool (b : Bool)
  | number (n : Double)
  | text (s : String)
  | list (items : List Document)
  | object (members : List (String × Document))

namespace Document

/-- The member of a name, absent if there is none. -/
def member (members : Members Document) (name : String) : Document :=
  (Members.find? members name).getD .absent

/-- Whether a document is an object, lists excluded. -/
def isObject : Document → Bool
  | .object _ => true
  | _ => false

/-- Whether a document is absent or null. -/
def isNullish : Document → Bool
  | .absent => true
  | .null => true
  | _ => false

/-- The member of a name in a document, absent also where there are no members. -/
def get : Document → String → Document
  | .object members, name => member members name
  | _, _ => .absent

/-- A document, or another one in place of an absent or null one. -/
def coalesce (document fallback : Document) : Document :=
  if document.isNullish then fallback else document

def bool? : Document → Option Bool
  | .bool b => some b
  | _ => none

def text? : Document → Option String
  | .text s => some s
  | _ => none

/-- The texts that a document lists, if it lists nothing else. -/
def texts? : Document → Option (List String)
  | .list items => items.mapM text?
  | _ => none

end Document

end AttributeContracts
