/-
# Built-in constraint types

The constraint types that come with the library. Each carries a message named
after it and empty groups and payload besides its own attributes; the container
types only hold several constraints of one other type. All live in the built-in
namespace, so their accessor snapshots may be kept.
-/

import AttributeContracts.Attribute.Kind
import AttributeContracts.Accessor.Cache

namespace AttributeContracts

namespace Catalogue

/-- The flags of a pattern. -/
def patternFlags : List String :=
  ["UNIX_LINES", "CASE_INSENSITIVE", "COMMENTS", "MULTILINE", "DOTALL", "UNICODE_CASE",
    "CANON_EQ"]

private def required (type : Descriptor) : AttributeDefinition := ⟨type, none⟩

private def optional (type : Descriptor) (value : Value) : AttributeDefinition :=
  ⟨type, some value⟩

private def ofDefinitions (name : String) (definitions : List (String × AttributeDefinition)) :
    ConstraintType :=
  ⟨.named name, name, definitions⟩

/-- A built-in type: the standard attributes, then its own. -/
def builtin (simpleName : String) (own : List (String × AttributeDefinition)) :
    ConstraintType :=
  let name := builtinNamespace ++ simpleName
  let standard :=
    [("message", optional .string (.text ("\x7b" ++ name ++ ".message\x7d"))),
      ("groups", optional (.arrayOf (.classOf none)) (.array [])),
      ("payload", optional (.arrayOf (.classOf (some .payload))) (.array []))]
  ofDefinitions name (standard ++ own)

/-- The container of several constraints of one built-in type. -/
def container (simpleName : String) : ConstraintType :=
  let element := builtinNamespace ++ simpleName
  ofDefinitions (element ++ ".List")
    [("value", required (.arrayOf (.constraint (some element))))]

def notNull : ConstraintType := builtin "NotNull" []
def isNull : ConstraintType := builtin "Null" []
def assertTrue : ConstraintType := builtin "AssertTrue" []
def assertFalse : ConstraintType := builtin "AssertFalse" []
def past : ConstraintType := builtin "Past" []
def future : ConstraintType := builtin "Future" []
def min : ConstraintType := builtin "Min" [("value", required .number)]
def max : ConstraintType := builtin "Max" [("value", required .number)]

private def decimalBound : List (String × AttributeDefinition) :=
  [("value", required .string), ("inclusive", optional .boolean (.bool true))]

def decimalMin : ConstraintType := builtin "DecimalMin" decimalBound
def decimalMax : ConstraintType := builtin "DecimalMax" decimalBound

def digits : ConstraintType :=
  builtin "Digits" [("integer", required .number), ("fraction", required .number)]

def size : ConstraintType :=
  builtin "Size"
    [("min", optional .number (.number (.ofNat 0))),
      ("max", optional .number (.number (.ofNat Double.maxSafeInteger)))]

def pattern : ConstraintType :=
  builtin "Pattern"
    [("regexp", required .string),
      ("flags", optional (.arrayOf (.enumOf "Pattern.Flag" patternFlags)) (.array []))]

def sizeList : ConstraintType := container "Size"
def patternList : ConstraintType := container "Pattern"

/-- Every built-in type, in the order in which they are listed. -/
def all : List ConstraintType :=
  [notNull, isNull, assertTrue, assertFalse, past, future, min, max, decimalMin, decimalMax,
    digits, size, pattern, sizeList, patternList]

/-- The qualified names of the built-in types. -/
def names : List String := all.map ConstraintType.name

/-- The built-in type of a qualified name. -/
def find? (name : String) : Option ConstraintType := all.find? fun type => type.name = name

end Catalogue

end AttributeContracts
