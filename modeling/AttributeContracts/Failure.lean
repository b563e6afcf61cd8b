/-
# Failures

Every way in which an operation of this library can fail, as a cause with its
data. The stable code of a failure is a function of the cause, and so is what it
says, in a module of its own. A host may script its own failures and may even
raise plain values; both pass through unchanged and can become the cause of a
failure of this library.
-/

import AttributeContracts.Config.Issue
import AttributeContracts.Value

namespace AttributeContracts

/-- A stable code by which a failure is recognised. -/
structure ErrorCode where
  text : String
deriving DecidableEq, Repr

namespace ErrorCode

def missingAttribute : ErrorCode := ⟨"METADATA_MISSING_ATTRIBUTE"⟩
def incompatibleAttributeType : ErrorCode := ⟨"METADATA_INCOMPATIBLE_ATTRIBUTE_TYPE"⟩
def missingDefault : ErrorCode := ⟨"METADATA_MISSING_DEFAULT"⟩
def nonEmptyArrayDefault : ErrorCode := ⟨"METADATA_NON_EMPTY_ARRAY_DEFAULT"⟩
def unknownAttribute : ErrorCode := ⟨"METADATA_UNKNOWN_ATTRIBUTE"⟩
def schemaViolation : ErrorCode := ⟨"METADATA_SCHEMA_VIOLATION"⟩
def configurationRead : ErrorCode := ⟨"METADATA_CONFIGURATION_READ"⟩
def instanceCreation : ErrorCode := ⟨"METADATA_INSTANCE_CREATION"⟩
def accessDenied : ErrorCode := ⟨"METADATA_ACCESS_DENIED"⟩

/-- The codes of this library under the names it exports them by. -/
def all : List (String × ErrorCode) :=
  [("MISSING_ATTRIBUTE", missingAttribute),
    ("INCOMPATIBLE_ATTRIBUTE_TYPE", incompatibleAttributeType),
    ("MISSING_DEFAULT", missingDefault),
    ("NON_EMPTY_ARRAY_DEFAULT", nonEmptyArrayDefault),
    ("UNKNOWN_ATTRIBUTE", unknownAttribute),
    ("SCHEMA_VIOLATION", schemaViolation),
    ("CONFIGURATION_READ", configurationRead),
    ("INSTANCE_CREATION", instanceCreation),
    ("ACCESS_DENIED", accessDenied)]

end ErrorCode

/-- How a constraint type breaks the contract of a well-known attribute. -/
structure ContractViolation where
  code : ErrorCode
  constraintType : String
  attributeName : String
  message : String
deriving DecidableEq, Repr

/-- Why an operation failed. -/
inductive Failure where
  /-- A constraint type breaks the contract of a well-known attribute. -/
  | definition (violation : ContractViolation)
  /-- A name is neither declared nor well known. -/
  | unknownAttribute (constraintType attributeName : String)
  /-- A value has not the type it is read as. -/
  | schemaViolation (attributeName : String) (actual : Value) (message : String)
  /-- An attribute of an existing constraint could not be read. -/
  | configurationRead (constraintType accessor : String) (cause : Failure)
  /-- A constraint could not be made. -/
  | instanceCreation (message : String) (cause? : Option Failure)
  /-- A scope did not grant a permission. -/
  | accessDenied (permission : String)
  /-- A failure of a code and message chosen by the caller. -/
  | metadata (code : ErrorCode) (message : String) (cause? : Option Failure)
  /-- A configuration document departs from its schema. -/
  | invalidConfig (issues : List ConfigIssue)
  /-- An error that the host raised. -/
  | scripted (message : String)
  /-- A plain value that the host raised. -/
  | thrown (value : Value)
  /-- A value was asked for something it cannot do. -/
  | misuse
  | malformedJson
  | malformedYaml
  /-- A document refers to an anchor it does not have. -/
  | unresolvedAlias
  /-- A document merges something that is no map into a map. -/
  | unmergeable
  | unreadableFile

namespace Failure

/-- The code of a failure, if it has one. -/
def code? : Failure → Option ErrorCode
  | .definition violation => some violation.code
  | .unknownAttribute .. => some .unknownAttribute
  | .schemaViolation .. => some .schemaViolation
  | .configurationRead .. => some .configurationRead
  | .instanceCreation .. => some .instanceCreation
  | .accessDenied _ => some .accessDenied
  | .metadata code .. => some code
  | _ => none

/-- What a failure was caused by, if anything. -/
def cause? : Failure → Option Failure
  | .configurationRead _ _ cause => some cause
  | .instanceCreation _ cause => cause
  | .metadata _ _ cause => cause
  | _ => none

end Failure

end AttributeContracts
