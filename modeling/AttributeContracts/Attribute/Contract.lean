/-
# The contract of well-known attributes

Checks one constraint type against one well-known attribute. The verdict is the
first fault of: the attribute is missing, its type is not assignable, a required
default is missing, or an array default is not empty. A check never fails; it
holds its verdict, which is raised when the check is used for reading.

The violations of a type are those of its mandatory attributes and of the
validation target where that is declared. Only the four definitions concerned
and the type's name can matter.
-/

import AttributeContracts.Attribute.Kind
import AttributeContracts.Session

namespace AttributeContracts

/-- How a declaration falls short of a well-known attribute. -/
inductive ContractFault where
  | missing
  | incompatible (found : Descriptor)
  | noDefault
  | nonEmptyDefault
deriving DecidableEq, Repr

/-- Whether a default is an array with elements. -/
def Value.isNonEmptyArray : Value → Bool
  | .array (_ :: _) => true
  | _ => false

namespace AttributeKind

/-- The first fault of a declared accessor. -/
def accessorFault? (kind : AttributeKind) (accessor : Accessor) : Option ContractFault :=
  if !accessor.type.isAssignable kind.type then some (.incompatible accessor.type)
  else if accessor.defaultValue matches .undefined then
    if kind.permitsEmptyDefault then none else some .noDefault
  else if kind.type.isArray && accessor.defaultValue.isNonEmptyArray then some .nonEmptyDefault
  else none

/-- The violation that a fault amounts to for a type of the given name. -/
def violation (kind : AttributeKind) (typeName : String) (fault : ContractFault) :
    ContractViolation :=
  let call := kind.attributeName ++ "()"
  let (code, message) := match fault with
    | .missing =>
        (ErrorCode.missingAttribute,
          "Constraint " ++ typeName ++ " has no " ++ call ++ " attribute")
    | .incompatible found =>
        (ErrorCode.incompatibleAttributeType,
          "Return type for " ++ call ++ " must be of type " ++ kind.type.displayName ++
            ", found " ++ found.displayName)
    | .noDefault =>
        (ErrorCode.missingDefault,
          "Attribute " ++ call ++ " of " ++ typeName ++ " must declare a default value")
    | .nonEmptyDefault =>
        (ErrorCode.nonEmptyArrayDefault,
          "Default value for " ++ call ++ " must be an empty array")
  ⟨code, typeName, kind.attributeName, message⟩

end AttributeKind

/-- A well-known attribute as a constraint type declares it. -/
structure ContractCheck where
  kind : AttributeKind
  constraintType : ConstraintType

/-- Checks a constraint type against a kind. -/
def AttributeKind.analyze (kind : AttributeKind) (type : ConstraintType) : ContractCheck :=
  ⟨kind, type⟩

namespace ContractCheck

/-- The accessor that the type declares for the kind. -/
def accessor? (check : ContractCheck) : Option Accessor :=
  check.constraintType.accessor? check.kind.attributeName

/-- The default that the type declares for the kind, `undefined` without one. -/
def defaultValue (check : ContractCheck) : Value :=
  (check.accessor?.map Accessor.defaultValue).getD .undefined

/-- What is wrong with the declaration, if anything. -/
def fault? (check : ContractCheck) : Option ContractFault :=
  match check.accessor? with
  | none => some .missing
  | some accessor => check.kind.accessorFault? accessor

/-- The violation of a failed check. -/
def violation? (check : ContractCheck) : Option ContractViolation :=
  check.fault?.map (check.kind.violation check.constraintType.name)

def isValid (check : ContractCheck) : Bool := check.violation?.isNone

/-- Reads the kind's value off a constraint: fails with the violation of an
invalid check, then if the constraint's own type does not declare the attribute;
reads it in a privileged block of its own, and checks the value again against
the kind. -/
def read (check : ContractCheck) (constraint : Constraint) (scope? : Option ScopeId) :
    Action Value :=
  let name := check.kind.attributeName
  match check.violation? with
  | some violation => Action.fail (.definition violation)
  | none => do
      let type ← Action.ofExcept constraint.annotationType
      if !type.declares name then
        Action.fail (.schemaViolation name .undefined
          ("Constraint " ++ type.name ++ " has no '" ++ name ++ "' value"))
      else
        let value ← Action.privileged scope? (Action.readAttribute constraint name scope?)
        Action.ofExcept (check.kind.check value)

end ContractCheck

namespace ConstraintType

/-- The violations of a type, in the order of its well-known attributes. A kind
that may do without a default may also be left undeclared. -/
def contractViolations (type : ConstraintType) : List ContractViolation :=
  let checks := [AttributeKind.message, .groups, .payload, .validationAppliesTo].map
    fun kind => kind.analyze type
  checks.filterMap fun check =>
    if check.kind.permitsEmptyDefault && check.accessor?.isNone then none
    else check.violation?

/-- Fails with the first violation of a type. -/
def assertContract (type : ConstraintType) : Except Failure Unit :=
  match type.contractViolations with
  | [] => .ok ()
  | first :: _ => .error (.definition first)

end ConstraintType

end AttributeContracts
