/-
# Building constraints from attribute values

A builder holds the attribute values of a constraint to be: put one by one,
copied from a map or record, or read off an existing constraint. Creating the
constraint resolves each declared accessor to the value put for it, or else to
its declared default, and copies the resolved values, so that later puts reach
neither the constraint nor the source. A failure to create has the message of
what was raised in its own, and where that has none it is what gets out.

Putting checks only the name, which must be declared or well known; whether the
value has the declared type is checked when it is read. A name put with the
value `undefined` is present and hides the default.
-/

import AttributeContracts.Attribute.Contract

namespace AttributeContracts

/-- What a builder works with. Without a cache every type is scanned afresh,
without a scope access is unrestricted, and without a level nothing is logged. -/
structure BuilderOptions where
  cache? : Option CacheId := none
  scope? : Option ScopeId := none
  level? : Option LogLevel := none

/-- A constraint type, the snapshot of its accessors and the values put so far. -/
structure Builder where
  type : ConstraintType
  accessors : List Accessor
  elements : AttributeMap
  scope? : Option ScopeId
  level : LogLevel

/-- Attribute values handed over at once; the two forms enumerate differently. -/
inductive AttributeSource where
  /-- Entries put into a map in turn. -/
  | map (entries : List (String × Value))
  /-- Members of a plain record as they were assigned. -/
  | record (members : List (String × Value))

/-- The entries of a source in its own order. -/
def AttributeSource.entries : AttributeSource → List (String × Value)
  | .map entries => (AttributeMap.ofList entries).entries
  | .record members => Members.enumerate members

namespace Builder

/-- An empty builder of a type. -/
def forType (type : ConstraintType) (options : BuilderOptions) : Action Builder := do
  let accessors ← Action.lookupAccessors options.cache? type
  pure ⟨type, accessors, .empty, options.scope?, options.level?.getD .silent⟩

/-- Whether a name may be put. -/
def admits (builder : Builder) (name : String) : Bool :=
  builder.type.declares name || AttributeKind.isWellKnown name

/-- Puts a value without looking at the name. -/
def store (builder : Builder) (name : String) (value : Value) : Builder :=
  { builder with elements := builder.elements.put name value }

/-- Puts a value under a name that is declared or well known. -/
def put (builder : Builder) (name : String) (value : Value) : Except Failure Builder :=
  if builder.admits name then .ok (builder.store name value)
  else .error (.unknownAttribute builder.type.name name)

/-- Puts some entries in turn, up to the first name that may not be put. -/
def putAll (builder : Builder) : List (String × Value) → Except Failure Builder
  | [] => .ok builder
  | (name, value) :: rest => do
      let next ← builder.put name value
      next.putAll rest

/-- A builder with a copy of the values of a source. -/
def fromAttributes (type : ConstraintType) (source : AttributeSource)
    (options : BuilderOptions) : Action Builder := do
  let builder ← forType type options
  Action.ofExcept (builder.putAll source.entries)

/-- Reads the accessors of a constraint in turn, each in a privileged block of
its own, and puts what they give. The first that cannot be read is blamed. -/
def readAll (builder : Builder) (constraint : Constraint) : List Accessor → Action Builder
  | [] => pure builder
  | accessor :: rest => do
      let value ← Action.mapFailure
        (fun cause => .configurationRead builder.type.name accessor.name cause)
        (Action.privileged builder.scope?
          (Action.readAttribute constraint accessor.name builder.scope?))
      (builder.store accessor.name value).readAll constraint rest

/-- A builder with the attribute values of an existing constraint. -/
def fromInstance (constraint : Constraint) (options : BuilderOptions) : Action Builder := do
  let type ← Action.ofExcept constraint.annotationType
  let builder ← forType type options
  builder.readAll constraint builder.accessors

/-- The value put last for a name. -/
def get? (builder : Builder) (name : String) : Option Value := builder.elements.get? name

def contains (builder : Builder) (name : String) : Bool := builder.elements.contains name

def size (builder : Builder) : Nat := builder.elements.size

/-- Puts the value of a well-known attribute, whatever the type declares. -/
def setKind (builder : Builder) (kind : AttributeKind) (value : Value) : Builder :=
  { builder with elements := (kind.put builder.elements value).2 }

def setMessage (builder : Builder) (value : Value) : Builder := builder.setKind .message value
def setGroups (builder : Builder) (value : Value) : Builder := builder.setKind .groups value
def setPayload (builder : Builder) (value : Value) : Builder := builder.setKind .payload value
def setValidationAppliesTo (builder : Builder) (value : Value) : Builder :=
  builder.setKind .validationAppliesTo value

/-- The value of one accessor: the one put, or else the declared default. -/
def resolve (builder : Builder) (accessor : Accessor) : Except Failure Value :=
  match builder.elements.get? accessor.name with
  | some value => .ok value
  | none =>
      match accessor.defaultValue with
      | .undefined =>
          .error (.instanceCreation
            ("No value provided for " ++ accessor.name ++ "() of " ++ builder.type.name) none)
      | value => .ok value

/-- The values of all accessors in turn, up to the first that has none. -/
def resolveAll (builder : Builder) : List Accessor → Except Failure (List (String × Value))
  | [] => .ok []
  | accessor :: rest => do
      let value ← builder.resolve accessor
      let others ← builder.resolveAll rest
      pure ((accessor.name, value) :: others)

/-- The failure to make a constraint of a type, with what was raised as cause. A
cause that cannot be reported fails in its own way. -/
def creationFailure (type : ConstraintType) (cause : Failure) : Failure :=
  match cause.message with
  | .ok reason =>
      .instanceCreation
        ("Unable to create constraint for configured " ++ type.name ++ ": " ++ reason)
        (some cause)
  | .error failure => failure

/-- Makes a constraint from the values put so far. The permission is checked in
a privileged block, after all values are resolved. -/
def createConstraint (builder : Builder) : Action Constraint := do
  let values ← Action.ofExcept (builder.resolveAll builder.accessors)
  let constraint ← Action.privileged builder.scope? (Action.mapFailure
    (creationFailure builder.type) (do
      Action.checkPermission builder.scope? Permission.createInstance.text
      let identity ← Action.drawIdentity
      pure (Constraint.ofValues identity builder.type values)))
  Action.log builder.level .debug "Synthesized constraint"
    [("type", .text builder.type.name), ("attributes", .number (.ofNat values.length))]
  pure constraint

end Builder

end AttributeContracts
