/-
# What a valid contract check promises

A contract check looks at declarations once, when a constraint type is registered.
Reading a well-known attribute looks at values, twice: against the type that the
constraint type declares, and then against the type of the kind. Since a valid check
makes the first narrower than the second, the second never refuses what the first
let through.

Both look at a copy of the value that was put. That makes no difference unless the value is
an array with holes: a guard passes over a hole, and refuses the `undefined` that the copy
has in its place.
-/

import AttributeContracts.Proofs.Assignability
import AttributeContracts.Proofs.Synthesis

namespace AttributeContracts

open Outcome

theorem Value.isNonEmptyArray_iff {value : Value} :
    value.isNonEmptyArray = true ↔ ∃ first rest, value = .array (first :: rest) := by
  cases value with
  | array elements => cases elements <;> simp [isNonEmptyArray]
  | _ => simp [isNonEmptyArray]

namespace AttributeKind

/-- The check of a value against a kind answers the value or fails. -/
theorem check_of_accepts {kind : AttributeKind} {value : Value}
    (accepted : kind.type.accepts value = .ok true) : kind.check value = .ok value := by
  rw [check, accepted]
  rfl

/-- A value that a map holds under the kind's name is taken out through the check. -/
theorem get_of_held {kind : AttributeKind} {map : AttributeMap} {value : Value}
    (held : map.get? kind.attributeName = some value) :
    kind.get map = some <$> kind.check value := by
  rw [get, held]

/-- An accessor has no fault when its type is assignable, its default is there unless the
kind may do without, and that default is not an array with elements where the kind's
values are arrays. -/
theorem accessorFault?_eq_none_iff {kind : AttributeKind} {accessor : Accessor} :
    kind.accessorFault? accessor = none ↔
      accessor.type.isAssignable kind.type = true ∧
        (accessor.defaultValue = .undefined → kind.permitsEmptyDefault = true) ∧
        (kind.type.isArray = true → accessor.defaultValue.isNonEmptyArray = false) := by
  rw [accessorFault?]
  by_cases assignable : accessor.type.isAssignable kind.type = true
  · cases accessor.defaultValue <;> simp [assignable, Value.isNonEmptyArray]
  · simp [assignable]

end AttributeKind

namespace ContractCheck

/-- A check is valid when it finds an accessor without a fault. -/
theorem isValid_iff {kind : AttributeKind} {type : ConstraintType} :
    (kind.analyze type).isValid = true ↔ ∃ accessor,
      type.accessor? kind.attributeName = some accessor ∧ kind.accessorFault? accessor = none := by
  have found : (kind.analyze type).accessor? = type.accessor? kind.attributeName := rfl
  have judging : (kind.analyze type).kind = kind := rfl
  rw [isValid, violation?, Option.isNone_map, Option.isNone_iff_eq_none, fault?, found, judging]
  cases type.accessor? kind.attributeName with
  | none => simp
  | some accessor => simp

/-- A valid check has found an accessor of a type that narrows the kind's. -/
theorem narrows_of_isValid {kind : AttributeKind} {type : ConstraintType}
    (valid : (kind.analyze type).isValid = true) :
    ∃ accessor, type.accessor? kind.attributeName = some accessor ∧
      accessor.type.Narrows kind.type := by
  obtain ⟨accessor, declared, faultless⟩ := isValid_iff.1 valid
  obtain ⟨assignable, _⟩ := AttributeKind.accessorFault?_eq_none_iff.1 faultless
  exact ⟨accessor, declared, Descriptor.narrows_of_isAssignable assignable⟩

/-- Reading with a valid check off a constraint whose type declares the attribute:
the permission, the constraint's own answer, and the check of the kind, in this
order. -/
theorem run_read_fst {kind : AttributeKind} {type : ConstraintType}
    (valid : (kind.analyze type).isValid = true)
    {constraint : Constraint} {own : ConstraintType}
    (answers : constraint.annotationType = .ok own)
    (declared : own.declares kind.attributeName = true)
    (scope? : Option ScopeId) (session : Session) :
    (((kind.analyze type).read constraint scope?).run session).1 =
      session.permits scope? .readAttributes >>= fun _ =>
        constraint.valueOf kind.attributeName >>= kind.check := by
  rw [isValid, Option.isNone_iff_eq_none] at valid
  have isDeclared : (!own.declares kind.attributeName) = false := by rw [declared]; rfl
  simp only [read, valid, answers, Action.run_bind, Action.run_ofExcept]
  simp only [AttributeKind.analyze, isDeclared, Bool.false_eq_true, if_false, Action.run_bind,
    Action.run_privileged_readAttribute]
  cases session.permits scope? .readAttributes with
  | error failure => rfl
  | ok _ => cases constraint.valueOf kind.attributeName <;> rfl

/-- An attribute that the builder holds is stored as a copy of what is held, and read through
the guard of the type that the constraint type declares. -/
theorem valueOf_created {builder : Builder} (reachable : builder.Reachable) {name : String}
    {accessor : Accessor} (declared : builder.type.accessor? name = some accessor)
    {value : Value} (held : builder.get? name = some value)
    {session : Session} {constraint : Constraint}
    (created : (builder.createConstraint.run session).1 = .ok constraint) :
    constraint.annotationType = .ok builder.type ∧
      constraint.valueOf name = accessor.type.accepts value.kept >>= fun accepted =>
        if accepted then .ok value.kept
        else .error (Constraint.illTyped builder.type name value.kept) := by
  obtain ⟨definition, found, rfl⟩ := Option.map_eq_some_iff.1 declared
  have same : builder.resolved (.ofDefinition name definition) = value :=
    Builder.resolved_of_get? held
  have read := reachable.valueOf_created created found
  rw [same] at read
  exact ⟨reachable.annotationType_created created, read⟩

/-- So it reads as what is held, and only where that has the declared type and no holes. -/
theorem valueOf_created_eq_ok {builder : Builder} (reachable : builder.Reachable) {name : String}
    {accessor : Accessor} (declared : builder.type.accessor? name = some accessor)
    {value : Value} (held : builder.get? name = some value)
    {session : Session} {constraint : Constraint}
    (created : (builder.createConstraint.run session).1 = .ok constraint) {found : Value} :
    constraint.valueOf name = .ok found ↔
      found = value ∧ accessor.type.accepts value = .ok true ∧ value.hasHoles = false := by
  rw [(valueOf_created reachable declared held created).2, bind_eq_ok]
  constructor
  · rintro ⟨accepted, guarded, isFound⟩
    cases accepted with
    | false => cases isFound
    | true =>
        cases isFound
        have both := Descriptor.accepts_kept_iff.1 guarded
        exact ⟨Value.kept_of_not_hasHoles both.2, both⟩
  · rintro ⟨rfl, both⟩
    refine ⟨true, Descriptor.accepts_kept_iff.2 both, ?_⟩
    rw [if_pos rfl, Value.kept_of_not_hasHoles both.2]

/-- Reading with a valid check off a constraint that was made from the checked type is
asking the constraint: the kind's own guard changes nothing. -/
theorem run_read_created {kind : AttributeKind} {builder : Builder}
    (valid : (kind.analyze builder.type).isValid = true) (reachable : builder.Reachable)
    {value : Value} (held : builder.get? kind.attributeName = some value)
    {making reading : Session} {constraint : Constraint}
    (created : (builder.createConstraint.run making).1 = .ok constraint)
    {scope? : Option ScopeId} (granted : reading.permits scope? .readAttributes = .ok ()) :
    (((kind.analyze builder.type).read constraint scope?).run reading).1 =
      constraint.valueOf kind.attributeName := by
  obtain ⟨accessor, declared, narrows⟩ := narrows_of_isValid valid
  obtain ⟨ofType, _⟩ := valueOf_created reachable declared held created
  obtain ⟨_, definition, isDefined, _⟩ := ConstraintType.definition_of_accessor? declared
  have isDeclared := ConstraintType.declares_of_definition isDefined
  rw [run_read_fst valid ofType isDeclared, granted, ok_bind]
  cases outcome : constraint.valueOf kind.attributeName with
  | error failure => rfl
  | ok read =>
      obtain ⟨rfl, guarded, _⟩ :=
        (valueOf_created_eq_ok reachable declared held created).1 outcome
      exact AttributeKind.check_of_accepts (narrows.accepts guarded)

/-- Where a constraint type passes the check of a kind, reading the attribute off a
constraint made from it answers the value that was put exactly when that value has
the declared type and no holes, and otherwise fails as the constraint itself does. The kind's
own guard never refuses. -/
theorem read_created_of_isValid {kind : AttributeKind} {builder : Builder} {accessor : Accessor}
    (valid : (kind.analyze builder.type).isValid = true)
    (declared : (kind.analyze builder.type).accessor? = some accessor)
    (reachable : builder.Reachable) {value : Value}
    (held : builder.get? kind.attributeName = some value)
    {making reading : Session} {constraint : Constraint}
    (created : (builder.createConstraint.run making).1 = .ok constraint)
    {scope? : Option ScopeId} (granted : reading.permits scope? .readAttributes = .ok ()) :
    let answer := (((kind.analyze builder.type).read constraint scope?).run reading).1
    let takes (type : Descriptor) := type.accepts value = .ok true ∧ value.hasHoles = false
    (answer = .ok value ↔ takes accessor.type) ∧
      (¬takes accessor.type → ∃ failure,
        constraint.valueOf kind.attributeName = .error failure ∧ answer = .error failure) ∧
      (∀ found, constraint.valueOf kind.attributeName = .ok found →
        kind.type.accepts found = .ok true) ∧
      (answer = .ok value → ∀ map : AttributeMap, map.get? kind.attributeName = some value →
        kind.get map = .ok (some value)) ∧
      (kind.type.isAssignable accessor.type = true →
        (answer = .ok value ↔ takes kind.type)) := by
  intro answer takes
  obtain ⟨found, isFound, narrows⟩ := narrows_of_isValid valid
  obtain rfl : found = accessor := Option.some.inj (isFound.symm.trans declared)
  have isRead : answer = constraint.valueOf kind.attributeName :=
    run_read_created valid reachable held created granted
  have reads (read : Value) : constraint.valueOf kind.attributeName = .ok read ↔
      read = value ∧ takes found.type :=
    valueOf_created_eq_ok reachable isFound held created
  have exactly : answer = .ok value ↔ takes found.type := by
    rw [isRead, reads, eq_self, true_and]
  refine ⟨exactly, ?_, ?_, ?_, ?_⟩
  · intro refused
    cases outcome : constraint.valueOf kind.attributeName with
    | error failure => exact ⟨failure, rfl, isRead.trans outcome⟩
    | ok read => exact absurd ((reads read).1 outcome).2 refused
  · intro read isOk
    obtain ⟨rfl, guarded, _⟩ := (reads read).1 isOk
    exact narrows.accepts guarded
  · intro isOk map held
    have taken : kind.check value = .ok value :=
      AttributeKind.check_of_accepts (narrows.accepts (exactly.1 isOk).1)
    rw [AttributeKind.get_of_held held, taken]
    rfl
  · intro backward
    rw [exactly]
    constructor
    · rintro ⟨guarded, dense⟩
      exact ⟨narrows.accepts guarded, dense⟩
    · rintro ⟨taken, dense⟩
      exact ⟨(Descriptor.narrows_of_isAssignable backward).accepts taken, dense⟩

/-- A constraint type whose payloads are of a class below the base class. -/
def alarm : ConstraintType where
  identity := .drawn 2
  name := "example.Alarm"
  definitions := [("payload", ⟨.arrayOf (.classOf (some .severity)), some (.array [])⟩)]

/-- A builder of that type in a restricted scope, with a payload set. -/
def alarmBuilder (payload : Value) : Builder :=
  (Builder.mk alarm alarm.accessors .empty (some 0) .silent).change (.setPayload payload)

theorem reachable_alarmBuilder (payload : Value) : (alarmBuilder payload).Reachable :=
  .change (.build Session.genuine_restricted (.empty alarm) { scope? := some 0 } rfl) _

/-- A payload below the declared class is read, though the declared type is narrower
than that of the kind. -/
theorem read_created_of_isValid_alarm :
    let payload := Value.arrayOf [.classRef .fatal]
    (AttributeKind.payload.analyze alarm).isValid = true ∧
      Session.restricted.permits (some 0) .readAttributes = .ok () ∧
      (((AttributeKind.payload.analyze alarm).read
        (.ofValues (.drawn 0) alarm [("payload", payload)])
        (some 0)).run Session.restricted).1 = .ok payload := by
  intro payload
  have valid : (AttributeKind.payload.analyze (alarmBuilder payload).type).isValid = true := rfl
  have held : (alarmBuilder payload).get? AttributeKind.payload.attributeName = some payload := rfl
  have created : ((alarmBuilder payload).createConstraint.run Session.restricted).1 =
      .ok (.ofValues (.drawn 0) alarm [("payload", payload)]) := rfl
  have granted : Session.restricted.permits (some 0) .readAttributes = .ok () := rfl
  obtain ⟨exactly, _⟩ :=
    read_created_of_isValid valid rfl (reachable_alarmBuilder payload) held created granted
  exact ⟨valid, granted, exactly.2 ⟨rfl, rfl⟩⟩

/-- A payload that is nothing but a hole has the declared type, and is not read. -/
theorem read_created_not_always_answers :
    let payload := Value.array [none]
    (alarmBuilder payload).Reachable ∧
      (AttributeKind.payload.analyze alarm).isValid = true ∧
      (Descriptor.arrayOf (.classOf (some .severity))).accepts payload = .ok true ∧
      ∃ constraint, ((alarmBuilder payload).createConstraint.run .restricted).1 = .ok constraint ∧
        Session.restricted.permits (some 0) .readAttributes = .ok () ∧
        (((AttributeKind.payload.analyze alarm).read constraint (some 0)).run .restricted).1 =
          .error (.schemaViolation "payload" (.arrayOf [.undefined])
            "Invalid 'payload' value for example.Alarm: [undefined]") :=
  ⟨reachable_alarmBuilder _, rfl, rfl, _, rfl, rfl, rfl⟩

end ContractCheck

end AttributeContracts
