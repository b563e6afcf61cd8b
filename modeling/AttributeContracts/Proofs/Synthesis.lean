/-
# What a builder synthesizes

Creating a constraint resolves the declared accessors in turn. Each gives the value put
under its name, and only without one its declared default; a put of `undefined` counts as
a value, a default of `undefined` does not. Creation therefore fails in two ways only, and
an accessor without a value is noticed before the permission is asked for. A refusal is
wrapped together with what it says, so a refusal that says nothing is not wrapped.

Whatever was resolved is copied and stored. Its type is looked at when it is read, and what
the builder holds under names that are not declared is never seen again.
-/

import AttributeContracts.Proofs.Builder

namespace AttributeContracts

open Outcome

namespace Builder

variable {builder : Builder} {accessor : Accessor}

/-! ## Resolving one accessor -/

/-- What an accessor resolves to, if it does. -/
def resolved (builder : Builder) (accessor : Accessor) : Value :=
  (builder.get? accessor.name).getD accessor.defaultValue

/-- An accessor has a value: one was put under its name, or it declares a default. -/
def Supplies (builder : Builder) (accessor : Accessor) : Prop :=
  builder.contains accessor.name = true ∨ accessor.defaultValue ≠ .undefined

/-- The failure to resolve an accessor that has no value. -/
def lacking (builder : Builder) (accessor : Accessor) : Failure :=
  .instanceCreation
    ("No value provided for " ++ accessor.name ++ "() of " ++ builder.type.name) none

theorem contains_eq_isSome (builder : Builder) (name : String) :
    builder.contains name = (builder.get? name).isSome := rfl

theorem resolved_of_get? {value : Value} (held : builder.get? accessor.name = some value) :
    builder.resolved accessor = value := by
  rw [resolved, held, Option.getD_some]

theorem resolved_of_unset (unset : builder.contains accessor.name = false) :
    builder.resolved accessor = accessor.defaultValue := by
  rw [contains_eq_isSome, Option.isSome_eq_false_iff, Option.isNone_iff_eq_none] at unset
  rw [resolved, unset, Option.getD_none]

theorem resolve_of_supplies (supplied : builder.Supplies accessor) :
    builder.resolve accessor = .ok (builder.resolved accessor) := by
  cases held : builder.get? accessor.name with
  | some value => rw [resolve_of_get? held, resolved_of_get? held]
  | none =>
      have declared : accessor.defaultValue ≠ .undefined := by
        rw [Supplies, contains_eq_isSome, held] at supplied
        exact supplied.resolve_left Bool.false_ne_true
      rw [get?] at held
      -- `declared` leaves the last case of the match on the default.
      simp only [resolved, get?, resolve, held, Option.getD_none]

theorem resolve_of_not_supplies (unsupplied : ¬builder.Supplies accessor) :
    builder.resolve accessor = .error (builder.lacking accessor) := by
  rw [Supplies, not_or, contains_eq_isSome, Bool.not_eq_true, Option.isSome_eq_false_iff,
    Option.isNone_iff_eq_none, Classical.not_not] at unsupplied
  obtain ⟨absent, isUndefined⟩ := unsupplied
  rw [get?] at absent
  rw [resolve, absent, isUndefined]
  rfl

theorem resolve_eq_ok_iff {value : Value} :
    builder.resolve accessor = .ok value ↔
      builder.Supplies accessor ∧ value = builder.resolved accessor := by
  by_cases supplied : builder.Supplies accessor
  · rw [resolve_of_supplies supplied, Except.ok.injEq, eq_comm]
    exact ⟨fun same => ⟨supplied, same⟩, And.right⟩
  · simp [resolve_of_not_supplies supplied, supplied]

/-! ## Resolving all of them -/

/-- The first accessor of a list that has no value. -/
def FirstLacking (builder : Builder) (accessors : List Accessor) (accessor : Accessor) : Prop :=
  ∃ before after, accessors = before ++ accessor :: after ∧
    (∀ earlier ∈ before, builder.Supplies earlier) ∧ ¬builder.Supplies accessor

/-- Behind an accessor that has a value, the first without one is that of the rest. -/
theorem firstLacking_cons {rest : List Accessor} {found : Accessor}
    (supplied : builder.Supplies accessor) :
    builder.FirstLacking (accessor :: rest) found ↔ builder.FirstLacking rest found := by
  constructor
  · rintro ⟨before, after, split, earlier, lacks⟩
    cases before with
    | nil =>
        cases split
        exact absurd supplied lacks
    | cons first others =>
        cases split
        exact ⟨others, after, rfl, (List.forall_mem_cons.1 earlier).2, lacks⟩
  · rintro ⟨before, after, rfl, earlier, lacks⟩
    exact ⟨accessor :: before, after, rfl, List.forall_mem_cons.2 ⟨supplied, earlier⟩, lacks⟩

/-- Where an accessor has no value, no other one is looked at. -/
theorem firstLacking_cons_self {rest : List Accessor} {found : Accessor}
    (unsupplied : ¬builder.Supplies accessor) :
    builder.FirstLacking (accessor :: rest) found ↔ found = accessor := by
  constructor
  · rintro ⟨before, after, split, earlier, _⟩
    cases before with
    | nil =>
        cases split
        rfl
    | cons first others =>
        cases split
        exact absurd (List.forall_mem_cons.1 earlier).1 unsupplied
  · rintro rfl
    exact ⟨[], rest, rfl, fun _ none => absurd none List.not_mem_nil, unsupplied⟩

/-- Resolving fails with the first accessor that has no value, and in no other way. -/
theorem resolveAll_eq_error_iff {accessors : List Accessor} {failure : Failure} :
    builder.resolveAll accessors = .error failure ↔
      ∃ first, builder.FirstLacking accessors first ∧ failure = builder.lacking first := by
  induction accessors with
  | nil =>
      constructor
      · intro resolved
        cases resolved
      · rintro ⟨first, ⟨before, after, split, _⟩, _⟩
        exact absurd split (by simp)
  | cons accessor rest ih =>
      by_cases supplied : builder.Supplies accessor
      · simp only [firstLacking_cons supplied]
        rw [← ih, resolveAll, resolve_of_supplies supplied, ok_bind]
        cases builder.resolveAll rest with
        | ok values => simp [pure, Except.pure]
        | error cause => exact Iff.rfl
      · simp only [firstLacking_cons_self supplied, exists_eq_left]
        rw [resolveAll, resolve_of_not_supplies supplied, error_bind, Except.error.injEq, eq_comm]

/-- Resolving answers exactly when every accessor has a value. -/
theorem exists_resolveAll_iff {accessors : List Accessor} :
    (∃ values, builder.resolveAll accessors = .ok values) ↔
      ∀ accessor ∈ accessors, builder.Supplies accessor := by
  constructor
  · rintro ⟨values, resolved⟩
    induction accessors generalizing values with
    | nil => exact fun _ none => absurd none List.not_mem_nil
    | cons accessor rest ih =>
        obtain ⟨value, first, others⟩ := bind_eq_ok.1 resolved
        obtain ⟨entries, found, _⟩ := bind_eq_ok.1 others
        exact List.forall_mem_cons.2 ⟨(resolve_eq_ok_iff.1 first).1, ih entries found⟩
  · intro supplied
    exact resolveAll_answers fun accessor held =>
      ⟨builder.resolved accessor, resolve_of_supplies (supplied accessor held)⟩

/-! ## What is created -/

/-- A constraint can be created exactly when every accessor has a value and the permission is
granted. -/
theorem exists_created_iff_supplies (builder : Builder) (session : Session) :
    (∃ constraint, (builder.createConstraint.run session).1 = .ok constraint) ↔
      (∀ accessor ∈ builder.accessors, builder.Supplies accessor) ∧
        session.permits builder.scope? .createInstance = .ok () := by
  rw [← exists_resolveAll_iff, run_createConstraint_fst]
  constructor
  · rintro ⟨constraint, created⟩
    obtain ⟨values, resolved, made⟩ := bind_eq_ok.1 created
    obtain ⟨_, granted, _⟩ := bind_eq_ok.1 made
    exact ⟨⟨values, resolved⟩, mapError_eq_ok.1 granted⟩
  · rintro ⟨⟨values, resolved⟩, granted⟩
    rw [resolved, granted]
    exact ⟨_, rfl⟩

/-- The accessors of a builder are the declared ones. -/
theorem Reachable.exists_created_iff (reachable : builder.Reachable) (session : Session) :
    (∃ constraint, (builder.createConstraint.run session).1 = .ok constraint) ↔
      (∀ accessor ∈ builder.type.accessors, builder.Supplies accessor) ∧
        session.permits builder.scope? .createInstance = .ok () := by
  rw [exists_created_iff_supplies, reachable.accessors_eq]

/-- Creating a constraint fails with the first declared accessor that has no value, or
else with a refusal of the permission as the cause. -/
theorem Reachable.createConstraint_eq_error_iff (reachable : builder.Reachable)
    (session : Session) {failure : Failure} :
    (builder.createConstraint.run session).1 = .error failure ↔
      (∃ first, builder.FirstLacking builder.type.accessors first ∧
        failure = builder.lacking first) ∨
      (∀ accessor ∈ builder.type.accessors, builder.Supplies accessor) ∧
        ∃ cause, session.permits builder.scope? .createInstance = .error cause ∧
          failure = creationFailure builder.type cause := by
  rw [← resolveAll_eq_error_iff, ← exists_resolveAll_iff, run_createConstraint_fst,
    reachable.accessors_eq]
  cases builder.resolveAll builder.type.accessors with
  | error lack => simp
  | ok values =>
      cases session.permits builder.scope? .createInstance with
      | ok _ => simp
      | error cause => simp [eq_comm]

/-- A created constraint is of the builder's type. -/
theorem Reachable.annotationType_created (reachable : builder.Reachable) {session : Session}
    {constraint : Constraint}
    (created : (builder.createConstraint.run session).1 = .ok constraint) :
    constraint.annotationType = .ok builder.type := by
  obtain ⟨identity, values, rfl, _⟩ := reachable.stored_of_createConstraint created
  rfl

/-- It answers a declared name through the guard of its declared type,
which is put to a copy of the value that the accessor of that name resolves to. -/
theorem Reachable.valueOf_created (reachable : builder.Reachable) {session : Session}
    {constraint : Constraint}
    (created : (builder.createConstraint.run session).1 = .ok constraint) {name : String}
    {definition : AttributeDefinition}
    (declared : builder.type.definition? name = some definition) :
    let copy := (builder.resolved (.ofDefinition name definition)).kept
    constraint.valueOf name = definition.type.accepts copy >>= fun accepted =>
      if accepted then .ok copy
      else .error (Constraint.illTyped builder.type name copy) := by
  intro copy
  obtain ⟨identity, values, rfl, stored⟩ := reachable.stored_of_createConstraint created
  obtain ⟨value, resolves, copied⟩ :=
    stored _ (ConstraintType.mem_accessors_of_definition declared)
  have same : Value.stored values name = copy :=
    copied.trans (congrArg Value.kept (resolve_eq_ok_iff.1 resolves).2)
  rw [Constraint.valueOf_synthesized declared, same]

/-- It answers no other name, whatever the builder held under it. -/
theorem Reachable.valueOf_created_undeclared (reachable : builder.Reachable) {session : Session}
    {constraint : Constraint}
    (created : (builder.createConstraint.run session).1 = .ok constraint) {name : String}
    (undeclared : builder.type.declares name = false) :
    constraint.valueOf name = .error (.unknownAttribute builder.type.name name) := by
  obtain ⟨identity, values, rfl, _⟩ := reachable.stored_of_createConstraint created
  exact Constraint.valueOf_synthesized_of_not_declares undeclared

/-- A refusal is wrapped with what it says, or else it is what reporting it fails with. -/
theorem creationFailure_eq_iff {type : ConstraintType} {cause failure : Failure} :
    failure = creationFailure type cause ↔
      (∃ reason, cause.message = .ok reason ∧ failure = .instanceCreation
        ("Unable to create constraint for configured " ++ type.name ++ ": " ++ reason)
        (some cause)) ∨
      cause.message = .error failure := by
  rw [creationFailure]
  cases cause.message with
  | ok reason => simp
  | error other => simp [eq_comm]

/-- Creating a constraint answers exactly when every declared accessor has a value and the
scope grants the permission; otherwise it fails with the first accessor that has none, or
else with the refusal as its cause, provided that the refusal can be reported. What it
creates answers the declared names and no others: with a copy of the value put, `undefined`
included, or else of the default, where the declared type accepts the copy. It accepts the
copy of what it accepts, and the copy is the value itself, unless the value has holes. -/
theorem createConstraint_resolves {builder : Builder} (reachable : builder.Reachable)
    (session : Session) :
    let answer := (builder.createConstraint.run session).1
    let complete := ∀ accessor ∈ builder.type.accessors, builder.Supplies accessor
    let permitted := session.permits builder.scope? .createInstance
    ((∃ constraint, answer = .ok constraint) ↔ complete ∧ permitted = .ok ()) ∧
      (∀ failure, answer = .error failure ↔
        (∃ first, builder.FirstLacking builder.type.accessors first ∧
          failure = .instanceCreation
            ("No value provided for " ++ first.name ++ "() of " ++ builder.type.name) none) ∨
        complete ∧ ∃ cause, permitted = .error cause ∧
          ((∃ reason, cause.message = .ok reason ∧ failure = .instanceCreation
            ("Unable to create constraint for configured " ++ builder.type.name ++ ": " ++
              reason) (some cause)) ∨
          cause.message = .error failure)) ∧
      ∀ constraint, answer = .ok constraint → ∀ name,
        (builder.type.declares name = false →
          constraint.valueOf name = .error (.unknownAttribute builder.type.name name)) ∧
        ∀ definition, builder.type.definition? name = some definition →
          let value := (builder.get? name).getD definition.defaultValue
          let copy := value.kept
          (value.hasHoles = false → copy = value) ∧
          (definition.type.accepts value = .ok true → value.hasHoles = true →
            definition.type.accepts copy = .ok false) ∧
          (definition.type.accepts copy = .ok true → constraint.valueOf name = .ok copy) ∧
          (definition.type.accepts copy = .ok false →
            constraint.valueOf name = .error (.unfit name copy
              ("Invalid '" ++ name ++ "' value for " ++ builder.type.name ++ ": "))) ∧
          ∀ failure, definition.type.accepts copy = .error failure →
            constraint.valueOf name = .error failure := by
  intro answer complete permitted
  refine ⟨reachable.exists_created_iff session, fun failure => ?_, ?_⟩
  · rw [reachable.createConstraint_eq_error_iff session]
    simp only [creationFailure_eq_iff]
    rfl
  intro constraint created name
  refine ⟨reachable.valueOf_created_undeclared created, ?_⟩
  intro definition declared value copy
  have read : constraint.valueOf name = definition.type.accepts copy >>= fun accepted =>
      if accepted then .ok copy else .error (Constraint.illTyped builder.type name copy) :=
    reachable.valueOf_created created declared
  refine ⟨Value.kept_of_not_hasHoles, Descriptor.accepts_kept_of_hasHoles, ?_, ?_, ?_⟩
  · intro accepted
    rw [read, accepted]
    rfl
  · intro refused
    rw [read, refused]
    rfl
  · intro failure failed
    rw [read, failed, error_bind]

/-- A constraint type with a number that declares no default, and a text that does. -/
def dimmer : ConstraintType where
  identity := .drawn 2
  name := "example.Dimmer"
  definitions := [("level", ⟨.number, none⟩), ("message", ⟨.string, some (.text "dim")⟩)]

/-- A builder of that type that holds `undefined` for the number, nothing for the text,
and groups that are well known without being declared. -/
def dimmerBuilder : Builder :=
  ((Builder.mk dimmer dimmer.accessors .empty (some 0) .silent).change
    (.put "level" .undefined)).change (.setGroups (.array []))

theorem reachable_dimmerBuilder : dimmerBuilder.Reachable :=
  .change (.change (.build Session.genuine_restricted (.empty dimmer) { scope? := some 0 } rfl) _) _

/-- The number is there and cannot be read, the text reads as its default, and the groups
are gone. -/
theorem createConstraint_resolves_dimmer :
    ∃ constraint,
      (dimmerBuilder.createConstraint.run Session.restricted).1 = .ok constraint ∧
        constraint.valueOf "level" = .error (.schemaViolation "level" .undefined
          "Invalid 'level' value for example.Dimmer: undefined") ∧
        constraint.valueOf "message" = .ok (.text "dim") ∧
        constraint.valueOf "groups" = .error (.unknownAttribute "example.Dimmer" "groups") := by
  obtain ⟨creates, _, reads⟩ :=
    createConstraint_resolves reachable_dimmerBuilder Session.restricted
  have complete : ∀ accessor ∈ dimmer.accessors, dimmerBuilder.Supplies accessor := by
    rw [show dimmer.accessors = [⟨"level", .number, .undefined⟩, ⟨"message", .string, .text "dim"⟩]
      from rfl, List.forall_mem_cons, List.forall_mem_singleton]
    exact ⟨.inl rfl, .inr Value.noConfusion⟩
  obtain ⟨constraint, created⟩ := creates.2 ⟨complete, rfl⟩
  have read := reads constraint created
  obtain ⟨_, _, _, unread, _⟩ := (read "level").2 ⟨.number, none⟩ rfl
  obtain ⟨_, _, answers, _⟩ := (read "message").2 ⟨.string, some (.text "dim")⟩ rfl
  exact ⟨constraint, created, unread rfl, answers rfl, (read "groups").1 rfl⟩

/-- What a host may raise and nobody can report: a record without any conversion. -/
def muteRecord : Value := .record (.drawn 4) true []

/-- A session with a scope that raises this record when a constraint is to be made. -/
def raisingSession : Session :=
  (Session.initial.addScope
    ⟨.scripted [(Permission.createInstance.text, .raising muteRecord)], []⟩).2

/-- A constraint type with a list of texts. -/
def playlist : ConstraintType where
  identity := .drawn 3
  name := "example.Playlist"
  definitions := [("titles", ⟨.arrayOf .string, none⟩)]

/-- A builder of that type with a list that has a hole. -/
def holedBuilder (scope? : Option ScopeId) : Builder :=
  (Builder.mk playlist playlist.accessors .empty scope? .silent).change
    (.put "titles" (.array [none]))

theorem reachable_holedBuilder (scope? : Option ScopeId) : (holedBuilder scope?).Reachable :=
  .change (.build Session.genuine_restricted (.empty playlist) { scope? } rfl) _

/-- A refusal that cannot be reported gets out as something else than a failure to create.
And what the declared type accepts need not be read, if it has holes. -/
theorem createConstraint_not_always_resolves :
    (∀ scope?, (holedBuilder scope?).Reachable) ∧
      raisingSession.permits (some 0) .createInstance = .error (.thrown muteRecord) ∧
      ((holedBuilder (some 0)).createConstraint.run raisingSession).1 = .error .misuse ∧
      (Descriptor.arrayOf .string).accepts (.array [none]) = .ok true ∧
      ∃ constraint, ((holedBuilder none).createConstraint.run .initial).1 = .ok constraint ∧
        constraint.valueOf "titles" = .error (.schemaViolation "titles" (.arrayOf [.undefined])
          "Invalid 'titles' value for example.Playlist: [undefined]") :=
  ⟨reachable_holedBuilder, rfl, rfl, rfl, _, rfl, rfl⟩

end Builder

end AttributeContracts
