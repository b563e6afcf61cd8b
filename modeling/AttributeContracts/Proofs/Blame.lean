/-
# Copies that fail

Copying a constraint reads its declared attributes in turn. At each of them the scope may
refuse, and where it does not, the constraint may fail to answer. A scope may judge by what
it has seen, so a permission that is granted at one reading can be refused at the next.

What a reading answers depends on the readings before it only by their number. Copying
succeeds when every reading answers. Otherwise the first one that does not is blamed, with
what was raised there as the cause, and nothing of the copy remains.
-/

import AttributeContracts.Proofs.Copying
import AttributeContracts.Proofs.Elevation
import AttributeContracts.Proofs.First
import AttributeContracts.Proofs.LastWrite

namespace AttributeContracts

open Outcome

/-! ## Readings in turn -/

namespace Session

/-- The session after some readings in turn, each in a privileged block of its own. -/
def afterReadings (session : Session) (scope? : Option ScopeId) : Nat → Session
  | 0 => session
  | count + 1 => (session.checked scope? .readAttributes).afterReadings scope? count

/-- What the check of a reading answers after some others. -/
def permitsReading (session : Session) (scope? : Option ScopeId) (earlier : Nat) :
    Except Failure Unit :=
  (session.afterReadings scope? earlier).permits scope? .readAttributes

variable {first second : Session} (same : first.scopes = second.scopes)
include same

theorem permits_congr (scope? : Option ScopeId) (permission : Permission) :
    first.permits scope? permission = second.permits scope? permission := by
  cases scope? with
  | none => rfl
  | some id => simp only [permits, scope, enter, updateScope, same]

theorem checked_congr (scope? : Option ScopeId) (permission : Permission) :
    (first.checked scope? permission).scopes = (second.checked scope? permission).scopes := by
  cases scope? with
  | none => exact same
  | some id => simp only [checked, leave, enter, updateScope, same]

/-- Sessions with the same scopes answer the same checks, now and after the same number of
readings. -/
theorem permitsReading_congr (scope? : Option ScopeId) (earlier : Nat) :
    first.permitsReading scope? earlier = second.permitsReading scope? earlier := by
  induction earlier generalizing first second with
  | zero => exact permits_congr same scope? _
  | succ count ih => exact ih (checked_congr same scope? _)

end Session

namespace Constraint

/-- What reading an attribute answers after some other readings: the permission comes
first, and the constraint is asked only where it is granted. -/
def reading (constraint : Constraint) (session : Session) (scope? : Option ScopeId)
    (earlier : Nat) (name : String) : Except Failure Value :=
  session.permitsReading scope? earlier >>= fun _ => constraint.valueOf name

/-- Whether a reading answers. -/
def Readable (constraint : Constraint) (session : Session) (scope? : Option ScopeId)
    (earlier : Nat) (name : String) : Prop :=
  ∃ value, constraint.reading session scope? earlier name = .ok value

variable {constraint : Constraint} {session : Session} {scope? : Option ScopeId} {earlier : Nat}
  {name : String}

theorem readable_iff :
    constraint.Readable session scope? earlier name ↔
      session.permitsReading scope? earlier = .ok () ∧
        ∃ value, constraint.valueOf name = .ok value := by
  rw [Readable, reading]
  cases session.permitsReading scope? earlier <;> simp

/-- A refusal is raised as it is, even where the constraint would not have answered. -/
theorem reading_eq_error_iff {cause : Failure} :
    constraint.reading session scope? earlier name = .error cause ↔
      session.permitsReading scope? earlier = .error cause ∨
        session.permitsReading scope? earlier = .ok () ∧
          constraint.valueOf name = .error cause := by
  rw [reading]
  cases session.permitsReading scope? earlier <;> simp

/-- Where the permission is granted, a reading answers what the constraint answers. -/
theorem reading_of_permits (granted : session.permitsReading scope? earlier = .ok ()) :
    constraint.reading session scope? earlier name = constraint.valueOf name := by
  rw [reading, granted, ok_bind]

/-- So a synthesized constraint is read where the stored value has the declared type. -/
theorem readable_synthesized_iff {identity : Identity} {type : ConstraintType}
    {values : List (String × Value)}
    (granted : session.permitsReading scope? earlier = .ok ()) :
    (Constraint.synthesized identity type values).Readable session scope? earlier name ↔
      ∃ definition, type.definition? name = some definition ∧
        definition.type.accepts (Value.stored values name) = .ok true := by
  simp [Readable, reading_of_permits granted, valueOf_synthesized_eq_ok]

section

variable {reached : Session} (same : reached.scopes = session.scopes)
include same

theorem reading_congr :
    constraint.reading reached scope? = constraint.reading session scope? := by
  funext earlier name
  rw [reading, reading, Session.permitsReading_congr same]

theorem readable_congr :
    constraint.Readable reached scope? = constraint.Readable session scope? := by
  funext earlier name
  rw [Readable, Readable, reading_congr same]

end

/-- What some names are read to hold, where each of them can be read, is listed under those
names. -/
theorem map_fst_readings {names : List String}
    (reads : ∀ name ∈ names, ∃ value, constraint.valueOf name = .ok value) :
    (constraint.readings names).map Prod.fst = names := by
  induction names with
  | nil => rfl
  | cons name rest ih =>
      rw [List.forall_mem_cons] at reads
      obtain ⟨⟨value, read⟩, others⟩ := reads
      rw [readings, List.filterMap_cons, read]
      exact congrArg (name :: ·) (ih others)

end Constraint

namespace Builder

variable {constraint : Constraint} {builder : Builder} {accessors : List Accessor}
  {session : Session}

/-- The step: the first reading comes after no other, and the others after one more. -/
theorem run_readAll_reading (builder : Builder) (constraint : Constraint) (accessor : Accessor)
    (rest : List Accessor) (session : Session) :
    ((builder.readAll constraint (accessor :: rest)).run session).1 =
      (constraint.reading session builder.scope? 0 accessor.name).mapError
          (.configurationRead builder.type.name accessor.name) >>= fun value =>
        (((builder.store accessor.name value).readAll constraint rest).run
          (session.checked builder.scope? .readAttributes)).1 :=
  run_readAll_cons builder constraint accessor rest session

/-- By induction on the accessors: all of them are read when every reading answers. -/
theorem exists_readAll_iff :
    (∃ after, ((builder.readAll constraint accessors).run session).1 = .ok after) ↔
      ∀ place name, (accessors.map Accessor.name)[place]? = some name →
        constraint.Readable session builder.scope? place name := by
  induction accessors generalizing builder session with
  | nil =>
      constructor
      · intro _ place name listed
        cases listed
      · intro _
        exact ⟨builder, rfl⟩
  | cons accessor rest ih =>
      simp only [run_readAll_reading, bind_eq_ok, mapError_eq_ok]
      constructor
      · rintro ⟨after, value, read, others⟩ place name listed
        cases place with
        | zero =>
            cases listed
            exact ⟨value, read⟩
        | succ place => exact ih.1 ⟨after, others⟩ place name listed
      · intro answers
        obtain ⟨value, read⟩ := answers 0 accessor.name rfl
        have later := (@ih (builder.store accessor.name value)
          (session.checked builder.scope? .readAttributes)).2
        obtain ⟨after, others⟩ := later fun place name listed => answers (place + 1) name listed
        exact ⟨after, value, read, others⟩

/-- By induction on the accessors: the first reading that does not answer is blamed. -/
theorem readAll_eq_error_iff {failure : Failure} :
    ((builder.readAll constraint accessors).run session).1 = .error failure ↔
      ∃ place name cause,
        FirstWithout (constraint.Readable session builder.scope?)
          (accessors.map Accessor.name) place name ∧
        constraint.reading session builder.scope? place name = .error cause ∧
        failure = .configurationRead builder.type.name name cause := by
  induction accessors generalizing builder session with
  | nil =>
      constructor
      · intro failed
        cases failed
      · rintro ⟨place, name, cause, first, _⟩
        exact nomatch first.listed
  | cons accessor rest ih =>
      rw [run_readAll_reading, List.map_cons]
      cases read : constraint.reading session builder.scope? 0 accessor.name with
      | error cause =>
          have lacks : ¬constraint.Readable session builder.scope? 0 accessor.name := by
            simp [Constraint.Readable, read]
          simp only [FirstWithout.cons_self_iff lacks, mapError_error, error_bind,
            Except.error.injEq]
          constructor
          · rintro rfl
            exact ⟨0, accessor.name, cause, ⟨rfl, rfl⟩, read, rfl⟩
          · rintro ⟨_, _, raised, ⟨rfl, rfl⟩, raises, rfl⟩
            cases read.symm.trans raises
            rfl
      | ok value =>
          have has : constraint.Readable session builder.scope? 0 accessor.name := ⟨value, read⟩
          rw [mapError_ok, ok_bind, ih]
          simp only [FirstWithout.cons_iff has]
          constructor
          · rintro ⟨place, name, cause, first, raises, same⟩
            exact ⟨place + 1, name, cause, ⟨place, rfl, first⟩, raises, same⟩
          · rintro ⟨_, name, cause, ⟨place, rfl, first⟩, raises, same⟩
            exact ⟨place, name, cause, first, raises, same⟩

/-! ## Copying -/

/-- A copy of a constraint that answers with its type is a reading of all the accessors of
that type, under the scopes of the session in which it was begun. -/
theorem exists_run_fromInstance (genuine : session.Genuine) {type : ConstraintType}
    (answered : constraint.annotationType = .ok type) (options : BuilderOptions) :
    ∃ reached : Session, reached.scopes = session.scopes ∧
      ((fromInstance constraint options).run session).1 =
        (((Builder.mk type type.accessors .empty options.scope?
          (options.level?.getD .silent)).readAll constraint type.accessors).run reached).1 := by
  refine ⟨((forType type options).run session).2, leavesScopes_forType type options session, ?_⟩
  have begun := run_forType_fst genuine type options
  rw [fromInstance, Action.run_bind, Action.run_ofExcept, answered]
  show ((forType type options >>= fun empty =>
    empty.readAll constraint empty.accessors).run session).1 = _
  rw [Action.run_bind]
  rcases ran : (forType type options).run session with ⟨outcome, after⟩
  rw [ran] at begun
  cases begun
  rfl

section

variable (genuine : session.Genuine) {type : ConstraintType}
  (answered : constraint.annotationType = .ok type) {options : BuilderOptions}
include genuine answered

theorem exists_fromInstance_iff :
    (∃ copy, ((fromInstance constraint options).run session).1 = .ok copy) ↔
      ∀ place name, type.attributeNames[place]? = some name →
        constraint.Readable session options.scope? place name := by
  obtain ⟨reached, same, copied⟩ := exists_run_fromInstance genuine answered options
  rw [copied, exists_readAll_iff, ConstraintType.map_name_accessors,
    Constraint.readable_congr same]

theorem fromInstance_eq_error_iff {failure : Failure} :
    ((fromInstance constraint options).run session).1 = .error failure ↔
      ∃ place name cause,
        FirstWithout (constraint.Readable session options.scope?) type.attributeNames place name ∧
        constraint.reading session options.scope? place name = .error cause ∧
        failure = .configurationRead type.name name cause := by
  obtain ⟨reached, same, copied⟩ := exists_run_fromInstance genuine answered options
  rw [copied, readAll_eq_error_iff, ConstraintType.map_name_accessors,
    Constraint.readable_congr same, Constraint.reading_congr same]

/-- A copy holds the declared names in their order, each with what it was read to hold. -/
theorem names_of_fromInstance {copy : Builder}
    (copied : ((fromInstance constraint options).run session).1 = .ok copy) :
    copy.type = type ∧ copy.elements.names = type.attributeNames ∧
      ∀ name ∈ type.attributeNames, ∃ value,
        constraint.valueOf name = .ok value ∧ copy.get? name = some value := by
  obtain ⟨ofType, copies⟩ := copies_of_fromInstance genuine copied
  obtain rfl : copy.type = type := Except.ok.inj (ofType.symm.trans answered)
  have reads : ∀ name ∈ copy.type.attributeNames, ∃ value,
      constraint.valueOf name = .ok value ∧ copy.get? name = some value := by
    intro name declared
    rw [← ConstraintType.map_name_accessors] at declared
    obtain ⟨accessor, isAccessor, rfl⟩ := List.mem_map.1 declared
    exact copies.reads accessor isAccessor
  refine ⟨rfl, ?_, reads⟩
  have begun : (((BuilderOrigin.copy constraint).build options).run session).1 = .ok copy := copied
  obtain ⟨holds, _⟩ := holds_of_build genuine begun
  have own : constraint.type = copy.type := Constraint.type_eq_of_annotationType answered
  have listed := Constraint.map_fst_readings fun name declared =>
    (reads name declared).imp fun _ => And.left
  rw [holds.names_eq, BuilderOrigin.writes, own, Members.places_eq_map_fst, listed]
  rw [listed]
  exact Members.nodup_names _

end

/-- Copying a constraint is all or nothing. It succeeds exactly when, for each declared
attribute in turn, the permission is granted and the constraint answers, and the copy then
holds the declared names alone, with what was read. Otherwise the first attribute that was
not read is blamed, and the cause is what was raised there, a refusal before anything else.
Where nothing is refused, a synthesized constraint is blamed for the first stored value that
has not its declared type. -/
theorem fromInstance_all_or_nothing (genuine : session.Genuine) {type : ConstraintType}
    (answered : constraint.annotationType = .ok type) (options : BuilderOptions) :
    let outcome := ((fromInstance constraint options).run session).1
    let permitted := session.permitsReading options.scope?
    ((∃ copy, outcome = .ok copy) ↔
        ∀ place name, type.attributeNames[place]? = some name →
          permitted place = .ok () ∧ ∃ value, constraint.valueOf name = .ok value) ∧
      (∀ copy, outcome = .ok copy →
        copy.type = type ∧ copy.elements.names = type.attributeNames ∧
          ∀ name ∈ type.attributeNames, ∃ value,
            constraint.valueOf name = .ok value ∧ copy.get? name = some value) ∧
      (∀ failure, outcome = .error failure ↔
        ∃ place name cause,
          FirstWithout (fun place name =>
              permitted place = .ok () ∧ ∃ value, constraint.valueOf name = .ok value)
            type.attributeNames place name ∧
          (permitted place = .error cause ∨
            permitted place = .ok () ∧ constraint.valueOf name = .error cause) ∧
          failure = .configurationRead type.name name cause) ∧
      ∀ identity values, constraint = .synthesized identity type values →
        (∀ place < type.attributeNames.length, permitted place = .ok ()) →
        ∀ failure, outcome = .error failure ↔
          ∃ place name cause,
            FirstWithout (fun _ name => ∃ definition, type.definition? name = some definition ∧
                definition.type.accepts (Value.stored values name) = .ok true)
              type.attributeNames place name ∧
            constraint.valueOf name = .error cause ∧
            failure = .configurationRead type.name name cause := by
  intro outcome permitted
  refine ⟨?_, ?_, ?_, ?_⟩
  · simp only [outcome, exists_fromInstance_iff genuine answered, Constraint.readable_iff]
    exact Iff.rfl
  · exact fun copy copied => names_of_fromInstance genuine answered copied
  · intro failure
    simp only [outcome, fromInstance_eq_error_iff genuine answered,
      FirstWithout.congr fun _ _ _ => Constraint.readable_iff, Constraint.reading_eq_error_iff]
    exact Iff.rfl
  · rintro identity values rfl granted failure
    have granted (place : Nat) (name : String)
        (listed : type.attributeNames[place]? = some name) : permitted place = .ok () :=
      granted place (List.getElem?_eq_some_iff.1 listed).1
    simp only [outcome, fromInstance_eq_error_iff genuine answered, FirstWithout.congr
      fun place name listed => Constraint.readable_synthesized_iff (granted place name listed)]
    refine exists_congr fun place => exists_congr fun name => exists_congr fun cause => ?_
    rw [and_congr_right_iff]
    intro first
    rw [Constraint.reading_of_permits (granted place name first.listed)]

/-- A session whose only scope grants the first reading and then throws a text. -/
def impatient : Session :=
  { Session.initial with scopes := [⟨.scripted [("read-attributes", .judging fun seen =>
    if seen.length < 3 then .ok () else .error (.thrown (.text "enough")))], []⟩] }

open Constraint in
/-- Of a gauge, the second reading is refused with what the scope throws. Where nothing is
refused, a gauge that stores a text for its number is blamed for that, before its unit. -/
theorem fromInstance_all_or_nothing_gauge :
    ((fromInstance scriptedGauge { scope? := some 0 }).run impatient).1 =
        .error (.configurationRead "example.Gauge" "unit" (.thrown (.text "enough"))) ∧
      ((fromInstance (.synthesized (.drawn 4) gauge [("limit", .text "high")]) {}).run
          .initial).1 =
        .error (.configurationRead "example.Gauge" "limit"
          (illTyped gauge "limit" (.text "high"))) := by
  have names : gauge.attributeNames = ["limit", "unit"] := rfl
  have limitFirst (other : String) (listed : gauge.attributeNames[0]? = some other) :
      other = "limit" := by
    rw [names] at listed
    exact (Option.some.inj listed).symm
  constructor
  · have genuine : impatient.Genuine := Session.genuine_initial
    have answered : scriptedGauge.annotationType = .ok gauge := rfl
    obtain ⟨_, _, blamed, _⟩ := fromInstance_all_or_nothing genuine answered { scope? := some 0 }
    refine (blamed _).2 ⟨1, "unit", _, ⟨rfl, ?_, ?_⟩, .inl rfl, rfl⟩
    · rintro ⟨granted, _⟩
      cases granted
    · intro before other less listed
      obtain rfl : before = 0 := Nat.lt_one_iff.1 less
      obtain rfl := limitFirst other listed
      exact ⟨rfl, .text "high", rfl⟩
  · have answered : (Constraint.synthesized (.drawn 4) gauge
        [("limit", .text "high")]).annotationType = .ok gauge := rfl
    obtain ⟨_, _, _, blamed⟩ := fromInstance_all_or_nothing Session.genuine_initial answered {}
    refine (blamed _ _ rfl (fun _ _ => rfl) _).2
      ⟨0, "limit", _, ⟨rfl, ?_, fun before _ less => absurd less before.not_lt_zero⟩, rfl, rfl⟩
    rintro ⟨definition, found, accepted⟩
    cases found
    cases accepted

end Builder

end AttributeContracts
