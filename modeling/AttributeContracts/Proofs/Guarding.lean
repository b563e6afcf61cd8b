/-
# Guarded operations step by step

Every guarded operation does its work in privileged blocks, and each block holds one check of a
permission before the one deed that needs it. Copying a constraint opens a block for each
attribute up to the first that cannot be read; creating a constraint and reading a well-known
attribute open a single one, and none at all if their arguments are at fault.

What a block looks like depends on the scope alone: on its elevation inside and outside, and on
whether it grants the permission. A refusal leaves the block without its deed.
-/

import AttributeContracts.Proofs.Blame
import AttributeContracts.Proofs.Synthesis
import AttributeContracts.Proofs.Trace

namespace AttributeContracts

open Outcome

namespace Session

/-- The steps of a block that is opened now: one check, and then the deed if it is permitted. -/
def block (session : Session) (scope? : Option ScopeId) (permission : Permission) (deed : Step) :
    List Step :=
  let check := ScopeEvent.check permission.text
    (Traced.elevated scope? (Traced.entered scope? session))
  let deeds := match session.permits scope? permission with
    | .ok () => [deed]
    | .error _ => []
  .scope .enter :: .scope check :: deeds ++ [.scope (.leave (Traced.elevated scope? session))]

/-- The blocks in which some attributes are read in turn. -/
def readingBlocks (session : Session) (scope? : Option ScopeId) : List String → List Step
  | [] => []
  | name :: rest =>
      session.block scope? .readAttributes (.asked name) ++
        (session.checked scope? .readAttributes).readingBlocks scope? rest

end Session

namespace Traced

variable {α : Type} {scope? : Option ScopeId} {permission : Permission} {session : Session}

/-! ## One block -/

/-- What keeps the rules of scopes keeps their elevation. -/
theorem elevated_of_keepsRules {action : Action α} (kept : action.KeepsRules)
    (scope? : Option ScopeId) (session : Session) :
    elevated scope? (action.run session).2 = elevated scope? session := by
  cases scope? with
  | none => rfl
  | some id => exact Scope.elevated_congr (kept session id)

/-- A block that holds one check, and after it something of one step. -/
theorem steps_block {guarded : Traced α} {act : Unit → Traced α} {deed : Step}
    (checks : ∀ reached, guarded.steps reached =
      (checkPermission scope? permission.text >>= act).steps reached)
    (acts : ∀ granted reached, (act granted).steps reached = [deed])
    (kept : guarded.action.KeepsRules) :
    (privileged scope? guarded).steps session = session.block scope? permission deed := by
  have leaves : elevated scope? ((Action.privileged scope? guarded.action).run session).2 =
      elevated scope? session := elevated_of_keepsRules (kept.privileged scope?) scope? session
  have inside : guarded.steps (entered scope? session) =
      .scope (.check permission.text (elevated scope? (entered scope? session))) ::
        match session.permits scope? permission with
        | .ok () => [deed]
        | .error _ => [] := by
    rw [checks, steps_bind]
    cases scope? with
    | none => exact congrArg _ (acts () session)
    | some id =>
        have answers : (checkPermission (some id) permission.text).action.run
            (entered (some id) session) = (((session.enter id).scope id).grants permission.text,
              (session.enter id).updateScope id fun scope => scope.checking permission.text) := rfl
        rw [answers, Session.permits]
        cases ((session.enter id).scope id).grants permission.text with
        | ok granted => exact congrArg _ (acts granted _)
        | error cause => rfl
  show .scope .enter :: guarded.steps (entered scope? session) ++ [.scope (.leave
    (elevated scope? ((Action.privileged scope? guarded.action).run session).2))] = _
  rw [leaves, inside]
  rfl

theorem steps_reading (constraint : Constraint) (name : String) (scope? : Option ScopeId)
    (session : Session) :
    (privileged scope? (readAttribute constraint name scope?)).steps session =
      session.block scope? .readAttributes (.asked name) := by
  refine steps_block (fun _ => rfl) (fun _ _ => rfl) ?_
  rw [(tells_readAttribute constraint name scope?).erased]
  exact Action.keepsRules_readAttribute constraint name scope?

theorem steps_making (builder : Builder) (values : List (String × Value)) (session : Session) :
    (privileged builder.scope? (mapFailure (Builder.creationFailure builder.type) (do
      checkPermission builder.scope? Permission.createInstance.text
      make builder.type values))).steps session =
      session.block builder.scope? .createInstance .made := by
  refine steps_block (fun _ => rfl) (fun _ _ => rfl) ?_
  have drawn : (make builder.type values).action.LeavesScopes :=
    Action.leavesScopes_drawIdentity.bind fun _ => Action.leavesScopes_ofExcept (.ok _)
  have guarded : (checkPermission builder.scope? Permission.createInstance.text >>= fun _ =>
      make builder.type values).action.KeepsRules := by
    rw [action_bind]
    exact (Action.keepsRules_checkPermission builder.scope? _).bind fun _ => drawn.keepsRules
  exact guarded.mapFailure _

/-! ## Blocks in turn -/

/-- The step: the block of the first attribute, and then, if it could be read, those of the
others. -/
theorem steps_readAll_cons (builder : Builder) (constraint : Constraint) (accessor : Accessor)
    (rest : List Accessor) (session : Session) :
    (readAll builder constraint (accessor :: rest)).steps session =
      session.block builder.scope? .readAttributes (.asked accessor.name) ++
        match constraint.reading session builder.scope? 0 accessor.name with
        | .ok value => (readAll (builder.store accessor.name value) constraint rest).steps
            (session.checked builder.scope? .readAttributes)
        | .error _ => [] := by
  have block := tells_readAttribute constraint accessor.name builder.scope?
  rw [readAll, steps_bind, (block.privileged.mapFailure _).erased, Action.run_mapFailure,
    Action.run_privileged_readAttribute, ← steps_reading constraint]
  show _ = _ ++ match session.permits builder.scope? .readAttributes >>=
    fun _ => constraint.valueOf accessor.name with | .ok value => _ | .error _ => _
  cases session.permits builder.scope? .readAttributes >>=
    fun _ => constraint.valueOf accessor.name <;> rfl

variable {constraint : Constraint} {builder : Builder} {accessors : List Accessor}

/-- By induction on the accessors: where each of them can be read, each has its block. -/
theorem steps_readAll_of_readable (readable : ∀ place name,
      (accessors.map Accessor.name)[place]? = some name →
        constraint.Readable session builder.scope? place name) :
    (readAll builder constraint accessors).steps session =
      session.readingBlocks builder.scope? (accessors.map Accessor.name) := by
  induction accessors generalizing builder session with
  | nil => rfl
  | cons accessor rest ih =>
      obtain ⟨value, read⟩ := readable 0 accessor.name rfl
      have others := @ih (session.checked builder.scope? .readAttributes)
        (builder.store accessor.name value) fun place name listed =>
          readable (place + 1) name listed
      rw [steps_readAll_cons, read, List.map_cons, Session.readingBlocks]
      exact congrArg _ others

/-- By induction on the accessors: at the first that cannot be read, its block is the last. -/
theorem steps_readAll_of_first {place : Nat} {name : String}
    (first : FirstWithout (constraint.Readable session builder.scope?)
      (accessors.map Accessor.name) place name) :
    (readAll builder constraint accessors).steps session =
      session.readingBlocks builder.scope? ((accessors.map Accessor.name).take (place + 1)) := by
  induction accessors generalizing builder session place with
  | nil => exact nomatch first.listed
  | cons accessor rest ih =>
      rw [steps_readAll_cons, List.map_cons, List.take_succ_cons, Session.readingBlocks]
      cases read : constraint.reading session builder.scope? 0 accessor.name with
      | error cause =>
          have lacks : ¬constraint.Readable session builder.scope? 0 accessor.name := by
            simp [Constraint.Readable, read]
          rw [List.map_cons, FirstWithout.cons_self_iff lacks] at first
          obtain ⟨rfl, rfl⟩ := first
          rfl
      | ok value =>
          have has : constraint.Readable session builder.scope? 0 accessor.name := ⟨value, read⟩
          rw [List.map_cons, FirstWithout.cons_iff has] at first
          obtain ⟨before, rfl, later⟩ := first
          exact congrArg _ (@ih (session.checked builder.scope? .readAttributes)
            (builder.store accessor.name value) before later)

/-! ## The operations -/

/-- Copying a constraint that answers with its type is reading the accessors of that type, under
the same scopes. -/
theorem exists_steps_fromInstance (genuine : session.Genuine) {type : ConstraintType}
    (answered : constraint.annotationType = .ok type) (options : BuilderOptions) :
    ∃ reached : Session, reached.scopes = session.scopes ∧
      (fromInstance constraint options).steps session =
        (readAll (Builder.mk type type.accessors .empty options.scope?
          (options.level?.getD .silent)) constraint type.accessors).steps reached := by
  refine ⟨((Builder.forType type options).run session).2,
    Builder.leavesScopes_forType type options session, ?_⟩
  have begun := Builder.run_forType_fst genuine type options
  have unnoted : (quiet (Builder.forType type options)).action = Builder.forType type options := rfl
  rw [fromInstance, answered, ofExcept_ok_bind, steps_bind, unnoted]
  rcases ran : (Builder.forType type options).run session with ⟨outcome, after⟩
  rw [ran] at begun
  cases begun
  rfl

end Traced

namespace Session

variable {first second : Session}

theorem block_congr (same : first.scopes = second.scopes) (scope? : Option ScopeId)
    (permission : Permission) (deed : Step) :
    first.block scope? permission deed = second.block scope? permission deed := by
  rw [block, block, permits_congr same]
  cases scope? with
  | none => rfl
  | some id =>
      simp only [Traced.elevated, Traced.entered, Option.any_some, scope, enter, updateScope, same]

/-- The blocks of some readings are a matter of the scopes. -/
theorem readingBlocks_congr (same : first.scopes = second.scopes) (scope? : Option ScopeId)
    (names : List String) :
    first.readingBlocks scope? names = second.readingBlocks scope? names := by
  induction names generalizing first second with
  | nil => rfl
  | cons name rest ih =>
      rw [readingBlocks, readingBlocks, block_congr same, ih (checked_congr same scope? _)]

variable {session : Session} {scope? : Option ScopeId} {permission : Permission} {step deed : Step}

/-- Beside what happens to the scope, a block holds its deed and nothing else, and that only
where it is permitted. -/
theorem mem_block_iff (other : step.event? = none) :
    step ∈ session.block scope? permission deed ↔
      session.permits scope? permission = .ok () ∧ step = deed := by
  have silent (event : ScopeEvent) : step ≠ .scope event := by
    rintro rfl
    cases other
  rw [block]
  cases session.permits scope? permission with
  | ok granted => simp [silent]
  | error cause => simp [silent]

/-- Whether all checks among some steps are made with the scope elevated, if it is a restricted
one. -/
def ChecksElevated (session : Session) (scope? : Option ScopeId) (steps : List Step) : Prop :=
  ∀ id depth, scope? = some id → (session.scope id).rule = .restricted depth →
    ∀ permission elevated, .scope (.check permission elevated) ∈ steps → elevated = true

theorem checksElevated_nil : session.ChecksElevated scope? [] := by
  intro id depth _ _ permission elevated none
  cases none

/-- Inside a block a restricted scope is elevated, whatever its depth outside. -/
theorem checksElevated_block (event : deed.event? = none) :
    session.ChecksElevated scope? (session.block scope? permission deed) := by
  rintro id depth rfl restricted asked elevated held
  have inside : (((session.enter id).scope id).rule) = .restricted (depth + 1) := by
    rw [rule_enter, if_pos rfl, restricted]
    rfl
  have isElevated : Traced.elevated (some id) (Traced.entered (some id) session) = true := by
    show ((session.enter id).scope id).elevated = true
    rw [Scope.elevated, Scope.depth, inside]
    exact decide_eq_true (Nat.succ_pos depth)
  have distinct : Step.scope (.check asked elevated) ≠ deed := by
    rintro rfl
    cases event
  have same : asked = permission.text ∧ elevated = true := by
    rw [block, isElevated] at held
    cases granted : session.permits (some id) permission with
    | ok _ => simpa [granted, distinct] using held
    | error _ => simpa [granted] using held
  exact same.2

/-- A block that has been closed leaves every scope its rule. -/
theorem rule_checked (session : Session) (scope? : Option ScopeId) (permission : Permission)
    (asked : ScopeId) :
    ((session.checked scope? permission).scope asked).rule = (session.scope asked).rule := by
  have kept := (Action.keepsRules_checkPermission scope? permission.text).privileged scope?
  cases scope? with
  | none => rfl
  | some id => exact kept session asked

/-- And so it is in the blocks that come after. -/
theorem checksElevated_readingBlocks (names : List String) :
    session.ChecksElevated scope? (session.readingBlocks scope? names) := by
  induction names generalizing session with
  | nil => exact checksElevated_nil
  | cons name rest ih =>
      intro id depth own restricted asked elevated held
      rcases List.mem_append.1 held with inFirst | later
      · exact checksElevated_block rfl id depth own restricted asked elevated inFirst
      · have kept : ((session.checked scope? .readAttributes).scope id).rule =
            (session.scope id).rule :=
          rule_checked session scope? .readAttributes id
        exact ih id depth own (kept.trans restricted) asked elevated later

/-- An attribute is asked for only in the block of its place, and where that permits it. -/
theorem permits_of_asked {names : List String} {name : String}
    (asked : .asked name ∈ session.readingBlocks scope? names) :
    ∃ place, names[place]? = some name ∧ session.permitsReading scope? place = .ok () := by
  induction names generalizing session with
  | nil => cases asked
  | cons first rest ih =>
      rcases List.mem_append.1 asked with here | later
      · obtain ⟨granted, same⟩ := (mem_block_iff rfl).1 here
        cases same
        exact ⟨0, rfl, granted⟩
      · obtain ⟨place, listed, granted⟩ := ih later
        exact ⟨place + 1, listed, granted⟩

/-- There is one block for each attribute. -/
theorem count_enter_readingBlocks (session : Session) (scope? : Option ScopeId)
    (names : List String) :
    (session.readingBlocks scope? names).count (.scope .enter) = names.length := by
  induction names generalizing session with
  | nil => rfl
  | cons name rest ih =>
      rw [readingBlocks, List.count_append, ih, List.length_cons, block, Nat.add_comm]
      cases session.permits scope? .readAttributes <;> rfl

end Session

namespace Traced

variable {session : Session} {constraint : Constraint}

/-- Creating a constraint opens no block when some accessor has no value. -/
theorem steps_createConstraint_of_lacking {builder : Builder} {accessor : Accessor}
    (held : accessor ∈ builder.accessors) (lacks : ¬builder.Supplies accessor) :
    (createConstraint builder).steps session = [] := by
  cases resolved : builder.resolveAll builder.accessors with
  | ok values => exact absurd (Builder.exists_resolveAll_iff.1 ⟨values, resolved⟩ _ held) lacks
  | error failure =>
      rw [createConstraint, resolved, ofExcept_error_bind]
      rfl

/-- Otherwise it opens one. -/
theorem steps_createConstraint_of_supplies {builder : Builder}
    (complete : ∀ accessor ∈ builder.accessors, builder.Supplies accessor) :
    (createConstraint builder).steps session =
      session.block builder.scope? .createInstance .made := by
  obtain ⟨values, resolved⟩ := Builder.exists_resolveAll_iff.2 complete
  have told (constraint : Constraint) (reached : Session) : (do
      quiet (Action.log builder.level .debug "Synthesized constraint"
        [("type", .text builder.type.name), ("attributes", .number (.ofNat values.length))])
      pure constraint : Traced Constraint).steps reached = [] :=
    steps_bind_of_silent _ (fun _ _ => rfl) reached
  rw [createConstraint, resolved, ofExcept_ok_bind, steps_bind_of_silent _ told, steps_making]

theorem steps_createConstraint_cases (builder : Builder) (session : Session) :
    (createConstraint builder).steps session = [] ∨ (createConstraint builder).steps session =
      session.block builder.scope? .createInstance .made := by
  by_cases complete : ∀ accessor ∈ builder.accessors, builder.Supplies accessor
  · exact .inr (steps_createConstraint_of_supplies complete)
  · obtain ⟨accessor, held, lacks⟩ :
        ∃ accessor ∈ builder.accessors, ¬builder.Supplies accessor := by
      simpa using complete
    exact .inl (steps_createConstraint_of_lacking held lacks)

/-- So a constraint is made in the course of the steps exactly when one is answered. -/
theorem made_mem_steps_createConstraint_iff (builder : Builder) :
    .made ∈ (createConstraint builder).steps session ↔
      ∃ constraint, (builder.createConstraint.run session).1 = .ok constraint := by
  rw [builder.exists_created_iff_supplies]
  by_cases complete : ∀ accessor ∈ builder.accessors, builder.Supplies accessor
  · rw [steps_createConstraint_of_supplies complete, Session.mem_block_iff rfl, and_comm]
    exact and_congr_left fun _ => iff_of_true rfl complete
  · obtain ⟨accessor, held, lacks⟩ :
        ∃ accessor ∈ builder.accessors, ¬builder.Supplies accessor := by
      simpa using complete
    rw [steps_createConstraint_of_lacking held lacks]
    exact iff_of_false List.not_mem_nil fun both => complete both.1

/-- Reading a well-known attribute opens no block when the check is invalid, when the constraint
does not answer with a type, or when that type does not declare the attribute. -/
theorem steps_read_of_fault {check : ContractCheck} (scope? : Option ScopeId)
    (fault : check.isValid = false ∨ ∀ type, constraint.annotationType = .ok type →
      type.declares check.kind.attributeName = false) :
    (read check constraint scope?).steps session = [] := by
  cases verdict : check.violation? with
  | some violation =>
      simp only [read, verdict]
      rfl
  | none =>
      have undeclared := fault.resolve_left (by simp [ContractCheck.isValid, verdict])
      simp only [read, verdict]
      cases answered : constraint.annotationType with
      | error failure =>
          rw [ofExcept_error_bind]
          rfl
      | ok type =>
          rw [ofExcept_ok_bind, undeclared type answered]
          rfl

/-- Otherwise it opens one. -/
theorem steps_read_of_valid {check : ContractCheck} {scope? : Option ScopeId}
    (valid : check.isValid = true) {type : ConstraintType}
    (answered : constraint.annotationType = .ok type)
    (declared : type.declares check.kind.attributeName = true) :
    (read check constraint scope?).steps session =
      session.block scope? .readAttributes (.asked check.kind.attributeName) := by
  have verdict : check.violation? = none := by
    simpa [ContractCheck.isValid] using valid
  simp only [read, verdict, answered]
  rw [ofExcept_ok_bind, declared, if_neg (by simp), steps_bind_of_silent _ (fun _ _ => rfl),
    steps_reading]

theorem steps_read_cases (check : ContractCheck) (constraint : Constraint)
    (scope? : Option ScopeId) (session : Session) :
    (read check constraint scope?).steps session = [] ∨
      (read check constraint scope?).steps session =
        session.block scope? .readAttributes (.asked check.kind.attributeName) := by
  cases valid : check.isValid with
  | false => exact .inl (steps_read_of_fault scope? (.inl valid))
  | true =>
      cases answered : constraint.annotationType with
      | error failure =>
          refine .inl (steps_read_of_fault scope? (.inr fun type other => ?_))
          cases answered.symm.trans other
      | ok type =>
          cases declared : type.declares check.kind.attributeName with
          | false =>
              refine .inl (steps_read_of_fault scope? (.inr fun other same => ?_))
              cases answered.symm.trans same
              exact declared
          | true => exact .inr (steps_read_of_valid valid answered declared)

section

variable (genuine : session.Genuine) {type : ConstraintType}
  (answered : constraint.annotationType = .ok type) (options : BuilderOptions)
include genuine answered

/-- Copying opens a block for each declared attribute when all of them can be read. -/
theorem steps_fromInstance_of_readable
    (readable : ∀ place name, type.attributeNames[place]? = some name →
      constraint.Readable session options.scope? place name) :
    (fromInstance constraint options).steps session =
      session.readingBlocks options.scope? type.attributeNames := by
  obtain ⟨reached, same, taken⟩ := exists_steps_fromInstance genuine answered options
  rw [← ConstraintType.map_name_accessors, ← Constraint.readable_congr same] at readable
  rw [taken, steps_readAll_of_readable readable, ConstraintType.map_name_accessors,
    Session.readingBlocks_congr same]

/-- Otherwise the first that cannot be read has the last block. -/
theorem steps_fromInstance_of_first {place : Nat} {name : String}
    (first : FirstWithout (constraint.Readable session options.scope?) type.attributeNames
      place name) :
    (fromInstance constraint options).steps session =
      session.readingBlocks options.scope? (type.attributeNames.take (place + 1)) := by
  obtain ⟨reached, same, taken⟩ := exists_steps_fromInstance genuine answered options
  rw [← ConstraintType.map_name_accessors, ← Constraint.readable_congr same] at first
  rw [taken, steps_readAll_of_first first, ConstraintType.map_name_accessors,
    Session.readingBlocks_congr same]

/-- In either case the blocks are those of the first attributes. -/
theorem exists_steps_fromInstance_eq_take :
    ∃ count, (fromInstance constraint options).steps session =
      session.readingBlocks options.scope? (type.attributeNames.take count) := by
  cases outcome : ((Builder.fromInstance constraint options).run session).1 with
  | ok copy =>
      have readable := (Builder.exists_fromInstance_iff genuine answered).1 ⟨copy, outcome⟩
      refine ⟨type.attributeNames.length, ?_⟩
      rw [steps_fromInstance_of_readable genuine answered options readable, List.take_length]
  | error failure =>
      obtain ⟨place, name, _, first, _⟩ :=
        (Builder.fromInstance_eq_error_iff genuine answered).1 outcome
      exact ⟨place + 1, steps_fromInstance_of_first genuine answered options first⟩

/-- An attribute is asked for only where its own reading is permitted. -/
theorem permitsReading_of_asked {place : Nat} {name : String}
    (listed : type.attributeNames[place]? = some name)
    (asked : .asked name ∈ (fromInstance constraint options).steps session) :
    session.permitsReading options.scope? place = .ok () := by
  obtain ⟨count, taken⟩ := exists_steps_fromInstance_eq_take genuine answered options
  rw [taken] at asked
  obtain ⟨found, isFound, granted⟩ := Session.permits_of_asked asked
  have alsoListed : type.attributeNames[found]? = some name := by
    rw [List.getElem?_take] at isFound
    split at isFound
    · exact isFound
    · cases isFound
  -- No name is declared twice, so this block is the one of the place.
  have same : found = place :=
    (List.getElem?_inj (List.getElem?_eq_some_iff.1 alsoListed).1 (Members.nodup_names _)).1
      (alsoListed.trans listed.symm)
  rwa [same] at granted

end

/-- The guarded operations step by step, under any scope. Each account is true of its operation
and of what the scope remembers, every check of a restricted scope is made with the scope
elevated, and nothing is asked or made where the permission is refused. Copying a constraint
opens one block for each declared attribute in turn, up to the first that cannot be read;
creating one opens a single block if every accessor has a value and none otherwise; reading a
well-known attribute opens a single block if the check is valid and the type of the constraint
declares the attribute, and none otherwise. -/
theorem guarded_operations_exact {session : Session} (genuine : session.Genuine) :
    (∀ (constraint : Constraint) (options : BuilderOptions),
      let copying := fromInstance constraint options
      let outcome := ((Builder.fromInstance constraint options).run session).1
      copying.Tells (Builder.fromInstance constraint options) options.scope? ∧
      session.ChecksElevated options.scope? (copying.steps session) ∧
      (∀ failure, constraint.annotationType = .error failure → copying.steps session = []) ∧
      ∀ type, constraint.annotationType = .ok type →
        ((∃ copy, outcome = .ok copy) →
          copying.steps session = session.readingBlocks options.scope? type.attributeNames ∧
          (copying.steps session).count (.scope .enter) = type.attributeNames.length) ∧
        (∀ failure, outcome = .error failure → ∃ place name,
          FirstWithout (constraint.Readable session options.scope?) type.attributeNames
            place name ∧
          copying.steps session =
            session.readingBlocks options.scope? (type.attributeNames.take (place + 1)) ∧
          (copying.steps session).count (.scope .enter) = place + 1) ∧
        ∀ place name, type.attributeNames[place]? = some name →
          .asked name ∈ copying.steps session →
            session.permitsReading options.scope? place = .ok ()) ∧
    (∀ builder : Builder,
      let creating := createConstraint builder
      creating.Tells builder.createConstraint builder.scope? ∧
      session.ChecksElevated builder.scope? (creating.steps session) ∧
      ((∃ accessor ∈ builder.accessors, ¬builder.Supplies accessor) →
        creating.steps session = []) ∧
      ((∀ accessor ∈ builder.accessors, builder.Supplies accessor) →
        creating.steps session = session.block builder.scope? .createInstance .made) ∧
      (.made ∈ creating.steps session →
        session.permits builder.scope? .createInstance = .ok ()) ∧
      (.made ∈ creating.steps session ↔
        ∃ constraint, (builder.createConstraint.run session).1 = .ok constraint)) ∧
    ∀ (check : ContractCheck) (constraint : Constraint) (scope? : Option ScopeId),
      let reading := read check constraint scope?
      reading.Tells (check.read constraint scope?) scope? ∧
      session.ChecksElevated scope? (reading.steps session) ∧
      ((check.isValid = false ∨ ∀ type, constraint.annotationType = .ok type →
          type.declares check.kind.attributeName = false) → reading.steps session = []) ∧
      (∀ type, check.isValid = true → constraint.annotationType = .ok type →
        type.declares check.kind.attributeName = true →
          reading.steps session =
            session.block scope? .readAttributes (.asked check.kind.attributeName)) ∧
      ∀ name, .asked name ∈ reading.steps session →
        session.permits scope? .readAttributes = .ok () := by
  refine ⟨fun constraint options => ?_, fun builder => ?_, fun check constraint scope? => ?_⟩
  · intro copying outcome
    have unread (failure : Failure) (failed : constraint.annotationType = .error failure) :
        copying.steps session = [] := by
      simp only [copying, fromInstance, failed, ofExcept_error_bind]
      rfl
    refine ⟨tells_fromInstance constraint options, ?_, unread, ?_⟩
    · cases answered : constraint.annotationType with
      | error failure =>
          rw [unread failure answered]
          exact Session.checksElevated_nil
      | ok type =>
          obtain ⟨count, taken⟩ := exists_steps_fromInstance_eq_take genuine answered options
          rw [taken]
          exact Session.checksElevated_readingBlocks _
    · intro type answered
      refine ⟨?_, ?_, ?_⟩
      · intro copied
        have readable := (Builder.exists_fromInstance_iff genuine answered).1 copied
        have taken := steps_fromInstance_of_readable genuine answered options readable
        exact ⟨taken, taken ▸ Session.count_enter_readingBlocks _ _ _⟩
      · intro failure failed
        obtain ⟨place, name, _, first, _⟩ :=
          (Builder.fromInstance_eq_error_iff genuine answered).1 failed
        have taken := steps_fromInstance_of_first genuine answered options first
        have inside := (List.getElem?_eq_some_iff.1 first.listed).1
        refine ⟨place, name, first, taken, ?_⟩
        rw [taken, Session.count_enter_readingBlocks, List.length_take]
        omega
      · intro place name listed asked
        exact permitsReading_of_asked genuine answered options listed asked
  · intro creating
    refine ⟨tells_createConstraint builder, ?_,
      fun ⟨_, held, lacks⟩ => steps_createConstraint_of_lacking held lacks,
      steps_createConstraint_of_supplies, fun made => ?_,
      made_mem_steps_createConstraint_iff builder⟩
    · rcases steps_createConstraint_cases builder session with none | one
      · exact none ▸ Session.checksElevated_nil
      · exact one ▸ Session.checksElevated_block rfl
    · have created := (made_mem_steps_createConstraint_iff builder).1 made
      exact ((builder.exists_created_iff_supplies session).1 created).2
  · intro reading
    refine ⟨tells_read check constraint scope?, ?_, steps_read_of_fault scope?,
      fun _ valid answered declared => steps_read_of_valid valid answered declared,
      fun name asked => ?_⟩
    · rcases steps_read_cases check constraint scope? session with none | one
      · exact none ▸ Session.checksElevated_nil
      · exact one ▸ Session.checksElevated_block rfl
    · rcases steps_read_cases check constraint scope? session with none | one
      · rw [none] at asked
        cases asked
      · rw [one, Session.mem_block_iff rfl] at asked
        exact asked.1

open Constraint Builder in
/-- The impatient scope is asked twice, and the gauge only once. A dimmer is made in one block,
in which the restricted scope is elevated. -/
theorem guarded_operations_exact_gauge :
    (fromInstance scriptedGauge { scope? := some 0 }).steps impatient =
        [.scope .enter, .scope (.check "read-attributes" false), .asked "limit",
          .scope (.leave false),
          .scope .enter, .scope (.check "read-attributes" false), .scope (.leave false)] ∧
      (createConstraint dimmerBuilder).steps .restricted =
        [.scope .enter, .scope (.check "create-instance" true), .made, .scope (.leave false)] := by
  constructor
  · have genuine : impatient.Genuine := Session.genuine_initial
    obtain ⟨_, _, _, typed⟩ :=
      (guarded_operations_exact genuine).1 scriptedGauge { scope? := some 0 }
    obtain ⟨place, name, first, taken, _⟩ := (typed gauge rfl).2.1 _ rfl
    have limit : scriptedGauge.Readable impatient (some 0) 0 "limit" := ⟨.text "high", rfl⟩
    obtain ⟨before, rfl, later⟩ := (FirstWithout.cons_iff limit).1 first
    obtain rfl : before = 0 :=
      Nat.lt_one_iff.1 (List.getElem?_eq_some_iff.1 later.listed).1
    exact taken
  · have complete : ∀ accessor ∈ dimmerBuilder.accessors, dimmerBuilder.Supplies accessor := by
      rw [show dimmerBuilder.accessors =
        [⟨"level", .number, .undefined⟩, ⟨"message", .string, .text "dim"⟩] from rfl,
        List.forall_mem_cons, List.forall_mem_singleton]
      exact ⟨.inl rfl, .inr Value.noConfusion⟩
    obtain ⟨_, _, _, creates, _⟩ :=
      (guarded_operations_exact Session.genuine_restricted).2.1 dimmerBuilder
    exact creates complete

end Traced

end AttributeContracts
