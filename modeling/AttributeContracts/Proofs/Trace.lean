/-
# What an operation does in turn

An action answers and leaves a session behind. Neither says when it asked a constraint for a
value, or whether it made one, before it failed. The guarded operations are therefore told here
once more, step by step: each is put together in the same way as before, from pieces that note
what they do.

Such an account is of use if it is true. It is when dropping the notes gives back the operation,
and when the notes about its scope are the events that the scope itself remembers of it, while
every other scope remembers nothing. Both are shown once for each way in which accounts are put
together.
-/

import AttributeContracts.Proofs.Elevation

namespace AttributeContracts

/-- A step of an operation. -/
inductive Step where
  /-- Something happens to the scope of the operation. -/
  | scope (event : ScopeEvent)
  /-- The constraint is asked for the value of an attribute. -/
  | asked (name : String)
  /-- A constraint is made. -/
  | made
deriving DecidableEq, Repr

/-- What happens to the scope at a step, if anything does. -/
def Step.event? : Step → Option ScopeEvent
  | .scope event => some event
  | _ => none

/-- An action that notes its steps. -/
def Traced (α : Type) := Session → (Except Failure α × Session) × List Step

/-- A change of one scope is seen there and nowhere else. -/
theorem Session.getElem?_updateScope {session : Session} {id : ScopeId} {scope : Scope}
    (held : session.scopes[id]? = some scope) (changed : ScopeId) (change : Scope → Scope) :
    (session.updateScope changed change).scopes[id]? =
      some (if changed = id then change scope else scope) := by
  rw [updateScope, List.getElem?_modify, held]
  by_cases same : changed = id <;> simp [same]

namespace Traced

variable {α β : Type}

/-- The action without the notes. -/
def action (traced : Traced α) : Action α := fun session => (traced session).1

/-- The steps that are taken from a session, whether or not they end in a failure. -/
def steps (traced : Traced α) (session : Session) : List Step := (traced session).2

/-- What happens to the scope in the course of these steps. -/
def events (traced : Traced α) (session : Session) : List ScopeEvent :=
  (traced.steps session).filterMap Step.event?

/-- An action of which nothing is noted. -/
def quiet (action : Action α) : Traced α := fun session => (action session, [])

/-- An outcome that needs no session. -/
def ofExcept (outcome : Except Failure α) : Traced α := quiet (Action.ofExcept outcome)

/-- One after another; the steps of the second come after those of the first. -/
def bind (first : Traced α) (next : α → Traced β) : Traced β := fun session =>
  match first session with
  | ((.ok value, after), earlier) =>
      let (ended, later) := next value after
      (ended, earlier ++ later)
  | ((.error failure, after), earlier) => ((.error failure, after), earlier)

instance : Monad Traced where
  pure value := ofExcept (.ok value)
  bind := bind

/-- Turning a failure into another one is no step. -/
def mapFailure (wrap : Failure → Failure) (traced : Traced α) : Traced α := fun session =>
  (Action.mapFailure wrap traced.action session, traced.steps session)

/-- Whether the scope of an operation is elevated; without one nothing ever is. -/
def elevated (scope? : Option ScopeId) (session : Session) : Bool :=
  scope?.any fun id => (session.scope id).elevated

/-- The session inside a block of the scope of an operation that is opened now. -/
def entered (scope? : Option ScopeId) (session : Session) : Session :=
  match scope? with
  | none => session
  | some id => session.enter id

/-- Runs inside a privileged block, and notes where it begins and ends. -/
def privileged (scope? : Option ScopeId) (traced : Traced α) : Traced α := fun session =>
  let ended := Action.privileged scope? traced.action session
  (ended, .scope .enter :: traced.steps (entered scope? session) ++
    [.scope (.leave (elevated scope? ended.2))])

/-- Checks a permission, and notes whether the scope is elevated. -/
def checkPermission (scope? : Option ScopeId) (permission : String) : Traced Unit :=
  fun session =>
    (Action.checkPermission scope? permission session,
      [.scope (.check permission (elevated scope? session))])

/-- Asks a constraint for the value of an attribute. -/
def ask (constraint : Constraint) (name : String) : Traced Value := fun session =>
  (Action.ofExcept (constraint.valueOf name) session, [.asked name])

/-- Makes a constraint of some values. -/
def make (type : ConstraintType) (values : List (String × Value)) : Traced Constraint :=
  fun session =>
    ((Action.drawIdentity >>= fun identity =>
        pure (Constraint.ofValues identity type values) : Action Constraint) session, [.made])

/-! ## The guarded operations -/

/-- Reads one attribute of a constraint. -/
def readAttribute (constraint : Constraint) (name : String) (scope? : Option ScopeId) :
    Traced Value := do
  checkPermission scope? Permission.readAttributes.text
  ask constraint name

/-- Reads the accessors of a constraint in turn. -/
def readAll (builder : Builder) (constraint : Constraint) : List Accessor → Traced Builder
  | [] => pure builder
  | accessor :: rest => do
      let value ← mapFailure
        (fun cause => .configurationRead builder.type.name accessor.name cause)
        (privileged builder.scope?
          (readAttribute constraint accessor.name builder.scope?))
      readAll (builder.store accessor.name value) constraint rest

/-- Begins a builder from a constraint. -/
def fromInstance (constraint : Constraint) (options : BuilderOptions) : Traced Builder := do
  let type ← ofExcept constraint.annotationType
  let builder ← quiet (Builder.forType type options)
  readAll builder constraint builder.accessors

/-- Creates a constraint. -/
def createConstraint (builder : Builder) : Traced Constraint := do
  let values ← ofExcept (builder.resolveAll builder.accessors)
  let constraint ← privileged builder.scope? (mapFailure
    (Builder.creationFailure builder.type) (do
      checkPermission builder.scope? Permission.createInstance.text
      make builder.type values))
  quiet (Action.log builder.level .debug "Synthesized constraint"
    [("type", .text builder.type.name), ("attributes", .number (.ofNat values.length))])
  pure constraint

/-- Reads a well-known attribute of a constraint. -/
def read (check : ContractCheck) (constraint : Constraint) (scope? : Option ScopeId) :
    Traced Value :=
  let name := check.kind.attributeName
  match check.violation? with
  | some violation => ofExcept (.error (.definition violation))
  | none => do
      let type ← ofExcept constraint.annotationType
      if !type.declares name then
        ofExcept (.error (.schemaViolation name .undefined
          ("Constraint " ++ type.name ++ " has no '" ++ name ++ "' value")))
      else
        let value ← privileged scope? (readAttribute constraint name scope?)
        ofExcept (check.kind.check value)

/-! ## What the notes amount to -/

theorem action_bind (first : Traced α) (next : α → Traced β) :
    (first >>= next).action = first.action >>= fun value => (next value).action := by
  funext session
  show (bind first next session).1 =
    Action.bind first.action (fun value => (next value).action) session
  simp only [bind, Action.bind, action]
  rcases first session with ⟨⟨outcome, after⟩, earlier⟩
  cases outcome <;> rfl

theorem steps_bind (first : Traced α) (next : α → Traced β) (session : Session) :
    (first >>= next).steps session = first.steps session ++
      match first.action.run session with
      | (.ok value, after) => (next value).steps after
      | (.error _, _) => [] := by
  show (bind first next session).2 = _
  simp only [bind, steps, action, Action.run]
  rcases first session with ⟨⟨outcome, after⟩, earlier⟩
  cases outcome with
  | ok value => rfl
  | error failure => exact (List.append_nil earlier).symm

theorem ofExcept_ok_bind (value : α) (next : α → Traced β) :
    (ofExcept (.ok value) >>= next) = next value := rfl

theorem ofExcept_error_bind (failure : Failure) (next : α → Traced β) :
    (ofExcept (.error failure) >>= next) = ofExcept (.error failure) := rfl

/-- What comes after may have no steps of its own. -/
theorem steps_bind_of_silent (first : Traced α) {next : α → Traced β}
    (silent : ∀ value reached, (next value).steps reached = []) (session : Session) :
    (first >>= next).steps session = first.steps session := by
  rw [steps_bind]
  rcases first.action.run session with ⟨outcome, after⟩
  cases outcome with
  | ok value => exact (congrArg _ (silent value after)).trans (List.append_nil _)
  | error failure => exact List.append_nil _

theorem events_append {traced : Traced α} {session : Session} {earlier later : List Step}
    (split : traced.steps session = earlier ++ later) :
    traced.events session =
      earlier.filterMap Step.event? ++ later.filterMap Step.event? := by
  rw [events, split, List.filterMap_append]

theorem elevated_some {session : Session} {id : ScopeId} {scope : Scope}
    (held : session.scopes[id]? = some scope) :
    elevated (some id) session = scope.elevated := by
  rw [elevated, Option.any_some, Session.scope, held, Option.getD_some]

/-- Whether an account of an action is true: without the notes it is that action, and what is
noted about its scope is what that scope remembers of it. No other scope remembers anything. -/
structure Tells (traced : Traced α) (action : Action α) (scope? : Option ScopeId) : Prop where
  erased : traced.action = action
  remembered : ∀ (session : Session) (id : ScopeId) (scope : Scope),
    session.scopes[id]? = some scope → ∃ after,
      (action.run session).2.scopes[id]? = some after ∧
      after.events = scope.events ++ if scope? = some id then traced.events session else []

variable {scope? : Option ScopeId}

/-- Of an action that touches no scope, nothing is to be noted about one. -/
theorem tells_of_leavesScopes {traced : Traced α} {action : Action α}
    (erased : traced.action = action) (untouched : action.LeavesScopes)
    (silent : ∀ session, traced.events session = []) : traced.Tells action scope? where
  erased := erased
  remembered session id scope held :=
    ⟨scope, by rw [untouched, held], by rw [silent, ite_self, List.append_nil]⟩

theorem tells_quiet {action : Action α} (untouched : action.LeavesScopes) :
    (quiet action).Tells action scope? :=
  tells_of_leavesScopes rfl untouched fun _ => rfl

theorem tells_ofExcept (outcome : Except Failure α) :
    (ofExcept outcome).Tells (Action.ofExcept outcome) scope? :=
  tells_quiet (Action.leavesScopes_ofExcept outcome)

theorem tells_ask (constraint : Constraint) (name : String) :
    (ask constraint name).Tells (Action.ofExcept (constraint.valueOf name)) scope? :=
  tells_of_leavesScopes rfl (Action.leavesScopes_ofExcept _) fun _ => rfl

theorem tells_make (type : ConstraintType) (values : List (String × Value)) :
    (make type values).Tells
      (Action.drawIdentity >>= fun identity => pure (Constraint.ofValues identity type values))
      scope? :=
  tells_of_leavesScopes rfl
    (Action.leavesScopes_drawIdentity.bind fun _ => Action.leavesScopes_ofExcept (.ok _))
    fun _ => rfl

/-- A check is remembered by the scope that is asked. -/
theorem tells_checkPermission (permission : String) :
    (checkPermission scope? permission).Tells (Action.checkPermission scope? permission)
      scope? where
  erased := rfl
  remembered session id scope held := by
    cases scope? with
    | none => exact ⟨scope, held, by simp⟩
    | some own =>
        rw [Action.run_checkPermission_some]
        refine ⟨_, Session.getElem?_updateScope held own _, ?_⟩
        by_cases same : own = id
        · cases same
          simp [events, steps, checkPermission, Step.event?, elevated_some held, Scope.checking]
        · simp [same]

/-- One account after the other is true when each is, the second of whatever the first action
answers. -/
theorem Tells.bind {first : Traced α} {next : α → Traced β} {one : Action α}
    {other : α → Action β} (tells : first.Tells one scope?)
    (tellsNext : ∀ value session, (one.run session).1 = .ok value →
      (next value).Tells (other value) scope?) :
    (first >>= next).Tells (one >>= other) scope? where
  erased := by
    rw [action_bind, tells.erased]
    funext session
    show (one >>= fun value => (next value).action).run session = (one >>= other).run session
    rw [Action.run_bind, Action.run_bind]
    rcases ran : one.run session with ⟨outcome, after⟩
    cases outcome with
    | error failure => rfl
    | ok value => exact congrFun (tellsNext value session (by rw [ran])).erased after
  remembered session id scope held := by
    obtain ⟨between, isBetween, earlier⟩ := tells.remembered session id scope held
    have noted := events_append (steps_bind first next session)
    rw [tells.erased] at noted
    rw [Action.run_bind]
    rcases ran : one.run session with ⟨outcome, reached⟩
    rw [ran] at noted isBetween
    cases outcome with
    | error failure =>
        refine ⟨between, isBetween, ?_⟩
        rw [noted, earlier]
        simp [events]
    | ok value =>
        obtain ⟨after, isAfter, later⟩ :=
          (tellsNext value session (by rw [ran])).remembered reached id between isBetween
        refine ⟨after, isAfter, ?_⟩
        rw [noted, later, earlier]
        by_cases own : scope? = some id <;> simp [own, events]

theorem Tells.mapFailure {traced : Traced α} {action : Action α}
    (tells : traced.Tells action scope?) (wrap : Failure → Failure) :
    (mapFailure wrap traced).Tells (Action.mapFailure wrap action) scope? where
  erased := congrArg (Action.mapFailure wrap) tells.erased
  remembered session id scope held := by
    rw [Action.run_mapFailure]
    exact tells.remembered session id scope held

theorem events_privileged (traced : Traced α) (session : Session) :
    (privileged scope? traced).events session =
      .enter :: traced.events (entered scope? session) ++
        [.leave (elevated scope? ((Action.privileged scope? traced.action).run session).2)] := by
  simp [events, steps, privileged, Step.event?, Action.run]

/-- A block is remembered by its scope, around what is remembered of what it holds. -/
theorem Tells.privileged {traced : Traced α} {action : Action α}
    (tells : traced.Tells action scope?) :
    (privileged scope? traced).Tells (Action.privileged scope? action) scope? where
  erased := by
    rw [← tells.erased]
    rfl
  remembered session id scope held := by
    cases scope? with
    | none =>
        obtain ⟨after, isAfter, same⟩ := tells.remembered session id scope held
        exact ⟨after, isAfter, by simpa using same⟩
    | some own =>
        have inside := Session.getElem?_updateScope held own Scope.enter
        obtain ⟨between, isBetween, noted⟩ := tells.remembered (session.enter own) id _ inside
        have outside := Session.getElem?_updateScope isBetween own Scope.leave
        rw [Action.run_privileged_some]
        refine ⟨_, outside, ?_⟩
        by_cases same : own = id
        · cases same
          rw [if_pos rfl] at noted outside ⊢
          have closes : elevated (some id)
              ((Action.privileged (some id) action).run session).2 = between.leave.elevated :=
            elevated_some outside
          have entering : scope.enter.events = scope.events ++ [.enter] := rfl
          have leaving : between.leave.events = between.events ++ [.leave between.leave.elevated] :=
            rfl
          rw [if_pos rfl, leaving, noted, entering, events_privileged, tells.erased, closes]
          simp [entered]
        · simp only [same, if_false, Option.some.injEq] at noted ⊢
          exact noted

/-! ## The accounts are true -/

theorem tells_readAttribute (constraint : Constraint) (name : String) (scope? : Option ScopeId) :
    (readAttribute constraint name scope?).Tells (Action.readAttribute constraint name scope?)
      scope? :=
  (tells_checkPermission _).bind fun _ _ _ => tells_ask constraint name

theorem tells_readAll (constraint : Constraint) (accessors : List Accessor) (builder : Builder) :
    (readAll builder constraint accessors).Tells (builder.readAll constraint accessors)
      builder.scope? := by
  induction accessors generalizing builder with
  | nil => exact tells_ofExcept (.ok builder)
  | cons accessor rest ih =>
      have block := (tells_readAttribute constraint accessor.name builder.scope?).privileged
      exact (block.mapFailure _).bind fun value _ _ => ih (builder.store accessor.name value)

/-- A builder that is begun from a constraint reads it under the scope of its options. -/
theorem tells_fromInstance (constraint : Constraint) (options : BuilderOptions) :
    (fromInstance constraint options).Tells (Builder.fromInstance constraint options)
      options.scope? := by
  refine (tells_ofExcept constraint.annotationType).bind fun type _ _ => ?_
  have begun : (quiet (Builder.forType type options)).Tells (Builder.forType type options)
      options.scope? := tells_quiet (Builder.leavesScopes_forType type options)
  refine begun.bind fun builder session answered => ?_
  obtain ⟨accessors, _, made⟩ := Action.run_bind_eq_ok.1 answered
  cases made
  exact tells_readAll constraint accessors _

theorem tells_createConstraint (builder : Builder) :
    (createConstraint builder).Tells builder.createConstraint builder.scope? := by
  refine (tells_ofExcept _).bind fun values _ _ => ?_
  have checked : (checkPermission builder.scope? Permission.createInstance.text).Tells
      (Action.checkPermission builder.scope? Permission.createInstance.text) builder.scope? :=
    tells_checkPermission _
  have made := checked.bind fun _ _ _ => tells_make builder.type values
  refine (made.mapFailure _).privileged.bind fun constraint _ _ => ?_
  exact (tells_quiet (Action.leavesScopes_log _ _ _ _)).bind fun _ _ _ =>
    tells_ofExcept (.ok constraint)

theorem tells_read (check : ContractCheck) (constraint : Constraint) (scope? : Option ScopeId) :
    (read check constraint scope?).Tells (check.read constraint scope?) scope? := by
  cases verdict : check.violation? with
  | some violation =>
      simp only [read, ContractCheck.read, verdict]
      exact tells_ofExcept (.error _)
  | none =>
      simp only [read, ContractCheck.read, verdict]
      refine (tells_ofExcept constraint.annotationType).bind fun type _ _ => ?_
      split
      · exact tells_ofExcept (.error _)
      · exact (tells_readAttribute constraint _ scope?).privileged.bind fun value _ _ =>
          tells_ofExcept _

end Traced

end AttributeContracts
