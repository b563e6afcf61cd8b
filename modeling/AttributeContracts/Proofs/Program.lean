/-
# Elevation follows the blocks

A program is a tree of operations on access scopes, with blocks, failures and recoveries
anywhere in it. Its points are those that a run really comes to, each with the blocks that
are open around it, down into the operations of the library, which open blocks inside
those of the caller. What a block does on being opened is observed, not assumed: its body
runs in the session that the block is seen to hand to it.

At every point a scope is elevated exactly when one of its own blocks is among the open
ones, and after every operation its count is what it was before. A flag in place of the
count would not do: the inner of two nested blocks would revoke the outer one.
-/

import AttributeContracts.Proofs.Elevation

namespace AttributeContracts

/-- A tree of operations on access scopes. An operation can use what earlier ones
answered; any of them can fail, and a failure leaves all blocks up to where it is
recovered from. -/
inductive Program : Type → Type 1 where
  /-- Something that touches no scope. It answers or fails. -/
  | quiet {α : Type} (action : Action α) (untouched : action.LeavesScopes) : Program α
  | check (scope : ScopeId) (permission : String) : Program Unit
  | readAttribute (constraint : Constraint) (name : String) (scope? : Option ScopeId) :
      Program Value
  | fromInstance (constraint : Constraint) (options : BuilderOptions) : Program Builder
  | createConstraint (builder : Builder) : Program Constraint
  | read (contract : ContractCheck) (constraint : Constraint) (scope? : Option ScopeId) :
      Program Value
  | privileged {α : Type} (scope : ScopeId) (body : Program α) : Program α
  | andThen {α β : Type} (first : Program α) (next : α → Program β) : Program β
  | recover {α : Type} (body : Program α) (handler : Failure → Program α) : Program α

namespace Program

variable {α β : Type}

/-- What running a program does. -/
def action : {α : Type} → Program α → Action α
  | _, .quiet action _ => action
  | _, .check scope permission => Action.checkPermission (some scope) permission
  | _, .readAttribute constraint name scope? => Action.readAttribute constraint name scope?
  | _, .fromInstance constraint options => Builder.fromInstance constraint options
  | _, .createConstraint builder => builder.createConstraint
  | _, .read contract constraint scope? => contract.read constraint scope?
  | _, .privileged scope body => Action.privileged (some scope) body.action
  | _, .andThen first next => first.action >>= fun value => (next value).action
  | _, .recover body handler => body.action.recover fun failure => (handler failure).action

/-- No program changes the rule of a scope, however it ends. -/
theorem keepsRules (program : Program α) : program.action.KeepsRules := by
  induction program with
  | quiet action untouched => exact untouched.keepsRules
  | check scope permission => exact Action.keepsRules_checkPermission _ permission
  | readAttribute constraint name scope? =>
      exact Action.keepsRules_readAttribute constraint name scope?
  | fromInstance constraint options => exact Builder.keepsRules_fromInstance constraint options
  | createConstraint builder => exact Builder.keepsRules_createConstraint builder
  | read contract constraint scope? => exact contract.keepsRules_read constraint scope?
  | privileged scope body ih => exact ih.privileged (some scope)
  | andThen first next one others => exact one.bind others
  | recover body handler one handled => exact one.recover handled

/-! ## What the operations of the library consist of -/

/-- An outcome as a program. -/
def outcome (outcome : Except Failure α) : Program α :=
  .quiet (.ofExcept outcome) (Action.leavesScopes_ofExcept outcome)

/-- The check of a permission, where there is a scope. -/
def checked (scope? : Option ScopeId) (permission : Permission) : Program Unit :=
  match scope? with
  | none => outcome (.ok ())
  | some scope => .check scope permission.text

/-- A block, where there is a scope. -/
def guarded (scope? : Option ScopeId) (body : Program α) : Program α :=
  match scope? with
  | none => body
  | some scope => .privileged scope body

/-- The check and the reading that make up reading an attribute. -/
def reading (constraint : Constraint) (name : String) (scope? : Option ScopeId) :
    Program Value :=
  (checked scope? .readAttributes).andThen fun _ => outcome (constraint.valueOf name)

/-- The blocks in which the accessors of a constraint are read in turn. -/
def copying (constraint : Constraint) : List Accessor → Builder → Program Builder
  | [], builder => outcome (.ok builder)
  | accessor :: rest, builder =>
      ((guarded builder.scope? (reading constraint accessor.name builder.scope?)).recover
        fun cause => outcome
          (.error (.configurationRead builder.type.name accessor.name cause))).andThen
            fun value => copying constraint rest (builder.store accessor.name value)

/-- The block in which a constraint of some values is made. -/
def making (builder : Builder) (values : List (String × Value)) : Program Constraint :=
  guarded builder.scope? (((checked builder.scope? .createInstance).andThen fun _ =>
    (Program.quiet Action.drawIdentity Action.leavesScopes_drawIdentity).andThen fun identity =>
      outcome (.ok (.ofValues identity builder.type values))).recover fun cause =>
        outcome (.error (Builder.creationFailure builder.type cause)))

/-- The operations that a program consists of, if it is one of the library's. -/
def parts : {α : Type} → Program α → Program α
  | _, .readAttribute constraint name scope? => reading constraint name scope?
  | _, .fromInstance constraint options =>
      (outcome constraint.annotationType).andThen fun type =>
        (Program.quiet (Builder.forType type options)
          (Builder.leavesScopes_forType type options)).andThen fun builder =>
            copying constraint builder.accessors builder
  | _, .createConstraint builder =>
      (outcome (builder.resolveAll builder.accessors)).andThen fun values =>
        (making builder values).andThen fun constraint =>
          (Program.quiet (Action.log builder.level .debug "Synthesized constraint"
            [("type", .text builder.type.name), ("attributes", .number (.ofNat values.length))])
            (Action.leavesScopes_log _ _ _ _)).andThen fun _ => outcome (.ok constraint)
  | _, .read contract constraint scope? =>
      match contract.violation? with
      | some violation => outcome (.error (.definition violation))
      | none =>
          (outcome constraint.annotationType).andThen fun type =>
            if !type.declares contract.kind.attributeName then
              outcome (.error (.schemaViolation contract.kind.attributeName .undefined
                ("Constraint " ++ type.name ++ " has no '" ++ contract.kind.attributeName ++
                  "' value")))
            else
              (guarded scope? (reading constraint contract.kind.attributeName scope?)).andThen
                fun value => outcome (contract.kind.check value)
  | _, program => program

theorem action_guarded (scope? : Option ScopeId) (body : Program α) :
    (guarded scope? body).action = Action.privileged scope? body.action := by
  cases scope? <;> rfl

theorem action_checked (scope? : Option ScopeId) (permission : Permission) :
    (checked scope? permission).action = Action.checkPermission scope? permission.text := by
  cases scope? <;> rfl

theorem action_recover_outcome (body : Program α) (wrap : Failure → Failure) :
    (body.recover fun cause => outcome (.error (wrap cause))).action =
      Action.mapFailure wrap body.action :=
  Action.recover_ofExcept wrap body.action

theorem action_reading (constraint : Constraint) (name : String) (scope? : Option ScopeId) :
    (reading constraint name scope?).action = Action.readAttribute constraint name scope? := by
  rw [reading, action, action_checked]
  rfl

theorem action_copying (constraint : Constraint) (accessors : List Accessor)
    (builder : Builder) :
    (copying constraint accessors builder).action = builder.readAll constraint accessors := by
  induction accessors generalizing builder with
  | nil => rfl
  | cons accessor rest ih =>
      rw [copying, action, action_recover_outcome, action_guarded, action_reading]
      simp only [ih]
      rfl

theorem action_making (builder : Builder) (values : List (String × Value)) :
    (making builder values).action =
      Action.privileged builder.scope? (Action.mapFailure (Builder.creationFailure builder.type) (do
        Action.checkPermission builder.scope? Permission.createInstance.text
        let identity ← Action.drawIdentity
        pure (Constraint.ofValues identity builder.type values))) := by
  rw [making, action_guarded, action_recover_outcome, action, action_checked]
  rfl

/-- An operation of the library does what the operations do that it consists of. -/
theorem action_parts (program : Program α) : program.parts.action = program.action := by
  cases program with
  | readAttribute constraint name scope? => exact action_reading constraint name scope?
  | fromInstance constraint options =>
      simp only [parts, action, action_copying]
      rfl
  | createConstraint builder =>
      simp only [parts, action, action_making]
      rfl
  | read contract constraint scope? =>
      cases verdict : contract.violation? with
      | some violation =>
          simp only [parts, action, ContractCheck.read, verdict]
          rfl
      | none =>
          simp only [parts, action, ContractCheck.read, verdict]
          congr 1
          funext type
          split
          · rfl
          · rw [action, action_guarded, action_reading]
            rfl
  | _ => rfl

/-! ## The points of a run -/

/-- A run of a program from a session comes to a program inside it, at some session and
inside some blocks, the outermost first. It goes into a block in the session that the block
hands to its body. -/
inductive Reaches : {α β : Type} → Program α → Session → List ScopeId → Program β → Session → Prop
  | here {α : Type} (program : Program α) (session : Session) :
      Reaches program session [] program session
  | first {α β γ : Type} {first : Program α} {next : α → Program β} {inner : Program γ}
      {session reached : Session} {blocks : List ScopeId}
      (within : Reaches first session blocks inner reached) :
      Reaches (first.andThen next) session blocks inner reached
  | next {α β γ : Type} {first : Program α} {next : α → Program β} {inner : Program γ}
      {session reached : Session} {blocks : List ScopeId} {value : α}
      (answered : (first.action.run session).1 = .ok value)
      (within : Reaches (next value) (first.action.run session).2 blocks inner reached) :
      Reaches (first.andThen next) session blocks inner reached
  | block {α β : Type} {scope : ScopeId} {body : Program α} {inner : Program β}
      {session inside reached : Session} {blocks : List ScopeId}
      (opened : Action.Opens scope session inside)
      (within : Reaches body inside blocks inner reached) :
      Reaches (.privileged scope body) session (scope :: blocks) inner reached
  | body {α β : Type} {body : Program α} {handler : Failure → Program α} {inner : Program β}
      {session reached : Session} {blocks : List ScopeId}
      (within : Reaches body session blocks inner reached) :
      Reaches (body.recover handler) session blocks inner reached
  | handler {α β : Type} {body : Program α} {handler : Failure → Program α} {inner : Program β}
      {session reached : Session} {blocks : List ScopeId} {failure : Failure}
      (failed : (body.action.run session).1 = .error failure)
      (within : Reaches (handler failure) (body.action.run session).2 blocks inner reached) :
      Reaches (body.recover handler) session blocks inner reached
  | part {α β : Type} {program : Program α} {inner : Program β} {session reached : Session}
      {blocks : List ScopeId} (within : Reaches program.parts session blocks inner reached) :
      Reaches program session blocks inner reached

/-- On the way to a point, a restricted scope counts the blocks of its own that were
opened and not closed again. -/
theorem Reaches.rule_eq {program : Program α} {inner : Program β} {session reached : Session}
    {blocks : List ScopeId} (reaches : program.Reaches session blocks inner reached)
    {scope : ScopeId} {depth : Nat} (before : (session.scope scope).rule = .restricted depth) :
    (reached.scope scope).rule = .restricted (depth + blocks.count scope) := by
  -- Only a block on the way changes the count: whatever ran to its end has kept it.
  induction reaches generalizing depth with
  | here program session => exact before
  | first within ih => exact ih before
  | next answered within ih => exact ih ((keepsRules _ _ scope).trans before)
  | @block _ _ blocked _ _ _ _ _ _ opened within ih =>
      by_cases same : blocked = scope
      · have entered := opened.rule_eq scope
        rw [if_pos same, before] at entered
        rw [ih entered, same, List.count_cons_self, Nat.add_assoc, Nat.add_comm 1]
      · have entered := opened.rule_eq scope
        rw [if_neg same, before] at entered
        rw [ih entered, List.count_cons_of_ne same]
  | body within ih => exact ih before
  | handler failed within ih => exact ih ((keepsRules _ _ scope).trans before)
  | part within ih => exact ih before

/-- From a session in which a restricted scope has no block open, whatever point a run
comes to: the operation there leaves the scope's count as it was, a permission of the scope
is granted there exactly when one of its blocks encloses the point, and neither opening nor
closing a block of another scope shows. The points inside an operation of the library are
those of the operations that it consists of. -/
theorem elevated_iff_enclosed {program : Program α} {inner : Program β}
    {session reached : Session} {blocks : List ScopeId}
    (reaches : program.Reaches session blocks inner reached) {scope : ScopeId}
    (unopened : (session.scope scope).rule = .restricted 0) :
    ((inner.action.run reached).2.scope scope).depth = (reached.scope scope).depth ∧
      (∀ permission,
        ((Action.checkPermission (some scope) permission).run reached).1 =
          if scope ∈ blocks then .ok () else .error (.accessDenied permission)) ∧
      ((reached.scope scope).elevated = true ↔ scope ∈ blocks) ∧
      (∀ other inside, other ≠ scope → Action.Opens other reached inside →
        (inside.scope scope).elevated = (reached.scope scope).elevated ∧
          ∀ {γ : Type} (body : Action γ),
            (((Action.privileged (some other) body).run reached).2.scope scope).elevated =
              ((body.run inside).2.scope scope).elevated) ∧
      inner.parts.action = inner.action := by
  have counted : (reached.scope scope).rule = .restricted (blocks.count scope) := by
    rw [reaches.rule_eq unopened, Nat.zero_add]
  refine ⟨Scope.depth_congr (inner.keepsRules reached scope), ?_, ?_, ?_, inner.action_parts⟩
  · intro permission
    rw [Action.run_checkPermission_some, Scope.grants, counted]
    simp only [List.count_pos_iff]
  · rw [Scope.elevated, Scope.depth, counted, decide_eq_true_iff, List.count_pos_iff]
  · intro other inside distinct opened
    constructor
    · apply Scope.elevated_congr
      rw [opened.rule_eq, if_neg distinct]
    · intro γ body
      exact Scope.elevated_congr (opened.rule_closed distinct body)

/-- A session with two restricted scopes. -/
def twoScopes : Session :=
  { Session.initial with scopes := [.ofMode .restricted, .ofMode .restricted] }

/-- A builder of the cascade marker's type in the second of them. -/
def markerBuilder : Builder := ⟨.valid, [], .empty, some 1, .silent⟩

/-- A program that fails in a block of the second scope, recovers in one of the first, and
then has a constraint made in the second. -/
def interrupted : Program Constraint :=
  .privileged 0 ((Program.privileged 1 (outcome (.error (.scripted "stop")))).recover
    fun _ => .createConstraint markerBuilder)

/-- The failure has closed the block of the second scope and not that of the first, and the
second is elevated again where the library checks its permission. -/
theorem elevated_iff_enclosed_interrupted :
    ∃ recovered checking,
      interrupted.Reaches twoScopes [0] (.createConstraint markerBuilder) recovered ∧
        ((Action.checkPermission (some 0) "create-instance").run recovered).1 = .ok () ∧
        ((Action.checkPermission (some 1) "create-instance").run recovered).1 =
          .error (.accessDenied "create-instance") ∧
        interrupted.Reaches twoScopes [0, 1] (.check 1 "create-instance") checking ∧
        ((Action.checkPermission (some 1) "create-instance").run checking).1 = .ok () := by
  have recovers : interrupted.Reaches twoScopes [0] (.createConstraint markerBuilder)
      (((twoScopes.enter 0).enter 1).leave 1) := .block rfl (.handler rfl (.here _ _))
  have checks : interrupted.Reaches twoScopes [0, 1] (.check 1 "create-instance")
      ((((twoScopes.enter 0).enter 1).leave 1).enter 1) :=
    .block rfl
      (.handler rfl (.part (.next rfl (.first (.block rfl (.body (.first (.here _ _))))))))
  have first : (twoScopes.scope 0).rule = .restricted 0 := rfl
  have second : (twoScopes.scope 1).rule = .restricted 0 := rfl
  exact ⟨_, _, recovers, (elevated_iff_enclosed recovers first).2.1 _,
    (elevated_iff_enclosed recovers second).2.1 _, checks,
    (elevated_iff_enclosed checks second).2.1 _⟩

end Program

end AttributeContracts
