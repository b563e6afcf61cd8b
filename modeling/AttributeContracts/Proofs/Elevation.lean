/-
# Operations and the rules of scopes

A restricted scope keeps the number of its open blocks between operations, and nothing in
the form of an operation says that the number ends where it began: the library opens
blocks of its own, and failures leave them at any depth.

Still no operation changes the rule of a scope, its number included, however it ends. That
is shown once for each way in which actions are put together, and the operations of the
library follow by the way in which they are.
-/

import AttributeContracts.Builder
import AttributeContracts.Proofs.Session

namespace AttributeContracts

/-! ## One scope among others -/

namespace ScopeRule

/-- The rule with one more block open. -/
def opened : ScopeRule → ScopeRule
  | .restricted depth => .restricted (depth + 1)
  | rule => rule

/-- The rule with one block closed. -/
def closed : ScopeRule → ScopeRule
  | .restricted depth => .restricted (depth - 1)
  | rule => rule

@[simp] theorem closed_opened (rule : ScopeRule) : rule.opened.closed = rule := by
  cases rule <;> rfl

end ScopeRule

namespace Scope

theorem rule_enter (scope : Scope) : scope.enter.rule = scope.rule.opened := by
  obtain ⟨rule, events⟩ := scope
  cases rule <;> rfl

theorem rule_leave (scope : Scope) : scope.leave.rule = scope.rule.closed := by
  obtain ⟨rule, events⟩ := scope
  cases rule <;> rfl

theorem rule_checking (scope : Scope) (permission : String) :
    (scope.checking permission).rule = scope.rule := rfl

/-- The count of open blocks is a matter of the rule, and so is elevation. -/
theorem depth_congr {first second : Scope} (same : first.rule = second.rule) :
    first.depth = second.depth := by
  rw [depth, depth, same]

theorem elevated_congr {first second : Scope} (same : first.rule = second.rule) :
    first.elevated = second.elevated := by
  rw [elevated, elevated, depth_congr same]

end Scope

namespace Session

/-- A change of one scope is seen there and nowhere else. A position that was never given
out is unrestricted before and after. -/
theorem rule_updateScope {change : Scope → Scope} {effect : ScopeRule → ScopeRule}
    (acts : ∀ scope, (change scope).rule = effect scope.rule)
    (neutral : effect .unrestricted = .unrestricted) (session : Session) (id asked : ScopeId) :
    ((session.updateScope id change).scope asked).rule =
      if id = asked then effect (session.scope asked).rule else (session.scope asked).rule := by
  simp only [updateScope, scope, List.getElem?_modify]
  by_cases same : id = asked
  · cases session.scopes[asked]? with
    | none => simp [same, Scope.ofMode, neutral]
    | some held => simp [same, acts]
  · cases session.scopes[asked]? <;> simp [same]

theorem rule_enter (session : Session) (id asked : ScopeId) :
    ((session.enter id).scope asked).rule =
      if id = asked then (session.scope asked).rule.opened else (session.scope asked).rule :=
  rule_updateScope Scope.rule_enter rfl session id asked

theorem rule_leave (session : Session) (id asked : ScopeId) :
    ((session.leave id).scope asked).rule =
      if id = asked then (session.scope asked).rule.closed else (session.scope asked).rule :=
  rule_updateScope Scope.rule_leave rfl session id asked

theorem rule_checking (session : Session) (id asked : ScopeId) (permission : String) :
    ((session.updateScope id fun scope => scope.checking permission).scope asked).rule =
      (session.scope asked).rule := by
  have unseen := @rule_updateScope (fun scope => scope.checking permission) (fun rule => rule)
    (fun scope => Scope.rule_checking scope permission) rfl session id asked
  rwa [ite_self] at unseen

end Session

/-! ## Actions that leave the rules alone -/

namespace Action

variable {α β : Type}

/-- An action that touches no scope at all. -/
def LeavesScopes (action : Action α) : Prop :=
  ∀ session, (action.run session).2.scopes = session.scopes

/-- An action after which every scope has the rule it had before, and with it the number
of its open blocks. -/
def KeepsRules (action : Action α) : Prop :=
  ∀ session asked, ((action.run session).2.scope asked).rule = (session.scope asked).rule

/-- Answers the session that it is run in. -/
def observe : Action Session := fun session => (.ok session, session)

/-- A block of a scope that is opened in a session hands its body another session. -/
def Opens (id : ScopeId) (session inside : Session) : Prop :=
  ((privileged (some id) observe).run session).1 = .ok inside

/-- Runs an action, and what a handler makes of its failure if it fails. -/
def recover (action : Action α) (handler : Failure → Action α) : Action α := fun session =>
  match action.run session with
  | (.ok value, after) => (.ok value, after)
  | (.error failure, after) => (handler failure).run after

/-- Turning a failure into another one is a way to recover. -/
theorem recover_ofExcept (wrap : Failure → Failure) (action : Action α) :
    (action.recover fun failure => ofExcept (.error (wrap failure))) =
      mapFailure wrap action := by
  funext session
  simp only [recover, mapFailure, run]
  rcases action session with ⟨outcome, after⟩
  cases outcome <;> rfl

theorem leavesScopes_ofExcept (outcome : Except Failure α) : (ofExcept outcome).LeavesScopes :=
  fun _ => rfl

theorem LeavesScopes.bind {first : Action α} {next : α → Action β} (one : first.LeavesScopes)
    (others : ∀ value, (next value).LeavesScopes) : (first >>= next).LeavesScopes := by
  intro session
  exact run_bind_snd (fun after => after.scopes = session.scopes) (one session)
    fun value reached left => (others value reached).trans left

/-- Printing touches no scope. -/
theorem leavesScopes_log (level : LogLevel) (severity : Severity) (message : String)
    (context : Members Value) : (log level severity message context).LeavesScopes := by
  intro session
  rw [run_log_snd level ⟨severity, message, context⟩]
  rfl

/-- Nor does looking accessors up. -/
theorem leavesScopes_lookupAccessors (cache? : Option CacheId) (type : ConstraintType) :
    (lookupAccessors cache? type).LeavesScopes := by
  intro session
  rcases run_lookupAccessors_snd session cache? type with same | ⟨id, cache, lines, _, after⟩
  · rw [same]
  · rw [after]
    rfl

theorem leavesScopes_drawIdentity : drawIdentity.LeavesScopes := fun _ => rfl

theorem LeavesScopes.keepsRules {action : Action α} (untouched : action.LeavesScopes) :
    action.KeepsRules := by
  intro session asked
  rw [Session.scope, untouched]
  rfl

theorem keepsRules_ofExcept (outcome : Except Failure α) : (ofExcept outcome).KeepsRules :=
  (leavesScopes_ofExcept outcome).keepsRules

theorem KeepsRules.bind {first : Action α} {next : α → Action β} (one : first.KeepsRules)
    (others : ∀ value, (next value).KeepsRules) : (first >>= next).KeepsRules := by
  intro session asked
  exact run_bind_snd (fun after => (after.scope asked).rule = (session.scope asked).rule)
    (one session asked) fun value reached kept => (others value reached asked).trans kept

theorem KeepsRules.recover {action : Action α} {handler : Failure → Action α}
    (one : action.KeepsRules) (handled : ∀ failure, (handler failure).KeepsRules) :
    (action.recover handler).KeepsRules := by
  intro session asked
  have kept := one session asked
  rw [run, Action.recover]
  rcases ran : action.run session with ⟨outcome, after⟩
  rw [ran] at kept
  cases outcome with
  | ok value => exact kept
  | error failure => exact (handled failure after asked).trans kept

theorem KeepsRules.mapFailure {action : Action α} (kept : action.KeepsRules)
    (wrap : Failure → Failure) : (mapFailure wrap action).KeepsRules := by
  rw [← recover_ofExcept]
  exact kept.recover fun failure => keepsRules_ofExcept _

/-- A block is closed on every way out, and its own scope is the one it closes. -/
theorem KeepsRules.privileged {action : Action α} (kept : action.KeepsRules)
    (scope? : Option ScopeId) : (privileged scope? action).KeepsRules := by
  intro session asked
  cases scope? with
  | none => exact kept session asked
  | some id =>
      rw [run_privileged_some, Session.rule_leave, kept, Session.rule_enter]
      by_cases same : id = asked
      · rw [if_pos same, if_pos same, ScopeRule.closed_opened]
      · rw [if_neg same, if_neg same]

theorem opens_iff {id : ScopeId} {session inside : Session} :
    Opens id session inside ↔ inside = session.enter id := by
  constructor
  · intro opened
    cases opened
    rfl
  · rintro rfl
    rfl

/-- Whatever the body of a block does, it does in the session that the block hands it. -/
theorem Opens.run_privileged {id : ScopeId} {session inside : Session}
    (opened : Opens id session inside) (body : Action α) :
    (privileged (some id) body).run session =
      ((body.run inside).1, (body.run inside).2.leave id) := by
  rw [opens_iff.1 opened, run_privileged_some]

/-- Inside a block of a scope one more is open of that scope, and as many as before of any
other. -/
theorem Opens.rule_eq {id : ScopeId} {session inside : Session}
    (opened : Opens id session inside) (asked : ScopeId) :
    (inside.scope asked).rule =
      if id = asked then (session.scope asked).rule.opened else (session.scope asked).rule := by
  rw [opens_iff.1 opened, Session.rule_enter]

/-- Closing a block of one scope does not show in the rule of another. -/
theorem Opens.rule_closed {id asked : ScopeId} (distinct : id ≠ asked) {session inside : Session}
    (opened : Opens id session inside) (body : Action α) :
    (((privileged (some id) body).run session).2.scope asked).rule =
      ((body.run inside).2.scope asked).rule := by
  rw [opened.run_privileged, Session.rule_leave, if_neg distinct]

theorem keepsRules_checkPermission (scope? : Option ScopeId) (permission : String) :
    (checkPermission scope? permission).KeepsRules := by
  intro session asked
  cases scope? with
  | none => rfl
  | some id => exact Session.rule_checking session id asked permission

theorem keepsRules_readAttribute (constraint : Constraint) (name : String)
    (scope? : Option ScopeId) : (readAttribute constraint name scope?).KeepsRules :=
  (keepsRules_checkPermission scope? _).bind fun _ => keepsRules_ofExcept _

end Action

namespace Builder

theorem leavesScopes_forType (type : ConstraintType) (options : BuilderOptions) :
    (forType type options).LeavesScopes :=
  (Action.leavesScopes_lookupAccessors _ type).bind fun _ => Action.leavesScopes_ofExcept _

theorem keepsRules_readAll (constraint : Constraint) (accessors : List Accessor)
    (builder : Builder) : (builder.readAll constraint accessors).KeepsRules := by
  induction accessors generalizing builder with
  | nil => exact Action.keepsRules_ofExcept (.ok builder)
  | cons accessor rest ih =>
      have read := (Action.keepsRules_readAttribute constraint accessor.name
        builder.scope?).privileged builder.scope?
      exact (read.mapFailure _).bind fun value => ih (builder.store accessor.name value)

theorem keepsRules_fromInstance (constraint : Constraint) (options : BuilderOptions) :
    (fromInstance constraint options).KeepsRules :=
  (Action.keepsRules_ofExcept _).bind fun type =>
    (leavesScopes_forType type options).keepsRules.bind fun builder =>
      keepsRules_readAll constraint builder.accessors builder

theorem keepsRules_createConstraint (builder : Builder) : builder.createConstraint.KeepsRules := by
  refine (Action.keepsRules_ofExcept _).bind fun values => ?_
  have drawn : (do
      let identity ← Action.drawIdentity
      pure (Constraint.ofValues identity builder.type values) : Action _).LeavesScopes :=
    Action.leavesScopes_drawIdentity.bind fun _ => Action.leavesScopes_ofExcept _
  have made := ((Action.keepsRules_checkPermission builder.scope?
    Permission.createInstance.text).bind fun _ => drawn.keepsRules).mapFailure
      (creationFailure builder.type)
  have told (constraint : Constraint) : (do
      Action.log builder.level .debug "Synthesized constraint"
        [("type", .text builder.type.name), ("attributes", .number (.ofNat values.length))]
      pure constraint : Action _).LeavesScopes :=
    (Action.leavesScopes_log _ _ _ _).bind fun _ => Action.leavesScopes_ofExcept _
  exact (made.privileged builder.scope?).bind fun constraint => (told constraint).keepsRules

end Builder

theorem ContractCheck.keepsRules_read (check : ContractCheck) (constraint : Constraint)
    (scope? : Option ScopeId) : (check.read constraint scope?).KeepsRules := by
  unfold ContractCheck.read
  split
  · exact Action.keepsRules_ofExcept (.error _)
  · refine (Action.keepsRules_ofExcept _).bind fun type => ?_
    split
    · exact Action.keepsRules_ofExcept (.error _)
    · exact ((Action.keepsRules_readAttribute constraint _ scope?).privileged scope?).bind
        fun _ => Action.keepsRules_ofExcept _

end AttributeContracts
