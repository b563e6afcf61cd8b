/-
# Sessions and actions

A session holds what outlives a single operation: the scopes, the accessor
caches, the printed lines, and the serial number of the next thing made. An
action is an operation on a session that may fail; the session it leaves behind
is there in either case, because what a failing operation did to a scope, a
cache or the log stays done.

Scopes and caches are named by their position. No scope at all means
unrestricted access, and a position that was never given out behaves likewise.
-/

import AttributeContracts.Access.Scope
import AttributeContracts.Accessor.Cache

namespace AttributeContracts

/-- Position of a scope in its session. -/
abbrev ScopeId := Nat

/-- Position of an accessor cache in its session. -/
abbrev CacheId := Nat

/-- The state that operations share. -/
structure Session where
  scopes : List Scope
  caches : List AccessorCache
  log : List LogLine
  nextSerial : Nat

/-- An operation on a session: its outcome, and the session afterwards. -/
def Action (α : Type) := Session → Except Failure α × Session

namespace Action

variable {α β : Type}

def run (action : Action α) (session : Session) : Except Failure α × Session := action session

/-- Does nothing and answers a value. -/
def pure (value : α) : Action α := fun session => (.ok value, session)

/-- Fails without touching the session. -/
def fail (failure : Failure) : Action α := fun session => (.error failure, session)

/-- One action after another; the second is not reached when the first fails. -/
def bind (first : Action α) (next : α → Action β) : Action β := fun session =>
  match first session with
  | (.ok value, after) => next value after
  | (.error failure, after) => (.error failure, after)

instance : Monad Action where
  pure := pure
  bind := bind

/-- An outcome that needs no session. -/
def ofExcept (outcome : Except Failure α) : Action α := fun session => (outcome, session)

/-- Runs an action and turns its failure into another one. -/
def mapFailure (wrap : Failure → Failure) (action : Action α) : Action α := fun session =>
  match action session with
  | (.ok value, after) => (.ok value, after)
  | (.error failure, after) => (.error (wrap failure), after)

@[simp] theorem run_pure (value : α) (session : Session) :
    (Pure.pure value : Action α).run session = (.ok value, session) := rfl

@[simp] theorem run_fail (failure : Failure) (session : Session) :
    (fail failure : Action α).run session = (.error failure, session) := rfl

@[simp] theorem run_ofExcept (outcome : Except Failure α) (session : Session) :
    (ofExcept outcome).run session = (outcome, session) := rfl

theorem run_bind (first : Action α) (next : α → Action β) (session : Session) :
    (first >>= next).run session =
      match first.run session with
      | (.ok value, after) => (next value).run after
      | (.error failure, after) => (.error failure, after) := rfl

end Action

namespace Session

/-- A session in which nothing has been made. -/
def initial : Session := ⟨[], [], [], 0⟩

/-- The scope at a position. -/
def scope (session : Session) (id : ScopeId) : Scope :=
  session.scopes[id]?.getD (.ofMode .unrestricted)

/-- Changes the scope at a position. -/
def updateScope (session : Session) (id : ScopeId) (change : Scope → Scope) : Session :=
  { session with scopes := session.scopes.modify id change }

/-- Adds a scope and answers its position. -/
def addScope (session : Session) (scope : Scope) : ScopeId × Session :=
  (session.scopes.length, { session with scopes := session.scopes ++ [scope] })

/-- The events of a scope, which are then forgotten. -/
def takeEvents (session : Session) (id : ScopeId) : List ScopeEvent × Session :=
  ((session.scope id).events,
    session.updateScope id fun scope => { scope with events := [] })

/-- Opens a privileged block of a scope. -/
def enter (session : Session) (id : ScopeId) : Session := session.updateScope id Scope.enter

/-- Closes a privileged block of a scope. -/
def leave (session : Session) (id : ScopeId) : Session := session.updateScope id Scope.leave

/-- The cache at a position. -/
def cache? (session : Session) (id : CacheId) : Option AccessorCache := session.caches[id]?

/-- Adds a cache and answers its position. -/
def addCache (session : Session) (cache : AccessorCache) : CacheId × Session :=
  (session.caches.length, { session with caches := session.caches ++ [cache] })

/-- Replaces the cache at a position. -/
def setCache (session : Session) (id : CacheId) (cache : AccessorCache) : Session :=
  { session with caches := session.caches.set id cache }

/-- The printed lines, which are then forgotten. -/
def takeLog (session : Session) : List LogLine × Session :=
  (session.log, { session with log := [] })

/-- An identity that nothing made before in this session has. -/
def drawIdentity (session : Session) : Identity × Session :=
  (.drawn session.nextSerial, { session with nextSerial := session.nextSerial + 1 })

end Session

namespace Action

variable {α : Type}

/-- Changes the session and answers what the change answers. -/
def modify (change : Session → α × Session) : Action α := fun session =>
  let (value, after) := change session
  (.ok value, after)

/-- Draws an identity that nothing else has. -/
def drawIdentity : Action Identity := modify Session.drawIdentity

/-- Prints a line if a logger of the given level lets it through. The text of
the context is made only then. -/
def log (level : LogLevel) (severity : Severity) (message : String)
    (context : Members Value) : Action Unit := fun session =>
  if level.enabled severity then
    match LogLine.write severity message context with
    | .ok line => (.ok (), { session with log := session.log ++ [line] })
    | .error failure => (.error failure, session)
  else (.ok (), session)

/-- Prints the line of an error and then, unless it is empty, the stack text of
that error, if a logger of the given level lets them through. -/
def logError (level : LogLevel) (message : String) (context : Members Value)
    (stack : String) : Action Unit := do
  log level .error message context
  if level.enabled .error && stack ≠ "" then
    modify fun session => ((), { session with log := session.log ++ [⟨.error, stack⟩] })

/-- Runs an action inside a privileged block of a scope. The block is closed
whether the action succeeds or fails. -/
def privileged (scope? : Option ScopeId) (action : Action α) : Action α := fun session =>
  match scope? with
  | none => action session
  | some id =>
      let (outcome, after) := action (session.enter id)
      (outcome, after.leave id)

/-- Fails unless a scope grants a permission now. -/
def checkPermission (scope? : Option ScopeId) (permission : String) : Action Unit :=
  fun session =>
    match scope? with
    | none => (.ok (), session)
    | some id =>
        ((session.scope id).grants permission,
          session.updateScope id fun scope => scope.checking permission)

/-- Reads one attribute of a constraint, which needs a permission. The
constraint is not touched when the permission is refused. -/
def readAttribute (constraint : Constraint) (name : String) (scope? : Option ScopeId) :
    Action Value := do
  checkPermission scope? Permission.readAttributes.text
  ofExcept (constraint.valueOf name)

/-- The accessor snapshot of a type through a cache, or afresh without one. The
cache's logger is told when a snapshot is stored. -/
def lookupAccessors (cache? : Option CacheId) (type : ConstraintType) :
    Action (List Accessor) := fun session =>
  match cache?.bind fun id => (session.cache? id).map fun cache => (id, cache) with
  | none => (.ok type.accessors, session)
  | some (id, cache) =>
      let (snapshot, after) := cache.lookup type
      let told : Action (List Accessor) := do
        if cache.fills type then
          log cache.level .debug "Cached constraint accessors"
            [("type", .text type.name), ("accessors", .number (.ofNat snapshot.length))]
        Pure.pure snapshot
      told (session.setCache id after)

end Action

end AttributeContracts
