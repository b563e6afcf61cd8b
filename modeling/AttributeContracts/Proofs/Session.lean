/-
# What an action answers

An action threads a session, but most of what it answers can be said without one.
A guarded operation answers what the permission check inside its block answers, and
then what the operation itself does. A lookup answers the accessors of a type,
whatever a cache has kept before. Printing a line never changes an outcome, because
the contexts that the library prints always have a JSON text.

A message is handed to a logger first, and what a logger of some level prints of it is a
second question. A logger never acts back on what it listens to, so the two are kept apart.
-/

import AttributeContracts.Proofs.Accessors
import AttributeContracts.Proofs.Outcome
import AttributeContracts.Session

namespace AttributeContracts

open Outcome

/-! ## Guarded operations -/

namespace Session

/-- What the check of a permission answers inside a privileged block of a scope
that is opened now. -/
def permits (session : Session) (scope? : Option ScopeId) (permission : Permission) :
    Except Failure Unit :=
  match scope? with
  | none => .ok ()
  | some id => ((session.enter id).scope id).grants permission.text

/-- The session after a privileged block of a scope in which one permission was
checked. -/
def checked (session : Session) (scope? : Option ScopeId) (permission : Permission) : Session :=
  match scope? with
  | none => session
  | some id =>
      ((session.enter id).updateScope id fun scope => scope.checking permission.text).leave id

/-- The caches of a session are caches that a program can hold. -/
def Genuine (session : Session) : Prop := ∀ cache ∈ session.caches, cache.Reachable

theorem genuine_initial : initial.Genuine := by
  intro cache held
  cases held

/-- A session whose only scope denies everything outside its privileged blocks. -/
def restricted : Session := { initial with scopes := [.ofMode .restricted] }

theorem genuine_restricted : restricted.Genuine := genuine_initial

/-- A cache that a genuine session holds is one that a program can hold. -/
theorem Genuine.reachable {session : Session} (genuine : session.Genuine) {id : CacheId}
    {cache : AccessorCache} (held : session.cache? id = some cache) : cache.Reachable :=
  genuine cache (List.mem_of_getElem? held)

theorem Genuine.addCache {session : Session} (genuine : session.Genuine) {cache : AccessorCache}
    (reachable : cache.Reachable) : (session.addCache cache).2.Genuine := by
  intro other held
  rw [Session.addCache, List.mem_append, List.mem_singleton] at held
  rcases held with before | rfl
  · exact genuine other before
  · exact reachable

theorem Genuine.setCache {session : Session} (genuine : session.Genuine) (id : CacheId)
    {cache : AccessorCache} (reachable : cache.Reachable) :
    (session.setCache id cache).Genuine := by
  intro other held
  rcases List.mem_or_eq_of_mem_set held with before | rfl
  · exact genuine other before
  · exact reachable

end Session

namespace Action

variable {α β : Type}

/-- A sequence answers when its first action does and then the second one. -/
theorem run_bind_eq_ok {first : Action α} {next : α → Action β} {session : Session}
    {result : β} :
    ((first >>= next).run session).1 = .ok result ↔
      ∃ value, (first.run session).1 = .ok value ∧
        ((next value).run (first.run session).2).1 = .ok result := by
  rw [run_bind]
  rcases first.run session with ⟨outcome, after⟩
  cases outcome with
  | ok value => simp
  | error failure => simp

/-- What hands its value on leaves the answer alone, whatever it does to the
session. -/
theorem run_bind_fst_of_keeps {first : Action α} {next : α → Action α}
    (keeps : ∀ value reached, ((next value).run reached).1 = .ok value) (session : Session) :
    ((first >>= next).run session).1 = (first.run session).1 := by
  rw [run_bind]
  rcases first.run session with ⟨outcome, after⟩
  cases outcome with
  | ok value => exact keeps value after
  | error failure => rfl

/-- What holds after the first of two actions, and is kept by the second, holds after
both. The second may not be reached. -/
theorem run_bind_snd (holds : Session → Prop) {first : Action α} {next : α → Action β}
    {session : Session} (left : holds (first.run session).2)
    (right : ∀ value reached, holds reached → holds ((next value).run reached).2) :
    holds ((first >>= next).run session).2 := by
  rw [run_bind]
  rcases ran : first.run session with ⟨outcome, after⟩
  rw [ran] at left
  cases outcome with
  | ok value => exact right value after left
  | error failure => exact left

@[simp] theorem run_privileged_none (action : Action α) (session : Session) :
    (privileged none action).run session = action.run session := rfl

theorem run_privileged_some (id : ScopeId) (action : Action α) (session : Session) :
    (privileged (some id) action).run session =
      ((action.run (session.enter id)).1, (action.run (session.enter id)).2.leave id) := rfl

@[simp] theorem run_checkPermission_none (permission : String) (session : Session) :
    (checkPermission none permission).run session = (.ok (), session) := rfl

theorem run_checkPermission_some (id : ScopeId) (permission : String) (session : Session) :
    (checkPermission (some id) permission).run session =
      ((session.scope id).grants permission,
        session.updateScope id fun scope => scope.checking permission) := rfl

theorem run_mapFailure (wrap : Failure → Failure) (action : Action α) (session : Session) :
    (mapFailure wrap action).run session =
      ((action.run session).1.mapError wrap, (action.run session).2) := by
  simp only [run, mapFailure]
  rcases action session with ⟨outcome, after⟩
  cases outcome <;> rfl

/-- Reading an attribute in a block of its own: the permission comes first, and
the constraint is asked only after it. -/
theorem run_privileged_readAttribute (constraint : Constraint) (name : String)
    (scope? : Option ScopeId) (session : Session) :
    (privileged scope? (readAttribute constraint name scope?)).run session =
      (session.permits scope? .readAttributes >>= fun _ => constraint.valueOf name,
        session.checked scope? .readAttributes) := by
  cases scope? with
  | none => rfl
  | some id =>
      rw [run_privileged_some, readAttribute, run_bind, run_checkPermission_some,
        Session.permits, Session.checked]
      cases ((session.enter id).scope id).grants Permission.readAttributes.text <;> rfl

/-- Drawing an identity in a block of its own, where a refusal is wrapped. What
the scope does never reaches the identity. -/
theorem run_privileged_drawIdentity_fst (scope? : Option ScopeId) (permission : Permission)
    (wrap : Failure → Failure) (make : Identity → α) (session : Session) :
    ((privileged scope? (mapFailure wrap do
        checkPermission scope? permission.text
        let identity ← drawIdentity
        Pure.pure (make identity))).run session).1 =
      ((session.permits scope? permission).mapError wrap >>= fun _ =>
        .ok (make (.drawn session.nextSerial))) := by
  cases scope? with
  | none => rfl
  | some id =>
      rw [run_privileged_some, run_mapFailure, run_bind, run_checkPermission_some,
        Session.permits]
      cases ((session.enter id).scope id).grants permission.text <;> rfl

/-- Drawing an identity in a block that permits it. -/
theorem run_privileged_drawIdentity {session : Session} {scope? : Option ScopeId}
    {permission : Permission} (granted : session.permits scope? permission = .ok ())
    (wrap : Failure → Failure) (make : Identity → α) :
    (privileged scope? (mapFailure wrap do
        checkPermission scope? permission.text
        let identity ← drawIdentity
        Pure.pure (make identity))).run session =
      (.ok (make (.drawn session.nextSerial)),
        (session.checked scope? permission).drawIdentity.2) := by
  cases scope? with
  | none => rfl
  | some id =>
      rw [Session.permits] at granted
      rw [run_privileged_some, run_mapFailure, run_bind, run_checkPermission_some, granted]
      rfl

end Action

/-! ## Printing -/

/-- A message as it is handed to a logger. -/
structure LogMessage where
  severity : Severity
  text : String
  context : Members Value

/-- The line that a logger of some level prints of a message, if it lets it through. -/
def LogMessage.line? (message : LogMessage) (level : LogLevel) : Option LogLine :=
  if level.enabled message.severity then
    (LogLine.write message.severity message.text message.context).toOption
  else none

/-- The message that a snapshot was stored for a type, with the number of its accessors. -/
def LogMessage.fill (type : ConstraintType) (count : Nat) : LogMessage :=
  ⟨.debug, "Cached constraint accessors",
    [("type", .text type.name), ("accessors", .number (.ofNat count))]⟩

/-- A session with some more lines printed. -/
def Session.printing (session : Session) (lines : List LogLine) : Session :=
  { session with log := session.log ++ lines }

@[simp] theorem Session.printing_nil (session : Session) : session.printing [] = session := by
  rw [printing, List.append_nil]

theorem Value.jsonMembers_eq (named : Bool) (members : Members Value) :
    Value.jsonMembers named members =
      members.map fun member => (member.1, member.2.json named) := by
  induction members with
  | nil => rfl
  | cons member rest ih =>
      obtain ⟨name, value⟩ := member
      rw [Value.jsonMembers, ih, List.map_cons]

/-- A context whose members all have a JSON text, none of them a conversion
method, makes a line. -/
theorem LogLine.exists_write (severity : Severity) (message : String) {context : Members Value}
    (plain : ∀ member ∈ context,
      member.1 ≠ "toJSON" ∧ ∃ text, member.2.json false = .ok text) :
    ∃ line, LogLine.write severity message context = .ok line := by
  have unconverted : Members.find? context "toJSON" = none := by
    rw [Option.eq_none_iff_forall_ne_some]
    intro value found
    exact (plain _ (Members.mem_of_find? found)).1 rfl
  have texts : ∀ member ∈ Members.enumerate (Value.jsonMembers false context),
      ∃ result,
        (do let body ← member.2; pure (member.1, body) : Except Failure _) = .ok result := by
    rintro ⟨name, outcome⟩ listed
    have found := Members.mem_of_find? (Members.mem_enumerate.1 listed)
    rw [Value.jsonMembers_eq, List.mem_map] at found
    obtain ⟨member, held, same⟩ := found
    obtain ⟨text, written⟩ := (plain member held).2
    cases same
    exact ⟨(member.1, text), by rw [written]; rfl⟩
  obtain ⟨parts, mapped⟩ := mapM_answers texts
  have body : (Value.record (.named "context") false context).json false =
      .ok (some (Json.object parts)) := by
    rw [Value.json, Json.record, unconverted]
    show (_ >>= _) = _
    rw [mapped]
    rfl
  rw [LogLine.write]
  split
  · exact ⟨_, rfl⟩
  · exact ⟨_, by rw [body]; rfl⟩

namespace Action

/-- Printing such a context never fails, whether the line is let through or not. -/
theorem run_log_fst (level : LogLevel) (severity : Severity) (message : String)
    {context : Members Value} (session : Session)
    (plain : ∀ member ∈ context,
      member.1 ≠ "toJSON" ∧ ∃ text, member.2.json false = .ok text) :
    ((log level severity message context).run session).1 = .ok () := by
  obtain ⟨line, written⟩ := LogLine.exists_write severity message plain
  simp only [run, log, written]
  split <;> rfl

/-- Printing adds to the lines what is let through of a message, and changes nothing else. -/
theorem run_log_snd (level : LogLevel) (message : LogMessage) (session : Session) :
    ((log level message.severity message.text message.context).run session).2 =
      session.printing ([message].filterMap (·.line? level)) := by
  simp only [run, log, List.filterMap_cons, List.filterMap_nil, LogMessage.line?]
  split
  · cases LogLine.write message.severity message.text message.context with
    | ok line => rfl
    | error failure => exact session.printing_nil.symm
  · exact session.printing_nil.symm

/-- What the library prints about a type: its name and a count. -/
theorem plain_count (name typeName : String) (count : Double) (distinct : name ≠ "toJSON") :
    ∀ member ∈ [("type", Value.text typeName), (name, Value.number count)],
      member.1 ≠ "toJSON" ∧ ∃ text, member.2.json false = .ok text := by
  rw [List.forall_mem_cons, List.forall_mem_singleton]
  exact ⟨⟨show "type" ≠ "toJSON" by decide, _, rfl⟩, distinct, _, rfl⟩

end Action

/-! ## Looking accessors up -/

/-- What looking a type up hands to the cache's logger. -/
def AccessorCache.told (cache : AccessorCache) (type : ConstraintType) : List LogMessage :=
  if cache.fills type then [.fill type (cache.lookup type).1.length] else []

namespace Action

/-- What a lookup does once a cache is found: the snapshot is told of, and answered. -/
theorem run_lookupAccessors_some {session : Session} {id : CacheId} {cache : AccessorCache}
    (held : session.cache? id = some cache) (type : ConstraintType) :
    (lookupAccessors (some id) type).run session =
      (do
        if cache.fills type then
          log cache.level .debug "Cached constraint accessors"
            [("type", .text type.name),
              ("accessors", .number (.ofNat (cache.lookup type).1.length))]
        Pure.pure (cache.lookup type).1 : Action _).run
          (session.setCache id (cache.lookup type).2) := by
  simp only [run, lookupAccessors, Option.bind_some, held, Option.map_some]

/-- It answers the snapshot that the cache hands out, and never fails. -/
theorem run_lookupAccessors_fst_of_held {session : Session} {id : CacheId}
    {cache : AccessorCache} (held : session.cache? id = some cache) (type : ConstraintType) :
    ((lookupAccessors (some id) type).run session).1 = .ok (cache.lookup type).1 := by
  rw [run_lookupAccessors_some held]
  split
  · exact run_bind_eq_ok.2 ⟨(), run_log_fst _ _ _ _ (plain_count _ _ _ (by decide)), rfl⟩
  · rfl

/-- A lookup answers the declared accessors, through whichever cache. -/
theorem run_lookupAccessors_fst {session : Session} (genuine : session.Genuine)
    (cache? : Option CacheId) (type : ConstraintType) :
    ((lookupAccessors cache? type).run session).1 = .ok type.accessors := by
  cases cache? with
  | none => rfl
  | some id =>
      cases held : session.cache? id with
      | none => simp only [run, lookupAccessors, Option.bind_some, held, Option.map_none]
      | some cache =>
          rw [run_lookupAccessors_fst_of_held held, (genuine.reachable held).lookup_fst type]

/-- What looking a type up does to a session: the cache that it goes through may keep one
snapshot more, and its logger is handed the message of it. -/
theorem run_lookupAccessors_snd_of_held {session : Session} {id : CacheId}
    {cache : AccessorCache} (held : session.cache? id = some cache) (type : ConstraintType) :
    ((lookupAccessors (some id) type).run session).2 =
      (session.setCache id (cache.lookup type).2).printing
        ((cache.told type).filterMap (·.line? cache.level)) := by
  rw [run_lookupAccessors_some held, AccessorCache.told]
  split
  · exact run_bind_snd (· = _)
      (run_log_snd cache.level (.fill type (cache.lookup type).1.length) _)
      fun _ _ reached => reached
  · exact (Session.printing_nil _).symm

/-- A lookup changes nothing but the cache that it goes through, and adds to the lines. -/
theorem run_lookupAccessors_snd (session : Session) (cache? : Option CacheId)
    (type : ConstraintType) :
    ((lookupAccessors cache? type).run session).2 = session ∨
      ∃ id cache lines, session.cache? id = some cache ∧
        ((lookupAccessors cache? type).run session).2 =
          (session.setCache id (cache.lookup type).2).printing lines := by
  cases cache? with
  | none => exact .inl rfl
  | some id =>
      cases held : session.cache? id with
      | none =>
          left
          simp only [run, lookupAccessors, Option.bind_some, held, Option.map_none]
      | some cache => exact .inr ⟨id, cache, _, held, run_lookupAccessors_snd_of_held held type⟩

end Action

end AttributeContracts
