/-
# Actions that cannot be told apart

What a builder works with, its cache, its scope and its log level, leaves marks in the
session and none in the answers. To say so takes two runs. Their sessions may differ in
their traces, which are the printed lines, the contents of the caches and the events of the
scopes. Two actions agree when from such sessions they answer alike and leave such sessions
behind, each using a scope of its own.

Agreement is shown once for each way in which actions are put together, so it follows the
operations of the library through their definitions. A failure on which two actions agree
never is, and never comes from, a denial of access.
-/

import AttributeContracts.Attribute.Contract
import AttributeContracts.Proofs.Denial
import AttributeContracts.Proofs.Elevation

namespace AttributeContracts

open Outcome

/-! ## Sessions that differ in their traces -/

namespace Session

/-- Two sessions that differ in nothing but printed lines, contents of caches and events
of scopes. -/
structure Alike (one two : Session) : Prop where
  nextSerial : one.nextSerial = two.nextSerial
  rules : ∀ id, (one.scope id).rule = (two.scope id).rule
  caches : ∀ id,
    (one.cache? id).map AccessorCache.clear = (two.cache? id).map AccessorCache.clear

namespace Alike

theorem refl (session : Session) : session.Alike session := ⟨rfl, fun _ => rfl, fun _ => rfl⟩

theorem symm {one two : Session} (alike : one.Alike two) : two.Alike one where
  nextSerial := alike.nextSerial.symm
  rules id := (alike.rules id).symm
  caches id := (alike.caches id).symm

theorem trans {one two three : Session} (left : one.Alike two) (right : two.Alike three) :
    one.Alike three where
  nextSerial := left.nextSerial.trans right.nextSerial
  rules id := (left.rules id).trans (right.rules id)
  caches id := (left.caches id).trans (right.caches id)

theorem printed {one two : Session} (alike : one.Alike two) (lines : List LogLine) :
    one.Alike { two with log := lines } := ⟨alike.nextSerial, alike.rules, alike.caches⟩

end Alike

theorem alike_setCache {session : Session} {id : CacheId} {cache next : AccessorCache}
    (held : session.cache? id = some cache) (same : next.clear = cache.clear) :
    session.Alike (session.setCache id next) where
  nextSerial := rfl
  rules _ := rfl
  caches asked := by
    show _ = Option.map _ (session.caches.set id next)[asked]?
    rw [List.getElem?_set]
    split
    · next isAsked =>
        subst isAsked
        have inside : id < session.caches.length := (List.getElem?_eq_some_iff.1 held).1
        rw [held, if_pos inside, Option.map_some, Option.map_some, same]
    · rfl

/-- A block in which a permission is checked leaves traces and nothing else. -/
theorem alike_checked (session : Session) (scope? : Option ScopeId) (permission : Permission) :
    session.Alike (session.checked scope? permission) := by
  have kept := (Action.keepsRules_checkPermission scope? permission.text).privileged scope? session
  cases scope? with
  | none => exact .refl session
  | some id => exact ⟨rfl, fun asked => (kept asked).symm, fun _ => rfl⟩

theorem Genuine.checked {session : Session} (genuine : session.Genuine)
    (scope? : Option ScopeId) (permission : Permission) :
    (session.checked scope? permission).Genuine := by
  cases scope? <;> exact genuine

/-- A scope without scripted rules: it is unrestricted, or restricted at any depth. -/
def Unscripted (session : Session) (scope? : Option ScopeId) : Prop :=
  ∀ id, scope? = some id → ∀ denials, (session.scope id).rule ≠ .scripted denials

theorem unscripted_none (session : Session) : session.Unscripted none := by
  intro id isScope
  cases isScope

/-- Such a scope permits everything inside its own blocks. -/
theorem permits_of_unscripted {session : Session} {scope? : Option ScopeId}
    (unscripted : session.Unscripted scope?) (permission : Permission) :
    session.permits scope? permission = .ok () := by
  cases scope? with
  | none => rfl
  | some id =>
      have opened := session.rule_enter id id
      rw [if_pos rfl] at opened
      rw [permits, Scope.grants, opened]
      cases rule : (session.scope id).rule with
      | unrestricted => rfl
      | restricted depth => exact if_pos (Nat.zero_lt_succ depth)
      | scripted denials => exact absurd rule (unscripted id rfl denials)

/-- Two sessions for two runs that should not be told apart, each with a scope of its
own. -/
structure Twins (first? second? : Option ScopeId) (one two : Session) : Prop where
  alike : one.Alike two
  genuine : one.Genuine ∧ two.Genuine
  unscripted : one.Unscripted first? ∧ two.Unscripted second?

theorem Unscripted.congr {one two : Session} {scope? : Option ScopeId}
    (unscripted : one.Unscripted scope?) (same : ∀ id, (one.scope id).rule = (two.scope id).rule) :
    two.Unscripted scope? := by
  intro id isScope denials scripted
  exact unscripted id isScope denials ((same id).trans scripted)

/-- Twins stay twins while each of them gains traces only. -/
theorem Twins.of_alike {first? second? : Option ScopeId} {one two left right : Session}
    (twins : Twins first? second? one two) (genuine : left.Genuine ∧ right.Genuine)
    (before : one.Alike left) (after : two.Alike right) : Twins first? second? left right where
  alike := before.symm.trans (twins.alike.trans after)
  genuine := genuine
  unscripted := ⟨twins.unscripted.1.congr before.rules, twins.unscripted.2.congr after.rules⟩

/-- Twins draw the same identity and are twins again. -/
theorem Twins.drawIdentity {first? second? : Option ScopeId} {one two : Session}
    (twins : Twins first? second? one two) :
    Twins first? second? one.drawIdentity.2 two.drawIdentity.2 where
  alike := ⟨congrArg (· + 1) twins.alike.nextSerial, twins.alike.rules, twins.alike.caches⟩
  genuine := twins.genuine
  unscripted := twins.unscripted

end Session

/-! ## Agreement -/

/-- Two outcomes with related values, or with one failure that denies no access. -/
inductive Outcome.Agree {α β : Type} (related : α → β → Prop) :
    Except Failure α → Except Failure β → Prop
  | ok {one : α} {two : β} (same : related one two) : Agree related (.ok one) (.ok two)
  | error {failure : Failure} (granted : ¬failure.Denies) :
      Agree related (.error failure) (.error failure)

theorem Outcome.agree_self {α : Type} {outcome : Except Failure α}
    (undenied : Undenied outcome) : Agree Eq outcome outcome := by
  cases outcome with
  | ok value => exact .ok rfl
  | error failure => exact .error (undenied failure rfl)

theorem Outcome.Agree.mono {α β : Type} {related weaker : α → β → Prop}
    {left : Except Failure α} {right : Except Failure β} (agree : Agree related left right)
    (implies : ∀ one two, related one two → weaker one two) : Agree weaker left right := by
  cases agree with
  | ok same => exact .ok (implies _ _ same)
  | error granted => exact .error granted

theorem Outcome.Agree.map {α β γ δ : Type} {related : α → β → Prop} {related' : γ → δ → Prop}
    {left : Except Failure α} {right : Except Failure β} {turn : α → γ} {other : β → δ}
    (agree : Agree related left right)
    (kept : ∀ one two, related one two → related' (turn one) (other two)) :
    Agree related' (left.map turn) (right.map other) := by
  cases agree with
  | ok same => exact .ok (kept _ _ same)
  | error granted => exact .error granted

theorem Outcome.Agree.bind {α β γ δ : Type} {related : α → β → Prop} {related' : γ → δ → Prop}
    {left : Except Failure α} {right : Except Failure β} {next : α → Except Failure γ}
    {other : β → Except Failure δ} (begun : Agree related left right)
    (others : ∀ one two, related one two → Agree related' (next one) (other two)) :
    Agree related' (left >>= next) (right >>= other) := by
  cases begun with
  | ok same => exact others _ _ same
  | error granted => exact .error granted

/-- What fails denies no access. -/
theorem Outcome.Agree.granted {α β : Type} {related : α → β → Prop} {one : Except Failure α}
    {two : Except Failure β} (agree : Agree related one two) {failure : Failure}
    (failed : one = .error failure) : ¬failure.Denies := by
  cases agree with
  | ok same => cases failed
  | error granted =>
      cases failed
      exact granted

/-- And what is answered has its counterpart. -/
theorem Outcome.Agree.exists_related {α β : Type} {related : α → β → Prop}
    {one : Except Failure α} {two : Except Failure β} (agree : Agree related one two) {value : α}
    (answered : one = .ok value) : ∃ other, two = .ok other ∧ related value other := by
  cases agree with
  | ok same =>
      cases answered
      exact ⟨_, rfl, same⟩
  | error granted => cases answered

theorem Outcome.Agree.eq {α : Type} {one two : Except Failure α} (agree : Agree Eq one two) :
    one = two := by
  cases agree with
  | ok same => rw [same]
  | error granted => rfl

namespace Action

variable {α β γ δ : Type} {first? second? : Option ScopeId} {related : α → β → Prop}

/-- Two actions that from twins answer alike and leave twins behind. -/
def Agree (first? second? : Option ScopeId) (related : α → β → Prop) (left : Action α)
    (right : Action β) : Prop :=
  ∀ one two, Session.Twins first? second? one two →
    Outcome.Agree related (left.run one).1 (right.run two).1 ∧
      Session.Twins first? second? (left.run one).2 (right.run two).2

theorem Agree.ofExcept {left : Except Failure α} {right : Except Failure β}
    (agree : Outcome.Agree related left right) :
    Agree first? second? related (ofExcept left) (ofExcept right) :=
  fun _ _ twins => ⟨agree, twins⟩

theorem Agree.bind {left : Action α} {right : Action β} {next : α → Action γ}
    {other : β → Action δ} {related' : γ → δ → Prop}
    (begun : Agree first? second? related left right)
    (others : ∀ one two, related one two →
      Agree first? second? related' (next one) (other two)) :
    Agree first? second? related' (left >>= next) (right >>= other) := by
  intro one two twins
  obtain ⟨answers, reached⟩ := begun _ _ twins
  rw [run_bind, run_bind]
  rcases ranLeft : left.run one with ⟨outcome, after⟩
  rcases ranRight : right.run two with ⟨result, later⟩
  rw [ranLeft, ranRight] at answers reached
  cases answers with
  | ok same => exact others _ _ same _ _ reached
  | error granted => exact ⟨.error granted, reached⟩

/-- After the same value the rest has to agree for each value alone. -/
theorem Agree.bindSame {left right : Action α} {next : α → Action γ} {other : α → Action δ}
    {related : γ → δ → Prop} (begun : Agree first? second? Eq left right)
    (others : ∀ value, Agree first? second? related (next value) (other value)) :
    Agree first? second? related (left >>= next) (right >>= other) := by
  refine begun.bind fun one two same => ?_
  subst same
  exact others one

theorem Agree.mono {left : Action α} {right : Action β} {weaker : α → β → Prop}
    (agree : Agree first? second? related left right)
    (implies : ∀ one two, related one two → weaker one two) :
    Agree first? second? weaker left right := by
  intro one two twins
  obtain ⟨answers, reached⟩ := agree one two twins
  exact ⟨answers.mono implies, reached⟩

/-- Runs an action and answers its outcome, also when it fails. -/
def attempt (action : Action α) : Action (Except Failure α) := fun session =>
  (.ok (action.run session).1, (action.run session).2)

theorem Agree.attempt {left : Action α} {right : Action β}
    (agree : Agree first? second? related left right) :
    Agree first? second? (Outcome.Agree related) left.attempt right.attempt := by
  intro one two twins
  obtain ⟨answers, reached⟩ := agree one two twins
  exact ⟨.ok answers, reached⟩

theorem Agree.mapFailure {left : Action α} {right : Action β}
    (agree : Agree first? second? related left right) {wrap : Failure → Failure}
    (kept : ∀ failure, ¬failure.Denies → ¬(wrap failure).Denies) :
    Agree first? second? related (mapFailure wrap left) (mapFailure wrap right) := by
  intro one two twins
  obtain ⟨answers, reached⟩ := agree _ _ twins
  rw [run_mapFailure, run_mapFailure]
  refine ⟨?_, reached⟩
  generalize (left.run one).1 = outcome at answers ⊢
  generalize (right.run two).1 = result at answers ⊢
  cases answers with
  | ok same => exact .ok same
  | error granted => exact .error (kept _ granted)

/-! ### Actions that leave traces only -/

/-- An action after which a session differs in its traces at most. -/
def Discreet (action : Action α) : Prop :=
  ∀ session, session.Genuine →
    session.Alike (action.run session).2 ∧ (action.run session).2.Genuine

theorem discreet_log (level : LogLevel) (severity : Severity) (message : String)
    (context : Members Value) : (log level severity message context).Discreet := by
  intro session genuine
  rw [run_log_snd level ⟨severity, message, context⟩]
  exact ⟨(Session.Alike.refl session).printed _, genuine⟩

theorem discreet_lookupAccessors (cache? : Option CacheId) (type : ConstraintType) :
    (lookupAccessors cache? type).Discreet := by
  intro session genuine
  rcases run_lookupAccessors_snd session cache? type with same | ⟨id, cache, lines, held, after⟩
  · rw [same]
    exact ⟨.refl session, genuine⟩
  · have stored := Session.alike_setCache held (cache.clear_lookup type)
    rw [after]
    exact ⟨stored.printed _, genuine.setCache id (.lookup (genuine.reachable held) type)⟩

theorem discreet_privileged_readAttribute (constraint : Constraint) (name : String)
    (scope? : Option ScopeId) :
    (privileged scope? (readAttribute constraint name scope?)).Discreet := by
  intro session genuine
  rw [run_privileged_readAttribute]
  exact ⟨session.alike_checked scope? _, genuine.checked scope? _⟩

/-- Such actions agree when their answers do. -/
theorem Discreet.agree {left : Action α} {right : Action β} (one : left.Discreet)
    (two : right.Discreet)
    (answers : ∀ {before other}, Session.Twins first? second? before other →
      Outcome.Agree related (left.run before).1 (right.run other).1) :
    Agree first? second? related left right := by
  intro before other twins
  obtain ⟨before, kept⟩ := one _ twins.genuine.1
  obtain ⟨after, held⟩ := two _ twins.genuine.2
  exact ⟨answers twins, twins.of_alike ⟨kept, held⟩ before after⟩

/-! ### The operations of a session -/

/-- Reading in a block of the own scope: the answer is the constraint's. -/
theorem agree_privileged_readAttribute (first? second? : Option ScopeId) (constraint : Constraint)
    (name : String) :
    Agree first? second? Eq (privileged first? (readAttribute constraint name first?))
      (privileged second? (readAttribute constraint name second?)) := by
  refine (discreet_privileged_readAttribute _ _ _).agree
    (discreet_privileged_readAttribute _ _ _) fun {before other} twins => ?_
  rw [run_privileged_readAttribute, run_privileged_readAttribute,
    Session.permits_of_unscripted twins.unscripted.1, ok_bind,
    Session.permits_of_unscripted twins.unscripted.2, ok_bind]
  exact agree_self (constraint.undenied_valueOf name)

/-- Lookups agree, through whichever caches. -/
theorem agree_lookupAccessors (cache? other? : Option CacheId) (type : ConstraintType) :
    Agree first? second? Eq (lookupAccessors cache? type) (lookupAccessors other? type) := by
  refine (discreet_lookupAccessors _ _).agree (discreet_lookupAccessors _ _)
    fun {before other} twins => ?_
  rw [run_lookupAccessors_fst twins.genuine.1, run_lookupAccessors_fst twins.genuine.2]
  exact .ok rfl

/-- So does printing what has a text, at whichever levels. -/
theorem agree_log (level other : LogLevel) (severity : Severity) (message : String)
    {context : Members Value}
    (plain : ∀ member ∈ context,
      member.1 ≠ "toJSON" ∧ ∃ text, member.2.json false = .ok text) :
    Agree first? second? Eq (log level severity message context)
      (log other severity message context) := by
  refine (discreet_log _ _ _ _).agree (discreet_log _ _ _ _) fun {before after} twins => ?_
  rw [run_log_fst level severity message before plain,
    run_log_fst other severity message after plain]
  exact .ok rfl

/-- Drawing an identity in a block of the own scope: it is the same one. -/
theorem agree_privileged_drawIdentity (first? second? : Option ScopeId)
    (permission : Permission) (wrap : Failure → Failure) (make : Identity → α) :
    Agree first? second? Eq
      (privileged first? (mapFailure wrap do
        checkPermission first? permission.text
        let identity ← drawIdentity
        Pure.pure (make identity)))
      (privileged second? (mapFailure wrap do
        checkPermission second? permission.text
        let identity ← drawIdentity
        Pure.pure (make identity))) := by
  intro one two twins
  -- More than traces change here: each session gives out one identity.
  have checked := twins.of_alike
    ⟨twins.genuine.1.checked first? permission, twins.genuine.2.checked second? permission⟩
    (one.alike_checked first? permission) (two.alike_checked second? permission)
  rw [run_privileged_drawIdentity (Session.permits_of_unscripted twins.unscripted.1 permission),
    run_privileged_drawIdentity (Session.permits_of_unscripted twins.unscripted.2 permission),
    twins.alike.nextSerial]
  exact ⟨.ok rfl, checked.drawIdentity⟩

end Action

end AttributeContracts
