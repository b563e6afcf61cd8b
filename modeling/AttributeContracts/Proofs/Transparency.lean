/-
# Options do not show

A client holds one builder. It changes it, asks it questions, has constraints made, reads
them by contract and looks at them from all sides, and each request may depend on the
replies to all earlier ones. The transcript of a client lists its requests with the
replies, failures included.

The transcript is the same whatever the builder works with: any cache or none, a restricted
scope or none, any log level. Neither building, nor creating, nor reading by contract is
ever denied access, because each of them opens a block of its own scope around what it has
checked there.
-/

import AttributeContracts.Constraint.Equality
import AttributeContracts.Proofs.Agreement
import AttributeContracts.Proofs.Synthesis

namespace AttributeContracts

open Outcome

variable {first? second? : Option ScopeId}

/-! ## Builders that work with different things -/

namespace Builder

/-- Two builders that hold the same, each with a scope of its own. Their log levels may
differ as well. -/
structure Twins (first? second? : Option ScopeId) (one two : Builder) : Prop where
  type : one.type = two.type
  accessors : one.accessors = two.accessors
  elements : one.elements = two.elements
  scopes : one.scope? = first? ∧ two.scope? = second?

variable {one two : Builder}

theorem Twins.store (twins : Twins first? second? one two) (name : String) (value : Value) :
    Twins first? second? (one.store name value) (two.store name value) :=
  { twins with elements := congrArg (·.put name value) twins.elements }

theorem Twins.setKind (twins : Twins first? second? one two) (kind : AttributeKind)
    (value : Value) : Twins first? second? (one.setKind kind value) (two.setKind kind value) :=
  { twins with elements := congrArg (fun elements => (kind.put elements value).2) twins.elements }

/-- A name that one of them does not take is not taken by the other. -/
theorem Twins.put (twins : Twins first? second? one two) (name : String) (value : Value) :
    Outcome.Agree (Twins first? second?) (one.put name value) (two.put name value) := by
  rw [Builder.put, Builder.put, admits, admits, twins.type]
  split
  · exact .ok (twins.store name value)
  · exact .error (Failure.not_denies rfl rfl)

theorem Twins.putAll (twins : Twins first? second? one two) (entries : List (String × Value)) :
    Outcome.Agree (Twins first? second?) (one.putAll entries) (two.putAll entries) := by
  induction entries generalizing one two with
  | nil => exact .ok twins
  | cons entry rest ih =>
      exact (twins.put entry.1 entry.2).bind fun _ _ next => ih next

theorem Twins.change (twins : Twins first? second? one two) (asked : BuilderChange) :
    Twins first? second? (one.change asked) (two.change asked) := by
  cases asked with
  | put name value =>
      have accepted := twins.put name value
      rw [Builder.change, Builder.change]
      generalize one.put name value = next at accepted
      generalize two.put name value = other at accepted
      cases accepted with
      | ok next => exact next
      | error granted => exact twins
  | setMessage value => exact twins.setKind _ value
  | setGroups value => exact twins.setKind _ value
  | setPayload value => exact twins.setKind _ value
  | setValidationAppliesTo value => exact twins.setKind _ value

theorem Twins.resolve (twins : Twins first? second? one two) (accessor : Accessor) :
    one.resolve accessor = two.resolve accessor := by
  rw [Builder.resolve, Builder.resolve, twins.elements, twins.type]

theorem Twins.resolveAll (twins : Twins first? second? one two) (accessors : List Accessor) :
    Outcome.Agree Eq (one.resolveAll accessors) (two.resolveAll accessors) := by
  have same : one.resolveAll accessors = two.resolveAll accessors := by
    induction accessors with
    | nil => rfl
    | cons accessor rest ih =>
        rw [Builder.resolveAll, Builder.resolveAll, twins.resolve, ih]
  rw [same]
  refine agree_self fun failure failed => ?_
  obtain ⟨accessor, _, rfl⟩ := resolveAll_eq_error_iff.1 failed
  exact Failure.not_denies rfl rfl

/-! ## The operations of a builder -/

variable {options others : BuilderOptions}

theorem agree_forType (type : ConstraintType) :
    Action.Agree options.scope? others.scope? (Twins options.scope? others.scope?)
      (forType type options) (forType type others) :=
  (Action.agree_lookupAccessors _ _ type).bindSame fun _ =>
    .ofExcept (.ok ⟨rfl, rfl, rfl, rfl, rfl⟩)

theorem agree_fromAttributes (type : ConstraintType) (source : AttributeSource) :
    Action.Agree options.scope? others.scope? (Twins options.scope? others.scope?)
      (fromAttributes type source options) (fromAttributes type source others) :=
  (agree_forType type).bind fun _ _ twins => .ofExcept (twins.putAll source.entries)

/-- Each accessor is read in a block of its own, so no reading is denied. -/
theorem Twins.readAll (twins : Twins first? second? one two) (constraint : Constraint)
    (accessors : List Accessor) :
    Action.Agree first? second? (Twins first? second?) (one.readAll constraint accessors)
      (two.readAll constraint accessors) := by
  induction accessors generalizing one two with
  | nil => exact .ofExcept (.ok twins)
  | cons accessor rest ih =>
      rw [Builder.readAll, Builder.readAll, twins.scopes.1, twins.scopes.2, twins.type]
      have read := (Action.agree_privileged_readAttribute first? second? constraint
        accessor.name).mapFailure fun cause granted =>
          Failure.configurationRead_not_denies granted two.type.name accessor.name
      exact read.bindSame fun value => ih (twins.store accessor.name value)

theorem agree_fromInstance (constraint : Constraint) :
    Action.Agree options.scope? others.scope? (Twins options.scope? others.scope?)
      (fromInstance constraint options) (fromInstance constraint others) := by
  have typed := agree_self constraint.undenied_annotationType
  refine (Action.Agree.ofExcept typed).bindSame fun type => ?_
  refine (agree_forType type).bind fun one two twins => ?_
  rw [twins.accessors]
  exact twins.readAll constraint two.accessors

/-- However a builder is begun, it is begun alike. -/
theorem agree_build (origin : BuilderOrigin) :
    Action.Agree options.scope? others.scope? (Twins options.scope? others.scope?)
      (origin.build options) (origin.build others) := by
  cases origin with
  | empty type => exact agree_forType type
  | attributes type source => exact agree_fromAttributes type source
  | copy constraint => exact agree_fromInstance constraint

/-- The same constraint is made, down to its identity. -/
theorem Twins.createConstraint (twins : Twins first? second? one two) :
    Action.Agree first? second? Eq one.createConstraint two.createConstraint := by
  rw [Builder.createConstraint, Builder.createConstraint, twins.scopes.1, twins.scopes.2,
    twins.accessors, twins.type]
  refine (Action.Agree.ofExcept (twins.resolveAll two.accessors)).bindSame fun values => ?_
  have made := Action.agree_privileged_drawIdentity first? second? .createInstance
    (creationFailure two.type) fun identity => Constraint.ofValues identity two.type values
  refine made.bindSame fun constraint => ?_
  -- Each side prints at its own level, which shows in the lines alone.
  exact (Action.agree_log _ _ _ _ (Action.plain_count _ _ _ (by decide))).bindSame
    fun _ => .ofExcept (.ok rfl)

end Builder

/-- Reading by contract, too, opens a block around what it has checked. -/
theorem ContractCheck.agree_read (check : ContractCheck) (constraint : Constraint) :
    Action.Agree first? second? Eq (check.read constraint first?)
      (check.read constraint second?) := by
  unfold ContractCheck.read
  split
  · exact .ofExcept (.error (Failure.not_denies rfl rfl))
  · have typed := agree_self constraint.undenied_annotationType
    refine (Action.Agree.ofExcept typed).bindSame fun type => ?_
    split
    · exact .ofExcept (.error (Failure.not_denies rfl rfl))
    · exact (Action.agree_privileged_readAttribute _ _ constraint _).bindSame fun _ =>
        .ofExcept (agree_self (check.kind.undenied_check _))

/-! ## Clients -/

/-- A look at a constraint. It needs no permission. -/
inductive Question where
  | annotationType
  | attributeNames
  | attribute (name : String)
  | text
  | plain
  | json
  | equals (other : Value)

/-- What a client is told. -/
inductive Reply where
  | done
  | type (type : ConstraintType)
  | accessors (accessors : List Accessor)
  | names (names : List String)
  | found (value? : Option Value)
  | value (value : Value)
  | truth (answer : Bool)
  | count (number : Nat)
  | text (text : String)
  | plain (plain : Plain)
  | json (body? : Option String)
  | made (constraint : Constraint)

/-- What a constraint tells of itself. -/
def Question.answer (constraint : Constraint) : Question → Except Failure Reply
  | .annotationType => constraint.annotationType.map .type
  | .attributeNames => constraint.attributeNames.map .names
  | .attribute name => (constraint.valueOf name).map .value
  | .text => constraint.text.map .text
  | .plain => constraint.toPlain.map .plain
  | .json => constraint.json.map .json
  | .equals other => (constraint.equals other).map .truth

/-- What a client may ask for. -/
inductive Request where
  | change (asked : BuilderChange)
  | type
  | accessors
  | get (name : String)
  | contains (name : String)
  | size
  | create
  | read (check : ContractCheck) (constraint : Constraint)
  | look (question : Question) (constraint : Constraint)

/-- Whether a request only looks at a constraint. -/
def Request.isLook : Request → Bool
  | .look .. => true
  | _ => false

namespace Builder

/-- The builder after a request. -/
def after (builder : Builder) : Request → Builder
  | .change asked => builder.change asked
  | _ => builder

/-- The reply to a request. Reading by contract uses the builder's scope. -/
def reply (builder : Builder) : Request → Action Reply
  | .change (.put name value) => .ofExcept ((builder.put name value).map fun _ => .done)
  | .change _ => pure .done
  | .type => pure (.type builder.type)
  | .accessors => pure (.accessors builder.accessors)
  | .get name => pure (.found (builder.get? name))
  | .contains name => pure (.truth (builder.contains name))
  | .size => pure (.count builder.size)
  | .create => do
      let constraint ← builder.createConstraint
      pure (.made constraint)
  | .read check constraint => do
      let value ← check.read constraint builder.scope?
      pure (.value value)
  | .look question constraint => .ofExcept (question.answer constraint)

end Builder

/-- A client: it stops, or it asks for something and goes on by the reply. -/
inductive Client where
  | stop
  | ask (request : Request) (next : Except Failure Reply → Client)

/-- A request and the reply to it. -/
structure Exchange where
  request : Request
  reply : Except Failure Reply

/-- No failure of what the builder or a contract was asked is a denial of access. -/
def Exchange.Granted (exchange : Exchange) : Prop :=
  exchange.request.isLook = false → ∀ failure, exchange.reply = .error failure → ¬failure.Denies

namespace Client

/-- What a client and a builder exchange. -/
def converse : Client → Builder → Action (List Exchange)
  | .stop, _ => pure []
  | .ask request next, builder => do
      let reply ← (builder.reply request).attempt
      let others ← (next reply).converse (builder.after request)
      pure (⟨request, reply⟩ :: others)

/-- What a client exchanges with a builder that is begun for it. -/
def transcript (client : Client) (origin : BuilderOrigin) (options : BuilderOptions) :
    Action (List Exchange) := do
  let builder ← origin.build options
  client.converse builder

end Client

/-! ## Transcripts -/

/-- Two builders that hold the same give the same reply. -/
theorem Builder.Twins.reply {one two : Builder} (twins : Twins first? second? one two)
    (request : Request) (guarded : request.isLook = false) :
    Action.Agree first? second? Eq (one.reply request) (two.reply request) := by
  cases request with
  | change asked =>
      cases asked with
      | put name value => exact .ofExcept ((twins.put name value).map fun _ _ _ => rfl)
      | _ => exact .ofExcept (.ok rfl)
  | type => exact .ofExcept (.ok (congrArg Reply.type twins.type))
  | accessors => exact .ofExcept (.ok (congrArg Reply.accessors twins.accessors))
  | get name =>
      exact .ofExcept (.ok (congrArg (fun elements => Reply.found (elements.get? name))
        twins.elements))
  | contains name =>
      exact .ofExcept (.ok (congrArg (fun elements => Reply.truth (elements.contains name))
        twins.elements))
  | size =>
      exact .ofExcept (.ok (congrArg (fun elements => Reply.count elements.size) twins.elements))
  | create =>
      exact twins.createConstraint.bindSame fun _ => .ofExcept (.ok rfl)
  | read check constraint =>
      rw [Builder.reply, Builder.reply, twins.scopes.1, twins.scopes.2]
      exact (check.agree_read constraint).bindSame fun _ => .ofExcept (.ok rfl)
  | look question constraint => exact Bool.noConfusion guarded

theorem Builder.Twins.after {one two : Builder} (twins : Twins first? second? one two)
    (request : Request) : Twins first? second? (one.after request) (two.after request) := by
  cases request with
  | change asked => exact twins.change asked
  | _ => exact twins

/-- One exchange is the same with either builder. -/
theorem Builder.Twins.exchange {one two : Builder} (twins : Twins first? second? one two)
    (request : Request) :
    Action.Agree first? second? (fun left right => left = right ∧ Exchange.Granted ⟨request, left⟩)
      (one.reply request).attempt (two.reply request).attempt := by
  cases request with
  | look question constraint =>
      exact .ofExcept (.ok ⟨rfl, fun guarded => Bool.noConfusion guarded⟩)
  | _ =>
      exact (twins.reply _ rfl).attempt.mono fun left right answers =>
        ⟨answers.eq, fun _ _ failed => answers.granted failed⟩

namespace Client

/-- By induction on the client: after equal replies it goes on in the same way, with two
builders that still hold the same. -/
theorem agree_converse (client : Client) {one two : Builder}
    (twins : Builder.Twins first? second? one two) :
    Action.Agree first? second?
      (fun left right => left = right ∧ ∀ exchange ∈ left, exchange.Granted)
      (client.converse one) (client.converse two) := by
  induction client generalizing one two with
  | stop => exact .ofExcept (.ok ⟨rfl, List.forall_mem_nil _⟩)
  | ask request next ih =>
      refine (twins.exchange request).bind fun reply other related => ?_
      obtain ⟨rfl, granted⟩ := related
      refine (ih reply (twins.after request)).bind fun others rest related => ?_
      obtain ⟨rfl, kept⟩ := related
      exact .ofExcept (.ok ⟨rfl, List.forall_mem_cons.2 ⟨granted, kept⟩⟩)

/-- A client sees the same with any two sets of options. -/
theorem agree_transcript (client : Client) (origin : BuilderOrigin)
    (options others : BuilderOptions) :
    Action.Agree options.scope? others.scope?
      (fun left right => left = right ∧ ∀ exchange ∈ left, exchange.Granted)
      (client.transcript origin options) (client.transcript origin others) :=
  (Builder.agree_build origin).bind fun _ _ twins => client.agree_converse twins

/-- Options are transparent: whatever cache, unscripted scope and log level a builder works
with, its client sees what it would see of a builder without options, failures included. No
request to the builder and no reading by contract is denied access. Afterwards the two
sessions differ in their traces at most. A builder without options goes through the cache
that a process keeps in common, if it keeps one. -/
theorem transcript_transparent (client : Client) (origin : BuilderOrigin)
    (options : BuilderOptions) (common? : Option CacheId) {session : Session}
    (genuine : session.Genuine) (unscripted : session.Unscripted options.scope?) :
    let shown := (client.transcript origin options).run session
    let plain := (client.transcript origin { cache? := common? }).run session
    shown.1 = plain.1 ∧ shown.2.Alike plain.2 ∧
      (∀ failure, shown.1 = .error failure → ¬failure.Denies) ∧
      ∀ exchanges, shown.1 = .ok exchanges → ∀ exchange ∈ exchanges, exchange.Granted := by
  intro shown plain
  have twins : Session.Twins options.scope? none session session :=
    ⟨.refl session, ⟨genuine, genuine⟩, unscripted, session.unscripted_none⟩
  obtain ⟨answers, reached⟩ :=
    client.agree_transcript origin options { cache? := common? } session session twins
  refine ⟨(answers.mono fun _ _ => And.left).eq, reached.alike, fun _ => answers.granted, ?_⟩
  intro exchanges shown exchange held
  obtain ⟨_, _, _, granted⟩ := answers.exists_related shown
  exact granted exchange held

/-- A type with a default, a session with a restricted scope and a talkative cache, and
options that make use of all of it. -/
def lamp : ConstraintType where
  identity := .drawn 3
  name := "example.Lamp"
  definitions := [("message", ⟨.string, some (.text "dark")⟩)]

def watched : Session :=
  (Session.restricted.addCache (.make ["example."] true (.atLeast .debug))).2

def watching : BuilderOptions := ⟨some 0, some 0, some (.atLeast .debug)⟩

/-- Has a constraint made, reads its message by contract and compares it with itself. -/
def inspector : Client :=
  .ask .create fun reply =>
    match reply with
    | .ok (.made constraint) =>
        .ask (.read (AttributeKind.message.analyze lamp) constraint) fun _ =>
          .ask (.look (.equals (.constraint constraint)) constraint) fun _ => .stop
    | _ => .stop

/-- The inspector's session tells of two lines with these options and of none without. -/
theorem transcript_transparent_lamp :
    ∃ constraint exchanges,
      ((inspector.transcript (.empty lamp) watching).run watched).1 = .ok exchanges ∧
        ((inspector.transcript (.empty lamp) {}).run watched).1 = .ok exchanges ∧
        exchanges.map Exchange.reply =
          [.ok (.made constraint), .ok (.value (.text "dark")), .ok (.truth true)] ∧
        ((inspector.transcript (.empty lamp) watching).run watched).2.log.length = 2 ∧
        ((inspector.transcript (.empty lamp) {}).run watched).2.log = [] := by
  have genuine : watched.Genuine := Session.genuine_restricted.addCache (.make _ _ _)
  have unscripted : watched.Unscripted watching.scope? := by
    intro id isScope denials scripted
    cases isScope
    cases scripted
  have same := (transcript_transparent inspector (.empty lamp) watching none genuine unscripted).1
  exact ⟨_, _, rfl, same.symm, rfl, rfl, rfl⟩

end Client

end AttributeContracts
