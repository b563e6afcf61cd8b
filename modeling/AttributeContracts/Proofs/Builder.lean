/-
# Builders and what they make

A builder is begun in one of three ways and then changed by puts and by the
setters of well-known attributes. None of this touches its type or its snapshot of
accessors, which is therefore always the snapshot of the type. Creating a
constraint resolves each accessor, and the value stored under a declared name is
a copy of the one that its accessor resolves to.
-/

import AttributeContracts.Builder
import AttributeContracts.Proofs.Session
import AttributeContracts.Proofs.Synthesized

namespace AttributeContracts

open Outcome

/-- A constraint that answers with a type answers with its own. -/
theorem Constraint.type_eq_of_annotationType {constraint : Constraint} {type : ConstraintType}
    (answered : constraint.annotationType = .ok type) : constraint.type = type := by
  rw [annotationType] at answered
  split at answered
  · exact Except.ok.inj answered
  · cases answered

/-! ## The life of a builder -/

/-- How a builder is begun. -/
inductive BuilderOrigin where
  | empty (type : ConstraintType)
  | attributes (type : ConstraintType) (source : AttributeSource)
  | copy (constraint : Constraint)

/-- Begins a builder. -/
def BuilderOrigin.build (options : BuilderOptions) : BuilderOrigin → Action Builder
  | .empty type => Builder.forType type options
  | .attributes type source => Builder.fromAttributes type source options
  | .copy constraint => Builder.fromInstance constraint options

/-- A change that a program asks of a builder. -/
inductive BuilderChange where
  | put (name : String) (value : Value)
  | setMessage (value : Value)
  | setGroups (value : Value)
  | setPayload (value : Value)
  | setValidationAppliesTo (value : Value)

namespace Builder

/-- The builder after a change; a put that is refused leaves it as it was. -/
def change (builder : Builder) : BuilderChange → Builder
  | .put name value =>
      match builder.put name value with
      | .ok next => next
      | .error _ => builder
  | .setMessage value => builder.setMessage value
  | .setGroups value => builder.setGroups value
  | .setPayload value => builder.setPayload value
  | .setValidationAppliesTo value => builder.setValidationAppliesTo value

/-- The builders that a program can hold. -/
inductive Reachable : Builder → Prop
  | build {session : Session} (genuine : session.Genuine) (origin : BuilderOrigin)
      (options : BuilderOptions) {builder : Builder}
      (built : ((origin.build options).run session).1 = .ok builder) : Reachable builder
  | change {builder : Builder} (earlier : Reachable builder) (asked : BuilderChange) :
      Reachable (builder.change asked)

/-- Two builders that differ in the values put so far and in nothing else. -/
structure SameFrame (first second : Builder) : Prop where
  type : first.type = second.type
  accessors : first.accessors = second.accessors
  scope? : first.scope? = second.scope?
  level : first.level = second.level

namespace SameFrame

theorem refl (builder : Builder) : builder.SameFrame builder := ⟨rfl, rfl, rfl, rfl⟩

theorem symm {first second : Builder} (one : first.SameFrame second) : second.SameFrame first :=
  ⟨one.type.symm, one.accessors.symm, one.scope?.symm, one.level.symm⟩

theorem trans {first second third : Builder} (one : first.SameFrame second)
    (two : second.SameFrame third) : first.SameFrame third where
  type := one.type.trans two.type
  accessors := one.accessors.trans two.accessors
  scope? := one.scope?.trans two.scope?
  level := one.level.trans two.level

end SameFrame

theorem sameFrame_store (builder : Builder) (name : String) (value : Value) :
    (builder.store name value).SameFrame builder := ⟨rfl, rfl, rfl, rfl⟩

theorem sameFrame_setKind (builder : Builder) (kind : AttributeKind) (value : Value) :
    (builder.setKind kind value).SameFrame builder := ⟨rfl, rfl, rfl, rfl⟩

theorem sameFrame_put {builder next : Builder} {name : String} {value : Value}
    (accepted : builder.put name value = .ok next) : next.SameFrame builder := by
  rw [put] at accepted
  split at accepted
  · cases accepted
    exact sameFrame_store builder name value
  · cases accepted

theorem sameFrame_change (builder : Builder) (asked : BuilderChange) :
    (builder.change asked).SameFrame builder := by
  cases asked with
  | put name value =>
      rw [change]
      split
      · next accepted => exact sameFrame_put accepted
      · exact .refl _
  | setMessage value => exact sameFrame_setKind builder _ value
  | setGroups value => exact sameFrame_setKind builder _ value
  | setPayload value => exact sameFrame_setKind builder _ value
  | setValidationAppliesTo value => exact sameFrame_setKind builder _ value

theorem sameFrame_putAll {builder next : Builder} {entries : List (String × Value)}
    (accepted : builder.putAll entries = .ok next) : next.SameFrame builder := by
  induction entries generalizing builder with
  | nil =>
      cases accepted
      exact .refl _
  | cons entry rest ih =>
      obtain ⟨name, value⟩ := entry
      obtain ⟨middle, first, others⟩ := bind_eq_ok.1 accepted
      exact (ih others).trans (sameFrame_put first)

/-! ## Beginning a builder -/

/-- Once the accessors of its type are looked up, an empty builder is made. -/
theorem run_forType_of_lookup {session : Session} {type : ConstraintType}
    {options : BuilderOptions}
    (found : ((Action.lookupAccessors options.cache? type).run session).1 = .ok type.accessors) :
    ((forType type options).run session).1 =
      .ok ⟨type, type.accessors, .empty, options.scope?, options.level?.getD .silent⟩ :=
  Action.run_bind_eq_ok.2 ⟨type.accessors, found, rfl⟩

/-- An empty builder never fails to be made, and its snapshot is that of the type. -/
theorem run_forType_fst {session : Session} (genuine : session.Genuine) (type : ConstraintType)
    (options : BuilderOptions) :
    ((forType type options).run session).1 =
      .ok ⟨type, type.accessors, .empty, options.scope?, options.level?.getD .silent⟩ :=
  run_forType_of_lookup (Action.run_lookupAccessors_fst genuine options.cache? type)

/-- What some accessors of a constraint leave in a builder once all were read. -/
structure Copies (constraint : Constraint) (accessors : List Accessor)
    (before after : Builder) : Prop where
  frame : after.SameFrame before
  reads : ∀ accessor ∈ accessors, ∃ value,
    constraint.valueOf accessor.name = .ok value ∧ after.get? accessor.name = some value
  keeps : ∀ name, name ∉ accessors.map Accessor.name → after.get? name = before.get? name

theorem get?_store (builder : Builder) (name : String) (value : Value) (asked : String) :
    (builder.store name value).get? asked =
      if asked = name then some value else builder.get? asked :=
  AttributeMap.get?_put builder.elements name value asked

/-- Reading one accessor and then the others reads all of them. A name that comes
again gives its value again. -/
theorem Copies.cons {constraint : Constraint} {accessor : Accessor} {rest : List Accessor}
    {before after : Builder} {value : Value} (read : constraint.valueOf accessor.name = .ok value)
    (others : Copies constraint rest (before.store accessor.name value) after) :
    Copies constraint (accessor :: rest) before after where
  frame := others.frame.trans (sameFrame_store _ _ _)
  reads := by
    rw [List.forall_mem_cons]
    refine ⟨⟨value, read, ?_⟩, others.reads⟩
    by_cases again : accessor.name ∈ rest.map Accessor.name
    · obtain ⟨later, held, same⟩ := List.mem_map.1 again
      obtain ⟨found, readLater, stored⟩ := others.reads later held
      rw [same] at readLater stored
      rw [stored, ← Except.ok.inj (read.symm.trans readLater)]
    · rw [others.keeps _ again, get?_store, if_pos rfl]
  keeps := by
    intro name unread
    rw [List.map_cons, List.mem_cons, not_or] at unread
    rw [others.keeps name unread.2, get?_store, if_neg unread.1]

/-- The step: the first accessor is read in a block of its own, and the others in the session
after that. -/
theorem run_readAll_cons (builder : Builder) (constraint : Constraint) (accessor : Accessor)
    (rest : List Accessor) (session : Session) :
    ((builder.readAll constraint (accessor :: rest)).run session).1 =
      (session.permits builder.scope? .readAttributes >>= fun _ =>
          constraint.valueOf accessor.name).mapError
          (.configurationRead builder.type.name accessor.name) >>= fun value =>
        (((builder.store accessor.name value).readAll constraint rest).run
          (session.checked builder.scope? .readAttributes)).1 := by
  rw [readAll, Action.run_bind, Action.run_mapFailure, Action.run_privileged_readAttribute]
  cases session.permits builder.scope? .readAttributes with
  | error refusal => rfl
  | ok _ => cases constraint.valueOf accessor.name <;> rfl

/-- Accessors that are read have answered, each in its turn. -/
theorem readAll_cons_eq_ok {builder after : Builder} {constraint : Constraint}
    {accessor : Accessor} {rest : List Accessor} {session : Session}
    (answered : ((builder.readAll constraint (accessor :: rest)).run session).1 = .ok after) :
    ∃ value, constraint.valueOf accessor.name = .ok value ∧
      (((builder.store accessor.name value).readAll constraint rest).run
        (session.checked builder.scope? .readAttributes)).1 = .ok after := by
  rw [run_readAll_cons, bind_eq_ok] at answered
  obtain ⟨value, read, others⟩ := answered
  obtain ⟨_, _, read⟩ := bind_eq_ok.1 (mapError_eq_ok.1 read)
  exact ⟨value, read, others⟩

/-- Accessors that were all read are all in the builder. -/
theorem copies_of_readAll {constraint : Constraint} {accessors : List Accessor}
    {before after : Builder} {session : Session}
    (answered : ((before.readAll constraint accessors).run session).1 = .ok after) :
    Copies constraint accessors before after := by
  induction accessors generalizing before session with
  | nil =>
      cases answered
      exact ⟨.refl _, fun _ none => absurd none List.not_mem_nil, fun _ _ => rfl⟩
  | cons accessor rest ih =>
      obtain ⟨value, read, others⟩ := readAll_cons_eq_ok answered
      exact .cons read (ih others)

/-- A copy that succeeds has read every declared attribute. -/
theorem copies_of_fromInstance {session : Session} (genuine : session.Genuine)
    {constraint : Constraint} {options : BuilderOptions} {builder : Builder}
    (copied : ((fromInstance constraint options).run session).1 = .ok builder) :
    constraint.annotationType = .ok builder.type ∧
      Copies constraint builder.type.accessors
        ⟨builder.type, builder.type.accessors, .empty, options.scope?,
          options.level?.getD .silent⟩ builder := by
  obtain ⟨type, answered, made⟩ := Action.run_bind_eq_ok.1 copied
  obtain ⟨empty, begun, read⟩ := Action.run_bind_eq_ok.1 made
  have isEmpty := begun.symm.trans (run_forType_fst genuine type options)
  cases isEmpty
  have copies := copies_of_readAll read
  obtain rfl : builder.type = type := copies.frame.type
  exact ⟨answered, copies⟩

/-- Where looking a type up answers its accessors, a builder is begun with them, whatever it
is begun from. -/
theorem accessors_of_build {session : Session} {options : BuilderOptions}
    (scans : ∀ type,
      ((Action.lookupAccessors options.cache? type).run session).1 = .ok type.accessors)
    (origin : BuilderOrigin) {builder : Builder}
    (built : ((origin.build options).run session).1 = .ok builder) :
    builder.accessors = builder.type.accessors := by
  cases origin with
  | empty type =>
      have made := built.symm.trans (run_forType_of_lookup (scans type))
      cases made
      rfl
  | attributes type source =>
      obtain ⟨empty, begun, filled⟩ := Action.run_bind_eq_ok.1 built
      have made := begun.symm.trans (run_forType_of_lookup (scans type))
      cases made
      have frame := sameFrame_putAll filled
      rw [frame.type, frame.accessors]
  | copy constraint =>
      obtain ⟨type, answered, made⟩ := Action.run_bind_eq_ok.1 built
      obtain ⟨empty, begun, read⟩ := Action.run_bind_eq_ok.1 made
      have isEmpty := begun.symm.trans (run_forType_of_lookup (scans type))
      cases isEmpty
      have frame := (copies_of_readAll read).frame
      rw [frame.type, frame.accessors]

/-- The snapshot of a builder is always the one of its type. -/
theorem Reachable.accessors_eq {builder : Builder} (reachable : Reachable builder) :
    builder.accessors = builder.type.accessors := by
  induction reachable with
  | build genuine origin options built =>
      exact accessors_of_build (Action.run_lookupAccessors_fst genuine options.cache?) origin built
  | @change builder earlier asked ih =>
      have frame := sameFrame_change builder asked
      rw [frame.type, frame.accessors, ih]

/-! ## Creating a constraint -/

/-- The value put for a name is what its accessor resolves to. -/
theorem resolve_of_get? {builder : Builder} {accessor : Accessor} {value : Value}
    (held : builder.get? accessor.name = some value) : builder.resolve accessor = .ok value := by
  rw [get?] at held
  rw [resolve, held]

/-- Resolving lists the names of the accessors in turn, each with what an accessor
of that name resolves to. -/
theorem resolveAll_entries {builder : Builder} {accessors : List Accessor}
    {values : List (String × Value)} (resolved : builder.resolveAll accessors = .ok values) :
    values.map Prod.fst = accessors.map Accessor.name ∧
      ∀ entry ∈ values, ∃ accessor ∈ accessors,
        accessor.name = entry.1 ∧ builder.resolve accessor = .ok entry.2 := by
  induction accessors generalizing values with
  | nil =>
      cases resolved
      exact ⟨rfl, fun _ none => absurd none List.not_mem_nil⟩
  | cons accessor rest ih =>
      obtain ⟨value, first, others⟩ := bind_eq_ok.1 resolved
      obtain ⟨entries, found, listed⟩ := bind_eq_ok.1 others
      cases listed
      obtain ⟨names, sources⟩ := ih found
      refine ⟨by rw [List.map_cons, List.map_cons, names], List.forall_mem_cons.2 ⟨?_, ?_⟩⟩
      · exact ⟨accessor, List.mem_cons_self, rfl, first⟩
      · intro entry held
        obtain ⟨source, isSource, same, resolves⟩ := sources entry held
        exact ⟨source, List.mem_cons_of_mem _ isSource, same, resolves⟩

/-- Resolving answers when every accessor has a value. -/
theorem resolveAll_answers {builder : Builder} {accessors : List Accessor}
    (answers : ∀ accessor ∈ accessors, ∃ value, builder.resolve accessor = .ok value) :
    ∃ values, builder.resolveAll accessors = .ok values := by
  induction accessors with
  | nil => exact ⟨[], rfl⟩
  | cons accessor rest ih =>
      rw [List.forall_mem_cons] at answers
      obtain ⟨⟨value, first⟩, others⟩ := answers
      obtain ⟨values, resolved⟩ := ih others
      exact ⟨(accessor.name, value) :: values, by rw [resolveAll, first, ok_bind, resolved]; rfl⟩

/-- Among resolved values, a name of the snapshot is stored with what its accessor
resolves to: the snapshot holds no second accessor of that name. -/
theorem resolve_stored {builder : Builder} {type : ConstraintType}
    {values : List (String × Value)} (resolved : builder.resolveAll type.accessors = .ok values)
    {accessor : Accessor} (declared : accessor ∈ type.accessors) :
    builder.resolve accessor = .ok (Value.stored values accessor.name) := by
  obtain ⟨names, sources⟩ := resolveAll_entries resolved
  have listed : accessor.name ∈ values.map Prod.fst := by
    rw [names]
    exact List.mem_map_of_mem declared
  obtain ⟨value, found⟩ := Members.exists_find?_of_mem listed
  obtain ⟨source, isSource, same, resolves⟩ := sources _ (Members.mem_of_find? found)
  rw [Value.stored, found, Option.getD_some,
    ← ConstraintType.accessor_eq_of_name isSource declared same]
  exact resolves

/-- What creating a constraint answers: the first accessor without a value fails
before the permission is asked for, and a refusal is wrapped. -/
theorem run_createConstraint_fst (builder : Builder) (session : Session) :
    (builder.createConstraint.run session).1 =
      builder.resolveAll builder.accessors >>= fun values =>
        (session.permits builder.scope? .createInstance).mapError (creationFailure builder.type)
          >>= fun _ => .ok (.ofValues (.drawn session.nextSerial) builder.type values) := by
  rw [createConstraint, Action.run_bind, Action.run_ofExcept]
  cases builder.resolveAll builder.accessors with
  | error failure => rfl
  | ok values =>
      have made := Action.run_privileged_drawIdentity_fst builder.scope? .createInstance
        (creationFailure builder.type)
        (fun identity => Constraint.ofValues identity builder.type values) session
      exact (Action.run_bind_fst_of_keeps (fun constraint reached =>
        Action.run_bind_eq_ok.2 ⟨(),
          Action.run_log_fst _ _ _ reached (Action.plain_count _ _ _ (by decide)), rfl⟩)
        session).trans made

/-- A created constraint is of the builder's type and stores, under each declared
name, a copy of what the accessor of that name resolves to. -/
theorem Reachable.stored_of_createConstraint {builder : Builder} (reachable : Reachable builder)
    {session : Session} {constraint : Constraint}
    (created : (builder.createConstraint.run session).1 = .ok constraint) :
    ∃ identity values, constraint = .synthesized identity builder.type values ∧
      ∀ accessor ∈ builder.type.accessors, ∃ value,
        builder.resolve accessor = .ok value ∧
          Value.stored values accessor.name = value.kept := by
  rw [run_createConstraint_fst, reachable.accessors_eq] at created
  obtain ⟨values, resolved, made⟩ := bind_eq_ok.1 created
  obtain ⟨_, _, same⟩ := bind_eq_ok.1 made
  cases same
  exact ⟨_, _, rfl, fun accessor declared =>
    ⟨_, resolve_stored resolved declared, Value.stored_map_kept values accessor.name⟩⟩

end Builder

end AttributeContracts
