/-
# A builder is a map of last writes

A builder is written to in several ways. Values may be copied into it when it is begun, from
a source or off a constraint, values may be put under any name, and each well-known attribute
has a setter. Some of these look at the name and some do not.

What a builder holds can still be told from its writes alone. A write is accepted when its
name is declared or well known. The value of a name is that of its last accepted write, and
the names stand in the order of their first ones. Rejected writes, questions and the
constraints made on the way leave no mark.
-/

import AttributeContracts.Proofs.Transparency

namespace AttributeContracts

open Outcome

/-! ## Maps and their writes -/

namespace AttributeMap

/-- The value of a name after some writes: that of the last one, or else the value before. -/
theorem get?_foldl_put (writes : List (String × Value)) (map : AttributeMap) (name : String) :
    (writes.foldl (fun map write => map.put write.1 write.2) map).get? name =
      (Members.find? writes name).or (map.get? name) := by
  induction writes generalizing map with
  | nil => rfl
  | cons write rest ih =>
      obtain ⟨written, value⟩ := write
      rw [List.foldl_cons, ih, get?_put, Members.find?_cons, Option.or_assoc]
      by_cases same : name = written
      · rw [if_pos same, if_pos same.symm, Option.some_or]
      · rw [if_neg same, if_neg (Ne.symm same), Option.none_or]

/-- The names after some writes: new ones come behind the old ones, by their first write. -/
theorem names_foldl_put (writes : List (String × Value)) (map : AttributeMap) :
    (writes.foldl (fun map write => map.put write.1 write.2) map).names =
      map.names ++ (Members.places writes).filter (· ∉ map.names) := by
  induction writes generalizing map with
  | nil => exact (List.append_nil _).symm
  | cons write rest ih =>
      obtain ⟨written, value⟩ := write
      rw [List.foldl_cons, ih, names_put, Members.places]
      by_cases held : written ∈ map.names
      · have others : ((Members.places rest).filter (· ≠ written)).filter (· ∉ map.names) =
            (Members.places rest).filter (· ∉ map.names) := by
          rw [List.filter_filter]
          refine List.filter_congr fun name _ => ?_
          by_cases same : name = written <;> simp [same, held]
        rw [if_pos held, List.filter_cons_of_neg (by simpa using held), others]
      · have others : ((Members.places rest).filter (· ≠ written)).filter (· ∉ map.names) =
            (Members.places rest).filter (· ∉ map.names ++ [written]) := by
          rw [List.filter_filter]
          refine List.filter_congr fun name _ => ?_
          simp
        rw [if_neg held, List.filter_cons_of_pos (by simpa using held), others,
          List.append_assoc, List.singleton_append]

theorem get?_ofList (writes : List (String × Value)) (name : String) :
    (ofList writes).get? name = Members.find? writes name := by
  rw [ofList, get?_foldl_put, get?_empty, Option.or_none]

theorem names_ofList (writes : List (String × Value)) :
    (ofList writes).names = Members.places writes := by
  rw [ofList, names_foldl_put]
  exact List.filter_eq_self.2 fun _ _ => rfl

end AttributeMap

namespace Builder

/-! ## What a builder holds -/

/-- A builder holds what some writes in turn make of an empty map. -/
def Holds (builder : Builder) (writes : List (String × Value)) : Prop :=
  builder.elements = AttributeMap.ofList writes

theorem holds_empty (type : ConstraintType) (accessors : List Accessor)
    (scope? : Option ScopeId) (level : LogLevel) :
    (Builder.mk type accessors .empty scope? level).Holds [] := rfl

namespace Holds

variable {builder : Builder} {writes : List (String × Value)}

theorem store (holds : builder.Holds writes) (name : String) (value : Value) :
    (builder.store name value).Holds (writes ++ [(name, value)]) := by
  rw [Holds, AttributeMap.ofList, List.foldl_append]
  exact congrArg (·.put name value) holds

theorem get?_eq (holds : builder.Holds writes) (name : String) :
    builder.get? name = Members.find? writes name := by
  rw [get?, holds, AttributeMap.get?_ofList]

theorem names_eq (holds : builder.Holds writes) :
    builder.elements.names = Members.places writes := by
  rw [holds, AttributeMap.names_ofList]

theorem mem_names_iff (holds : builder.Holds writes) (name : String) :
    name ∈ builder.elements.names ↔ name ∈ writes.map Prod.fst := by
  rw [holds.names_eq, Members.mem_places, Members.declares_iff]

theorem size_eq (holds : builder.Holds writes) :
    builder.size = (Members.places writes).length := by
  rw [← holds.names_eq, AttributeMap.names, List.length_map]
  rfl

theorem contains_iff (holds : builder.Holds writes) (name : String) :
    builder.contains name = true ↔ name ∈ writes.map Prod.fst := by
  rw [contains_eq_isSome, holds.get?_eq, Members.find?_isSome, Members.declares_iff]

end Holds

/-! ## Which writes are accepted -/

/-- The names that may be put: those that the type declares and the well-known ones. -/
theorem admits_iff {builder : Builder} {name : String} :
    builder.admits name = true ↔ builder.type.declares name = true ∨
      name ∈ ["message", "groups", "payload", "validationAppliesTo", "value"] := by
  have wellKnown : AttributeKind.isWellKnown name = true ↔
      name ∈ AttributeKind.all.map AttributeKind.attributeName := by
    rw [AttributeKind.isWellKnown, AttributeKind.forName?, List.find?_isSome, List.mem_map]
    simp
  rw [admits, Bool.or_eq_true, wellKnown]
  rfl

/-- A well-known attribute may be put whatever the type declares. -/
theorem admits_kind (builder : Builder) (kind : AttributeKind)
    (listed : kind ∈ AttributeKind.all) : builder.admits kind.attributeName = true :=
  admits_iff.2 (.inr (List.mem_map_of_mem listed))

theorem put_of_admits {builder : Builder} {name : String} (admitted : builder.admits name = true)
    (value : Value) : builder.put name value = .ok (builder.store name value) := by
  rw [put, if_pos admitted]

theorem put_of_not_admits {builder : Builder} {name : String}
    (unknown : builder.admits name = false) (value : Value) :
    builder.put name value = .error (.unknownAttribute builder.type.name name) := by
  rw [put, unknown]
  rfl

/-- A setter is a put of its attribute. -/
theorem put_kind (builder : Builder) {kind : AttributeKind} (listed : kind ∈ AttributeKind.all)
    (value : Value) : builder.put kind.attributeName value = .ok (builder.setKind kind value) :=
  put_of_admits (admits_kind builder kind listed) value

/-- A put is refused under the other names, and changes nothing then. -/
theorem put_refused_iff {builder : Builder} {name : String} {value : Value} :
    (∃ failure, builder.put name value = .error failure) ↔ builder.admits name = false := by
  cases admitted : builder.admits name with
  | true => simp [put_of_admits admitted]
  | false => simp [put_of_not_admits admitted]

theorem SameFrame.admits_eq {first second : Builder} (frame : first.SameFrame second) :
    first.admits = second.admits := by
  funext name
  rw [admits, admits, frame.type]

end Builder

/-- The write that a change asks for. -/
def BuilderChange.write : BuilderChange → String × Value
  | .put name value => (name, value)
  | .setMessage value => ("message", value)
  | .setGroups value => ("groups", value)
  | .setPayload value => ("payload", value)
  | .setValidationAppliesTo value => ("validationAppliesTo", value)

/-- The write that a request asks for, if it is a change. -/
def Request.write? : Request → Option (String × Value)
  | .change asked => some asked.write
  | _ => none

/-- What some names of a constraint are read to hold, as far as they can be read. -/
def Constraint.readings (constraint : Constraint) (names : List String) :
    List (String × Value) :=
  names.filterMap fun name => (constraint.valueOf name).toOption.map fun value => (name, value)

/-- The writes with which a builder is begun. -/
def BuilderOrigin.writes : BuilderOrigin → List (String × Value)
  | .empty _ => []
  | .attributes _ source => source.entries
  | .copy constraint => constraint.readings constraint.type.attributeNames

namespace Builder

variable {builder : Builder} {writes : List (String × Value)}

/-- A change is a checked put of its write. No setter is ever refused. -/
theorem change_eq (builder : Builder) (asked : BuilderChange) :
    builder.change asked =
      if builder.admits asked.write.1 then builder.store asked.write.1 asked.write.2
      else builder := by
  cases asked with
  | put name value =>
      rw [change, BuilderChange.write]
      cases admitted : builder.admits name with
      | true => rw [put_of_admits admitted, if_pos rfl]
      | false => rw [put_of_not_admits admitted, if_neg Bool.false_ne_true]
  | setMessage value => exact (if_pos (admits_kind builder .message (by decide))).symm
  | setGroups value => exact (if_pos (admits_kind builder .groups (by decide))).symm
  | setPayload value => exact (if_pos (admits_kind builder .payload (by decide))).symm
  | setValidationAppliesTo value =>
      exact (if_pos (admits_kind builder .validationAppliesTo (by decide))).symm

/-- The step: a request adds its write if that is accepted. -/
theorem Holds.after (holds : builder.Holds writes) (request : Request) :
    (builder.after request).Holds
      (writes ++ request.write?.toList.filter fun write => builder.admits write.1) := by
  cases request with
  | change asked =>
      rw [Builder.after, change_eq, Request.write?, Option.toList_some, List.filter_cons,
        List.filter_nil]
      split
      · exact holds.store _ _
      · rwa [List.append_nil]
  | _ => exact (List.append_nil writes).symm ▸ holds

theorem sameFrame_after (builder : Builder) (request : Request) :
    (builder.after request).SameFrame builder := by
  cases request with
  | change asked => exact sameFrame_change builder asked
  | _ => exact .refl builder

theorem sameFrame_foldl_after (builder : Builder) (requests : List Request) :
    (requests.foldl Builder.after builder).SameFrame builder := by
  induction requests generalizing builder with
  | nil => exact .refl builder
  | cons request rest ih => exact (ih _).trans (sameFrame_after builder request)

/-- By induction on the requests: they add their accepted writes in turn. -/
theorem Holds.foldl_after (holds : builder.Holds writes) (requests : List Request) :
    (requests.foldl Builder.after builder).Holds
      (writes ++ (requests.filterMap Request.write?).filter fun write =>
        builder.admits write.1) := by
  induction requests generalizing builder writes with
  | nil => rwa [List.filterMap_nil, List.filter_nil, List.append_nil]
  | cons request rest ih =>
      have next := ih (holds.after request)
      rw [(sameFrame_after builder request).admits_eq, List.append_assoc] at next
      cases asked : request.write? with
      | none =>
          rw [asked] at next
          rwa [List.filterMap_cons_none asked]
      | some write =>
          rw [asked, Option.toList_some, ← List.filter_append] at next
          rwa [List.filterMap_cons_some asked]

/-! ## Beginning a builder -/

/-- A source is copied entry by entry, and not at all unless every name may be put. -/
theorem holds_of_putAll {next : Builder} {entries : List (String × Value)}
    (holds : builder.Holds writes) (accepted : builder.putAll entries = .ok next) :
    next.Holds (writes ++ entries) ∧ ∀ entry ∈ entries, builder.admits entry.1 = true := by
  induction entries generalizing builder writes with
  | nil =>
      cases accepted
      exact ⟨(List.append_nil writes).symm ▸ holds, List.forall_mem_nil _⟩
  | cons entry rest ih =>
      obtain ⟨name, value⟩ := entry
      obtain ⟨middle, first, others⟩ := bind_eq_ok.1 accepted
      cases admitted : builder.admits name with
      | false =>
          rw [put_of_not_admits admitted] at first
          cases first
      | true =>
          rw [put_of_admits admitted] at first
          cases first
          obtain ⟨held, all⟩ := ih (holds.store name value) others
          rw [List.append_assoc] at held
          exact ⟨held, List.forall_mem_cons.2 ⟨admitted, all⟩⟩

/-- What is read off a constraint is copied name by name. -/
theorem holds_of_readAll {next : Builder} {constraint : Constraint} {accessors : List Accessor}
    {session : Session} (holds : builder.Holds writes)
    (answered : ((builder.readAll constraint accessors).run session).1 = .ok next) :
    next.Holds (writes ++ constraint.readings (accessors.map Accessor.name)) := by
  induction accessors generalizing builder writes session with
  | nil =>
      cases answered
      exact (List.append_nil writes).symm ▸ holds
  | cons accessor rest ih =>
      obtain ⟨value, read, others⟩ := readAll_cons_eq_ok answered
      have held := ih (holds.store accessor.name value) others
      rw [List.append_assoc] at held
      rwa [List.map_cons, Constraint.readings, List.filterMap_cons, read]

/-- However a builder is begun, it holds the writes that it is begun with, and each of them
is under a name that may be put. -/
theorem holds_of_build {session : Session} (genuine : session.Genuine) {origin : BuilderOrigin}
    {options : BuilderOptions} {builder : Builder}
    (built : ((origin.build options).run session).1 = .ok builder) :
    builder.Holds origin.writes ∧ ∀ write ∈ origin.writes, builder.admits write.1 = true := by
  cases origin with
  | empty type =>
      have made := built.symm.trans (run_forType_fst genuine type options)
      cases made
      exact ⟨holds_empty _ _ _ _, List.forall_mem_nil _⟩
  | attributes type source =>
      obtain ⟨empty, begun, filled⟩ := Action.run_bind_eq_ok.1 built
      have made := begun.symm.trans (run_forType_fst genuine type options)
      cases made
      obtain ⟨held, all⟩ := holds_of_putAll (holds_empty _ _ _ _) filled
      refine ⟨held, fun write listed => ?_⟩
      rw [(sameFrame_putAll filled).admits_eq]
      exact all write listed
  | copy constraint =>
      obtain ⟨type, answered, made⟩ := Action.run_bind_eq_ok.1 built
      obtain ⟨empty, begun, read⟩ := Action.run_bind_eq_ok.1 made
      have isEmpty := begun.symm.trans (run_forType_fst genuine type options)
      cases isEmpty
      obtain rfl : constraint.type = type := Constraint.type_eq_of_annotationType answered
      have held := holds_of_readAll (holds_empty _ _ _ _) read
      rw [ConstraintType.map_name_accessors] at held
      refine ⟨held, fun write listed => ?_⟩
      obtain ⟨name, declared, reads⟩ := List.mem_filterMap.1 listed
      obtain ⟨value, _, rfl⟩ := Option.map_eq_some_iff.1 reads
      rw [(copies_of_readAll read).frame.admits_eq]
      exact admits_iff.2 (.inl (ConstraintType.mem_attributeNames.1 declared))

/-! ## Histories -/

/-- Two builders of one frame that hold the same writes are one. -/
theorem SameFrame.eq_of_holds {other : Builder} (frame : builder.SameFrame other)
    (one : builder.Holds writes) (two : other.Holds writes) : builder = other := by
  obtain ⟨type, accessors, elements, scope?, level⟩ := builder
  obtain ⟨rfl, rfl, rfl, rfl⟩ := frame
  obtain rfl : elements = other.elements := Eq.trans one two.symm
  rfl

/-- A builder is a map of last writes over the names that its type declares and the
well-known ones. After any requests, a put of another name is refused and changes nothing,
and a setter is a put of its attribute that is never refused. The value of a name is that of
its last accepted write, the names are those of accepted writes, each once and by their
first ones, and requests that write nothing might as well not have been made. -/
theorem holds_last_writes {session : Session} (genuine : session.Genuine)
    {origin : BuilderOrigin} {options : BuilderOptions} {builder : Builder}
    (built : ((origin.build options).run session).1 = .ok builder) (requests : List Request) :
    let reached := requests.foldl Builder.after builder
    let accepted := (origin.writes ++ requests.filterMap Request.write?).filter
      fun write => builder.admits write.1
    (∀ name, builder.admits name = true ↔ builder.type.declares name = true ∨
        name ∈ ["message", "groups", "payload", "validationAppliesTo", "value"]) ∧
      (∀ name ∈ reached.elements.names, builder.admits name = true) ∧
      (∀ name value,
        ((∃ failure, reached.put name value = .error failure) ↔ builder.admits name = false) ∧
          (builder.admits name = false →
            reached.put name value = .error (.unknownAttribute builder.type.name name) ∧
              reached.change (.put name value) = reached)) ∧
      (∀ value,
        reached.put "message" value = .ok (reached.setMessage value) ∧
          reached.put "groups" value = .ok (reached.setGroups value) ∧
          reached.put "payload" value = .ok (reached.setPayload value) ∧
          reached.put "validationAppliesTo" value = .ok (reached.setValidationAppliesTo value)) ∧
      (∀ name, reached.get? name = Members.find? accepted name) ∧
      (∀ name, reached.contains name = true ↔ name ∈ accepted.map Prod.fst) ∧
      (reached.elements.names = Members.places accepted ∧ reached.elements.names.Nodup ∧
        reached.size = reached.elements.names.length) ∧
      (∀ request, request.write? = none → reached.after request = reached) ∧
      ∀ others : List Request,
        others.filterMap Request.write? = requests.filterMap Request.write? →
          others.foldl Builder.after builder = reached := by
  intro reached accepted
  obtain ⟨begun, all⟩ := holds_of_build genuine built
  have frame : reached.SameFrame builder := sameFrame_foldl_after builder requests
  have split : accepted = origin.writes ++
      (requests.filterMap Request.write?).filter fun write => builder.admits write.1 :=
    (List.filter_append _ _).trans (congrArg (· ++ _) (List.filter_eq_self.2 all))
  have holds : reached.Holds accepted := split ▸ begun.foldl_after requests
  refine ⟨fun name => admits_iff, ?_, ?_, ?_, holds.get?_eq, holds.contains_iff, ?_, ?_, ?_⟩
  · intro name held
    obtain ⟨write, isAccepted, rfl⟩ := List.mem_map.1 ((holds.mem_names_iff name).1 held)
    exact (List.mem_filter.1 isAccepted).2
  · intro name value
    rw [← frame.admits_eq, ← frame.type]
    refine ⟨put_refused_iff, fun unknown => ?_⟩
    have refused := put_of_not_admits unknown value
    exact ⟨refused, by rw [change, refused]⟩
  · intro value
    have known (kind : AttributeKind) (listed : kind ∈ AttributeKind.all) :
        reached.put kind.attributeName value = .ok (reached.setKind kind value) :=
      put_kind reached listed value
    exact ⟨known .message (by decide), known .groups (by decide), known .payload (by decide),
      known .validationAppliesTo (by decide)⟩
  · refine ⟨holds.names_eq, ?_, ?_⟩
    · exact reached.elements.distinct
    · rw [holds.size_eq, holds.names_eq]
  · intro request silent
    cases request with
    | change asked => cases silent
    | _ => rfl
  · intro others same
    have alike : (others.foldl Builder.after builder).Holds accepted := by
      rw [split, ← same]
      exact begun.foldl_after others
    have frames := (sameFrame_foldl_after builder others).trans frame.symm
    exact frames.eq_of_holds alike holds

/-- Asks for a constraint in vain, puts `undefined`, is refused a name that every record has,
has a constraint made, sets the message and puts another value in place of `undefined`. -/
def adjustments : List Request :=
  [.create, .change (.put "level" .undefined), .change (.put "toString" .null), .create,
    .change (.setMessage (.text "bright")), .change (.put "level" (.bool true)), .size]

/-- Of a dimmer that is begun with groups alone and then adjusted, three names are held, in
the order in which they came first. -/
theorem holds_last_writes_dimmer :
    ∃ builder,
      (((BuilderOrigin.attributes dimmer (.map [("groups", .array [])])).build
        { scope? := some 0 }).run .restricted).1 = .ok builder ∧
        (adjustments.foldl Builder.after builder).elements.names =
          ["groups", "level", "message"] ∧
        (adjustments.foldl Builder.after builder).get? "level" = some (.bool true) ∧
        (adjustments.foldl Builder.after builder).contains "toString" = false := by
  have built : (((BuilderOrigin.attributes dimmer (.map [("groups", .array [])])).build
      { scope? := some 0 }).run .restricted).1 =
        .ok ((Builder.mk dimmer dimmer.accessors .empty (some 0) .silent).store "groups"
          (.array [])) := rfl
  obtain ⟨_, _, _, _, gets, contains, ⟨names, _, _⟩, _, _⟩ :=
    holds_last_writes Session.genuine_restricted built adjustments
  refine ⟨_, built, names, gets "level", ?_⟩
  rw [← Bool.not_eq_true, contains]
  decide

end Builder

end AttributeContracts
