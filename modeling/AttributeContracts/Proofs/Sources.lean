/-
# Maps and records as sources

Attribute values are handed over as the entries of a map or as the members of a record. A map
lists a name where it was first put, a record lists index-like names before all others. A builder
copies a source entry by entry and stops at the first name that may not be put.

So the two forms of one list of entries differ in the name that is blamed, each blaming the first
one of its own order, and in nothing else: they are refused together, and where they are copied
the two builders hold the same and make the same of it.
-/

import AttributeContracts.Proofs.Enumeration
import AttributeContracts.Proofs.FinalValues
import AttributeContracts.Proofs.First

namespace AttributeContracts

open Outcome

/-! ## The two forms -/

namespace AttributeMap

/-- A map looks its entries up as any other record does. -/
theorem find?_entries (map : AttributeMap) (name : String) :
    Members.find? map.entries name = map.get? name := by
  obtain ⟨entries, distinct⟩ := map
  rw [get?]
  induction entries with
  | nil => rfl
  | cons entry rest ih =>
      obtain ⟨assigned, value⟩ := entry
      obtain ⟨fresh, others⟩ := List.nodup_cons.1 distinct
      rw [Members.find?_cons]
      by_cases same : assigned = name
      · subst same
        rw [Members.find?_eq_none_iff.2 fresh, Option.none_or, if_pos rfl,
          List.find?_cons_of_pos (by simp), Option.map_some]
      · rw [if_neg same, Option.or_none, List.find?_cons_of_neg (by simpa using same)]
        exact ih others

end AttributeMap

namespace AttributeSource

variable (entries : List (String × Value))

/-- A map lists each name once, by its first entry. -/
theorem map_fst_entries_map :
    (AttributeSource.map entries).entries.map Prod.fst = Members.places entries :=
  AttributeMap.names_ofList entries

/-- A record lists each name once, in the order of enumeration. -/
theorem map_fst_entries_record :
    (AttributeSource.record entries).entries.map Prod.fst = Members.names entries :=
  Members.map_fst_enumerate entries

/-- Both give a name the last of its values. -/
theorem find?_entries_map (name : String) :
    Members.find? (AttributeSource.map entries).entries name = Members.find? entries name :=
  (AttributeMap.find?_entries _ name).trans (AttributeMap.get?_ofList entries name)

theorem find?_entries_record (name : String) :
    Members.find? (AttributeSource.record entries).entries name = Members.find? entries name :=
  Members.find?_enumerate entries name

end AttributeSource

/-! ## Copying a source -/

/-- A type lets a name be put: it declares it, or the name is well known. -/
def ConstraintType.Admits (type : ConstraintType) (name : String) : Prop :=
  type.declares name = true ∨ AttributeKind.isWellKnown name = true

instance (type : ConstraintType) (name : String) : Decidable (type.Admits name) :=
  inferInstanceAs (Decidable (type.declares name = true ∨ AttributeKind.isWellKnown name = true))

namespace Builder

variable {builder next : Builder} {entries : List (String × Value)}

theorem admits_iff_admits {name : String} :
    builder.admits name = true ↔ builder.type.Admits name := by
  rw [admits, Bool.or_eq_true, ConstraintType.Admits]

/-- A copy stops at the first name that may not be put, and blames it. -/
theorem putAll_eq_error_iff {failure : Failure} :
    builder.putAll entries = .error failure ↔ ∃ place name,
      FirstWithout (fun _ => builder.type.Admits) (entries.map Prod.fst) place name ∧
        failure = .unknownAttribute builder.type.name name := by
  induction entries generalizing builder with
  | nil =>
      constructor
      · intro failed
        cases failed
      · rintro ⟨place, name, first, _⟩
        exact nomatch first.listed
  | cons entry rest ih =>
      obtain ⟨name, value⟩ := entry
      rw [putAll, List.map_cons]
      cases admitted : builder.admits name with
      | false =>
          have lacks : ¬builder.type.Admits name := by
            rw [← admits_iff_admits, admitted]
            exact Bool.false_ne_true
          have stops {place : Nat} {found : String} :
              FirstWithout (fun _ => builder.type.Admits) (name :: rest.map Prod.fst) place found ↔
                place = 0 ∧ found = name := FirstWithout.cons_self_iff lacks
          simp only [stops, put_of_not_admits admitted, error_bind, Except.error.injEq]
          constructor
          · rintro rfl
            exact ⟨0, name, ⟨rfl, rfl⟩, rfl⟩
          · rintro ⟨_, _, ⟨rfl, rfl⟩, rfl⟩
            rfl
      | true =>
          have goes {place : Nat} {found : String} :
              FirstWithout (fun _ => builder.type.Admits) (name :: rest.map Prod.fst) place found ↔
                ∃ before, place = before + 1 ∧
                  FirstWithout (fun _ => builder.type.Admits) (rest.map Prod.fst) before found :=
            FirstWithout.cons_iff (admits_iff_admits.1 admitted)
          simp only [goes, put_of_admits admitted, ok_bind, ih]
          constructor
          · rintro ⟨place, found, first, blamed⟩
            exact ⟨place + 1, found, ⟨place, rfl, first⟩, blamed⟩
          · rintro ⟨_, found, ⟨place, rfl, later⟩, blamed⟩
            exact ⟨place, found, later, blamed⟩

variable {session : Session} {type : ConstraintType} {source : AttributeSource}
  {options : BuilderOptions}

/-- A builder that is begun from a source is a copy of its entries. -/
theorem run_fromAttributes_fst (genuine : session.Genuine) (type : ConstraintType)
    (source : AttributeSource) (options : BuilderOptions) :
    ((fromAttributes type source options).run session).1 =
      (Builder.mk type type.accessors .empty options.scope? (options.level?.getD .silent)).putAll
        source.entries := by
  have begun := run_forType_fst genuine type options
  rw [fromAttributes, Action.run_bind]
  rcases ran : (forType type options).run session with ⟨outcome, after⟩
  rw [ran] at begun
  cases begun
  rfl

/-- It fails with the first name of the source that may not be put. -/
theorem fromAttributes_eq_error_iff (genuine : session.Genuine) {failure : Failure} :
    ((fromAttributes type source options).run session).1 = .error failure ↔ ∃ place name,
      FirstWithout (fun _ => type.Admits) (source.entries.map Prod.fst) place name ∧
        failure = .unknownAttribute type.name name := by
  rw [run_fromAttributes_fst genuine, putAll_eq_error_iff]

/-- One that was begun holds the entries of its source, all of which it takes. -/
theorem holds_of_fromAttributes (genuine : session.Genuine)
    (copied : ((fromAttributes type source options).run session).1 = .ok builder) :
    builder.Holds source.entries ∧ builder.type = type ∧
      builder.accessors = builder.type.accessors ∧
      ∀ entry ∈ source.entries, type.Admits entry.1 := by
  rw [run_fromAttributes_fst genuine] at copied
  obtain ⟨holds, all⟩ := holds_of_putAll (holds_empty _ _ _ _) copied
  have frame := sameFrame_putAll copied
  refine ⟨holds, frame.type, by rw [frame.accessors, frame.type], fun entry listed => ?_⟩
  exact admits_iff_admits.1 (all entry listed)

/-- It looks a name up as its source does, and has one entry for each name of that. -/
theorem get?_of_fromAttributes (genuine : session.Genuine)
    (copied : ((fromAttributes type source options).run session).1 = .ok builder) (name : String) :
    builder.get? name = Members.find? source.entries name :=
  (holds_of_fromAttributes genuine copied).1.get?_eq name

theorem size_of_fromAttributes (genuine : session.Genuine)
    (copied : ((fromAttributes type source options).run session).1 = .ok builder)
    (distinct : (source.entries.map Prod.fst).Nodup) :
    builder.size = (source.entries.map Prod.fst).length := by
  rw [(holds_of_fromAttributes genuine copied).1.size_eq, Members.places_eq_map_fst distinct]

/-- It succeeds exactly when every name may be put. -/
theorem exists_fromAttributes_iff (genuine : session.Genuine) :
    (∃ builder, ((fromAttributes type source options).run session).1 = .ok builder) ↔
      ∀ name ∈ source.entries.map Prod.fst, type.Admits name := by
  constructor
  · rintro ⟨builder, copied⟩ name held
    obtain ⟨entry, listed, rfl⟩ := List.mem_map.1 held
    obtain ⟨_, _, _, all⟩ := holds_of_fromAttributes genuine copied
    exact all entry listed
  · intro all
    cases copied : ((fromAttributes type source options).run session).1 with
    | ok builder => exact ⟨builder, rfl⟩
    | error failure =>
        obtain ⟨place, name, first, _⟩ := (fromAttributes_eq_error_iff genuine).1 copied
        exact absurd (all name (List.mem_of_getElem? first.listed)) first.lacks

/-- A map and a record with the same entries are taken or refused together: taken where each name
is declared or well known, and refused otherwise for the first other name, by place in a map and
in the order of enumeration in a record, where index-like names come first and ascend. Builders
that are begun from them hold the last value of each name and make the same of it. -/
theorem fromAttributes_map_record {one two : Session} (genuineOne : one.Genuine)
    (genuineTwo : two.Genuine) (type : ConstraintType) (entries : List (String × Value))
    (options others : BuilderOptions) :
    let fromMap := ((fromAttributes type (.map entries) options).run one).1
    let fromRecord := ((fromAttributes type (.record entries) others).run two).1
    ((∃ builder, fromMap = .ok builder) ↔ ∀ entry ∈ entries, type.Admits entry.1) ∧
      ((∃ builder, fromRecord = .ok builder) ↔ ∀ entry ∈ entries, type.Admits entry.1) ∧
      (∀ failure, fromMap = .error failure ↔ ∃ place name,
        FirstWithout (fun _ => type.Admits) (Members.places entries) place name ∧
          failure = .unknownAttribute type.name name) ∧
      (∀ failure, fromRecord = .error failure ↔ ∃ place name,
        FirstWithout (fun _ => type.Admits) (Members.names entries) place name ∧
          failure = .unknownAttribute type.name name) ∧
      Members.Enumerates (Members.names entries) (Members.places entries) ∧
      ∀ first second, fromMap = .ok first → fromRecord = .ok second →
        first.size = second.size ∧
          (∀ name, first.get? name = Members.find? entries name ∧
            second.get? name = first.get? name ∧ second.contains name = first.contains name) ∧
          first.MakeAlike second := by
  intro fromMap fromRecord
  have mapNames := AttributeSource.map_fst_entries_map entries
  have recordNames := AttributeSource.map_fst_entries_record entries
  have order := Members.enumerates_names entries
  have all {names : List String} (same : names.Perm (Members.places entries)) :
      (∀ name ∈ names, type.Admits name) ↔ ∀ entry ∈ entries, type.Admits entry.1 := by
    simp only [same.mem_iff, Members.mem_places, Members.declares_iff, List.forall_mem_map]
  refine ⟨?_, ?_, ?_, ?_, order, ?_⟩
  · rw [← all (.refl _), ← mapNames]
    exact exists_fromAttributes_iff genuineOne
  · rw [← all order.same, ← recordNames]
    exact exists_fromAttributes_iff genuineTwo
  · intro failure
    rw [← mapNames]
    exact fromAttributes_eq_error_iff genuineOne
  · intro failure
    rw [← recordNames]
    exact fromAttributes_eq_error_iff genuineTwo
  · intro first second copied also
    obtain ⟨_, mapType, mapSnapshot, _⟩ := holds_of_fromAttributes genuineOne copied
    obtain ⟨_, recordType, recordSnapshot, _⟩ := holds_of_fromAttributes genuineTwo also
    have held (name : String) : first.get? name = Members.find? entries name := by
      rw [get?_of_fromAttributes genuineOne copied, AttributeSource.find?_entries_map]
    have same (name : String) : second.get? name = first.get? name := by
      rw [held, get?_of_fromAttributes genuineTwo also, AttributeSource.find?_entries_record]
    have sizes : first.size = second.size := by
      rw [size_of_fromAttributes genuineOne copied (mapNames ▸ Members.nodup_places entries),
        size_of_fromAttributes genuineTwo also (recordNames ▸ Members.nodup_names entries),
        mapNames, recordNames, order.same.length_eq]
    refine ⟨sizes, fun name => ⟨held name, same name, ?_⟩, ?_⟩
    · rw [contains_eq_isSome, contains_eq_isSome, same]
    · exact makeAlike_of_agree mapSnapshot recordSnapshot (mapType.trans recordType.symm)
        fun name _ => (same name).symm

/-- What is handed over for a dimmer under three names that it does not take. -/
def foreign : List (String × Value) :=
  [("zeta", .null), ("level", .bool true), ("10", .null), ("2", .null)]

/-- What is handed over with a value that is replaced. -/
def repeated : List (String × Value) :=
  [("level", .bool true), ("groups", .array []), ("level", .undefined)]

/-- Of the same foreign names a map blames the first one and a record the least number. With
admissible names both are taken and hold the last value of the name that is repeated. -/
theorem fromAttributes_map_record_dimmer :
    ((fromAttributes dimmer (.map foreign) {}).run .initial).1 =
        .error (.unknownAttribute "example.Dimmer" "zeta") ∧
      ((fromAttributes dimmer (.record foreign) {}).run .restricted).1 =
        .error (.unknownAttribute "example.Dimmer" "2") ∧
      ∃ first second, ((fromAttributes dimmer (.map repeated) {}).run .initial).1 = .ok first ∧
        ((fromAttributes dimmer (.record repeated) { scope? := some 0 }).run .restricted).1 =
          .ok second ∧
        first.get? "level" = some .undefined ∧ second.get? "level" = some .undefined ∧
        first.size = second.size ∧ first.MakeAlike second := by
  have refused := fromAttributes_map_record Session.genuine_initial Session.genuine_restricted
    dimmer foreign {} {}
  have taken := fromAttributes_map_record Session.genuine_initial Session.genuine_restricted
    dimmer repeated {} { scope? := some 0 }
  obtain ⟨_, _, mapBlames, recordBlames, _, _⟩ := refused
  obtain ⟨mapTakes, recordTakes, _, _, _, agree⟩ := taken
  have admitted : ∀ entry ∈ repeated, dimmer.Admits entry.1 := by
    simp only [repeated, List.forall_mem_cons]
    exact ⟨by decide, by decide, by decide, List.forall_mem_nil _⟩
  have none_before (names : List String) (before : Nat) (other : String) (less : before < 0) :
      names[before]? = some other → dimmer.Admits other := absurd less (Nat.not_lt_zero _)
  refine ⟨(mapBlames _).2 ⟨0, "zeta", ⟨rfl, by decide, none_before _⟩, rfl⟩,
    (recordBlames _).2 ⟨0, "2", ⟨rfl, by decide, none_before _⟩, rfl⟩, ?_⟩
  obtain ⟨first, copied⟩ := mapTakes.2 admitted
  obtain ⟨second, also⟩ := recordTakes.2 admitted
  obtain ⟨sizes, values, alike⟩ := agree first second copied also
  obtain ⟨held, same, _⟩ := values "level"
  exact ⟨first, second, copied, also, held, same.trans held, sizes, alike⟩

end Builder

end AttributeContracts
