/-
# The names that are shown

A synthesized constraint shows the names of its type in four ways: it lists them, its type has
an accessor for each of them, its text prints them, and its plain form has them as the names of
a record. All four give the same names in the same order, since the names are enumerated already
when they are assigned to the record, and enumerating them again changes nothing.

The record is the one that may differ. It does not take the name `__proto__` by assignment, so a
type that declares this name loses it there, with whatever is stored under it, while the name
is still listed and printed. Nothing else is ever lost, at any depth.
-/

import AttributeContracts.Proofs.Conversion
import AttributeContracts.Proofs.Enumeration

namespace AttributeContracts

open Outcome

/-! ## One constraint -/

/-- The names that come out of a conversion are those of the type, in their order, without the
one that is lost. -/
theorem ConstraintType.names_of_plainInstance {type : ConstraintType}
    {convert : String → Except Failure Plain} {plain : Plain}
    (converted : type.plainInstance type.attributeNames convert = .ok plain) :
    ∃ attributes, plain = .instance type.name attributes ∧
      attributes.map Prod.fst = type.attributeNames.filter (· ≠ reservedName) := by
  obtain ⟨entries, rfl, listed, _⟩ := plainInstance_eq_assigned converted
  refine ⟨assignedMembers entries, rfl, ?_⟩
  have kept : (entries.filter fun entry => entry.1 ≠ reservedName).map Prod.fst =
      type.attributeNames.filter (· ≠ reservedName) := by
    rw [← listed, List.filter_map]
    rfl
  have distinct : (type.attributeNames.filter (· ≠ reservedName)).Nodup :=
    (Members.nodup_names type.definitions).filter _
  calc
    (assignedMembers entries).map Prod.fst =
        Members.ordered (Members.places (entries.filter fun entry => entry.1 ≠ reservedName)) := by
      rw [assignedMembers, Members.map_fst_enumerate, Members.names]
    _ = Members.ordered (type.attributeNames.filter (· ≠ reservedName)) := by
      rw [Members.places_eq_map_fst (kept ▸ distinct), kept]
    _ = type.attributeNames.filter (· ≠ reservedName) :=
      Members.ordered_filter_names type.definitions _

/-- How a constraint shows the names of its type, itself and in a plain form: it lists them in
the order of enumeration, each once, and its type has its accessors in the same order. They are
printed in its text, each with some description, and the text fails only as one of these does. They
stand in the plain form, which has all of them unless the type declares the one name that a record
does not take. -/
structure Constraint.ShowsNames (c : Constraint) (form : Plain) : Prop where
  lists : c.attributeNames = .ok c.type.attributeNames
  enumerated : Members.Enumerates c.type.attributeNames (Members.places c.type.definitions)
  distinct : c.type.attributeNames.Nodup
  accessors : c.type.accessors.map Accessor.name = c.type.attributeNames
  prints : ∃ describe : String → Except Failure String, c.text = (do
    let parts ← c.type.attributeNames.mapM fun name => do
      let description ← describe name
      pure (name ++ "=" ++ description)
    pure ("@" ++ c.type.simpleName ++ "(" ++ ", ".intercalate parts ++ ")"))
  assigns : ∃ attributes, form = .instance c.type.name attributes ∧
    attributes.map Prod.fst = c.type.attributeNames.filter (· ≠ reservedName) ∧
    (attributes.map Prod.fst = c.type.attributeNames ↔ c.type.declares reservedName = false)

/-- A conversion that succeeds shows the names of the constraint. -/
theorem Constraint.showsNames_of_toPlain {identity : Identity} {type : ConstraintType}
    {values : List (String × Value)} {form : Plain}
    (converted : (synthesized identity type values).toPlain = .ok form) :
    (synthesized identity type values).ShowsNames form where
  lists := rfl
  enumerated := Members.enumerates_names type.definitions
  distinct := Members.nodup_names type.definitions
  accessors := type.map_name_accessors
  prints := ⟨fun name => (Value.stored values name).describe, text_synthesized identity type values⟩
  assigns := by
    rw [toPlain_synthesized] at converted
    obtain ⟨attributes, made, kept⟩ := ConstraintType.names_of_plainInstance converted
    refine ⟨attributes, made, kept, ?_⟩
    show attributes.map Prod.fst = type.attributeNames ↔ type.declares reservedName = false
    rw [kept, List.filter_eq_self, ← Bool.not_eq_true, ← ConstraintType.mem_attributeNames]
    constructor
    · intro all listed
      exact of_decide_eq_true (all reservedName listed) rfl
    · intro unlisted name listed
      refine decide_eq_true fun lost => unlisted ?_
      exact lost ▸ listed

/-! ## Where a name is lost -/

namespace Value

/-- Nothing stands in the plain form under the name that is lost. -/
theorem part?_of_lost {value part : Value} {form : Plain} (converted : value.plain = .ok form)
    {place : Place} (lost : place.isKept = false)
    (found : value.part? place = some (.ok part)) : form.part? place = none := by
  obtain ⟨elements, index, _, rfl, rfl, _, _⟩ |
    ⟨c, names, index, name, rfl, rfl, whole, listed, _, _⟩ := part?_cases found
  · cases lost
  · have reserved : name = reservedName := Decidable.not_not.1 (of_decide_eq_false lost)
    rw [plain_constraint whole listed] at converted
    obtain ⟨entries, rfl, _, _⟩ := ConstraintType.plainInstance_eq_assigned converted
    rw [Plain.part?, find?_assignedMembers, if_pos reserved]

/-- By induction on the path: it ends in the plain form where it comes to that name. -/
theorem along?_of_lost {value found : Value} {form : Plain} (converted : value.plain = .ok form)
    {path : List Place} (lost : path.all Place.isKept = false)
    (leads : value.along? path = some (.ok found)) : form.along? path = none := by
  induction path generalizing value form with
  | nil => cases lost
  | cons place rest ih =>
      obtain ⟨part, isPart, going⟩ := along?_cons_eq_ok_iff.1 leads
      rw [Plain.along?]
      cases kept : place.isKept with
      | false => rw [part?_of_lost converted kept isPart, Option.bind_none]
      | true =>
          obtain ⟨partForm, isForm, partConverted⟩ := exists_part?_of_plain converted kept isPart
          rw [List.all_cons, kept, Bool.true_and] at lost
          rw [isForm, Option.bind_some]
          exact ih partConverted lost going

end Value

/-! ## Everything below -/

namespace Constraint

variable {identity : Identity} {type : ConstraintType} {values : List (String × Value)}

/-- What stands where a path leads to below a converted constraint, and that nothing does when
the path goes by the name that is lost. -/
theorem along?_of_toPlain {plain : Plain}
    (converted : (synthesized identity type values).toPlain = .ok plain)
    {path : List Place} {value : Value}
    (leads : (synthesized identity type values).below? path = some (.ok value)) :
    (path.all Place.isKept = true →
      ∃ form, plain.along? path = some form ∧ value.plain = .ok form) ∧
    (path.all Place.isKept = false → plain.along? path = none) := by
  obtain ⟨index, name, rest, isListed, rfl, going⟩ := below?_eq_some_iff.1 leads
  rw [toPlain_synthesized] at converted
  obtain ⟨entries, rfl, listed, forms⟩ := ConstraintType.plainInstance_eq_assigned converted
  by_cases reserved : name = reservedName
  · have lost : (Place.attribute index name).isKept = false := decide_eq_false (· reserved)
    rw [List.all_cons, lost, Bool.false_and, Plain.along?, Plain.part?, find?_assignedMembers,
      if_pos reserved]
    constructor
    · intro kept
      cases kept
    · intro _
      rfl
  · have kept : (Place.attribute index name).isKept = true := decide_eq_true reserved
    have isEntry : name ∈ entries.map Prod.fst := listed ▸ List.mem_of_getElem? isListed
    obtain ⟨part, isPart, held⟩ := exists_find?_assignedMembers isEntry reserved
    have partConverted : (Value.stored values name).plain = .ok part := forms _ held
    rw [List.all_cons, kept, Bool.true_and, Plain.along?, Plain.part?, isPart, Option.bind_some]
    exact ⟨fun all => Value.exists_along?_of_plain partConverted all going,
      fun lost => Value.along?_of_lost partConverted lost going⟩

/-- A conversion that succeeds loses no attribute but the one whose name cannot be assigned. The
constraint shows its names in its plain form, and so does every synthesized constraint below it,
which stands there at its place as its own plain form. Only what is stored below the lost name
does not show. -/
theorem toPlain_shows_names (identity : Identity) (type : ConstraintType)
    (values : List (String × Value)) {plain : Plain}
    (converted : (synthesized identity type values).toPlain = .ok plain) :
    (synthesized identity type values).ShowsNames plain ∧
    ∀ path inner innerType innerValues,
      (synthesized identity type values).below? path =
        some (.ok (.constraint (synthesized inner innerType innerValues))) →
      (path.all Place.isKept = true → ∃ form, plain.along? path = some form ∧
        (synthesized inner innerType innerValues).toPlain = .ok form ∧
        (synthesized inner innerType innerValues).ShowsNames form) ∧
      (path.all Place.isKept = false → plain.along? path = none) := by
  refine ⟨showsNames_of_toPlain converted, fun path inner innerType innerValues leads => ?_⟩
  obtain ⟨stands, ends⟩ := along?_of_toPlain converted leads
  refine ⟨fun kept => ?_, ends⟩
  obtain ⟨form, isForm, innerConverted⟩ := stands kept
  have own : (synthesized inner innerType innerValues).toPlain = .ok form :=
    Value.toPlain_of_plain innerConverted
  exact ⟨form, isForm, own, showsNames_of_toPlain own⟩

/-- A constraint type with a text. -/
def bell : ConstraintType where
  identity := .drawn 1
  name := "example.Bell"
  definitions := [("pitch", ⟨.string, none⟩)]

/-- A bell that is tuned low. -/
def lowBell : Constraint :=
  .synthesized (.drawn 2) bell [("pitch", .text "low")]

/-- A constraint type whose names are all such that a record treats them in its own way. -/
def tower : ConstraintType where
  identity := .drawn 3
  name := "example.Tower"
  definitions := [("10", ⟨.string, none⟩), ("toString", ⟨.string, none⟩),
    ("__proto__", ⟨.constraint none, none⟩), ("2", ⟨.arrayOf (.constraint none), none⟩)]

/-- What a tower stores: a bell in an array, and another one under the name that is lost. -/
def belfry : List (String × Value) :=
  [("10", .text "high"), ("toString", .text "stone"), ("__proto__", .constraint lowBell),
    ("2", .arrayOf [.constraint lowBell])]

/-- A tower lists four names and shows three. The bell in the array is shown with all its names,
and the other one is not. -/
theorem toPlain_shows_names_tower :
    tower.attributeNames = ["2", "10", "toString", "__proto__"] ∧
      ∃ plain, (synthesized (.drawn 4) tower belfry).toPlain = .ok plain ∧
        (∃ attributes, plain = .instance "example.Tower" attributes ∧
          attributes.map Prod.fst = ["2", "10", "toString"]) ∧
        (∃ attributes, plain.along? [.attribute 0 "2", .element 0] =
            some (.instance "example.Bell" attributes) ∧
          attributes.map Prod.fst = bell.attributeNames) ∧
        plain.along? [.attribute 3 "__proto__"] = none := by
  have listed : tower.attributeNames = ["2", "10", "toString", "__proto__"] := by decide
  have complete : bell.declares reservedName = false := by decide
  obtain ⟨plain, converted⟩ :
      ∃ plain, (synthesized (.drawn 4) tower belfry).toPlain = .ok plain := ⟨_, rfl⟩
  obtain ⟨shown, below⟩ := toPlain_shows_names (.drawn 4) tower belfry converted
  have inArray := below [.attribute 0 "2", .element 0] (.drawn 2) bell [("pitch", .text "low")] rfl
  have lost := below [.attribute 3 "__proto__"] (.drawn 2) bell [("pitch", .text "low")] rfl
  refine ⟨listed, plain, converted, ?_, ?_, lost.2 rfl⟩
  · obtain ⟨attributes, made, names, _⟩ := shown.assigns
    exact ⟨attributes, made, names.trans (by decide)⟩
  · obtain ⟨form, isForm, _, showsBell⟩ := inArray.1 rfl
    obtain ⟨attributes, rfl, _, all⟩ := showsBell.assigns
    exact ⟨attributes, isForm, all.2 complete⟩

/-- So a plain form need not have all the names that are listed. -/
theorem toPlain_not_always_complete :
    ¬∀ (identity : Identity) (type : ConstraintType) (values : List (String × Value))
      (plain : Plain), (synthesized identity type values).toPlain = .ok plain →
        ∃ attributes, plain = .instance type.name attributes ∧
          attributes.map Prod.fst = type.attributeNames := by
  intro complete
  obtain ⟨plain, converted⟩ :
      ∃ plain, (synthesized (.drawn 4) tower belfry).toPlain = .ok plain := ⟨_, rfl⟩
  obtain ⟨attributes, made, all⟩ := complete _ _ _ plain converted
  obtain ⟨others, same, _, onlyIf⟩ := (showsNames_of_toPlain converted).assigns
  cases made.symm.trans same
  exact absurd (onlyIf.1 all) (by decide)

end Constraint

end AttributeContracts
