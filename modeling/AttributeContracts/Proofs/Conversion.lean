/-
# Plain form of everything below

The conversion of a constraint to plain form is a walk along all that is below it. It fails with
the first reading that does, and where it succeeds, what becomes of a value is seen where its
path leads in the plain form.

The walk is the same at an array, at a constraint that is read, and at the constraint that is
converted, although that one is not read but taken as it stores.
-/

import AttributeContracts.Proofs.PlainForm
import AttributeContracts.Proofs.Walk

namespace AttributeContracts

open Outcome

namespace Value

/-! ## The conversion is a walk -/

/-- A whole constraint lists some names. -/
theorem exists_attributeNames {c : Constraint} (whole : (Value.constraint c).isConstraint = true) :
    ∃ names, c.attributeNames = .ok names := by
  have offered := offers_of_isConstraint whole .attributeNames
  cases c with
  | literal identity type answers names? wording missing =>
      cases names? with
      | none => exact ⟨type.attributeNames, if_pos offered⟩
      | some names => exact ⟨names, if_pos offered⟩
  | _ => exact ⟨_, rfl⟩

/-- Whether a value can be converted by what it answers. A record is not to be taken for a
constraint, since its functions answer neither a type nor names, and a constraint is not to list
the name that a record does not take. -/
def Regular : Value → Prop
  | .record identity bare members => (Value.record identity bare members).isConstraint = false
  | .constraint c => (Value.constraint c).isConstraint = true → ∀ names,
      c.attributeNames = .ok names → reservedName ∉ names
  | _ => True

/-- Whether everything can be converted so that a path from a value leads to. -/
def RegularBelow (value : Value) : Prop := value.Everywhere Regular

theorem regularBelow_of_isAtom {value : Value} (atom : value.isAtom = true) :
    value.RegularBelow := by
  refine Everywhere.of_isAtom atom ?_
  cases value with
  | record identity bare members => simpa [Regular, isAtom] using atom
  | constraint c => cases atom
  | _ => trivial

/-- Reading an attribute and converting what it gives is a walk along what is below that. -/
theorem walks_plainAt {c : Constraint} {name : String}
    (below : ∀ part, c.valueOf name = .ok part →
      Walks part.plain fun path failure => part.along? path = some (.error failure)) :
    Walks (c.plainAt name) (c.FailsAt name) := by
  rw [Constraint.plainAt]
  cases read : c.valueOf name with
  | error cause =>
      refine (Walks.of_error cause).congr_paths fun path failure => ?_
      simp [Constraint.FailsAt, read, eq_comm]
  | ok part =>
      refine (below part read).congr_paths fun path failure => ?_
      simp [Constraint.FailsAt, read]

/-- What fails on a path that begins at a position of an array. Nothing fails at a hole. -/
def failsAtPosition (element? : Option Value) (path : List Place) (failure : Failure) : Prop :=
  ∃ element, element? = some element ∧ element.along? path = some (.error failure)

theorem walks_mapM_plain {element? : Option Value}
    (walks : ∀ element, element? = some element →
      Walks element.plain fun path failure => element.along? path = some (.error failure)) :
    Walks (Option.mapM plain element?) (failsAtPosition element?) := by
  cases element? with
  | none => exact .of_clear rfl (by simp [failsAtPosition])
  | some element =>
      have here : Walks element.plain (failsAtPosition (some element)) :=
        (walks element rfl).congr_paths (by simp [failsAtPosition])
      exact here.congr fun failure => option_mapM_eq_error.trans (by simp)

theorem along?_array_eq_error_iff_failsAtPosition {elements : List (Option Value)}
    {path : List Place} {failure : Failure} :
    (Value.array elements).along? path = some (.error failure) ↔ ∃ index element? rest,
      elements[index]? = some element? ∧ path = .element index :: rest ∧
        failsAtPosition element? rest failure := by
  rw [along?_array_eq_error_iff]
  constructor
  · rintro ⟨index, element, rest, held, rfl, failed⟩
    exact ⟨index, some element, rest, held, rfl, element, rfl, failed⟩
  · rintro ⟨index, _, rest, held, rfl, element, rfl, failed⟩
    exact ⟨index, element, rest, held, rfl, failed⟩

/-- By induction on parts: the plain form of a value is a walk along what is below it. -/
theorem walks_plain {value : Value} (regular : value.RegularBelow) :
    Walks value.plain fun path failure => value.along? path = some (.error failure) := by
  induction value using inductionOnParts with
  | step value ih =>
      cases value with
      | array elements =>
          have walks : ∀ element? ∈ elements, Walks (Option.mapM plain element?)
              (failsAtPosition element?) := by
            intro element? held
            refine walks_mapM_plain fun element present => ?_
            subst present
            obtain ⟨index, isHeld⟩ := List.getElem?_of_mem held
            have found := part?_array_eq_some_iff.2 ⟨index, element, isHeld, rfl, rfl⟩
            exact ih (.element index) element found (regular.part found)
          rw [plain, plainElements_eq]
          refine (Walks.mapM (fun index _ => .element index) (fun _ _ => rfl) walks
            fun _ _ => along?_array_eq_error_iff_failsAtPosition).congr fun failure => ?_
          cases elements.mapM (Option.mapM plain) <;> simp [Functor.map, Except.map]
      | constraint c =>
          by_cases whole : (Value.constraint c).isConstraint = true
          · obtain ⟨names, listed⟩ := exists_attributeNames whole
            have walks : ∀ name ∈ names, Walks (c.plainAt name) (c.FailsAt name) := by
              intro name isListed
              obtain ⟨index, held⟩ := List.getElem?_of_mem isListed
              refine walks_plainAt fun part read => ?_
              have found := (part?_constraint_eq_some_iff whole listed).2
                ⟨index, name, held, rfl, read.symm⟩
              exact ih (.attribute index name) part found (regular.part found)
            rw [plain_constraint whole listed]
            exact (Walks.mapM .attribute (fun _ _ => rfl) walks fun _ _ =>
              along?_constraint_eq_error_iff whole listed).congr
                fun _ => ConstraintType.plainInstance_eq_error_iff
          · have answers : (Value.constraint c).plain = .ok (.leaf (.constraint c)) := by
              rw [plain, if_neg whole]
            exact .of_clear answers (along?_ne_error (part?_of_not_isConstraint whole))
      | record identity bare members =>
          have unlike : (Value.record identity bare members).isConstraint = false := regular.here
          have answers : (Value.record identity bare members).plain =
              .ok (.leaf (.record identity bare members)) := by
            rw [plain, unlike]
            rfl
          have atom : (Value.record identity bare members).isAtom = true := by
            simp [isAtom, unlike]
          exact .of_clear answers (along?_ne_error (part?_of_isAtom atom))
      | _ => exact .of_clear rfl (along?_ne_error (part?_of_isAtom rfl))

end Value

/-! ## What becomes of a value -/

/-- What stands at a place of a plain form. -/
def Plain.part? : Plain → Place → Option Plain
  | .list parts, .element index => parts[index]?.join
  | .instance _ attributes, .attribute _ name => Members.find? attributes name
  | _, _ => none

/-- A place keeps what stands there when it does not go by the name that a record loses. -/
def Place.isKept : Place → Bool
  | .element _ => true
  | .attribute _ name => name ≠ reservedName

/-- What a path leads to in a plain form. -/
def Plain.along? : Plain → List Place → Option Plain
  | form, [] => some form
  | form, place :: rest => (form.part? place).bind fun part => part.along? rest

namespace Value

/-- What a value is in a plain form: a function and a class are their names, an array is a list
with something at the same positions, and a synthesized constraint is its own plain form. Another
constraint shows the names that it lists, and every other value is left as it is. -/
def ShownAs (value : Value) (form : Plain) : Prop :=
  match value with
  | .function _ name => form = .leaf (.text name)
  | .classRef c => form = .leaf (.text c.name)
  | .array elements =>
      ∃ parts, form = .list parts ∧ parts.map Option.isSome = elements.map Option.isSome
  | .constraint (.synthesized identity type values) =>
      (Constraint.synthesized identity type values).toPlain = .ok form
  | .constraint c =>
      if (Value.constraint c).isConstraint then
        ∃ names attributes, c.attributeNames = .ok names ∧
          form = .instance c.type.name attributes ∧
          ∀ name, name ∈ attributes.map Prod.fst ↔ name ∈ names
      else form = .leaf (.constraint c)
  | other => form = .leaf other

/-- Where a synthesized constraint can be converted by what it answers, its own conversion gives
the same. -/
theorem toPlain_of_plain {identity : Identity} {type : ConstraintType}
    {values : List (String × Value)} {form : Plain}
    (converted : (Value.constraint (.synthesized identity type values)).plain = .ok form) :
    (Constraint.synthesized identity type values).toPlain = .ok form := by
  rw [plain_constraint rfl rfl] at converted
  obtain ⟨entries, mapped, _⟩ := bind_eq_ok.1 converted
  rw [Constraint.toPlain_synthesized, ← converted]
  apply ConstraintType.plainInstance_congr
  intro name isListed
  obtain ⟨entry, isEntry⟩ := exists_mapM_iff.1 ⟨entries, mapped⟩ name isListed
  obtain ⟨value, read, _⟩ := bind_eq_ok.1 (ConstraintType.named_eq_ok_iff.1 isEntry).2
  rw [Constraint.plainAt, read, ok_bind, (Constraint.valueOf_synthesized_eq_ok.1 read).1]

theorem plain_array_eq_ok {elements : List (Option Value)} {form : Plain}
    (converted : (Value.array elements).plain = .ok form) :
    ∃ parts, form = .list parts ∧ elements.mapM (Option.mapM plain) = .ok parts := by
  rw [plain, plainElements_eq] at converted
  cases mapped : elements.mapM (Option.mapM plain) with
  | error failure =>
      rw [mapped] at converted
      cases converted
  | ok parts =>
      rw [mapped] at converted
      cases converted
      exact ⟨parts, rfl, rfl⟩

/-- The plain forms of the elements of an array stand at the positions of the elements. -/
theorem isSome_of_mapM_plain {elements : List (Option Value)} {parts : List (Option Plain)}
    (mapped : elements.mapM (Option.mapM plain) = .ok parts) :
    parts.map Option.isSome = elements.map Option.isSome := by
  obtain ⟨lengths, positions⟩ := mapM_eq_ok_iff.1 mapped
  apply List.ext_getElem (by simp [lengths])
  intro index isPart isElement
  rw [List.length_map] at isPart isElement
  rw [List.getElem_map, List.getElem_map]
  obtain ⟨noElement, noPart⟩ | ⟨element, part, isSome, alsoSome, _⟩ := option_mapM_eq_ok.1
    (positions index _ _ (List.getElem?_eq_getElem isElement) (List.getElem?_eq_getElem isPart))
  · rw [noElement, noPart]
    rfl
  · rw [isSome, alsoSome]
    rfl

theorem shownAs_of_plain {value : Value} {form : Plain} (regular : value.Regular)
    (converted : value.plain = .ok form) : value.ShownAs form := by
  cases value with
  | array elements =>
      obtain ⟨parts, rfl, mapped⟩ := plain_array_eq_ok converted
      exact ⟨parts, rfl, isSome_of_mapM_plain mapped⟩
  | constraint c =>
      have shown : if (Value.constraint c).isConstraint then
            ∃ names attributes, c.attributeNames = .ok names ∧
              form = .instance c.type.name attributes ∧
              ∀ name, name ∈ attributes.map Prod.fst ↔ name ∈ names
          else form = .leaf (.constraint c) := by
        split
        · next whole =>
            obtain ⟨names, listed⟩ := exists_attributeNames whole
            rw [plain_constraint whole listed] at converted
            obtain ⟨attributes, made, exactly, _⟩ :=
              ConstraintType.plainInstance_eq_ok (regular whole names listed) converted
            exact ⟨names, attributes, listed, made, exactly⟩
        · next lacking =>
            rw [plain, if_neg lacking] at converted
            cases converted
            rfl
      cases c with
      | synthesized identity type values => exact toPlain_of_plain converted
      | _ => exact shown
  | record identity bare members =>
      have unlike : (Value.record identity bare members).isConstraint = false := regular
      rw [plain, unlike] at converted
      cases converted
      rfl
  | _ =>
      cases converted
      rfl

/-- The plain form of a part stands at its place in the plain form of the whole, unless the
place goes by the name that is lost. -/
theorem exists_part?_of_plain {value part : Value} {form : Plain}
    (converted : value.plain = .ok form) {place : Place} (kept : place.isKept = true)
    (found : value.part? place = some (.ok part)) :
    ∃ partForm, form.part? place = some partForm ∧ part.plain = .ok partForm := by
  obtain ⟨elements, index, _, rfl, rfl, held, same⟩ |
    ⟨c, names, index, name, rfl, rfl, whole, listed, isListed, read⟩ := part?_cases found
  · cases same
    obtain ⟨parts, rfl, mapped⟩ := plain_array_eq_ok converted
    obtain ⟨lengths, places⟩ := mapM_eq_ok_iff.1 mapped
    have inside : index < parts.length := lengths ▸ (List.getElem?_eq_some_iff.1 held).1
    have isPart := List.getElem?_eq_getElem inside
    obtain ⟨never, _⟩ | ⟨_, partForm, same, isForm, converts⟩ :=
      option_mapM_eq_ok.1 (places index _ _ held isPart)
    · cases never
    · cases same
      rw [isForm] at isPart
      exact ⟨partForm, by rw [Plain.part?, isPart, Option.join_some], converts⟩
  · rw [plain_constraint whole listed] at converted
    obtain ⟨entries, rfl, rfl, forms⟩ := ConstraintType.plainInstance_eq_assigned converted
    obtain ⟨partForm, isForm, isEntry⟩ :=
      exists_find?_assignedMembers (List.mem_of_getElem? isListed) (of_decide_eq_true kept)
    have converts : c.plainAt name = .ok partForm := forms _ isEntry
    rw [Constraint.plainAt, ← read, ok_bind] at converts
    exact ⟨partForm, isForm, converts⟩

/-- And so it is along a path. -/
theorem exists_along?_of_plain {value found : Value} {form : Plain}
    (converted : value.plain = .ok form) {path : List Place}
    (kept : path.all Place.isKept = true) (leads : value.along? path = some (.ok found)) :
    ∃ foundForm, form.along? path = some foundForm ∧ found.plain = .ok foundForm := by
  induction path generalizing value form with
  | nil =>
      cases leads
      exact ⟨form, rfl, converted⟩
  | cons place rest ih =>
      rw [List.all_cons, Bool.and_eq_true] at kept
      obtain ⟨part, isPart, going⟩ := along?_cons_eq_ok_iff.1 leads
      obtain ⟨partForm, isForm, partConverted⟩ := exists_part?_of_plain converted kept.1 isPart
      obtain ⟨foundForm, leadsForm, shown⟩ := ih partConverted kept.2 going
      refine ⟨foundForm, ?_, shown⟩
      rw [Plain.along?, isForm, Option.bind_some]
      exact leadsForm

/-- No path is lost where no constraint lists the name that a record does not take. -/
theorem RegularBelow.isKept {value found : Value} (regular : value.RegularBelow)
    {path : List Place} (leads : value.along? path = some (.ok found)) :
    path.all Place.isKept = true := by
  induction path generalizing value with
  | nil => rfl
  | cons place rest ih =>
      obtain ⟨part, isPart, going⟩ := along?_cons_eq_ok_iff.1 leads
      rw [List.all_cons, ih (regular.part isPart) going, Bool.and_true]
      obtain ⟨_, _, _, _, rfl, _⟩ | ⟨c, names, index, name, rfl, rfl, whole, listed, isListed, _⟩ :=
        part?_cases isPart
      · rfl
      · refine decide_eq_true ?_
        rintro rfl
        exact regular.here whole names listed (List.mem_of_getElem? isListed)

end Value

/-! ## The conversion of a synthesized constraint -/

namespace Constraint

/-- What a path leads to that begins at an attribute of a synthesized constraint. What that
stores is not read. -/
def below? : Constraint → List Place → Option (Except Failure Value)
  | .synthesized _ type values, .attribute index name :: rest =>
      if type.attributeNames[index]? = some name then (Value.stored values name).along? rest
      else none
  | _, _ => none

variable {identity : Identity} {type : ConstraintType} {values : List (String × Value)}

theorem below?_eq_some_iff {path : List Place} {outcome : Except Failure Value} :
    (synthesized identity type values).below? path = some outcome ↔ ∃ index name rest,
      type.attributeNames[index]? = some name ∧ path = .attribute index name :: rest ∧
        (Value.stored values name).along? rest = some outcome := by
  constructor
  · intro leads
    match path with
    | [] => cases leads
    | .element index :: rest => cases leads
    | .attribute index name :: rest =>
        rw [below?] at leads
        split at leads
        · next isListed => exact ⟨index, name, rest, isListed, rfl, leads⟩
        · cases leads
  · rintro ⟨index, name, rest, isListed, rfl, leads⟩
    rw [below?, if_pos isListed]
    exact leads

/-- A path below a constraint fails: it leads to a constraint that has all its methods and then
to a name that this lists and does not answer. -/
def FailsBelow (c : Constraint) (path : List Place) (failure : Failure) : Prop :=
  ∃ above d names index name, path = above ++ [.attribute index name] ∧
    c.below? above = some (.ok (.constraint d)) ∧
    (Value.constraint d).isConstraint = true ∧ d.attributeNames = .ok names ∧
    names[index]? = some name ∧ d.valueOf name = .error failure

/-- A failing path below a constraint begins at one of its attributes and fails below what is
stored there. -/
theorem failsBelow_iff {path : List Place} {failure : Failure} :
    (synthesized identity type values).FailsBelow path failure ↔ ∃ index name rest,
      type.attributeNames[index]? = some name ∧ path = .attribute index name :: rest ∧
        (Value.stored values name).along? rest = some (.error failure) := by
  constructor
  · rintro ⟨above, d, names, last, lastName, rfl, leads, whole, listed, isListed, raised⟩
    obtain ⟨index, name, rest, isFirst, rfl, going⟩ := below?_eq_some_iff.1 leads
    exact ⟨index, name, rest ++ [.attribute last lastName], isFirst, rfl,
      Value.along?_eq_error_iff.2
        ⟨rest, d, names, last, lastName, rfl, going, whole, listed, isListed, raised⟩⟩
  · rintro ⟨index, name, rest, isFirst, rfl, failed⟩
    obtain ⟨above, d, names, last, lastName, rfl, leads, reading⟩ :=
      Value.along?_eq_error_iff.1 failed
    exact ⟨.attribute index name :: above, d, names, last, lastName, rfl,
      below?_eq_some_iff.2 ⟨index, name, above, isFirst, rfl, leads⟩, reading⟩

/-- The conversion is a walk along what is below the constraint. -/
theorem walks_toPlain
    (regular : ∀ name ∈ type.attributeNames, (Value.stored values name).RegularBelow) :
    Walks (synthesized identity type values).toPlain
      (synthesized identity type values).FailsBelow := by
  have walks : ∀ name ∈ type.attributeNames, Walks (Value.stored values name).plain
      fun path failure => (Value.stored values name).along? path = some (.error failure) :=
    fun name isListed => Value.walks_plain (regular name isListed)
  rw [toPlain_synthesized]
  exact (Walks.mapM .attribute (fun _ _ => rfl) walks fun _ _ => failsBelow_iff).congr
    fun _ => ConstraintType.plainInstance_eq_error_iff

/-- What becomes of the values below a constraint whose conversion succeeds. -/
theorem exists_along?_of_toPlain {plain : Plain}
    (regular : ∀ name ∈ type.attributeNames, (Value.stored values name).RegularBelow)
    (unreserved : reservedName ∉ type.attributeNames)
    (converted : (synthesized identity type values).toPlain = .ok plain)
    {path : List Place} {value : Value}
    (leads : (synthesized identity type values).below? path = some (.ok value)) :
    ∃ form, plain.along? path = some form ∧ value.ShownAs form := by
  obtain ⟨index, name, rest, isListed, rfl, going⟩ := below?_eq_some_iff.1 leads
  have listed := List.mem_of_getElem? isListed
  obtain ⟨attributes, rfl, _, shows⟩ :=
    ConstraintType.plainInstance_eq_ok unreserved converted
  obtain ⟨part, isPart, partConverted⟩ := shows name listed
  obtain ⟨form, leadsForm, shown⟩ :=
    Value.exists_along?_of_plain partConverted ((regular name listed).isKept going) going
  refine ⟨form, ?_, Value.shownAs_of_plain (regular name listed rest value going) shown⟩
  rw [Plain.along?, Plain.part?, isPart, Option.bind_some]
  exact leadsForm

/-- The conversion of a synthesized constraint is made of the conversions below it. It fails
exactly when a constraint strictly below fails to answer a name that it lists, and then with
the first such failure, whatever the constraint declares of its own attributes. Where it
succeeds, it shows the declared names, and every value below stands at its place in the form
that is proper to it. -/
theorem toPlain_compositional (identity : Identity) (type : ConstraintType)
    (values : List (String × Value))
    (regular : ∀ name ∈ type.attributeNames, (Value.stored values name).RegularBelow)
    (unreserved : reservedName ∉ type.attributeNames) :
    ((∃ failure, (synthesized identity type values).toPlain = .error failure) ↔
      ∃ path failure, (synthesized identity type values).FailsBelow path failure) ∧
    (∀ failure, (synthesized identity type values).toPlain = .error failure ↔
      FirstFailing (synthesized identity type values).FailsBelow failure) ∧
    (∀ other : ConstraintType, other.name = type.name →
      other.attributeNames = type.attributeNames →
      (synthesized identity other values).toPlain =
        (synthesized identity type values).toPlain) ∧
    ∀ plain, (synthesized identity type values).toPlain = .ok plain →
      (∃ attributes, plain = .instance type.name attributes ∧
        ∀ name, name ∈ attributes.map Prod.fst ↔ name ∈ type.attributeNames) ∧
      ∀ path value, (synthesized identity type values).below? path = some (.ok value) →
        ∃ form, plain.along? path = some form ∧ value.ShownAs form := by
  have walks : Walks (synthesized identity type values).toPlain
      (synthesized identity type values).FailsBelow := walks_toPlain regular
  refine ⟨walks.exists_error_iff, walks.first, ?_, fun plain converted => ⟨?_, ?_⟩⟩
  · intro other sameName sameNames
    rw [toPlain_synthesized, toPlain_synthesized, sameNames, ConstraintType.plainInstance,
      ConstraintType.plainInstance, sameName]
  · obtain ⟨attributes, made, exactly, _⟩ :=
      ConstraintType.plainInstance_eq_ok unreserved converted
    exact ⟨attributes, made, exactly⟩
  · intro path value leads
    exact exists_along?_of_toPlain regular unreserved converted leads

/-- A function that stands for a class. -/
def bayonet : Value := .function (.drawn 4) "Bayonet"

/-- A lamp that is written by hand, with what it answers for its socket. -/
def scriptedLamp (socket : Answer) : Constraint :=
  .literal (.drawn 1) ⟨.drawn 2, "example.Lamp", [("socket", ⟨.classOf none, none⟩)]⟩
    [("socket", socket)] none (.returns (.text "@Lamp")) []

/-- A constraint type with a number and a list of constraints. -/
def room : ConstraintType where
  identity := .drawn 3
  name := "example.Room"
  definitions := [("height", ⟨.number, none⟩), ("lamps", ⟨.arrayOf (.constraint none), none⟩)]

/-- What a room stores: a text for its height, and two lamps that differ in what they answer. -/
def furnished (first second : Answer) : List (String × Value) :=
  [("height", .text "high"),
    ("lamps", .arrayOf [.constraint (scriptedLamp first), .constraint (scriptedLamp second)])]

/-- A room with two lamps. -/
def litRoom (first second : Answer) : Constraint :=
  .synthesized (.drawn 5) room (furnished first second)

/-- Where a lamp has a function for its socket or none at all, it can be converted. -/
theorem regularBelow_scriptedLamp {socket : Answer}
    (plainly : ∀ value, socket = .returns value → value = bayonet) :
    (Value.constraint (scriptedLamp socket)).RegularBelow := by
  refine (Value.Everywhere.constraint_iff rfl rfl).2 ⟨?_, ?_⟩
  · intro _ names listed
    cases listed
    exact (by decide : reservedName ∉ ["socket"])
  · intro name isListed part read
    cases List.mem_singleton.1 isListed
    cases socket with
    | returns value =>
        cases read
        rw [plainly part rfl]
        exact Value.regularBelow_of_isAtom rfl
    | raises message => cases read
    | throws value => cases read

theorem regularBelow_furnished {first second : Answer}
    (firstPlainly : ∀ value, first = .returns value → value = bayonet)
    (secondPlainly : ∀ value, second = .returns value → value = bayonet) :
    ∀ name ∈ room.attributeNames,
      (Value.stored (furnished first second) name).RegularBelow := by
  intro name listed
  obtain rfl | rfl : name = "height" ∨ name = "lamps" := by
    simpa using (show name ∈ ["height", "lamps"] from listed)
  · exact Value.regularBelow_of_isAtom rfl
  · refine Value.Everywhere.array_iff.2 ⟨trivial, fun element held => ?_⟩
    simp only [List.map_cons, List.map_nil, List.mem_cons, List.not_mem_nil, or_false,
      Option.some.injEq] at held
    obtain rfl | rfl := held
    · exact regularBelow_scriptedLamp firstPlainly
    · exact regularBelow_scriptedLamp secondPlainly

/-- A room is not held to its declared number. With two lamps that do not answer, it fails as
the first of them does, and with lamps that answer, their functions are shown as names. -/
theorem toPlain_compositional_room :
    (litRoom (.raises "dark") (.throws .null)).toPlain = .error (.scripted "dark") ∧
      FirstFailing (litRoom (.raises "dark") (.throws .null)).FailsBelow (.scripted "dark") ∧
      ∃ plain, (litRoom (.returns bayonet) (.returns bayonet)).toPlain = .ok plain ∧
        plain.along? [.attribute 1 "lamps", .element 1, .attribute 0 "socket"] =
          some (.leaf (.text "Bayonet")) := by
  have unreserved : reservedName ∉ room.attributeNames := by decide
  have plainly : ∀ value, Answer.returns bayonet = .returns value → value = bayonet := by
    rintro _ ⟨⟩
    rfl
  have dark := toPlain_compositional (.drawn 5) room (furnished (.raises "dark") (.throws .null))
    (regularBelow_furnished nofun nofun) unreserved
  have bright := toPlain_compositional (.drawn 5) room
    (furnished (.returns bayonet) (.returns bayonet))
    (regularBelow_furnished plainly plainly) unreserved
  have failed : (litRoom (.raises "dark") (.throws .null)).toPlain =
      .error (.scripted "dark") := rfl
  obtain ⟨plain, converted⟩ :
      ∃ plain, (litRoom (.returns bayonet) (.returns bayonet)).toPlain = .ok plain := ⟨_, rfl⟩
  obtain ⟨form, shown, named⟩ := (bright.2.2.2 plain converted).2
    [.attribute 1 "lamps", .element 1, .attribute 0 "socket"] bayonet rfl
  cases named
  exact ⟨failed, (dark.2.1 _).1 failed, plain, converted, shown⟩

end Constraint

end AttributeContracts
