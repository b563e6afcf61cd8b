/-
# The parts of a value

A value has parts in two ways: an array has its elements, without its holes, and a constraint has
what it answers for the names that it lists. A path leads through such parts, and it ends early
where a constraint fails to answer. Records have members but no parts, since nothing in this library
looks into them.

A part is always smaller than what it is a part of, though reading an attribute is no walk along
the value. So a property of values can be shown by induction on their parts, whatever they are
made of.
-/

import AttributeContracts.Proofs.Comparison

namespace AttributeContracts

open Outcome

namespace Constraint

/-- A value is what a constraint holds under a name that it lists. A name that is listed by
hand may have nothing behind it. -/
inductive Holds : Constraint → String → Value → Prop
  | stored {identity : Identity} {type : ConstraintType} {values : List (String × Value)}
      {name : String} : Holds (.synthesized identity type values) name (Value.stored values name)
  | source {identity : Identity} {source target : Value} :
      Holds (.convertGroup identity source target) "from" source
  | target {identity : Identity} {source target : Value} :
      Holds (.convertGroup identity source target) "to" target
  | scripted {identity : Identity} {type : ConstraintType} {answers : List (String × Answer)}
      {names? : Option (List String)} {wording : Answer} {missing : List Method} {name : String}
      {value : Value} (held : Members.find? answers name = some (.returns value)) :
      Holds (.literal identity type answers names? wording missing) name value
  | absent {identity : Identity} {type : ConstraintType} {answers : List (String × Answer)}
      {names? : Option (List String)} {wording : Answer} {missing : List Method} {name : String}
      (lacking : Members.find? answers name = none) :
      Holds (.literal identity type answers names? wording missing) name .undefined

/-- A reading of a listed name gives what the constraint holds under it. The group conversion
answers other names as well, of which it holds nothing. -/
theorem holds_of_valueOf {c : Constraint} {names : List String} {name : String} {value : Value}
    (listed : c.attributeNames = .ok names) (isListed : name ∈ names)
    (read : c.valueOf name = .ok value) : c.Holds name value := by
  cases c with
  | synthesized identity type values =>
      obtain ⟨rfl, _⟩ := valueOf_synthesized_eq_ok.1 read
      exact .stored
  | valid => cases read
  | convertGroup identity source target =>
      have ends : name ∈ ["from", "to"] := by
        cases listed
        exact isListed
      rw [List.mem_cons, List.mem_singleton] at ends
      rcases ends with rfl | rfl
      · cases read
        exact .source
      · cases read
        exact .target
  | literal identity type answers names? wording missing =>
      rw [valueOf] at read
      split at read
      · split at read
        · next held =>
            cases read
            exact .scripted held
        · cases read
        · cases read
        · next lacking =>
            cases read
            exact .absent lacking
      · cases read

end Constraint

/-- Where a part stands. -/
inductive Place where
  | element (index : Nat)
  /-- Where an attribute is listed, and what it is called. -/
  | attribute (index : Nat) (name : String)
deriving DecidableEq, Repr

/-- The number of parts that come before. -/
def Place.index : Place → Nat
  | .element index => index
  | .attribute index _ => index

namespace Value

/-- What stands at a place of a value: an element of an array, or what a constraint with all its
methods answers for a name that it lists. -/
def part? : Value → Place → Option (Except Failure Value)
  | .array elements, .element index => elements[index]?.join.map .ok
  | .constraint c, .attribute index name =>
      match c.attributeNames with
      | .ok names =>
          if (Value.constraint c).isConstraint = true ∧ names[index]? = some name then
            some (c.valueOf name)
          else none
      | .error _ => none
  | _, _ => none

/-- What a path from a value leads to: a value, or the failure of the last reading on it. -/
def along? : Value → List Place → Option (Except Failure Value)
  | value, [] => some (.ok value)
  | value, place :: rest =>
      match value.part? place with
      | some (.ok part) => part.along? rest
      | some (.error failure) => if rest = [] then some (.error failure) else none
      | none => none

/-! ## Single parts -/

theorem part?_element (elements : List (Option Value)) (index : Nat) :
    (Value.array elements).part? (.element index) = elements[index]?.join.map .ok := rfl

theorem part?_attribute {c : Constraint} {names : List String} {index : Nat} {name : String}
    (whole : (Value.constraint c).isConstraint = true) (listed : c.attributeNames = .ok names)
    (isListed : names[index]? = some name) :
    (Value.constraint c).part? (.attribute index name) = some (c.valueOf name) := by
  rw [part?, listed]
  exact if_pos ⟨whole, isListed⟩

/-- The only parts are elements and attributes. -/
theorem part?_cases {value : Value} {place : Place} {outcome : Except Failure Value}
    (found : value.part? place = some outcome) :
    (∃ elements index part, value = .array elements ∧ place = .element index ∧
      elements[index]? = some (some part) ∧ outcome = .ok part) ∨
    (∃ c names index name, value = .constraint c ∧ place = .attribute index name ∧
      (Value.constraint c).isConstraint = true ∧ c.attributeNames = .ok names ∧
      names[index]? = some name ∧ outcome = c.valueOf name) := by
  unfold part? at found
  split at found
  · next elements index =>
      obtain ⟨part, held, rfl⟩ := Option.map_eq_some_iff.1 found
      exact .inl ⟨elements, index, part, rfl, rfl, Option.join_eq_some_iff.1 held, rfl⟩
  · next c index name =>
      split at found
      · next names listed =>
          split at found
          · next both =>
              cases found
              exact .inr ⟨c, names, index, name, rfl, rfl, both.1, listed, both.2, rfl⟩
          · cases found
      · cases found
  · cases found

theorem part?_array_eq_some_iff {elements : List (Option Value)} {place : Place}
    {outcome : Except Failure Value} :
    (Value.array elements).part? place = some outcome ↔ ∃ index element,
      elements[index]? = some (some element) ∧ place = .element index ∧
        outcome = .ok element := by
  constructor
  · intro found
    obtain ⟨_, index, element, same, rfl, held, rfl⟩ | ⟨_, _, _, _, same, _⟩ := part?_cases found
    · cases same
      exact ⟨index, element, held, rfl, rfl⟩
    · cases same
  · rintro ⟨index, element, held, rfl, rfl⟩
    rw [part?_element, held, Option.join_some, Option.map_some]

theorem part?_constraint_eq_some_iff {c : Constraint} {names : List String}
    (whole : (Value.constraint c).isConstraint = true) (listed : c.attributeNames = .ok names)
    {place : Place} {outcome : Except Failure Value} :
    (Value.constraint c).part? place = some outcome ↔ ∃ index name,
      names[index]? = some name ∧ place = .attribute index name ∧ outcome = c.valueOf name := by
  constructor
  · intro found
    obtain ⟨_, _, _, same, _⟩ | ⟨_, _, index, name, same, rfl, _, alsoListed, isListed, rfl⟩ :=
      part?_cases found
    · cases same
    · cases same
      cases listed.symm.trans alsoListed
      exact ⟨index, name, isListed, rfl, rfl⟩
  · rintro ⟨index, name, isListed, rfl, rfl⟩
    exact part?_attribute whole listed isListed

/-- An atom has no parts. -/
theorem part?_of_isAtom {value : Value} (atom : value.isAtom = true) (place : Place) :
    value.part? place = none := by
  rw [Option.eq_none_iff_forall_ne_some]
  intro outcome found
  obtain ⟨_, _, _, rfl, _⟩ | ⟨_, _, _, _, rfl, _⟩ := part?_cases found
  · cases atom
  · cases atom

/-- Nor has a constraint that lacks a method. -/
theorem part?_of_not_isConstraint {c : Constraint}
    (lacking : ¬(Value.constraint c).isConstraint = true) (place : Place) :
    (Value.constraint c).part? place = none := by
  rw [Option.eq_none_iff_forall_ne_some]
  intro outcome found
  obtain ⟨_, _, _, same, _⟩ | ⟨_, _, _, _, same, _, whole, _⟩ := part?_cases found
  · cases same
  · cases same
    exact lacking whole

/-! ## Induction on parts -/

theorem sizeOf_stored_lt (identity : Identity) (type : ConstraintType)
    (values : List (String × Value)) (name : String) :
    sizeOf (stored values name) < sizeOf (Constraint.synthesized identity type values) := by
  rw [stored, Constraint.synthesized.sizeOf_spec]
  cases found : Members.find? values name with
  | none =>
      cases type
      rw [Option.getD_none, Value.undefined.sizeOf_spec, ConstraintType.mk.sizeOf_spec]
      omega
  | some value =>
      have smaller := List.sizeOf_lt_of_mem (Members.mem_of_find? found)
      rw [Prod.mk.sizeOf_spec] at smaller
      rw [Option.getD_some]
      omega

/-- What a constraint holds is smaller than the constraint. -/
theorem sizeOf_lt_of_holds {c : Constraint} {name : String} {part : Value}
    (held : c.Holds name part) : sizeOf part < sizeOf c := by
  cases held with
  | stored => exact sizeOf_stored_lt _ _ _ _
  | source =>
      rw [Constraint.convertGroup.sizeOf_spec]
      omega
  | target =>
      rw [Constraint.convertGroup.sizeOf_spec]
      omega
  | scripted found =>
      have smaller := List.sizeOf_lt_of_mem (Members.mem_of_find? found)
      rw [Prod.mk.sizeOf_spec, Answer.returns.sizeOf_spec] at smaller
      rw [Constraint.literal.sizeOf_spec]
      omega
  | @absent _ type =>
      cases type
      rw [Constraint.literal.sizeOf_spec, Value.undefined.sizeOf_spec,
        ConstraintType.mk.sizeOf_spec]
      omega

/-- A part is smaller than the whole. -/
theorem sizeOf_part? {value part : Value} {place : Place}
    (found : value.part? place = some (.ok part)) : sizeOf part < sizeOf value := by
  obtain ⟨elements, index, held, rfl, rfl, isHeld, same⟩ |
    ⟨c, names, index, name, rfl, rfl, _, listed, isListed, read⟩ := part?_cases found
  · cases same
    have smaller := List.sizeOf_lt_of_mem (List.mem_of_getElem? isHeld)
    rw [Option.some.sizeOf_spec] at smaller
    rw [Value.array.sizeOf_spec]
    omega
  · have smaller := sizeOf_lt_of_holds
      (Constraint.holds_of_valueOf listed (List.mem_of_getElem? isListed) read.symm)
    rw [Value.constraint.sizeOf_spec]
    omega

/-- What holds of a value whenever it holds of its parts holds of every value. -/
theorem inductionOnParts {motive : Value → Prop}
    (step : ∀ value, (∀ place part, value.part? place = some (.ok part) → motive part) →
      motive value) (value : Value) : motive value :=
  step value fun _ part _ => inductionOnParts step part
termination_by sizeOf value
decreasing_by exact sizeOf_part? (by assumption)

/-! ## Paths -/

/-- A path that leads to a value leads to one through each of its places. -/
theorem along?_cons_eq_ok_iff {value found : Value} {place : Place} {rest : List Place} :
    value.along? (place :: rest) = some (.ok found) ↔
      ∃ part, value.part? place = some (.ok part) ∧ part.along? rest = some (.ok found) := by
  rw [along?]
  cases value.part? place with
  | none => simp
  | some outcome =>
      cases outcome with
      | error failure => by_cases last : rest = [] <;> simp [last]
      | ok part => simp

/-- A path ends in a failure where its first step does and is its last, or where the rest of it
does. -/
theorem along?_cons_eq_error_iff {value : Value} {place : Place} {rest : List Place}
    {failure : Failure} :
    value.along? (place :: rest) = some (.error failure) ↔
      (rest = [] ∧ value.part? place = some (.error failure)) ∨
      ∃ part, value.part? place = some (.ok part) ∧
        part.along? rest = some (.error failure) := by
  rw [along?]
  cases value.part? place with
  | none => simp
  | some outcome =>
      cases outcome with
      | error cause => by_cases last : rest = [] <;> simp [last]
      | ok part =>
          simp only [Option.some.injEq, Except.ok.injEq, exists_eq_left', iff_or_self]
          rintro ⟨_, never⟩
          cases never

/-- Whether something holds of a value and of all that a path from it leads to. -/
def Everywhere (holds : Value → Prop) (value : Value) : Prop :=
  ∀ path found, value.along? path = some (.ok found) → holds found

namespace Everywhere

variable {holds : Value → Prop} {value : Value}

/-- It is enough to look at the value itself and at its parts. -/
theorem iff_parts : value.Everywhere holds ↔
    holds value ∧ ∀ place part, value.part? place = some (.ok part) → part.Everywhere holds := by
  constructor
  · intro everywhere
    refine ⟨everywhere [] value rfl, ?_⟩
    intro place part isPart path found leads
    exact everywhere (place :: path) found (along?_cons_eq_ok_iff.2 ⟨part, isPart, leads⟩)
  · rintro ⟨here, below⟩ path found leads
    cases path with
    | nil =>
        cases leads
        exact here
    | cons place rest =>
        obtain ⟨part, isPart, going⟩ := along?_cons_eq_ok_iff.1 leads
        exact below place part isPart rest found going

theorem here (everywhere : value.Everywhere holds) : holds value := (iff_parts.1 everywhere).1

theorem part (everywhere : value.Everywhere holds) {place : Place} {part : Value}
    (isPart : value.part? place = some (.ok part)) : part.Everywhere holds :=
  (iff_parts.1 everywhere).2 place part isPart

theorem of_isAtom (atom : value.isAtom = true) (here : holds value) : value.Everywhere holds := by
  refine iff_parts.2 ⟨here, fun place part isPart => ?_⟩
  rw [part?_of_isAtom atom] at isPart
  cases isPart

theorem array_iff {elements : List (Option Value)} :
    (Value.array elements).Everywhere holds ↔ holds (.array elements) ∧
      ∀ element, some element ∈ elements → element.Everywhere holds := by
  rw [iff_parts]
  refine and_congr_right fun _ => ⟨?_, ?_⟩
  · intro below element held
    obtain ⟨index, isHeld⟩ := List.getElem?_of_mem held
    exact below _ element (part?_array_eq_some_iff.2 ⟨index, element, isHeld, rfl, rfl⟩)
  · intro each place part isPart
    obtain ⟨index, element, held, _, same⟩ := part?_array_eq_some_iff.1 isPart
    cases same
    exact each part (List.mem_of_getElem? held)

theorem constraint_iff {c : Constraint} {names : List String}
    (whole : (Value.constraint c).isConstraint = true) (listed : c.attributeNames = .ok names) :
    (Value.constraint c).Everywhere holds ↔ holds (.constraint c) ∧
      ∀ name ∈ names, ∀ part, c.valueOf name = .ok part → part.Everywhere holds := by
  rw [iff_parts]
  refine and_congr_right fun _ => ⟨?_, ?_⟩
  · intro below name isListed part read
    obtain ⟨index, held⟩ := List.getElem?_of_mem isListed
    exact below _ part
      ((part?_constraint_eq_some_iff whole listed).2 ⟨index, name, held, rfl, read.symm⟩)
  · intro each place part isPart
    obtain ⟨index, name, isListed, _, read⟩ :=
      (part?_constraint_eq_some_iff whole listed).1 isPart
    exact each name (List.mem_of_getElem? isListed) part read.symm

theorem element {elements : List (Option Value)} {element : Value}
    (everywhere : (Value.array elements).Everywhere holds) (held : some element ∈ elements) :
    element.Everywhere holds :=
  (array_iff.1 everywhere).2 element held

theorem answer {c : Constraint} {names : List String} {name : String}
    (everywhere : (Value.constraint c).Everywhere holds)
    (whole : (Value.constraint c).isConstraint = true) (listed : c.attributeNames = .ok names)
    (isListed : name ∈ names) (read : c.valueOf name = .ok value) : value.Everywhere holds :=
  ((constraint_iff whole listed).1 everywhere).2 name isListed value read

end Everywhere

/-- Whether no array in a value has holes, as far as elements and attributes can be followed. -/
def Dense (value : Value) : Prop := value.Everywhere fun found => found.hasHoles = false

/-- An array without holes has an element at each of its positions. -/
theorem Dense.exists_element {elements : List (Option Value)}
    (dense : (Value.array elements).Dense) {index : Nat} {element? : Option Value}
    (held : elements[index]? = some element?) : ∃ element, element? = some element := by
  cases element? with
  | some element => exact ⟨element, rfl⟩
  | none =>
      have holed : (Value.array elements).hasHoles = true :=
        List.any_eq_true.2 ⟨none, List.mem_of_getElem? held, rfl⟩
      exact absurd (holed.symm.trans dense.here) (by decide)

end Value

/-! ## Paths that fail -/

/-- What fails on a path that begins at an attribute of a constraint: the reading, or something
below what was read. -/
def Constraint.FailsAt (c : Constraint) (name : String) (rest : List Place)
    (failure : Failure) : Prop :=
  (rest = [] ∧ c.valueOf name = .error failure) ∨
    ∃ part, c.valueOf name = .ok part ∧ part.along? rest = some (.error failure)

namespace Value

theorem along?_array_eq_error_iff {elements : List (Option Value)} {path : List Place}
    {failure : Failure} :
    (Value.array elements).along? path = some (.error failure) ↔ ∃ index element rest,
      elements[index]? = some (some element) ∧ path = .element index :: rest ∧
        element.along? rest = some (.error failure) := by
  constructor
  · intro failed
    cases path with
    | nil => cases failed
    | cons place rest =>
        obtain ⟨_, found⟩ | ⟨part, found, going⟩ := along?_cons_eq_error_iff.1 failed
        · obtain ⟨_, _, _, _, never⟩ := part?_array_eq_some_iff.1 found
          cases never
        · obtain ⟨index, _, held, rfl, same⟩ := part?_array_eq_some_iff.1 found
          cases same
          exact ⟨index, part, rest, held, rfl, going⟩
  · rintro ⟨index, element, rest, held, rfl, going⟩
    exact along?_cons_eq_error_iff.2
      (.inr ⟨element, part?_array_eq_some_iff.2 ⟨index, element, held, rfl, rfl⟩, going⟩)

theorem along?_constraint_eq_error_iff {c : Constraint} {names : List String}
    (whole : (Value.constraint c).isConstraint = true) (listed : c.attributeNames = .ok names)
    {path : List Place} {failure : Failure} :
    (Value.constraint c).along? path = some (.error failure) ↔ ∃ index name rest,
      names[index]? = some name ∧ path = .attribute index name :: rest ∧
        c.FailsAt name rest failure := by
  constructor
  · intro failed
    cases path with
    | nil => cases failed
    | cons place rest =>
        obtain ⟨isLast, found⟩ | ⟨part, found, going⟩ := along?_cons_eq_error_iff.1 failed
        · obtain ⟨index, name, isListed, rfl, raised⟩ :=
            (part?_constraint_eq_some_iff whole listed).1 found
          exact ⟨index, name, rest, isListed, rfl, .inl ⟨isLast, raised.symm⟩⟩
        · obtain ⟨index, name, isListed, rfl, read⟩ :=
            (part?_constraint_eq_some_iff whole listed).1 found
          exact ⟨index, name, rest, isListed, rfl, .inr ⟨part, read.symm, going⟩⟩
  · rintro ⟨index, name, rest, isListed, rfl, ⟨isLast, raised⟩ | ⟨part, read, going⟩⟩
    · refine along?_cons_eq_error_iff.2 (.inl ⟨isLast, ?_⟩)
      rw [part?_attribute whole listed isListed, raised]
    · refine along?_cons_eq_error_iff.2 (.inr ⟨part, ?_, going⟩)
      rw [part?_attribute whole listed isListed, read]

/-- Where there are no parts, no path fails. -/
theorem along?_ne_error {value : Value} (none : ∀ place, value.part? place = Option.none)
    (path : List Place) (failure : Failure) : value.along? path ≠ some (.error failure) := by
  cases path with
  | nil => exact nofun
  | cons place rest =>
      rw [along?, none]
      exact nofun

theorem along?_singleton (value : Value) (place : Place) :
    value.along? [place] = value.part? place := by
  rw [along?]
  cases value.part? place with
  | none => rfl
  | some outcome => cases outcome <;> rfl

/-- The last place of a path is a place of what the path leads to without it. -/
theorem along?_concat_eq_some_iff {value : Value} {path : List Place} {place : Place}
    {outcome : Except Failure Value} :
    value.along? (path ++ [place]) = some outcome ↔
      ∃ found, value.along? path = some (.ok found) ∧ found.part? place = some outcome := by
  induction path generalizing value with
  | nil =>
      rw [List.nil_append, along?_singleton]
      simp [along?]
  | cons first rest ih =>
      rw [List.cons_append, along?, along?]
      cases value.part? first with
      | none => simp
      | some other =>
          cases other with
          | error failure => by_cases last : rest = [] <;> simp [last]
          | ok part => exact ih

/-- A path fails where it leads to a constraint and then to a name that this lists and does not
answer. -/
theorem along?_eq_error_iff {value : Value} {path : List Place} {failure : Failure} :
    value.along? path = some (.error failure) ↔ ∃ above c names index name,
      path = above ++ [.attribute index name] ∧
        value.along? above = some (.ok (.constraint c)) ∧
        (Value.constraint c).isConstraint = true ∧ c.attributeNames = .ok names ∧
        names[index]? = some name ∧ c.valueOf name = .error failure := by
  constructor
  · intro failed
    obtain rfl | ⟨above, place, rfl⟩ := List.eq_nil_or_concat path
    · cases failed
    · rw [List.concat_eq_append] at failed ⊢
      obtain ⟨found, leads, isLast⟩ := along?_concat_eq_some_iff.1 failed
      obtain ⟨_, _, _, _, _, _, never⟩ |
        ⟨c, names, index, name, rfl, rfl, whole, listed, isListed, raised⟩ :=
          part?_cases isLast
      · cases never
      · exact ⟨above, c, names, index, name, rfl, leads, whole, listed, isListed, raised.symm⟩
  · rintro ⟨above, c, names, index, name, rfl, leads, whole, listed, isListed, raised⟩
    refine along?_concat_eq_some_iff.2 ⟨.constraint c, leads, ?_⟩
    rw [part?_attribute whole listed isListed, raised]

end Value

end AttributeContracts
