/-
# Defaults that can be read

A constraint type is checked once, when it is registered, and the checks look at its
declarations alone. What they promise shows much later: in a constraint that was made
without the well-known attributes, each of them reads as its declared default.

The promise needs one thing that the checks do not look at, that a declared default has
its own declared type. Whoever declares an attribute with a default gives that guarantee.
-/

import AttributeContracts.Proofs.Contract
import AttributeContracts.Proofs.Synthesis

namespace AttributeContracts

open Outcome

namespace ConstraintType

/-- Every declared default has the type it is declared with. -/
def DefaultsTyped (type : ConstraintType) : Prop :=
  ∀ accessor ∈ type.accessors, accessor.defaultValue ≠ .undefined →
    accessor.type.accepts accessor.defaultValue = .ok true

/-- The contract is met when there is nothing to report. -/
theorem assertContract_eq_ok_iff {type : ConstraintType} :
    type.assertContract = .ok () ↔ type.contractViolations = [] := by
  rw [assertContract]
  cases type.contractViolations <;> simp

/-- It is broken with the first thing to report. -/
theorem assertContract_eq_error_iff {type : ConstraintType} {failure : Failure} :
    type.assertContract = .error failure ↔
      ∃ first rest, type.contractViolations = first :: rest ∧ failure = .definition first := by
  rw [assertContract]
  cases type.contractViolations <;> simp [eq_comm]

/-- There is nothing to report about a type when each of its well-known attributes is
valid, or may be left undeclared and is. -/
theorem contractViolations_eq_nil_iff {type : ConstraintType} :
    type.contractViolations = [] ↔
      ∀ kind ∈ [AttributeKind.message, .groups, .payload, .validationAppliesTo],
        (kind.analyze type).isValid = true ∨
          kind.permitsEmptyDefault = true ∧ type.accessor? kind.attributeName = none := by
  rw [contractViolations, List.filterMap_eq_nil_iff, List.forall_mem_map]
  refine forall₂_congr fun kind _ => ?_
  by_cases exempt : kind.permitsEmptyDefault = true ∧ type.accessor? kind.attributeName = none
  · simp [AttributeKind.analyze, ContractCheck.accessor?, exempt]
  · rw [or_iff_left exempt, ContractCheck.isValid, Option.isNone_iff_eq_none]
    rw [← Option.isNone_iff_eq_none, ← Bool.and_eq_true, Bool.not_eq_true] at exempt
    have reported : ((kind.analyze type).kind.permitsEmptyDefault &&
        (kind.analyze type).accessor?.isNone) = false := exempt
    rw [reported]
    rfl

/-- A registered type has valid checks of its well-known attributes, except of one that
may do without a default and has none. -/
theorem isValid_of_assertContract {type : ConstraintType}
    (registered : type.assertContract = .ok ()) {kind : AttributeKind}
    (listed : kind ∈ [AttributeKind.message, .groups, .payload, .validationAppliesTo])
    (needed : kind.permitsEmptyDefault = true → (kind.analyze type).defaultValue ≠ .undefined) :
    (kind.analyze type).isValid = true := by
  have checked := contractViolations_eq_nil_iff.1 (assertContract_eq_ok_iff.1 registered)
  rcases checked kind listed with valid | ⟨permitted, undeclared⟩
  · exact valid
  · refine absurd ?_ (needed permitted)
    rw [ContractCheck.defaultValue, ContractCheck.accessor?, AttributeKind.analyze, undeclared]
    rfl

end ConstraintType

namespace ContractCheck

variable {kind : AttributeKind} {type : ConstraintType}

theorem defaultValue_of_accessor? {accessor : Accessor}
    (declared : type.accessor? kind.attributeName = some accessor) :
    (kind.analyze type).defaultValue = accessor.defaultValue := by
  rw [defaultValue, ContractCheck.accessor?, AttributeKind.analyze, declared]
  rfl

/-- What a valid check says of the default: it is there unless the kind may do without,
and it is not an array with elements where the kind's values are arrays. -/
theorem default_of_isValid (valid : (kind.analyze type).isValid = true) :
    (kind.permitsEmptyDefault = false → (kind.analyze type).defaultValue ≠ .undefined) ∧
      (kind.type.isArray = true →
        (kind.analyze type).defaultValue.isNonEmptyArray = false) := by
  obtain ⟨accessor, declared, faultless⟩ := isValid_iff.1 valid
  obtain ⟨_, present, empty⟩ := AttributeKind.accessorFault?_eq_none_iff.1 faultless
  rw [defaultValue_of_accessor? declared]
  refine ⟨?_, empty⟩
  intro required isUndefined
  exact Bool.noConfusion (required.symm.trans (present isUndefined))

/-- An array that a kind of arrays takes and that has no elements is the empty one. -/
theorem eq_empty_array {component : Descriptor} {value : Value}
    (taken : (Descriptor.arrayOf component).accepts value = .ok true)
    (empty : value.isNonEmptyArray = false) : value = .array [] := by
  obtain ⟨elements, rfl, _⟩ := Descriptor.accepts_arrayOf_iff.1 taken
  cases elements with
  | nil => rfl
  | cons first rest => cases empty

/-- Only an array with elements has holes. -/
theorem isNonEmptyArray_of_hasHoles {value : Value} (holed : value.hasHoles = true) :
    value.isNonEmptyArray = true := by
  obtain ⟨elements, rfl, filled⟩ := Value.exists_undefined_of_hasHoles holed
  cases elements with
  | nil => cases filled
  | cons first rest => rfl

/-- A default that passed a valid check and has the kind's type has no holes. -/
theorem hasHoles_default (valid : (kind.analyze type).isValid = true)
    (taken : kind.type.accepts (kind.analyze type).defaultValue = .ok true) :
    (kind.analyze type).defaultValue.hasHoles = false := by
  refine Bool.eq_false_iff.2 fun holed => ?_
  obtain ⟨elements, isArray, _⟩ := Value.exists_undefined_of_hasHoles holed
  rw [isArray] at taken
  obtain ⟨component, ofArrays, _⟩ := Descriptor.accepts_array_iff.1 taken
  have empty := (default_of_isValid valid).2 (by rw [ofArrays]; rfl)
  exact Bool.noConfusion (empty.symm.trans (isNonEmptyArray_of_hasHoles holed))

section

variable {builder : Builder} (reachable : builder.Reachable) (typed : builder.type.DefaultsTyped)
  {making reading : Session} {constraint : Constraint}
  (created : (builder.createConstraint.run making).1 = .ok constraint)
  {scope? : Option ScopeId} (granted : reading.permits scope? .readAttributes = .ok ())

include reachable typed created granted

/-- A well-known attribute that was not set reads as its declared default, where the type
passes the check of it. -/
theorem run_read_default (valid : (kind.analyze builder.type).isValid = true)
    (present : (kind.analyze builder.type).defaultValue ≠ .undefined)
    (unset : builder.contains kind.attributeName = false) :
    (((kind.analyze builder.type).read constraint scope?).run reading).1 =
        .ok (kind.analyze builder.type).defaultValue ∧
      kind.type.accepts (kind.analyze builder.type).defaultValue = .ok true := by
  obtain ⟨accessor, declared, narrows⟩ := narrows_of_isValid valid
  have dense := hasHoles_default valid
  rw [defaultValue_of_accessor? declared] at present dense ⊢
  obtain ⟨definition, isDefined, rfl⟩ := Option.map_eq_some_iff.1 declared
  have hasType : definition.type.accepts definition.defaultValue = .ok true :=
    typed _ (ConstraintType.mem_accessors_of_definition isDefined) present
  have resolved : builder.resolved (.ofDefinition kind.attributeName definition) =
      definition.defaultValue := Builder.resolved_of_unset unset
  have taken := narrows.accepts hasType
  have whole : definition.defaultValue.kept = definition.defaultValue :=
    Value.kept_of_not_hasHoles (dense taken)
  have answered : constraint.valueOf kind.attributeName = .ok definition.defaultValue := by
    rw [reachable.valueOf_created created isDefined, resolved, whole, hasType]
    rfl
  rw [run_read_fst valid (reachable.annotationType_created created)
    (ConstraintType.declares_of_definition isDefined), granted, ok_bind, answered, ok_bind]
  exact ⟨AttributeKind.check_of_accepts taken, taken⟩

/-- A constraint type that meets the contract has usable defaults: in a constraint made
without a message, groups and payload each of them reads as its declared default, groups
and payload as the empty array, and a declared default of the validation target is one of
the targets. -/
theorem read_defaults_of_assertContract (registered : builder.type.assertContract = .ok ())
    (unset : ∀ kind ∈ [AttributeKind.message, .groups, .payload],
      builder.contains kind.attributeName = false) :
    let read (kind : AttributeKind) :=
      (((kind.analyze builder.type).read constraint scope?).run reading).1
    (∀ kind ∈ [AttributeKind.message, .groups, .payload],
        (kind.analyze builder.type).defaultValue ≠ .undefined ∧
          read kind = .ok (kind.analyze builder.type).defaultValue) ∧
      (∀ kind ∈ [AttributeKind.groups, .payload], read kind = .ok (.array [])) ∧
      let target := (AttributeKind.validationAppliesTo.analyze builder.type).defaultValue
      target ≠ .undefined →
        builder.contains AttributeKind.validationAppliesTo.attributeName = false →
        read .validationAppliesTo = .ok target ∧
          ∃ name ∈ AttributeKind.validationTargets, target = .text name := by
  intro read
  have required : ∀ kind ∈ [AttributeKind.message, .groups, .payload],
      kind.permitsEmptyDefault = false := by decide
  have valid : ∀ kind ∈ [AttributeKind.message, .groups, .payload],
      (kind.analyze builder.type).isValid = true := by
    intro kind listed
    refine ConstraintType.isValid_of_assertContract registered (List.mem_append_left
      [AttributeKind.validationAppliesTo] listed) fun permitted => ?_
    exact Bool.noConfusion ((required kind listed).symm.trans permitted)
  have reads : ∀ kind ∈ [AttributeKind.message, .groups, .payload],
      read kind = .ok (kind.analyze builder.type).defaultValue ∧
        kind.type.accepts (kind.analyze builder.type).defaultValue = .ok true := by
    intro kind listed
    have present := (default_of_isValid (valid kind listed)).1 (required kind listed)
    exact run_read_default reachable typed created granted (valid kind listed) present
      (unset kind listed)
  have arrays : ∀ kind ∈ [AttributeKind.groups, .payload],
      ∃ component, kind.type = .arrayOf component := by
    rw [List.forall_mem_cons, List.forall_mem_singleton]
    exact ⟨⟨_, rfl⟩, ⟨_, rfl⟩⟩
  refine ⟨?_, ?_, ?_⟩
  · intro kind listed
    exact ⟨(default_of_isValid (valid kind listed)).1 (required kind listed),
      (reads kind listed).1⟩
  · intro kind listed
    have isListed := List.mem_cons_of_mem AttributeKind.message listed
    obtain ⟨answered, taken⟩ := reads kind isListed
    obtain ⟨component, isArray⟩ := arrays kind listed
    have empty := (default_of_isValid (valid kind isListed)).2 (by rw [isArray]; rfl)
    rw [isArray] at taken
    rw [answered, eq_empty_array taken empty]
  · intro target present untouched
    have validTarget : (AttributeKind.validationAppliesTo.analyze builder.type).isValid = true :=
      ConstraintType.isValid_of_assertContract registered (by decide) fun _ => present
    obtain ⟨answered, taken⟩ :=
      run_read_default reachable typed created granted validTarget present untouched
    obtain ⟨name, isText, isTarget⟩ := Descriptor.accepts_enumOf_iff.1 taken
    exact ⟨answered, name, isTarget, isText⟩

end

/-- A constraint type that declares every well-known attribute more narrowly than it has
to. -/
def badge : ConstraintType where
  identity := .drawn 2
  name := "example.Badge"
  definitions :=
    [("message", ⟨.string, some (.text "not worn")⟩),
      ("groups", ⟨.arrayOf (.classOf (some .defaultGroup)), some (.array [])⟩),
      ("payload", ⟨.arrayOf (.classOf (some .severity)), some (.array [])⟩),
      ("validationAppliesTo",
        ⟨.enumOf "ConstraintTarget" ["PARAMETERS"], some (.text "PARAMETERS")⟩)]

theorem defaultsTyped_badge : badge.DefaultsTyped := by
  intro accessor listed _
  obtain ⟨⟨name, definition⟩, enumerated, rfl⟩ := List.mem_map.1 listed
  have declared := Members.mem_of_find? (Members.mem_enumerate.1 enumerated)
  simp only [badge, List.mem_cons, List.not_mem_nil, or_false, Prod.mk.injEq] at declared
  rcases declared with ⟨_, rfl⟩ | ⟨_, rfl⟩ | ⟨_, rfl⟩ | ⟨_, rfl⟩ <;> rfl

/-- An empty builder of that type in a restricted scope. -/
def badgeBuilder : Builder := ⟨badge, badge.accessors, .empty, some 0, .silent⟩

theorem reachable_badgeBuilder : badgeBuilder.Reachable :=
  .build Session.genuine_restricted (.empty badge) { scope? := some 0 } rfl

/-- All four attributes of a badge that sets none of them can be read. -/
theorem read_defaults_of_assertContract_badge :
    badge.assertContract = .ok () ∧ ∃ constraint,
      (badgeBuilder.createConstraint.run .restricted).1 = .ok constraint ∧
        (((AttributeKind.message.analyze badge).read constraint (some 0)).run .restricted).1 =
          .ok (.text "not worn") ∧
        (((AttributeKind.payload.analyze badge).read constraint (some 0)).run .restricted).1 =
          .ok (.array []) ∧
        (((AttributeKind.validationAppliesTo.analyze badge).read constraint (some 0)).run
          .restricted).1 = .ok (.text "PARAMETERS") := by
  have registered : badge.assertContract = .ok () := rfl
  have unset : ∀ kind ∈ [AttributeKind.message, .groups, .payload],
      badgeBuilder.contains kind.attributeName = false := fun _ _ => rfl
  have created : (badgeBuilder.createConstraint.run .restricted).1 = .ok (.ofValues (.drawn 0)
      badge (badge.definitions.map fun member => (member.1, member.2.defaultValue))) := rfl
  have granted : Session.restricted.permits (some 0) .readAttributes = .ok () := rfl
  obtain ⟨defaults, arrays, target⟩ := read_defaults_of_assertContract reachable_badgeBuilder
    defaultsTyped_badge created granted registered unset
  refine ⟨registered, _, created, (defaults .message (by decide)).2, arrays .payload (by decide),
    (target ?_ rfl).1⟩
  exact Value.noConfusion

end ContractCheck

end AttributeContracts
