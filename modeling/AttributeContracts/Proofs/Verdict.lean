/-
# Verdicts on declarations

A check compares one declaration with one well-known attribute and finds the first fault of
four. The rules below say for each fault when it is found, without an order in which they
would have to be tried: whatever is declared, exactly one of them applies, and the check
answers as that one says.

What is reported of a constraint type are the faults of the attributes that it is examined
for, in their order. The checks look at the type only through its name and through the
definitions of four attributes. So nothing else that it declares can show in a report.
-/

import AttributeContracts.Proofs.Defaults

namespace AttributeContracts

namespace AttributeKind

/-! ## The rules -/

/-- What is to be reported, by its code, of a definition or of the lack of one. -/
inductive Verdict (kind : AttributeKind) : Option AttributeDefinition → Option ErrorCode → Prop
  | missing : Verdict kind none (some .missingAttribute)
  | incompatible {definition : AttributeDefinition}
      (unfit : ¬definition.type.Narrows kind.type) :
      Verdict kind (some definition) (some .incompatibleAttributeType)
  | noDefault {definition : AttributeDefinition} (narrows : definition.type.Narrows kind.type)
      (absent : definition.defaultValue = .undefined)
      (required : kind.permitsEmptyDefault = false) :
      Verdict kind (some definition) (some .missingDefault)
  | nonEmptyDefault {definition : AttributeDefinition}
      (narrows : definition.type.Narrows kind.type) (arrays : kind.type.isArray = true)
      {first : Option Value} {rest : List (Option Value)}
      (elements : definition.defaultValue = .array (first :: rest)) :
      Verdict kind (some definition) (some .nonEmptyArrayDefault)
  | sound {definition : AttributeDefinition} (narrows : definition.type.Narrows kind.type)
      (present : definition.defaultValue = .undefined → kind.permitsEmptyDefault = true)
      (empty : kind.type.isArray = true →
        ∀ first rest, definition.defaultValue ≠ .array (first :: rest)) :
      Verdict kind (some definition) none

/-- Some rule applies to whatever is declared. -/
theorem exists_verdict (kind : AttributeKind) (definition? : Option AttributeDefinition) :
    ∃ code?, kind.Verdict definition? code? := by
  cases definition? with
  | none => exact ⟨_, .missing⟩
  | some definition =>
      by_cases narrows : definition.type.Narrows kind.type
      · by_cases absent : definition.defaultValue = .undefined
        · cases required : kind.permitsEmptyDefault with
          | false => exact ⟨_, .noDefault narrows absent required⟩
          | true => exact ⟨_, .sound narrows (fun _ => required) fun _ _ _ => by simp [absent]⟩
        · by_cases elements : ∃ first rest, definition.defaultValue = .array (first :: rest)
          · cases arrays : kind.type.isArray with
            | false => exact ⟨_, .sound narrows (absurd · absent) (by simp [arrays])⟩
            | true =>
                obtain ⟨first, rest, listed⟩ := elements
                exact ⟨_, .nonEmptyDefault narrows arrays listed⟩
          · refine ⟨_, .sound narrows (absurd · absent) fun _ first rest listed => ?_⟩
            exact elements ⟨first, rest, listed⟩
      · exact ⟨_, .incompatible narrows⟩

/-! ## The check follows the rules -/

variable {kind : AttributeKind} {type other : ConstraintType}

/-- What the check of a kind reports depends on the definition of its attribute and on the
name of the type. -/
theorem violation?_analyze (kind : AttributeKind) (type : ConstraintType) :
    (kind.analyze type).violation? =
      ((type.definition? kind.attributeName).elim (some .missing) fun definition =>
        kind.accessorFault? (.ofDefinition kind.attributeName definition)).map
          (kind.violation type.name) := by
  rw [ContractCheck.violation?, ContractCheck.fault?, ContractCheck.accessor?, analyze,
    ConstraintType.accessor?]
  cases type.definition? kind.attributeName <;> rfl

theorem violation?_congr (sameName : other.name = type.name)
    (same : other.definition? kind.attributeName = type.definition? kind.attributeName) :
    (kind.analyze other).violation? = (kind.analyze type).violation? := by
  rw [violation?_analyze, violation?_analyze, same, sameName]

/-- A report names the type and the attribute. -/
theorem names_of_violation? {violation : ContractViolation}
    (reported : (kind.analyze type).violation? = some violation) :
    violation.constraintType = type.name ∧ violation.attributeName = kind.attributeName := by
  obtain ⟨fault, _, rfl⟩ := Option.map_eq_some_iff.1 reported
  cases fault <;> exact ⟨rfl, rfl⟩

/-- Where a rule applies, the check answers as it says. -/
theorem Verdict.code_eq {definition? : Option AttributeDefinition} {code? : Option ErrorCode}
    (verdict : kind.Verdict definition? code?)
    (found : type.definition? kind.attributeName = definition?) :
    (kind.analyze type).violation?.map ContractViolation.code = code? := by
  rw [violation?_analyze, found]
  cases verdict with
  | missing => rfl
  | @incompatible definition unfit =>
      have refused : definition.type.isAssignable kind.type = false := by
        rwa [← Bool.not_eq_true, Descriptor.isAssignable_iff_narrows]
      simp [accessorFault?, Accessor.ofDefinition, refused, violation]
  | noDefault narrows absent required =>
      simp [accessorFault?, Accessor.ofDefinition, narrows.isAssignable, absent, required,
        violation]
  | nonEmptyDefault narrows arrays elements =>
      simp [accessorFault?, Accessor.ofDefinition, narrows.isAssignable, arrays, elements,
        Value.isNonEmptyArray, violation]
  | @sound definition narrows present empty =>
      have faultless :
          kind.accessorFault? (.ofDefinition kind.attributeName definition) = none := by
        refine accessorFault?_eq_none_iff.2 ⟨narrows.isAssignable, present, fun arrays => ?_⟩
        rw [← Bool.not_eq_true, Value.isNonEmptyArray_iff]
        rintro ⟨first, rest, listed⟩
        exact empty arrays first rest listed
      rw [Option.elim_some, faultless]
      rfl

/-- The check answers as the rules say, which leave no choice. -/
theorem verdict_iff {code? : Option ErrorCode} :
    kind.Verdict (type.definition? kind.attributeName) code? ↔
      (kind.analyze type).violation?.map ContractViolation.code = code? := by
  constructor
  · intro verdict
    exact verdict.code_eq rfl
  · rintro rfl
    obtain ⟨_, verdict⟩ := exists_verdict kind (type.definition? kind.attributeName)
    rwa [verdict.code_eq rfl]

end AttributeKind

/-! ## Reports -/

namespace ConstraintType

open AttributeKind

/-- The kinds that a type is examined for: the mandatory ones, and the validation target
where that is declared. -/
def examined (type : ConstraintType) : List AttributeKind :=
  if type.declares "validationAppliesTo" then [message, groups, payload, validationAppliesTo]
  else [message, groups, payload]

/-- The names of the attributes that a type can be examined for. -/
def examinedNames : List String := ["message", "groups", "payload", "validationAppliesTo"]

/-- A type is examined for what it declares and for what may not be left out. -/
theorem examined_eq_filter (type : ConstraintType) :
    type.examined = [message, groups, payload, validationAppliesTo].filter fun kind =>
      !(kind.permitsEmptyDefault && !type.declares kind.attributeName) := by
  rw [examined]
  cases declared : type.declares "validationAppliesTo" with
  | false => simp [message, groups, payload, validationAppliesTo, declared]
  | true => simp [message, groups, payload, validationAppliesTo, declared]

theorem attributeName_of_mem_examined {type : ConstraintType} {kind : AttributeKind}
    (listed : kind ∈ type.examined) : kind.attributeName ∈ examinedNames := by
  rw [examined_eq_filter, List.mem_filter] at listed
  exact List.mem_map_of_mem (f := attributeName) listed.1

/-- What is reported of a type is what its examination finds, in turn. -/
theorem contractViolations_eq (type : ConstraintType) :
    type.contractViolations =
      type.examined.filterMap fun kind => (kind.analyze type).violation? := by
  rw [contractViolations, examined_eq_filter, List.filterMap_filter, List.filterMap_map]
  congr 1
  funext kind
  have undeclared : (kind.analyze type).accessor?.isNone = !type.declares kind.attributeName :=
    isNone_accessor? type kind.attributeName
  rw [Function.comp_apply, undeclared, analyze]
  cases kind.permitsEmptyDefault && !type.declares kind.attributeName <;> rfl

/-- No two reports of some kinds are about one attribute if no two of the kinds are. -/
theorem sublist_attributeName_violations (type : ConstraintType) (kinds : List AttributeKind) :
    ((kinds.filterMap fun kind => (kind.analyze type).violation?).map
      ContractViolation.attributeName).Sublist (kinds.map AttributeKind.attributeName) := by
  induction kinds with
  | nil => exact .slnil
  | cons kind rest ih =>
      cases reported : (kind.analyze type).violation? with
      | none =>
          rw [List.filterMap_cons, reported]
          exact ih.cons _
      | some violation =>
          have about := (names_of_violation? reported).2
          rw [List.filterMap_cons, reported, List.map_cons, List.map_cons, about]
          exact ih.cons_cons _

theorem nodup_attributeName_contractViolations (type : ConstraintType) :
    (type.contractViolations.map ContractViolation.attributeName).Nodup := by
  rw [contractViolations_eq]
  refine (sublist_attributeName_violations type type.examined).nodup ?_
  rw [examined]
  split <;> decide

theorem constraintType_of_mem_contractViolations {type : ConstraintType}
    {violation : ContractViolation} (reported : violation ∈ type.contractViolations) :
    violation.constraintType = type.name := by
  rw [contractViolations_eq] at reported
  obtain ⟨kind, _, found⟩ := List.mem_filterMap.1 reported
  exact (names_of_violation? found).1

/-! ## What a report depends on -/

/-- Two types of one name that define the four attributes alike have the same report. -/
theorem contractViolations_congr {type other : ConstraintType} (sameName : other.name = type.name)
    (same : ∀ name ∈ examinedNames, other.definition? name = type.definition? name) :
    other.contractViolations = type.contractViolations := by
  have target : other.declares "validationAppliesTo" = type.declares "validationAppliesTo" := by
    rw [declares_eq_isSome, declares_eq_isSome, same _ (by decide)]
  have alike : type.examined.map (fun kind => (kind.analyze other).violation?) =
      type.examined.map fun kind => (kind.analyze type).violation? :=
    List.map_congr_left fun kind listed =>
      violation?_congr sameName (same _ (attributeName_of_mem_examined listed))
  have reports := congrArg (List.filterMap id) alike
  rw [List.filterMap_map, List.filterMap_map] at reports
  rw [contractViolations_eq, contractViolations_eq, examined, target]
  exact reports

/-- So it does not matter which other attributes there are, nor where they stand. -/
theorem contractViolations_of_filter_eq {type other : ConstraintType}
    (sameName : other.name = type.name)
    (same : (other.definitions.filter fun member => examinedNames.contains member.1) =
      type.definitions.filter fun member => examinedNames.contains member.1) :
    other.contractViolations = type.contractViolations := by
  refine contractViolations_congr sameName fun name listed => ?_
  have kept : examinedNames.contains name = true := List.contains_iff_mem.2 listed
  rw [definition?, ← Members.find?_filter kept, same, Members.find?_filter kept, definition?]

/-- The verdicts on a type are exact. Every check reports what the one rule that applies says,
under the names of the type and of the attribute. The report of a type lists what its
examination finds, in the order of the attributes and at most once for each, and a type is
rejected when there is something to report, with the first of it. The report is a matter of
the name of the type and of the definitions of four attributes; no other attribute that is
added, removed or moved can change it. -/
theorem verdicts_exact (type : ConstraintType) :
    (∀ (kind : AttributeKind) (code? : Option ErrorCode),
        (kind.analyze type).violation?.map ContractViolation.code = code? ↔
          kind.Verdict (type.definition? kind.attributeName) code?) ∧
      (∀ (kind : AttributeKind) (violation : ContractViolation),
        (kind.analyze type).violation? = some violation →
          violation.constraintType = type.name ∧
            violation.attributeName = kind.attributeName) ∧
      (type.contractViolations =
          (if type.declares "validationAppliesTo" then
            [message, groups, payload, validationAppliesTo]
          else [message, groups, payload]).filterMap fun kind =>
            (kind.analyze type).violation?) ∧
      (type.contractViolations.map ContractViolation.attributeName).Nodup ∧
      (∀ violation ∈ type.contractViolations, violation.constraintType = type.name) ∧
      ((∃ failure, type.assertContract = .error failure) ↔ type.contractViolations ≠ []) ∧
      (∀ first rest, type.contractViolations = first :: rest →
        type.assertContract = .error (.definition first)) ∧
      ∀ other : ConstraintType, other.name = type.name →
        ((∀ name ∈ examinedNames, other.definition? name = type.definition? name) ∨
          (other.definitions.filter fun member => examinedNames.contains member.1) =
            type.definitions.filter fun member => examinedNames.contains member.1) →
        other.contractViolations = type.contractViolations ∧
          other.assertContract = type.assertContract := by
  refine ⟨fun kind code? => verdict_iff.symm, fun kind violation => names_of_violation?,
    contractViolations_eq type, nodup_attributeName_contractViolations type,
    fun violation => constraintType_of_mem_contractViolations, ?_, ?_, ?_⟩
  · simp only [assertContract_eq_error_iff]
    cases type.contractViolations <;> simp
  · intro first rest reported
    exact assertContract_eq_error_iff.2 ⟨first, rest, reported, rfl⟩
  · intro other sameName same
    have reports : other.contractViolations = type.contractViolations :=
      same.elim (contractViolations_congr sameName) (contractViolations_of_filter_eq sameName)
    exact ⟨reports, by rw [assertContract, assertContract, reports]⟩

/-- A constraint type with a different fault in each mandatory attribute. -/
def misfit : ConstraintType where
  identity := .drawn 2
  name := "example.Misfit"
  definitions :=
    [("message", ⟨.string, none⟩),
      ("groups", ⟨.arrayOf (.classOf none), some (.arrayOf [.classRef .defaultGroup])⟩),
      ("payload", ⟨.string, some (.array [])⟩)]

/-- The same type with another attribute in front, and the payload moved before the groups. -/
def misfitMoved : ConstraintType :=
  { misfit with definitions :=
      [("value", ⟨.number, none⟩),
        ("message", ⟨.string, none⟩),
        ("payload", ⟨.string, some (.array [])⟩),
        ("groups", ⟨.arrayOf (.classOf none), some (.arrayOf [.classRef .defaultGroup])⟩)] }

/-- Each fault is found by its rule, and the type is rejected for the missing default of its
message, also after it was rearranged. -/
theorem verdicts_exact_misfit :
    (message.analyze misfit).violation?.map ContractViolation.code = some .missingDefault ∧
      (groups.analyze misfit).violation?.map ContractViolation.code =
        some .nonEmptyArrayDefault ∧
      (payload.analyze misfit).violation?.map ContractViolation.code =
        some .incompatibleAttributeType ∧
      misfitMoved.assertContract =
        .error (.definition (message.violation "example.Misfit" .noDefault)) := by
  obtain ⟨verdicts, _, listed, _, _, _, rejected, others⟩ := verdicts_exact misfit
  have reported : misfit.contractViolations =
      [message.violation misfit.name .noDefault, groups.violation misfit.name .nonEmptyDefault,
        payload.violation misfit.name (.incompatible .string)] := listed.trans rfl
  have unfit : ¬Descriptor.string.Narrows payload.type := nofun
  have moved : ∀ name ∈ examinedNames, misfitMoved.definition? name = misfit.definition? name := by
    simp only [examinedNames, List.forall_mem_cons]
    exact ⟨rfl, rfl, rfl, rfl, List.forall_mem_nil _⟩
  refine ⟨(verdicts message _).2 (.noDefault .string rfl rfl),
    (verdicts groups _).2 (.nonEmptyDefault (.arrayOf (.anyClass none)) rfl rfl),
    (verdicts payload _).2 (.incompatible unfit), ?_⟩
  rw [(others misfitMoved rfl (.inl moved)).2, rejected _ _ reported]
  rfl

end ConstraintType

end AttributeContracts
