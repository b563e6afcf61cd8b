/-
# Values that separate declared types

Where one declared type is not assignable to another, there is a value that tells the two apart:
the guard of the first takes it and the guard of the second refuses it. If the two types differ in
form, any value of the first one does. If they agree in it, what makes the difference is the bound
as a class of its own, a constraint of another type name, or an array around a value that separates
the components.

Enumerations do not fit into this on the narrower side. One is assignable only to another of its own
name, although its texts are strings, and one without texts is assignable to no other form although
it has no value at all. Two of one name are compared by their texts alone, so for them the law holds
again. On the wider side they may stand anywhere, since no list of texts exhausts the strings.
-/

import AttributeContracts.Proofs.Verdict

namespace AttributeContracts

/-- No class is above all others: the class of all objects is below no other class, and not above
a class that extends nothing. -/
theorem ClassRef.exists_not_isSubclassOf (bound : ClassRef) :
    ∃ c : ClassRef, c.isSubclassOf bound = false := by
  by_cases isObject : bound = .object
  · subst isObject
    exact ⟨.root (.drawn 0) "", rfl⟩
  · exact ⟨.object, decide_eq_false isObject⟩

/-- No list has all texts: one that is longer than each of its members is missing. -/
theorem exists_text_not_mem (texts : List String) : ∃ text, text ∉ texts := by
  have bounded : ∃ length, ∀ text ∈ texts, text.length < length := by
    induction texts with
    | nil => exact ⟨0, nofun⟩
    | cons first rest ih =>
        obtain ⟨length, shorter⟩ := ih
        refine ⟨first.length + length + 1, List.forall_mem_cons.2 ⟨by omega, ?_⟩⟩
        intro text held
        have := shorter text held
        omega
  obtain ⟨length, shorter⟩ := bounded
  refine ⟨String.ofList (List.replicate length 'x'), fun held => ?_⟩
  have less := shorter _ held
  rw [String.length_ofList, List.length_replicate] at less
  exact Nat.lt_irrefl length less

/-- A constraint of a type that has nothing but a name. -/
def Constraint.bare (typeName : String) : Constraint :=
  .synthesized (.drawn 1) ⟨.drawn 0, typeName, []⟩ []

/-! ## Forms -/

/-- What a value has to be before a guard looks any closer. -/
inductive Form where
  | text
  | number
  | truth
  | reference
  | constraint
  | array
deriving DecidableEq

/-- The form of a value, if some guard takes values of it. -/
def Value.form? : Value → Option Form
  | .text _ => some .text
  | .number _ => some .number
  | .bool _ => some .truth
  | .classRef _ => some .reference
  | .array _ => some .array
  | value => if value.isConstraintLike then some .constraint else none

namespace Descriptor

/-- The form of the values of a declared type. -/
def form : Descriptor → Form
  | .string => .text
  | .number => .number
  | .boolean => .truth
  | .classOf _ => .reference
  | .enumOf .. => .text
  | .constraint _ => .constraint
  | .arrayOf _ => .array

/-- A guard refuses every value of another form. -/
theorem accepts_of_form_ne {type : Descriptor} {value : Value}
    (other : value.form? ≠ some type.form) : type.accepts value = .ok false := by
  cases type with
  | classOf bound? =>
      cases bound? <;> cases value <;> simp_all [accepts, Value.form?, form]
  | constraint typeName? =>
      have unlike : value.isConstraintLike = false := by
        cases value <;> simp_all [Value.form?, form, Value.isConstraintLike, Value.offers]
      cases typeName? <;> simp [accepts, unlike]
  | _ => cases value <;> simp_all [accepts, Value.form?, form]

/-- Whether no enumeration occurs in a declared type. -/
def isEnumFree : Descriptor → Bool
  | .enumOf .. => false
  | .arrayOf component => component.isEnumFree
  | _ => true

/-- A value of a declared type. Only an enumeration may have none. -/
def sample : Descriptor → Value
  | .string => .text ""
  | .number => .number (.ofNat 0)
  | .boolean => .bool true
  | .classOf bound? => .classRef (bound?.getD .payload)
  | .enumOf _ values => .text (values.headD "")
  | .constraint typeName? => .constraint (.bare (typeName?.getD ""))
  | .arrayOf _ => .array []

theorem form?_sample (type : Descriptor) : type.sample.form? = some type.form := by
  cases type <;> rfl

/-- What a guard of constraints says of a bare one. -/
theorem accepts_bare (expected typeName : String) :
    (Descriptor.constraint (some expected)).accepts (.constraint (.bare typeName)) =
      .ok (decide (typeName = expected)) := rfl

theorem accepts_sample {type : Descriptor} (enumFree : type.isEnumFree = true) :
    type.accepts type.sample = .ok true := by
  cases type with
  | classOf bound? =>
      cases bound? with
      | none => rfl
      | some bound => exact congrArg Except.ok bound.isSubclassOf_self
  | enumOf name values => cases enumFree
  | constraint typeName? =>
      cases typeName? with
      | none => rfl
      | some typeName => exact (accepts_bare typeName typeName).trans (by rw [decide_eq_true rfl])
  | _ => rfl

/-! ## Separation -/

/-- Whether some value of one declared type is refused by another one. -/
def Separates (narrow wide : Descriptor) : Prop :=
  ∃ value, narrow.accepts value = .ok true ∧ wide.accepts value = .ok false

variable {narrow wide : Descriptor}

/-- A narrower type keeps its values, so there is nothing that it could be separated by. -/
theorem Narrows.not_separates (narrows : narrow.Narrows wide) : ¬narrow.Separates wide := by
  rintro ⟨value, accepted, refused⟩
  cases refused.symm.trans (narrows.accepts accepted)

theorem separates_of_form_ne (enumFree : narrow.isEnumFree = true)
    (other : narrow.form ≠ wide.form) : narrow.Separates wide := by
  refine ⟨narrow.sample, accepts_sample enumFree, accepts_of_form_ne ?_⟩
  rw [form?_sample]
  exact fun same => other (Option.some.inj same)

theorem separates_enumOf (name : String) {values allowed : List String} {text : String}
    (listed : text ∈ values) (missing : text ∉ allowed) (other : String) :
    (enumOf name values).Separates (.enumOf other allowed) :=
  ⟨.text text, accepts_enumOf_iff.2 ⟨text, rfl, listed⟩, by simp [accepts, missing]⟩

theorem separates_string_enumOf (name : String) (allowed : List String) :
    string.Separates (.enumOf name allowed) := by
  obtain ⟨text, missing⟩ := exists_text_not_mem allowed
  exact ⟨.text text, rfl, by simp [accepts, missing]⟩

/-- The bound itself tells a class type from one that it does not narrow, and so does a class that
is not below the other bound where there is none. -/
theorem separates_classOf {found? expected? : Option ClassRef}
    (unfit : ¬(classOf found?).Narrows (.classOf expected?)) :
    (classOf found?).Separates (.classOf expected?) := by
  cases expected? with
  | none => exact absurd (.anyClass found?) unfit
  | some expected =>
      cases found? with
      | none =>
          obtain ⟨c, outside⟩ := expected.exists_not_isSubclassOf
          exact ⟨.classRef c, rfl, congrArg Except.ok outside⟩
      | some found =>
          have outside : found.isSubclassOf expected = false :=
            Bool.eq_false_iff.2 fun below => unfit (.subclass below)
          exact ⟨.classRef found, congrArg Except.ok found.isSubclassOf_self,
            congrArg Except.ok outside⟩

theorem separates_constraint {found? expected? : Option String}
    (unfit : ¬(constraint found?).Narrows (.constraint expected?)) :
    (constraint found?).Separates (.constraint expected?) := by
  cases expected? with
  | none => exact absurd (.anyConstraint found?) unfit
  | some expected =>
      have apart : ∃ typeName, typeName ≠ expected ∧
          (constraint found?).accepts (.constraint (.bare typeName)) = .ok true := by
        cases found? with
        | none =>
            obtain ⟨typeName, missing⟩ := exists_text_not_mem [expected]
            exact ⟨typeName, fun same => missing (List.mem_singleton.2 same), rfl⟩
        | some found =>
            refine ⟨found, ?_, accepts_sample rfl⟩
            rintro rfl
            exact unfit (.namedConstraint found)
      obtain ⟨typeName, other, accepted⟩ := apart
      refine ⟨.constraint (.bare typeName), accepted, ?_⟩
      rw [accepts_bare, decide_eq_false other]

/-- An array of one element is taken or refused as the element is. -/
theorem accepts_array_singleton (component : Descriptor) (value : Value) :
    (Descriptor.arrayOf component).accepts (.array [some value]) = component.accepts value := by
  show [value].allM component.accepts = component.accepts value
  rw [Outcome.allM_cons]
  cases component.accepts value with
  | error failure => rfl
  | ok accepted => cases accepted <;> rfl

theorem Separates.arrayOf (components : narrow.Separates wide) :
    (Descriptor.arrayOf narrow).Separates (.arrayOf wide) := by
  obtain ⟨value, accepted, refused⟩ := components
  refine ⟨.array [some value], ?_, ?_⟩
  · rw [accepts_array_singleton, accepted]
  · rw [accepts_array_singleton, refused]

/-- By induction on the narrower type. Two types of one form are separated by what they say beyond
it, and all others by their forms. -/
theorem separates_of_not_narrows (enumFree : narrow.isEnumFree = true)
    (unfit : ¬narrow.Narrows wide) : narrow.Separates wide := by
  induction narrow generalizing wide with
  | string =>
      cases wide with
      | string => exact absurd .string unfit
      | enumOf name allowed => exact separates_string_enumOf name allowed
      | _ => exact separates_of_form_ne enumFree nofun
  | number =>
      cases wide with
      | number => exact absurd .number unfit
      | _ => exact separates_of_form_ne enumFree nofun
  | boolean =>
      cases wide with
      | boolean => exact absurd .boolean unfit
      | _ => exact separates_of_form_ne enumFree nofun
  | classOf bound? =>
      cases wide with
      | classOf expected? => exact separates_classOf unfit
      | _ => exact separates_of_form_ne enumFree nofun
  | enumOf name values => cases enumFree
  | constraint typeName? =>
      cases wide with
      | constraint expected? => exact separates_constraint unfit
      | _ => exact separates_of_form_ne enumFree nofun
  | arrayOf component ih =>
      cases wide with
      | arrayOf expected =>
          exact (ih enumFree fun components => unfit (.arrayOf components)).arrayOf
      | _ => exact separates_of_form_ne enumFree nofun

/-- So assignability decides whether there is a value that separates the two. -/
theorem isAssignable_eq_false_iff_separates (enumFree : narrow.isEnumFree = true) :
    narrow.isAssignable wide = false ↔ narrow.Separates wide := by
  rw [← Bool.not_eq_true, isAssignable_iff_narrows]
  constructor
  · exact separates_of_not_narrows enumFree
  · exact fun separates narrows => narrows.not_separates separates

/-- Two enumerations of one name are separated by a text that only the first one allows. -/
theorem isAssignable_enumOf_eq_false_iff_separates (name : String) (values allowed : List String) :
    (enumOf name values).isAssignable (.enumOf name allowed) = false ↔
      (enumOf name values).Separates (.enumOf name allowed) := by
  rw [← Bool.not_eq_true, isAssignable_iff_narrows]
  constructor
  · intro unfit
    have missing : ∃ text ∈ values, text ∉ allowed := by
      refine Classical.byContradiction fun none => unfit (.enumOf name fun text listed => ?_)
      exact Classical.byContradiction fun missing => none ⟨text, listed, missing⟩
    obtain ⟨text, listed, missing⟩ := missing
    exact separates_enumOf name listed missing name
  · exact fun separates narrows => narrows.not_separates separates

end Descriptor

namespace AttributeKind

variable {kind : AttributeKind} {type : ConstraintType} {definition : AttributeDefinition}

/-- A check reports an incompatible type exactly where the declared type does not narrow that of
the attribute. -/
theorem code_eq_incompatible_iff
    (found : type.definition? kind.attributeName = some definition) :
    (kind.analyze type).violation?.map ContractViolation.code =
        some .incompatibleAttributeType ↔ ¬definition.type.Narrows kind.type := by
  constructor
  · intro reported narrows
    have verdict := verdict_iff.2 reported
    rw [found] at verdict
    generalize isCode : some ErrorCode.incompatibleAttributeType = code? at verdict
    cases verdict with
    | incompatible unfit => exact unfit narrows
    | noDefault => exact absurd isCode (by decide)
    | nonEmptyDefault => exact absurd isCode (by decide)
    | sound => cases isCode
  · intro unfit
    exact Verdict.code_eq (.incompatible unfit) found

end AttributeKind

namespace Descriptor

/-- Assignability is complete where it is structural. A declared type without enumerations that is
not assignable to another one, whatever that is, has a value that the other one refuses. Of two
enumerations of one name the first is not assignable to the second exactly when it allows a value
that the second refuses. So the check of an attribute that is declared without enumerations reports
an incompatible type only where the attribute could hold what its kind refuses. -/
theorem isAssignable_complete :
    (∀ narrow wide : Descriptor, narrow.isEnumFree = true →
      (narrow.isAssignable wide = false ↔
        ∃ value, narrow.accepts value = .ok true ∧ wide.accepts value = .ok false)) ∧
    (∀ (name : String) (values allowed : List String),
      (enumOf name values).isAssignable (.enumOf name allowed) = false ↔
        ∃ value, (enumOf name values).accepts value = .ok true ∧
          (enumOf name allowed).accepts value = .ok false) ∧
    ∀ (kind : AttributeKind) (type : ConstraintType) (declared : Descriptor)
      (default? : Option Value), declared.isEnumFree = true →
      type.definition? kind.attributeName = some ⟨declared, default?⟩ →
      ((kind.analyze type).violation?.map ContractViolation.code ≠
          some .incompatibleAttributeType ↔
        ∀ value, declared.accepts value = .ok true → kind.type.accepts value = .ok true) := by
  refine ⟨fun _ _ => isAssignable_eq_false_iff_separates,
    isAssignable_enumOf_eq_false_iff_separates, ?_⟩
  intro kind type declared default? enumFree found
  rw [ne_eq, AttributeKind.code_eq_incompatible_iff found, Classical.not_not]
  constructor
  · exact fun narrows value => narrows.accepts
  · intro all
    refine Classical.byContradiction fun unfit => ?_
    obtain ⟨value, accepted, refused⟩ := separates_of_not_narrows enumFree unfit
    cases refused.symm.trans (all value accepted)

/-- A constraint type whose target may be any text. -/
def beacon : ConstraintType :=
  ⟨.drawn 2, "example.Beacon", [("validationAppliesTo", ⟨.string, none⟩)]⟩

/-- Below an array, constraints of any type are separated from those of one type; and a beacon is
reported for its target, since a text can be something else than a target. -/
theorem isAssignable_complete_beacon :
    (∃ value, (arrayOf (.constraint none)).accepts value = .ok true ∧
        (arrayOf (.constraint (some "example.Beacon"))).accepts value = .ok false) ∧
      (AttributeKind.validationAppliesTo.analyze beacon).violation?.map ContractViolation.code =
        some .incompatibleAttributeType := by
  obtain ⟨separated, _, reported⟩ := isAssignable_complete
  refine ⟨(separated _ _ rfl).1 rfl, ?_⟩
  refine Classical.byContradiction fun unreported => ?_
  have all := (reported .validationAppliesTo beacon .string none rfl rfl).1 unreported
  cases all (.text "anything") rfl

end Descriptor

end AttributeContracts
