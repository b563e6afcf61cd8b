/-
# Narrowing a declaration

Assignability is reflexive and transitive: declared types are preordered by how narrow they are.
It is no partial order, since two enumerations can allow the same texts in different lists.

A check of a declaration asks for its type only whether that narrows the type of the attribute.
So a declaration may be narrowed freely once it fits: the check reports then what it reported
before. And where a narrower type does not fit, no wider one does.
-/

import AttributeContracts.Proofs.Verdict

namespace AttributeContracts

namespace Descriptor.Narrows

/-- Every declared type narrows itself. -/
theorem refl (type : Descriptor) : type.Narrows type := by
  induction type with
  | string => exact .string
  | number => exact .number
  | boolean => exact .boolean
  | classOf bound? =>
      cases bound? with
      | none => exact .anyClass none
      | some bound => exact .subclass bound.isSubclassOf_self
  | enumOf name values => exact .enumOf name fun _ listed => listed
  | constraint typeName? =>
      cases typeName? with
      | none => exact .anyConstraint none
      | some typeName => exact .namedConstraint typeName
  | arrayOf component ih => exact .arrayOf ih

/-- By induction on the first of two narrowings: the second one has the form of its wider side,
or takes everything of that form. -/
theorem trans {narrow middle wide : Descriptor} (one : narrow.Narrows middle)
    (two : middle.Narrows wide) : narrow.Narrows wide := by
  induction one generalizing wide with
  | string => exact two
  | number => exact two
  | boolean => exact two
  | anyClass bound? =>
      cases two with
      | anyClass => exact .anyClass bound?
  | subclass below =>
      cases two with
      | anyClass => exact .anyClass _
      | subclass above => exact .subclass (ClassRef.isSubclassOf_trans below above)
  | enumOf name included =>
      cases two with
      | enumOf _ allowed =>
          exact .enumOf name fun text listed => allowed text (included text listed)
  | anyConstraint typeName? =>
      cases two with
      | anyConstraint => exact .anyConstraint typeName?
  | namedConstraint typeName => exact two
  | arrayOf components ih =>
      cases two with
      | arrayOf others => exact .arrayOf (ih others)

end Descriptor.Narrows

namespace AttributeKind

variable {kind : AttributeKind} {type narrowed : ConstraintType} {wide narrow : Descriptor}
  {default? : Option Value}

/-- Of a declaration that fits, the check sees the default and nothing else. -/
theorem accessorFault?_of_narrows (fits : wide.Narrows kind.type) (narrows : narrow.Narrows wide)
    (name : String) :
    kind.accessorFault? (.ofDefinition name ⟨narrow, default?⟩) =
      kind.accessorFault? (.ofDefinition name ⟨wide, default?⟩) := by
  have assignable : wide.isAssignable kind.type = true := fits.isAssignable
  have alsoAssignable : narrow.isAssignable kind.type = true := (narrows.trans fits).isAssignable
  simp only [accessorFault?, Accessor.ofDefinition, assignable, alsoAssignable]
  rfl

/-- A declaration of a type that does not fit is reported as incompatible. -/
theorem code_of_not_narrows (unfit : ¬wide.Narrows kind.type)
    (found : type.definition? kind.attributeName = some ⟨wide, default?⟩) :
    (kind.analyze type).violation?.map ContractViolation.code =
      some .incompatibleAttributeType :=
  Verdict.code_eq (.incompatible unfit) found

/-- Declared types are preordered by assignability, and the checks respect it. Let two constraint
types of one name declare the attribute of a kind with the same default, the second one with a
type that is assignable to the first one's. If the check of the first is valid, so is that of the
second; if the second is reported as incompatible, so is the first; and unless the first is
reported as incompatible, the same is reported of both. -/
theorem isAssignable_preorder :
    (∀ declared : Descriptor, declared.isAssignable declared = true) ∧
    (∀ narrow middle wide : Descriptor, narrow.isAssignable middle = true →
      middle.isAssignable wide = true → narrow.isAssignable wide = true) ∧
    ∀ (kind : AttributeKind) (type narrowed : ConstraintType) (wide narrow : Descriptor)
      (default? : Option Value), narrowed.name = type.name →
      type.definition? kind.attributeName = some ⟨wide, default?⟩ →
      narrowed.definition? kind.attributeName = some ⟨narrow, default?⟩ →
      narrow.isAssignable wide = true →
      ((kind.analyze type).isValid = true → (kind.analyze narrowed).isValid = true) ∧
      ((kind.analyze narrowed).violation?.map ContractViolation.code =
          some .incompatibleAttributeType →
        (kind.analyze type).violation?.map ContractViolation.code =
          some .incompatibleAttributeType) ∧
      ((kind.analyze type).violation?.map ContractViolation.code ≠
          some .incompatibleAttributeType →
        (kind.analyze narrowed).violation? = (kind.analyze type).violation?) := by
  refine ⟨fun declared => (Descriptor.Narrows.refl declared).isAssignable, ?_, ?_⟩
  · intro narrow middle wide one two
    rw [Descriptor.isAssignable_iff_narrows] at one two ⊢
    exact one.trans two
  · intro kind type narrowed wide narrow default? sameName found isFound assignable
    have narrows : narrow.Narrows wide := Descriptor.narrows_of_isAssignable assignable
    have same : (kind.analyze type).violation?.map ContractViolation.code ≠
          some .incompatibleAttributeType →
        (kind.analyze narrowed).violation? = (kind.analyze type).violation? := by
      intro compatible
      have fits : wide.Narrows kind.type := Classical.byContradiction fun unfit =>
        compatible (code_of_not_narrows unfit found)
      rw [violation?_analyze, violation?_analyze, found, isFound, sameName, Option.elim_some,
        Option.elim_some, accessorFault?_of_narrows fits narrows]
    refine ⟨?_, ?_, same⟩
    · intro valid
      have clear : (kind.analyze type).violation? = none := Option.isNone_iff_eq_none.1 valid
      have alsoClear := same (by rw [clear]; exact nofun)
      rw [ContractCheck.isValid, alsoClear, clear]
      rfl
    · intro incompatible
      refine Classical.byContradiction fun compatible => ?_
      rw [same compatible] at incompatible
      exact compatible incompatible

/-- A constraint type that allows classes below some bound for its payload. -/
def siren (identity : Identity) (bound? : Option ClassRef) : ConstraintType :=
  ⟨identity, "example.Siren", [("payload", ⟨.arrayOf (.classOf bound?), some (.array [])⟩)]⟩

/-- A siren that passes the check still does when its payload is narrowed by one more step, and
where the default group is refused for a payload, so is any class. -/
theorem isAssignable_preorder_siren :
    (Descriptor.arrayOf (.classOf (some .fatal))).isAssignable
        (.arrayOf (.classOf (some .payload))) = true ∧
      (payload.analyze (siren (.drawn 3) (some .fatal))).isValid = true ∧
      (payload.analyze (siren (.drawn 2) none)).violation?.map ContractViolation.code =
        some .incompatibleAttributeType := by
  obtain ⟨_, trans, checks⟩ := isAssignable_preorder
  have valid := (checks payload (siren (.drawn 2) (some .severity)) (siren (.drawn 3) (some .fatal))
    (.arrayOf (.classOf (some .severity))) (.arrayOf (.classOf (some .fatal))) (some (.array []))
    rfl rfl rfl rfl).1 rfl
  have refused := (checks payload (siren (.drawn 2) none) (siren (.drawn 3) (some .defaultGroup))
    (.arrayOf (.classOf none)) (.arrayOf (.classOf (some .defaultGroup))) (some (.array []))
    rfl rfl rfl rfl).2.1 rfl
  exact ⟨trans _ (.arrayOf (.classOf (some .severity))) _ rfl rfl, valid, refused⟩

end AttributeKind

end AttributeContracts
