/-
# Structural equality as a relation

The comparison of values is driven by the names that the left constraint lists and by
the positions where the left array holds something, it can fail where a reading fails,
and a synthesized constraint has a second comparison that takes its own values as they
are stored.

Readings and names do not show on lawful values, in which every constraint lists what
its type declares and can be read. There the comparison decides a relation, and a value
is alike to itself. Holes do show: an array with a hole is equal to any array that
agrees with it elsewhere, while that array need not be equal to it. Between values
without holes the relation treats both sides alike, and it passes through a value
without holes.
-/

import AttributeContracts.Proofs.Parts

namespace AttributeContracts

open Outcome

namespace Value

/-! ## Lawful values -/

/-- The values for which structural equality is meant: every constraint below them
offers all the methods of one, lists the names that its type declares, and answers
with a lawful value for each of them. -/
inductive Lawful : Value → Prop
  | atom {value : Value} (atom : value.isAtom = true) : Lawful value
  | array {elements : List (Option Value)}
      (lawful : ∀ element, some element ∈ elements → Lawful element) : Lawful (.array elements)
  | constraint {c : Constraint} {names : List String}
      (whole : (Value.constraint c).isConstraint = true)
      (listed : c.attributeNames = .ok names)
      (declared : ∀ name, name ∈ names ↔ c.type.declares name = true)
      (reads : ∀ name, c.type.declares name = true → ∃ value, c.valueOf name = .ok value)
      (lawful : ∀ name value, c.type.declares name = true → c.valueOf name = .ok value →
        Lawful value) :
      Lawful (.constraint c)

/-- A lawful value without holes. -/
structure Solid (value : Value) : Prop where
  lawful : value.Lawful
  dense : value.Dense

theorem Lawful.position {elements : List (Option Value)} (lawful : (Value.array elements).Lawful)
    {i : Nat} {element? : Option Value} (held : elements[i]? = some element?) :
    (atPosition element?).Lawful := by
  cases lawful with
  | atom atom => cases atom
  | array lawful =>
      cases element? with
      | none => exact .atom rfl
      | some element => exact lawful element (List.mem_of_getElem? held)

theorem Solid.element {elements : List (Option Value)} (solid : (Value.array elements).Solid)
    {i : Nat} {element? : Option Value} (held : elements[i]? = some element?) :
    ∃ element, element? = some element ∧ element.Solid := by
  obtain ⟨element, rfl⟩ := solid.dense.exists_element held
  exact ⟨element, rfl, solid.lawful.position held,
    solid.dense.element (List.mem_of_getElem? held)⟩

theorem Solid.answer {c : Constraint} (solid : (Value.constraint c).Solid) {name : String}
    (own : c.type.declares name = true) {value : Value} (read : c.valueOf name = .ok value) :
    value.Solid := by
  obtain ⟨lawful, dense⟩ := solid
  cases lawful with
  | atom atom => cases atom
  | constraint whole listed declared _ lawful =>
      exact ⟨lawful name value own read, dense.answer whole listed ((declared name).2 own) read⟩

/-- What structural equality goes by: the same value, arrays that are alike wherever the
left one holds something, or constraints of one type that are alike under each declared
name. -/
inductive Alike : Value → Value → Prop
  | same (value : Value) : Alike value value
  | array {xs ys : List (Option Value)} (lengths : xs.length = ys.length)
      (elements : ∀ (i : Nat) (x : Value) (y? : Option Value), xs[i]? = some (some x) →
        ys[i]? = some y? → Alike x (atPosition y?)) :
      Alike (.array xs) (.array ys)
  | constraint {c d : Constraint} (types : c.type = d.type)
      (attributes : ∀ (name : String) (x y : Value), c.type.declares name = true →
        c.valueOf name = .ok x → d.valueOf name = .ok y → Alike x y) :
      Alike (.constraint c) (.constraint d)

/-- Between values without holes, neither side leads. -/
theorem Alike.symm {a b : Value} (alike : Alike a b) (left : a.Solid) (right : b.Solid) :
    Alike b a := by
  induction alike with
  | same value => exact .same value
  | array lengths elements ih =>
      apply Alike.array lengths.symm
      intro i y x? isY isX
      obtain ⟨x, rfl, solidX⟩ := left.element isX
      obtain ⟨_, same, solidY⟩ := right.element isY
      cases same
      exact ih i x (some y) isX isY solidX solidY
  | @constraint c d types _ ih =>
      apply Alike.constraint types.symm
      intro name y x declared readsY readsX
      have own : c.type.declares name = true := types ▸ declared
      exact ih name x y own readsX readsY (left.answer own readsX) (right.answer declared readsY)

/-- Being alike passes through a lawful value without holes. The value in the middle has
to be readable, or else its two neighbours would be alike to it for no reason. -/
theorem Alike.trans {a b c : Value} (one : Alike a b) (middle : b.Solid) (two : Alike b c) :
    Alike a c := by
  induction one generalizing c with
  | same value => exact two
  | @array xs ys lengths elements ih =>
      cases two with
      | same => exact .array lengths elements
      | @array _ zs lengths' elements' =>
          apply Alike.array (lengths.trans lengths')
          intro i x z? isX isZ
          obtain ⟨inside, _⟩ := List.getElem?_eq_some_iff.1 isX
          have isY := List.getElem?_eq_getElem (lengths ▸ inside)
          obtain ⟨y, same, solidY⟩ := middle.element isY
          rw [same] at isY
          exact ih i x (some y) isX isY solidY (elements' i y z? isY isZ)
  | @constraint left right types attributes ih =>
      cases two with
      | same => exact .constraint types attributes
      | @constraint _ last types' attributes' =>
          apply Alike.constraint (types.trans types')
          intro name x z declared readsX readsZ
          have declaredY : right.type.declares name = true := types ▸ declared
          have reads : ∃ y, right.valueOf name = .ok y := by
            cases middle.lawful with
            | atom atom => cases atom
            | constraint _ _ _ reads _ => exact reads name declaredY
          obtain ⟨y, readsY⟩ := reads
          exact ih name x y declared readsX readsY (middle.answer declaredY readsY)
            (attributes' name y z declaredY readsY readsZ)

theorem alike_atom_iff {a : Value} (atom : a.isAtom = true) (b : Value) : Alike a b ↔ a = b := by
  constructor
  · intro alike
    cases alike with
    | same => rfl
    | array => cases atom
    | constraint => cases atom
  · rintro rfl
    exact .same a

theorem alike_array_iff {xs ys : List (Option Value)} :
    Alike (.array xs) (.array ys) ↔ xs.length = ys.length ∧
      ∀ (i : Nat) (x : Value) (y? : Option Value), xs[i]? = some (some x) → ys[i]? = some y? →
        Alike x (atPosition y?) := by
  constructor
  · intro alike
    cases alike with
    | same =>
        refine ⟨rfl, fun i x y? isX isY => ?_⟩
        cases isX.symm.trans isY
        exact .same x
    | array lengths elements => exact ⟨lengths, elements⟩
  · rintro ⟨lengths, elements⟩
    exact .array lengths elements

theorem alike_constraint_iff {c d : Constraint} :
    Alike (.constraint c) (.constraint d) ↔ c.type = d.type ∧
      ∀ (name : String) (x y : Value), c.type.declares name = true →
        c.valueOf name = .ok x → d.valueOf name = .ok y → Alike x y := by
  constructor
  · intro alike
    cases alike with
    | same =>
        refine ⟨rfl, fun name x y _ readsX readsY => ?_⟩
        cases readsX.symm.trans readsY
        exact .same x
    | constraint types attributes => exact ⟨types, attributes⟩
  · rintro ⟨types, attributes⟩
    exact .constraint types attributes

/-! ## The comparison decides likeness -/

/-- Elements are compared place by place, and holes of the left array are passed over. -/
theorem elementsEqualTo_decides {xs ys : List (Option Value)} (lengths : xs.length = ys.length)
    (decided : ∀ (i : Nat) (x : Value) (y? : Option Value), xs[i]? = some (some x) →
      ys[i]? = some y? → Decides (x.equalTo (atPosition y?)) (Alike x (atPosition y?))) :
    Decides (elementsEqualTo xs ys)
      (∀ (i : Nat) (x : Value) (y? : Option Value), xs[i]? = some (some x) → ys[i]? = some y? →
        Alike x (atPosition y?)) := by
  induction xs generalizing ys with
  | nil => exact ⟨true, rfl, by simp⟩
  | cons x? xs ih =>
      cases ys with
      | nil => cases lengths
      | cons y? ys =>
          have others := ih (Nat.succ.inj lengths) fun i => decided (i + 1)
          cases x? with
          | none =>
              rw [elementsEqualTo]
              apply others.congr
              constructor
              · intro rest i x y? isX isY
                cases i with
                | zero => cases isX
                | succ i => exact rest i x y? isX isY
              · exact fun places i => places (i + 1)
          | some x =>
              have first := decided 0 x y? rfl rfl
              rw [elementsEqualTo]
              apply (first.and others).congr
              constructor
              · rintro ⟨alike, rest⟩ i x' y' isX isY
                cases i with
                | zero =>
                    cases isX
                    cases isY
                    exact alike
                | succ i => exact rest i x' y' isX isY
              · intro places
                exact ⟨places 0 x y? rfl rfl, fun i => places (i + 1)⟩

/-- Two readings under one name are compared by comparing what they give. -/
theorem agreesAt_decides {c d : Constraint} {name : String} {x y : Value}
    (readsX : c.valueOf name = .ok x) (readsY : d.valueOf name = .ok y)
    (decided : Decides (x.equalTo y) (Alike x y)) :
    Decides (c.agreesAt (.constraint d) name)
      (∀ x y, c.valueOf name = .ok x → d.valueOf name = .ok y → Alike x y) := by
  rw [Constraint.agreesAt_of_reads readsX readsY]
  apply decided.congr
  constructor
  · intro alike x' y' isX isY
    cases readsX.symm.trans isX
    cases readsY.symm.trans isY
    exact alike
  · intro alike
    exact alike x y readsX readsY

theorem atom_decides {b : Value} (atom : b.isAtom = true) (a : Value) :
    Decides (a.equalTo b) (Alike a b) := by
  rw [equalTo_isAtom atom]
  refine (decides_decide _).congr ⟨?_, ?_⟩
  · rintro rfl
    exact .same a
  · intro alike
    cases alike with
    | same => rfl
    | array => cases atom
    | constraint => cases atom

/-- On lawful values the comparison answers, and answers whether they are alike. -/
theorem Lawful.decides {a b : Value} (left : a.Lawful) (right : b.Lawful) :
    Decides (a.equalTo b) (Alike a b) := by
  induction left generalizing b with
  | @atom a atom =>
      rw [equalTo_of_isAtom atom]
      exact (decides_decide _).congr (alike_atom_iff atom b).symm
  | @array xs lawful ih =>
      cases right with
      | atom atom => exact atom_decides atom _
      | @array ys lawful' =>
          rw [equalTo_array]
          split
          · next lengths =>
              have places : ∀ (i : Nat) (x : Value) (y? : Option Value), xs[i]? = some (some x) →
                  ys[i]? = some y? →
                    Decides (x.equalTo (atPosition y?)) (Alike x (atPosition y?)) := by
                intro i x y? isX isY
                exact ih x (List.mem_of_getElem? isX) ((Lawful.array lawful').position isY)
              apply (elementsEqualTo_decides lengths places).congr
              rw [alike_array_iff, and_iff_right lengths]
          · next lengths =>
              exact decides_false fun alike => lengths (alike_array_iff.1 alike).1
      | constraint =>
          rw [equalTo_array_constraint]
          exact decides_false fun alike => by cases alike
  | @constraint c names whole listed declared reads lawful ih =>
      cases right with
      | atom atom => exact atom_decides atom _
      | array =>
          rw [equalTo_constraint_array]
          exact decides_false fun alike => by cases alike
      | @constraint d _ whole' _ _ reads' lawful' =>
          rw [equalTo_constraint_of_reads whole whole' listed
            fun name isListed => reads name ((declared name).1 isListed)]
          split
          · next types =>
              have asked : ∀ name ∈ names, Decides (c.agreesAt (.constraint d) name)
                  (∀ x y, c.valueOf name = .ok x → d.valueOf name = .ok y → Alike x y) := by
                intro name isListed
                have own := (declared name).1 isListed
                have theirs : d.type.declares name = true := types ▸ own
                obtain ⟨x, readsX⟩ := reads name own
                obtain ⟨y, readsY⟩ := reads' name theirs
                have decided := ih name x own readsX (lawful' name y theirs readsY)
                exact agreesAt_decides readsX readsY decided
              apply (decides_allM asked).congr
              rw [alike_constraint_iff, and_iff_right types]
              constructor
              · intro alike name x y own readsX readsY
                exact alike name ((declared name).2 own) x y readsX readsY
              · intro alike name isListed x y
                exact alike name x y ((declared name).1 isListed)
          · next types =>
              exact decides_false fun alike => types (alike_constraint_iff.1 alike).1

/-! ## Which constraints are lawful -/

variable {identity : Identity} {type : ConstraintType}

/-- A synthesized constraint is lawful when it stores lawful values of the declared
types, and only then. -/
theorem lawful_synthesized_iff {values : List (String × Value)} :
    (Value.constraint (.synthesized identity type values)).Lawful ↔
      ∀ name definition, type.definition? name = some definition →
        definition.type.accepts (stored values name) = .ok true ∧
          (stored values name).Lawful := by
  constructor
  · intro lawful name definition found
    cases lawful with
    | atom atom => cases atom
    | constraint _ _ _ reads lawful =>
        have declared := ConstraintType.declares_of_definition found
        obtain ⟨value, read⟩ := reads name declared
        obtain ⟨rfl, other, alsoFound, accepted⟩ := Constraint.valueOf_synthesized_eq_ok.1 read
        cases found.symm.trans alsoFound
        exact ⟨accepted, lawful name _ declared read⟩
  · intro stores
    refine .constraint rfl rfl (fun _ => ConstraintType.mem_attributeNames) ?_ ?_
    · intro name declared
      obtain ⟨definition, found⟩ := ConstraintType.exists_definition declared
      exact ⟨_, Constraint.valueOf_synthesized_eq_ok.2
        ⟨rfl, definition, found, (stores name definition found).1⟩⟩
    · intro name value _ read
      obtain ⟨rfl, definition, found, _⟩ := Constraint.valueOf_synthesized_eq_ok.1 read
      exact (stores name definition found).2

theorem lawful_valid : (Value.constraint .valid).Lawful :=
  .constraint rfl rfl (fun _ => ConstraintType.mem_attributeNames) nofun nofun

/-- The group conversion does not check its ends, but they have to be lawful. -/
theorem lawful_convertGroup {source target : Value} (lawfulSource : source.Lawful)
    (lawfulTarget : target.Lawful) :
    (Value.constraint (.convertGroup identity source target)).Lawful := by
  refine .constraint rfl rfl (fun _ => ConstraintType.mem_attributeNames) ?_ ?_
  · intro name declared
    rcases ConstraintType.declares_convertGroup_iff.1 declared with rfl | rfl
    · exact ⟨source, rfl⟩
    · exact ⟨target, rfl⟩
  · intro name value declared read
    rcases ConstraintType.declares_convertGroup_iff.1 declared with rfl | rfl
    · cases read
      exact lawfulSource
    · cases read
      exact lawfulTarget

end Value

namespace Constraint

/-! ## The second comparison -/

/-- A lawful synthesized constraint reads what it stores, so it makes no difference
whether its side of a comparison is read or taken as stored. -/
theorem equals_of_lawful {identity : Identity} {type : ConstraintType}
    {values : List (String × Value)}
    (lawful : (Value.constraint (.synthesized identity type values)).Lawful) (other : Value) :
    (Constraint.synthesized identity type values).equals other =
      (Value.constraint (.synthesized identity type values)).equalTo other := by
  have ownType : (synthesized identity type values).type = type := rfl
  have listed : (synthesized identity type values).attributeNames = .ok type.attributeNames := rfl
  rw [equals, Value.equalTo_constraint]
  by_cases same : other = .constraint (.synthesized identity type values)
  · rw [if_pos same, if_pos same.symm]
  rw [if_neg same, if_neg (Ne.symm same)]
  by_cases whole : other.isConstraint = true
  · rw [if_pos whole, whole, Value.annotationType?_of_isConstraint rfl, ok_bind, ownType,
      listed]
    congr 1
    funext found
    by_cases ofType : found = some type
    · rw [if_pos ofType, if_pos ofType.symm, ok_bind]
      apply allM_congr
      intro name isListed
      obtain ⟨definition, isDefined⟩ :=
        ConstraintType.exists_definition (ConstraintType.mem_attributeNames.1 isListed)
      have accepted := (Value.lawful_synthesized_iff.1 lawful name definition isDefined).1
      rw [agreesAt, valueOf_synthesized_eq_ok.2 ⟨rfl, definition, isDefined, accepted⟩]
      rfl
    · rw [if_neg ofType, if_neg (Ne.symm ofType)]
  · rw [if_neg whole, if_neg fun both => whole (Bool.and_eq_true_iff.1 both).2]

end Constraint

/-- A value together with its lawfulness. -/
abbrev LawfulValue := {value : Value // value.Lawful}

namespace LawfulValue

/-- On lawful values structural equality always answers, a value is equal to itself, and a
synthesized constraint's own comparison is the same one. Between values without holes it
can be turned round, and it passes through a value without holes. -/
theorem equivalence_equalTo (a : LawfulValue) :
    (∀ b : LawfulValue, ∃ answer, a.val.equalTo b.val = .ok answer) ∧
      a.val.equalTo a.val = .ok true ∧
      (∀ b : LawfulValue, a.val.Dense → b.val.Dense →
        a.val.equalTo b.val = .ok true → b.val.equalTo a.val = .ok true) ∧
      (∀ b c : LawfulValue, b.val.Dense → a.val.equalTo b.val = .ok true →
        b.val.equalTo c.val = .ok true → a.val.equalTo c.val = .ok true) ∧
      ∀ (identity : Identity) (type : ConstraintType) (values : List (String × Value)),
        a.val = .constraint (.synthesized identity type values) → ∀ other : Value,
          (Constraint.synthesized identity type values).equals other = a.val.equalTo other := by
  have decides (a b : LawfulValue) : Decides (a.val.equalTo b.val) (a.val.Alike b.val) :=
    a.property.decides b.property
  refine ⟨?answers, Value.equalTo_self a.val, ?symm, ?trans, ?equals⟩
  case answers =>
    intro b
    obtain ⟨answer, answered, _⟩ := decides a b
    exact ⟨answer, answered⟩
  case symm =>
    intro b left right equal
    rw [(decides a b).eq_ok_true_iff] at equal
    exact (decides b a).eq_ok_true_iff.2 (equal.symm ⟨a.property, left⟩ ⟨b.property, right⟩)
  case trans =>
    intro b c middle first second
    rw [(decides a b).eq_ok_true_iff] at first
    rw [(decides b c).eq_ok_true_iff] at second
    exact (decides a c).eq_ok_true_iff.2 (first.trans ⟨b.property, middle⟩ second)
  case equals =>
    intro identity type values same other
    rw [same]
    exact Constraint.equals_of_lawful (same ▸ a.property) other

/-- A constraint type with a list of markers. -/
def bundle : ConstraintType where
  identity := .drawn 3
  name := "example.Bundle"
  definitions := [("markers", ⟨.arrayOf (.constraint none), none⟩)]

/-- A cascade marker and a group conversion of a given identity. -/
def markers (identity : Identity) : Value :=
  .arrayOf [.constraint .valid,
    .constraint (.convertGroup identity (.classRef .defaultGroup) (.classRef .payload))]

theorem lawful_markers (identity : Identity) : (markers identity).Lawful := by
  apply Value.Lawful.array
  intro element held
  simp only [List.map_cons, List.map_nil, List.mem_cons, List.not_mem_nil, or_false,
    Option.some.injEq] at held
  rcases held with rfl | rfl
  · exact Value.lawful_valid
  · exact Value.lawful_convertGroup (.atom rfl) (.atom rfl)

theorem dense_markers (identity : Identity) : (markers identity).Dense := by
  refine Value.Everywhere.array_iff.2 ⟨rfl, fun element held => ?_⟩
  simp only [List.map_cons, List.map_nil, List.mem_cons, List.not_mem_nil, or_false,
    Option.some.injEq] at held
  rcases held with rfl | rfl
  · exact (Value.Everywhere.constraint_iff rfl rfl).2 ⟨rfl, nofun⟩
  · refine (Value.Everywhere.constraint_iff rfl rfl).2 ⟨rfl, fun name listed part read => ?_⟩
    rcases ConstraintType.declares_convertGroup_iff.1
      (ConstraintType.mem_attributeNames.1 listed) with rfl | rfl
    · cases read
      exact .of_isAtom rfl rfl
    · cases read
      exact .of_isAtom rfl rfl

/-- A bundle of these markers. -/
def bundled (identity marked : Identity) : Value :=
  .constraint (.synthesized identity bundle [("markers", markers marked)])

theorem lawful_bundled (identity marked : Identity) : (bundled identity marked).Lawful := by
  apply Value.lawful_synthesized_iff.2
  intro name definition found
  have listed : name ∈ ["markers"] :=
    ConstraintType.mem_attributeNames.2 (ConstraintType.declares_of_definition found)
  cases List.mem_singleton.1 listed
  cases found
  exact ⟨rfl, lawful_markers _⟩

theorem dense_bundled (identity marked : Identity) : (bundled identity marked).Dense := by
  refine (Value.Everywhere.constraint_iff rfl rfl).2 ⟨rfl, fun name listed part read => ?_⟩
  cases List.mem_singleton.1 listed
  cases read
  exact dense_markers marked

/-- Two bundles whose markers were made anew are equal, and so they are when turned round. -/
theorem equivalence_equalTo_bundle :
    (bundled (.drawn 4) (.drawn 5)).Lawful ∧ (bundled (.drawn 6) (.drawn 7)).Lawful ∧
      (bundled (.drawn 4) (.drawn 5)).equalTo (bundled (.drawn 6) (.drawn 7)) = .ok true ∧
      (bundled (.drawn 6) (.drawn 7)).equalTo (bundled (.drawn 4) (.drawn 5)) = .ok true := by
  have left := lawful_bundled (.drawn 4) (.drawn 5)
  have right := lawful_bundled (.drawn 6) (.drawn 7)
  have equal : (bundled (.drawn 4) (.drawn 5)).equalTo (bundled (.drawn 6) (.drawn 7)) =
      .ok true := rfl
  exact ⟨left, right, equal, (equivalence_equalTo ⟨_, left⟩).2.2.1 ⟨_, right⟩
    (dense_bundled _ _) (dense_bundled _ _) equal⟩

/-- An array with a hole is equal to one that holds something there, but not the other way
round. What is equal to it on the left need not be equal to what is equal to it on the
right. -/
theorem equalTo_not_always_symmetric :
    (Value.array [none]).Lawful ∧ (Value.arrayOf [.text "x"]).Lawful ∧
      (Value.arrayOf [.undefined]).Lawful ∧
      (Value.array [none]).equalTo (.arrayOf [.text "x"]) = .ok true ∧
      (Value.arrayOf [.text "x"]).equalTo (.array [none]) = .ok false ∧
      (Value.arrayOf [.undefined]).equalTo (.array [none]) = .ok true ∧
      (Value.arrayOf [.undefined]).equalTo (.arrayOf [.text "x"]) = .ok false := by
  have atoms {value : Value} (atom : value.isAtom = true) : (Value.arrayOf [value]).Lawful := by
    apply Value.Lawful.array
    intro element held
    cases List.mem_singleton.1 held
    exact .atom atom
  exact ⟨.array (by simp), atoms rfl, atoms rfl, rfl, rfl, rfl, rfl⟩

end LawfulValue

end AttributeContracts
