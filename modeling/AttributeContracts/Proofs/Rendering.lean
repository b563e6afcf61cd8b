/-
# Rendering of equal values

Equality, description and plain conversion walk a value each in their own way: they treat its
cases in another order, and they read an attribute here and take it as it is stored there. Still
equal values are described alike and have one plain form, as long as all constraints in them are
synthesized and no array in them has holes. A constraint of another kind may be equal to one of its
type and have a text of its own, and a hole is equal to anything that is rendered.

Of the values that equality goes through, each either is the same on both sides or could be
read on both sides. So what cannot be read is only ever compared by sameness, and an ill-typed
value makes no difference between the renderings.
-/

import AttributeContracts.Proofs.Parts
import AttributeContracts.Proofs.PlainForm

namespace AttributeContracts

open Outcome

namespace Value

/-! ## How values come to be equal -/

theorem elementsEqualTo_eq_ok_true {xs ys : List (Option Value)}
    (equal : elementsEqualTo xs ys = .ok true) (index : Nat) (x : Value) (y? : Option Value)
    (isX : xs[index]? = some (some x)) (isY : ys[index]? = some y?) :
    x.equalTo (atPosition y?) = .ok true := by
  induction xs generalizing ys index with
  | nil => cases isX
  | cons first? rest ih =>
      cases ys with
      | nil => cases isY
      | cons other? others =>
          cases first? with
          | none =>
              cases index with
              | zero => cases isX
              | succ index => exact ih equal index isX isY
          | some first =>
              rw [elementsEqualTo] at equal
              obtain ⟨passed, compared, going⟩ := bind_eq_ok.1 equal
              cases passed with
              | false => cases going
              | true =>
                  cases index with
                  | zero =>
                      cases isX
                      cases isY
                      exact compared
                  | succ index => exact ih going index isX isY

/-- Only a constraint answers with a type. -/
theorem eq_constraint_of_annotationType? {value : Value} {type : ConstraintType}
    (answered : value.annotationType? = .ok (some type)) :
    ∃ c, value = .constraint c ∧ c.type = type := by
  cases value with
  | constraint c =>
      rw [annotationType?] at answered
      split at answered
      · cases answered
        exact ⟨c, rfl, rfl⟩
      · cases answered
  | record identity bare members =>
      rw [annotationType?] at answered
      split at answered <;> cases answered
  | _ => cases answered

/-- Two values are equal for one of three reasons: they are the same, they are arrays with equal
elements, or they are whole constraints of one type that agree on every name that the left one
lists. -/
theorem equalTo_cases {x y : Value} (equal : x.equalTo y = .ok true) :
    x = y ∨
    (∃ xs ys, x = .array xs ∧ y = .array ys ∧ xs.length = ys.length ∧
      elementsEqualTo xs ys = .ok true) ∨
    ∃ c d names, x = .constraint c ∧ y = .constraint d ∧
      (Value.constraint c).isConstraint = true ∧ (Value.constraint d).isConstraint = true ∧
      c.type = d.type ∧ c.attributeNames = .ok names ∧
      names.allM (c.agreesAt (.constraint d)) = .ok true := by
  cases x with
  | array xs =>
      cases y with
      | array ys =>
          rw [equalTo_array] at equal
          split at equal
          · next lengths => exact .inr (.inl ⟨xs, ys, rfl, rfl, lengths, equal⟩)
          · cases equal
      | _ =>
          unfold equalTo at equal
          simp at equal
  | constraint c =>
      rw [equalTo_constraint] at equal
      split at equal
      · next same => exact .inl same
      · split at equal
        · next both =>
            rw [Bool.and_eq_true] at both
            rw [annotationType?_of_isConstraint both.1, ok_bind] at equal
            obtain ⟨right, answered, going⟩ := bind_eq_ok.1 equal
            split at going
            · next types =>
                cases types
                obtain ⟨d, rfl, sameType⟩ := eq_constraint_of_annotationType? answered
                obtain ⟨names, listed, agree⟩ := bind_eq_ok.1 going
                exact .inr (.inr ⟨c, d, names, rfl, rfl, both.1, both.2, sameType.symm, listed,
                  agree⟩)
            · cases going
        · cases equal
  | record identity bare members =>
      unfold equalTo at equal
      split at equal
      · next same => exact .inl same
      · dsimp only at equal
        split at equal
        · obtain ⟨left, _, going⟩ := bind_eq_ok.1 equal
          obtain ⟨right, _, going⟩ := bind_eq_ok.1 going
          split at going <;> cases going
        · cases equal
  | _ =>
      rw [equalTo_of_isAtom rfl] at equal
      exact .inl (of_decide_eq_true (Except.ok.inj equal))

theorem agreesAt_eq_ok_true {c d : Constraint} {name : String} :
    c.agreesAt (.constraint d) name = .ok true ↔ ∃ mine theirs, c.valueOf name = .ok mine ∧
      d.valueOf name = .ok theirs ∧ mine.equalTo theirs = .ok true := by
  constructor
  · intro agree
    obtain ⟨mine, left, going⟩ := bind_eq_ok.1 agree
    obtain ⟨theirs, right, equal⟩ := bind_eq_ok.1 going
    exact ⟨mine, theirs, left, right, equal⟩
  · rintro ⟨mine, theirs, left, right, equal⟩
    rw [Constraint.agreesAt_of_reads left right, equal]

/-! ## Guards take equal values alike -/

/-- A guard asks a whole constraint for nothing but its type. -/
theorem accepts_constraint_congr {c d : Constraint}
    (wholeLeft : (Value.constraint c).isConstraint = true)
    (wholeRight : (Value.constraint d).isConstraint = true) (types : c.type = d.type)
    (descriptor : Descriptor) :
    descriptor.accepts (.constraint c) = descriptor.accepts (.constraint d) := by
  have like {e : Constraint} (whole : (Value.constraint e).isConstraint = true) :
      (Value.constraint e).isConstraintLike = true := (Bool.and_eq_true_iff.1 whole).1
  cases descriptor with
  | constraint typeName? =>
      cases typeName? with
      | none => rw [Descriptor.accepts, Descriptor.accepts, like wholeLeft, like wholeRight]
      | some typeName =>
          rw [Descriptor.accepts, Descriptor.accepts, if_pos (like wholeLeft),
            if_pos (like wholeRight), annotationType?_of_isConstraint wholeLeft,
            annotationType?_of_isConstraint wholeRight, types]
  | classOf bound? => cases bound? <;> rfl
  | _ => rfl

/-- What is equal to a value of a declared type has that type. A guard passes over the holes of
that value, where something else might stand. -/
theorem accepts_of_equalTo {x y : Value} (equal : x.equalTo y = .ok true) (dense : y.Dense)
    {descriptor : Descriptor} (accepted : descriptor.accepts y = .ok true) :
    descriptor.accepts x = .ok true := by
  induction descriptor generalizing x y with
  | arrayOf component ih =>
      obtain rfl | ⟨xs, ys, rfl, rfl, lengths, elements⟩ | ⟨c, d, _, rfl, rfl, _⟩ :=
        equalTo_cases equal
      · exact accepted
      · obtain ⟨_, same, each⟩ := Descriptor.accepts_array_iff.1 accepted
        cases same
        refine Descriptor.accepts_array_iff.2 ⟨component, rfl, fun x held => ?_⟩
        obtain ⟨index, isX⟩ := List.getElem?_of_mem held
        obtain ⟨inside, _⟩ := List.getElem?_eq_some_iff.1 isX
        have isY := List.getElem?_eq_getElem (lengths ▸ inside)
        obtain ⟨y, same⟩ := dense.exists_element isY
        rw [same] at isY
        have isHeld := List.mem_of_getElem? isY
        exact ih (elementsEqualTo_eq_ok_true elements index x _ isX isY) (dense.element isHeld)
          (each y isHeld)
      · cases accepted
  | _ =>
      obtain rfl | ⟨xs, ys, rfl, rfl, _, _⟩ |
          ⟨c, d, _, rfl, rfl, wholeLeft, wholeRight, types, _⟩ :=
        equalTo_cases equal
      · exact accepted
      · obtain ⟨_, same, _⟩ := Descriptor.accepts_array_iff.1 accepted
        cases same
      · rw [accepts_constraint_congr wholeLeft wholeRight types]
        exact accepted

/-! ## Values with synthesized constraints only -/

/-- Whether every constraint in a value is a synthesized one, as far as its elements and
attributes can be followed. -/
def OnlySynthesized (value : Value) : Prop :=
  value.Everywhere fun found => ∀ c, found = .constraint c →
    (Value.constraint c).isConstraint = true →
      ∃ identity type values, c = .synthesized identity type values

/-- A whole constraint of that kind is synthesized. -/
theorem OnlySynthesized.self {c : Constraint} (only : (Value.constraint c).OnlySynthesized)
    (whole : (Value.constraint c).isConstraint = true) :
    ∃ identity type values, c = .synthesized identity type values :=
  only.here c rfl whole

/-! ## The renderings -/

/-- The description of what is at a position, where a hole has none. -/
def describePosition : Option Value → Except Failure String
  | none => .ok ""
  | some value => value.describe

theorem describeElements_eq (elements : List (Option Value)) :
    describeElements elements = elements.mapM describePosition := by
  induction elements with
  | nil => rfl
  | cons element rest ih =>
      cases element with
      | none =>
          rw [describeElements, ih, List.mapM_cons]
          rfl
      | some value =>
          rw [describeElements, ih, List.mapM_cons]
          rfl

/-- Arrays without holes whose elements are rendered alike, position by position, are rendered
alike. -/
theorem rendering_array {xs ys : List (Option Value)} (lengths : xs.length = ys.length)
    (left : (Value.array xs).Dense) (right : (Value.array ys).Dense)
    (alike : ∀ (index : Nat) (x y : Value), xs[index]? = some (some x) →
      ys[index]? = some (some y) → x.describe = y.describe ∧ x.plain = y.plain) :
    (Value.array xs).describe = (Value.array ys).describe ∧
      (Value.array xs).plain = (Value.array ys).plain := by
  have positions (index : Nat) (x? y? : Option Value) (isX : xs[index]? = some x?)
      (isY : ys[index]? = some y?) : describePosition x? = describePosition y? ∧
        Option.mapM plain x? = Option.mapM plain y? := by
    obtain ⟨x, rfl⟩ := left.exists_element isX
    obtain ⟨y, rfl⟩ := right.exists_element isY
    obtain ⟨descriptions, forms⟩ := alike index x y isX isY
    exact ⟨descriptions, by rw [Option.mapM_some, Option.mapM_some, forms]⟩
  refine ⟨?_, ?_⟩
  · rw [describe, describe, describeElements_eq, describeElements_eq, mapM_congr_positions lengths
      fun index x y isX isY => (positions index x y isX isY).1]
  · rw [plain, plain, plainElements_eq, plainElements_eq, mapM_congr_positions lengths
      fun index x y isX isY => (positions index x y isX isY).2]

/-- Synthesized constraints of one type are rendered alike when they answer every declared name
with values that are. -/
theorem rendering_synthesized {i j : Identity} {type : ConstraintType}
    {values others : List (String × Value)}
    (alike : ∀ name ∈ type.attributeNames, ∃ mine theirs,
      (Constraint.synthesized i type values).valueOf name = .ok mine ∧
      (Constraint.synthesized j type others).valueOf name = .ok theirs ∧
      mine.describe = theirs.describe ∧ mine.plain = theirs.plain) :
    (Constraint.synthesized i type values).text = (Constraint.synthesized j type others).text ∧
      (Constraint.synthesized i type values).toPlain =
        (Constraint.synthesized j type others).toPlain ∧
      (Value.constraint (.synthesized i type values)).plain =
        (Value.constraint (.synthesized j type others)).plain := by
  have stored : ∀ name ∈ type.attributeNames,
      (stored values name).describe = (stored others name).describe ∧
        (stored values name).plain = (stored others name).plain := by
    intro name isListed
    obtain ⟨mine, theirs, left, right, same⟩ := alike name isListed
    obtain ⟨rfl, _⟩ := Constraint.valueOf_synthesized_eq_ok.1 left
    obtain ⟨rfl, _⟩ := Constraint.valueOf_synthesized_eq_ok.1 right
    exact same
  refine ⟨?_, ?_, ?_⟩
  · rw [Constraint.text_synthesized, Constraint.text_synthesized,
      mapM_congr fun name isListed => by rw [(stored name isListed).1]]
  · rw [Constraint.toPlain_synthesized, Constraint.toPlain_synthesized]
    exact ConstraintType.plainInstance_congr fun name isListed => (stored name isListed).2
  · rw [plain_constraint rfl rfl, plain_constraint rfl rfl]
    apply ConstraintType.plainInstance_congr
    intro name isListed
    obtain ⟨mine, theirs, left, right, _, same⟩ := alike name isListed
    rw [Constraint.plainAt, Constraint.plainAt, left, right, ok_bind, ok_bind, same]

/-- Whether a value has nothing but synthesized constraints and no holes. -/
structure Uniform (value : Value) : Prop where
  only : value.OnlySynthesized
  dense : value.Dense

theorem Uniform.element {elements : List (Option Value)} {element : Value}
    (uniform : (Value.array elements).Uniform) (held : some element ∈ elements) :
    element.Uniform :=
  ⟨uniform.only.element held, uniform.dense.element held⟩

theorem Uniform.answer {identity : Identity} {type : ConstraintType}
    {values : List (String × Value)} {name : String} {value : Value}
    (uniform : (Value.constraint (.synthesized identity type values)).Uniform)
    (isListed : name ∈ type.attributeNames)
    (read : (Constraint.synthesized identity type values).valueOf name = .ok value) :
    value.Uniform :=
  ⟨uniform.only.answer rfl rfl isListed read, uniform.dense.answer rfl rfl isListed read⟩

/-- Equal values are described alike and have one plain form, or one failure to have it. -/
theorem rendering_of_equalTo {x y : Value} (left : x.Uniform) (right : y.Uniform)
    (equal : x.equalTo y = .ok true) : x.describe = y.describe ∧ x.plain = y.plain := by
  induction x using inductionOnParts generalizing y with
  | step x ih =>
      obtain rfl | ⟨xs, ys, rfl, rfl, lengths, elements⟩ |
        ⟨c, d, names, rfl, rfl, wholeLeft, wholeRight, types, listed, agree⟩ := equalTo_cases equal
      · exact ⟨rfl, rfl⟩
      · apply rendering_array lengths left.dense right.dense
        intro index x y isX isY
        have isPart := part?_array_eq_some_iff.2 ⟨index, x, isX, rfl, rfl⟩
        exact ih (.element index) x isPart (left.element (List.mem_of_getElem? isX))
          (right.element (List.mem_of_getElem? isY))
          (elementsEqualTo_eq_ok_true elements index x (some y) isX isY)
      · obtain ⟨i, type, values, rfl⟩ := left.only.self wholeLeft
        obtain ⟨j, _, others, rfl⟩ := right.only.self wholeRight
        cases types
        cases listed
        rw [allM_eq_ok_true] at agree
        have alike : ∀ name ∈ type.attributeNames, ∃ mine theirs,
            (Constraint.synthesized i type values).valueOf name = .ok mine ∧
            (Constraint.synthesized j type others).valueOf name = .ok theirs ∧
            mine.describe = theirs.describe ∧ mine.plain = theirs.plain := by
          intro name isListed
          obtain ⟨mine, theirs, reads, reads', equals⟩ :=
            agreesAt_eq_ok_true.1 (agree name isListed)
          obtain ⟨index, held⟩ := List.getElem?_of_mem isListed
          have found : (Value.constraint (.synthesized i type values)).part?
              (.attribute index name) = some (.ok mine) := by
            rw [part?_attribute rfl rfl held, reads]
          exact ⟨mine, theirs, reads, reads', ih _ mine found (left.answer isListed reads)
            (right.answer isListed reads') equals⟩
        obtain ⟨texts, _, forms⟩ := rendering_synthesized alike
        exact ⟨texts, forms⟩

end Value

namespace Constraint

/-! ## The comparison of a synthesized constraint -/

/-- A synthesized constraint finds a value equal that is the same, or that is a whole constraint
of its type with an equal answer to everything that it stores. -/
theorem equals_cases {c : Constraint} {other : Value} (equal : c.equals other = .ok true) :
    other = .constraint c ∨
    ∃ identity type values d, c = .synthesized identity type values ∧ other = .constraint d ∧
      (Value.constraint d).isConstraint = true ∧ d.type = type ∧
      ∀ name ∈ type.attributeNames, ∃ theirs, d.valueOf name = .ok theirs ∧
        (Value.stored values name).equalTo theirs = .ok true := by
  cases c with
  | synthesized identity type values =>
      rw [equals] at equal
      split at equal
      · next same => exact .inl same
      · split at equal
        · next whole =>
            obtain ⟨found, answered, going⟩ := bind_eq_ok.1 equal
            split at going
            · next ofType =>
                cases ofType
                obtain ⟨d, rfl, sameType⟩ := Value.eq_constraint_of_annotationType? answered
                refine .inr ⟨identity, type, values, d, rfl, rfl, whole, sameType, ?_⟩
                intro name isListed
                exact bind_eq_ok.1 (allM_eq_ok_true.1 going name isListed)
            · cases going
        · cases equal
  | _ => cases equal

/-- What is stored and equal to what a constraint of the type answers could have been read. -/
theorem valueOf_of_equalTo {i j : Identity} {type : ConstraintType}
    {values others : List (String × Value)} {name : String} {theirs : Value}
    (read : (Constraint.synthesized j type others).valueOf name = .ok theirs)
    (dense : theirs.Dense)
    (equal : (Value.stored values name).equalTo theirs = .ok true) :
    (Constraint.synthesized i type values).valueOf name = .ok (Value.stored values name) := by
  obtain ⟨_, definition, found, accepted⟩ := valueOf_synthesized_eq_ok.1 read
  exact valueOf_synthesized_eq_ok.2
    ⟨rfl, definition, found, Value.accepts_of_equalTo equal dense accepted⟩

/-- Equality is a congruence for rendering: in values with synthesized constraints alone and
without holes, equal ones have one description and one plain form, and equal constraints have one
text and one plain form. Where one of them fails to be rendered, the other fails likewise. -/
theorem rendering_eq_of_equals {x y : Value} (onlyLeft : x.OnlySynthesized)
    (onlyRight : y.OnlySynthesized) (denseLeft : x.Dense) (denseRight : y.Dense) :
    (x.equalTo y = .ok true → x.describe = y.describe ∧ x.plain = y.plain) ∧
      ∀ a b : Constraint, x = .constraint a → y = .constraint b →
        a.equals (.constraint b) = .ok true → a.text = b.text ∧ a.toPlain = b.toPlain := by
  have left : x.Uniform := ⟨onlyLeft, denseLeft⟩
  have right : y.Uniform := ⟨onlyRight, denseRight⟩
  refine ⟨Value.rendering_of_equalTo left right, fun a b isLeft isRight equal => ?_⟩
  subst isLeft isRight
  obtain same | ⟨i, type, values, d, rfl, same, whole, ofType, agree⟩ := equals_cases equal
  · cases same
    exact ⟨rfl, rfl⟩
  cases same
  obtain ⟨j, otherType, others, rfl⟩ := onlyRight.self whole
  obtain rfl : type = otherType := ofType.symm
  have alike : ∀ name ∈ type.attributeNames, ∃ mine theirs,
      (synthesized i type values).valueOf name = .ok mine ∧
      (synthesized j type others).valueOf name = .ok theirs ∧
      mine.describe = theirs.describe ∧ mine.plain = theirs.plain := by
    intro name isListed
    obtain ⟨theirs, reads, equals⟩ := agree name isListed
    have uniform := right.answer isListed reads
    have stored : (synthesized i type values).valueOf name = .ok (Value.stored values name) :=
      valueOf_of_equalTo reads uniform.dense equals
    exact ⟨_, theirs, stored, reads,
      Value.rendering_of_equalTo (left.answer isListed stored) uniform equals⟩
  obtain ⟨texts, forms, _⟩ := Value.rendering_synthesized alike
  exact ⟨texts, forms⟩

/-- A constraint type with a list of constraints. -/
def panel : ConstraintType where
  identity := .drawn 4
  name := "example.Panel"
  definitions := [("gauges", ⟨.arrayOf (.constraint none), none⟩)]

/-- A gauge whose limit is a text, so that it can be described but neither read nor converted. -/
def brokenGauge : Constraint :=
  .synthesized (.drawn 3) ⟨.drawn 2, "example.Gauge", [("limit", ⟨.number, none⟩)]⟩
    [("limit", .text "high")]

/-- A panel with that gauge. -/
def brokenPanel (identity : Identity) : Constraint :=
  .synthesized identity panel [("gauges", .arrayOf [.constraint brokenGauge])]

theorem uniform_brokenGauge : (Value.constraint brokenGauge).Uniform := by
  have unread : ∀ name ∈ ["limit"], ∀ part, brokenGauge.valueOf name ≠ .ok part := by
    intro name isListed part read
    cases List.mem_singleton.1 isListed
    cases read
  constructor
  · refine (Value.Everywhere.constraint_iff rfl rfl).2 ⟨?_, ?_⟩
    · rintro c ⟨⟩ _
      exact ⟨_, _, _, rfl⟩
    · exact fun name isListed part read => absurd read (unread name isListed part)
  · refine (Value.Everywhere.constraint_iff rfl rfl).2 ⟨rfl, ?_⟩
    exact fun name isListed part read => absurd read (unread name isListed part)

theorem uniform_brokenPanel (identity : Identity) :
    (Value.constraint (brokenPanel identity)).Uniform := by
  have gauge {element : Value} (held : some element ∈ [some (Value.constraint brokenGauge)]) :
      element.Uniform := by
    cases List.mem_singleton.1 held
    exact uniform_brokenGauge
  have gauges : (Value.arrayOf [.constraint brokenGauge]).Uniform :=
    ⟨Value.Everywhere.array_iff.2 ⟨nofun, fun _ held => (gauge held).only⟩,
      Value.Everywhere.array_iff.2 ⟨rfl, fun _ held => (gauge held).dense⟩⟩
  have read {name : String} {part : Value} (isListed : name ∈ ["gauges"])
      (read : (brokenPanel identity).valueOf name = .ok part) : part.Uniform := by
    cases List.mem_singleton.1 isListed
    cases read
    exact gauges
  constructor
  · refine (Value.Everywhere.constraint_iff rfl rfl).2 ⟨?_, fun _ listed _ found =>
      (read listed found).only⟩
    rintro c ⟨⟩ _
    exact ⟨_, _, _, rfl⟩
  · exact (Value.Everywhere.constraint_iff rfl rfl).2 ⟨rfl, fun _ listed _ found =>
      (read listed found).dense⟩

/-- Two panels that share a broken gauge are equal. They read alike, and they fail to be
converted at the same attribute. -/
theorem rendering_eq_of_equals_brokenPanel :
    (brokenPanel (.drawn 5)).equals (.constraint (brokenPanel (.drawn 6))) = .ok true ∧
      (brokenPanel (.drawn 5)).text = (brokenPanel (.drawn 6)).text ∧
      (brokenPanel (.drawn 6)).text = .ok "@Panel(gauges=[@Gauge(limit=\"high\")])" ∧
      (brokenPanel (.drawn 5)).toPlain = (brokenPanel (.drawn 6)).toPlain ∧
      (∃ message, (brokenPanel (.drawn 6)).toPlain =
        .error (.schemaViolation "limit" (.text "high") message)) ∧
      (Value.constraint (brokenPanel (.drawn 5))).describe =
        (Value.constraint (brokenPanel (.drawn 6))).describe := by
  have left := uniform_brokenPanel (.drawn 5)
  have right := uniform_brokenPanel (.drawn 6)
  have equal : (brokenPanel (.drawn 5)).equals (.constraint (brokenPanel (.drawn 6))) =
      .ok true := by rfl
  have alike : (Value.constraint (brokenPanel (.drawn 5))).equalTo
      (.constraint (brokenPanel (.drawn 6))) = .ok true := by rfl
  obtain ⟨values, constraints⟩ :=
    rendering_eq_of_equals left.only right.only left.dense right.dense
  obtain ⟨texts, forms⟩ := constraints _ _ rfl rfl equal
  exact ⟨equal, texts, rfl, forms, ⟨_, rfl⟩, (values alike).1⟩

/-- A constraint type with rows of texts. -/
def grid : ConstraintType where
  identity := .drawn 4
  name := "example.Grid"
  definitions := [("rows", ⟨.arrayOf (.arrayOf .string), none⟩)]

/-- A grid with one row. A hole of the row is kept, since only the list of rows is copied. -/
def rowOf (identity : Identity) (row : List (Option Value)) : Constraint :=
  .ofValues identity grid [("rows", .arrayOf [.array row])]

/-- Equal constraints are not always rendered alike: a hole in a nested array is equal to the
text in its place. And what is equal to itself need not have a text at all. -/
theorem rendering_not_always_eq :
    (rowOf (.drawn 5) [none]).equals (.constraint (rowOf (.drawn 6) [some (.text "x")])) =
        .ok true ∧
      (rowOf (.drawn 5) [none]).text = .ok "@Grid(rows=[[]])" ∧
      (rowOf (.drawn 6) [some (.text "x")]).text = .ok "@Grid(rows=[[\"x\"]])" ∧
      ∃ record : Value, record.equalTo record = .ok true ∧ record.describe = .error .misuse :=
  ⟨rfl, rfl, rfl, .record (.drawn 7) false [("annotationType", .function (.drawn 8) "f"),
    ("attribute", .function (.drawn 9) "g"), ("toString", .null)], Value.equalTo_self _, rfl⟩

end Constraint

end AttributeContracts
