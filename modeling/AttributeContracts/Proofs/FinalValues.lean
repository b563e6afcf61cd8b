/-
# Only the values of declared names decide

Of all that a builder has been through, its constraint shows nothing but the last value of each
declared name. Two builders of one type that hold the same under the declared names make
constraints that cannot be told apart, or fail alike, wherever their scopes answer alike.

So it does not matter in which way a builder was begun, in which order its values came, what was
overwritten or refused, and what it holds under well-known names that its type does not declare.
The identity of a constraint is the one thing that stays its own, and it is left out here.
-/

import AttributeContracts.Proofs.LastWrite
import AttributeContracts.Proofs.Repeatability

namespace AttributeContracts

open Outcome

/-- Two outcomes of making a constraint that cannot be told apart: the same failure, or two
constraints of one type that look the same and answer every name alike. -/
inductive Constraint.MadeAlike : Except Failure Constraint → Except Failure Constraint → Prop
  | failed (failure : Failure) : MadeAlike (.error failure) (.error failure)
  | made {first second : Constraint} (type : first.annotationType = second.annotationType)
      (text : first.text = second.text) (plain : first.toPlain = second.toPlain)
      (reads : ∀ name, first.valueOf name = second.valueOf name) :
      MadeAlike (.ok first) (.ok second)

/-- Constraints of one type with the same stored values differ in who made them at most. -/
theorem Constraint.madeAlike_synthesized (one two : Identity) (type : ConstraintType)
    (values : List (String × Value)) :
    MadeAlike (.ok (synthesized one type values)) (.ok (synthesized two type values)) :=
  .made rfl (text_congr fun _ _ => rfl) (toPlain_congr fun _ _ => rfl)
    (congrFun (valueOf_twin one two type values))

namespace Builder

variable {builder first second : Builder}

/-- Two builders whose constraints cannot be told apart, from any two sessions in which their
scopes answer alike when they are asked for a new constraint. -/
def MakeAlike (first second : Builder) : Prop :=
  ∀ one two : Session,
    one.permits first.scope? .createInstance = two.permits second.scope? .createInstance →
      Constraint.MadeAlike (first.createConstraint.run one).1 (second.createConstraint.run two).1

/-! ## What decides -/

/-- Resolving looks a builder up under the names of the accessors and nowhere else. -/
theorem resolveAll_congr {accessors : List Accessor} (ofType : first.type = second.type)
    (agree : ∀ accessor ∈ accessors, first.get? accessor.name = second.get? accessor.name) :
    first.resolveAll accessors = second.resolveAll accessors := by
  induction accessors with
  | nil => rfl
  | cons accessor rest ih =>
      obtain ⟨here, others⟩ := List.forall_mem_cons.1 agree
      rw [get?, get?] at here
      rw [resolveAll, resolveAll, resolve, resolve, here, ofType, ih others]

/-- Builders that agree on the names that their type declares make the same of them. -/
theorem makeAlike_of_agree (one : first.accessors = first.type.accessors)
    (two : second.accessors = second.type.accessors) (ofType : first.type = second.type)
    (agree : ∀ name, first.type.declares name = true → first.get? name = second.get? name) :
    first.MakeAlike second := by
  intro session other permitted
  have resolves : first.resolveAll first.accessors = second.resolveAll second.accessors := by
    rw [one, two, ← ofType]
    refine resolveAll_congr ofType fun accessor held => agree accessor.name ?_
    rw [← ConstraintType.mem_attributeNames, ← ConstraintType.map_name_accessors]
    exact List.mem_map_of_mem held
  rw [run_createConstraint_fst, run_createConstraint_fst, resolves, permitted, ofType]
  cases second.resolveAll second.accessors with
  | error lack => exact .failed lack
  | ok values =>
      cases other.permits second.scope? .createInstance with
      | error refusal => exact .failed (creationFailure second.type refusal)
      | ok _ => exact Constraint.madeAlike_synthesized _ _ second.type _

/-! ## Histories -/

/-- However a builder came about, it holds some writes. -/
theorem Reachable.exists_holds (reachable : builder.Reachable) :
    ∃ writes, builder.Holds writes := by
  induction reachable with
  | build genuine origin options built => exact ⟨origin.writes, (holds_of_build genuine built).1⟩
  | change _ asked ih =>
      obtain ⟨writes, holds⟩ := ih
      exact ⟨_, holds.after (.change asked)⟩

/-- What some requests leave under an admitted name is the last of their writes, or else what
was there. -/
theorem Reachable.get?_foldl_after (reachable : builder.Reachable) {name : String}
    (admitted : builder.admits name = true) (requests : List Request) :
    (requests.foldl after builder).get? name =
      (Members.find? (requests.filterMap Request.write?) name).or (builder.get? name) := by
  obtain ⟨writes, holds⟩ := reachable.exists_holds
  rw [(holds.foldl_after requests).get?_eq, Members.find?_append, Members.find?_filter admitted,
    ← holds.get?_eq]

/-- Two histories of a builder that write the same last values under the declared names lead to
builders that make the same of them. -/
theorem makeAlike_foldl_after (reachable : builder.Reachable) {requests others : List Request}
    (agree : ∀ name, builder.type.declares name = true →
      Members.find? (requests.filterMap Request.write?) name =
        Members.find? (others.filterMap Request.write?) name) :
    (requests.foldl after builder).MakeAlike (others.foldl after builder) := by
  have one := sameFrame_foldl_after builder requests
  have two := sameFrame_foldl_after builder others
  have snapshot := reachable.accessors_eq
  refine makeAlike_of_agree (by rw [one.accessors, one.type, snapshot])
    (by rw [two.accessors, two.type, snapshot]) (one.type.trans two.type.symm) ?_
  intro name declared
  rw [one.type] at declared
  have admitted : builder.admits name = true := admits_iff.2 (.inl declared)
  rw [reachable.get?_foldl_after admitted, reachable.get?_foldl_after admitted,
    agree name declared]

/-- The constraint of a builder depends on the last value of each declared name alone. Two
builders of one type, however they came about, that hold the same or nothing under each declared
name make constraints that cannot be told apart or fail alike. In particular the order of
changes under different names does not matter, whatever is asked afterwards, and neither do any
requests that write under no declared name. -/
theorem makeAlike_of_declared_values (one : first.Reachable) (two : second.Reachable)
    (ofType : first.type = second.type) :
    ((∀ name, first.type.declares name = true → first.get? name = second.get? name) →
      first.MakeAlike second) ∧
    (∀ changes others : List BuilderChange, changes.Perm others →
      (changes.map fun change => change.write.1).Nodup → ∀ later : List Request,
        ((changes.map Request.change ++ later).foldl after first).MakeAlike
          ((others.map Request.change ++ later).foldl after first)) ∧
    ∀ requests others : List Request,
      (requests.filterMap Request.write?).filter (fun write => first.type.declares write.1) =
        (others.filterMap Request.write?).filter (fun write => first.type.declares write.1) →
      (requests.foldl after first).MakeAlike (others.foldl after first) := by
  refine ⟨makeAlike_of_agree one.accessors_eq two.accessors_eq ofType, ?_, ?_⟩
  · intro changes others perm distinct later
    refine makeAlike_foldl_after one fun name _ => ?_
    have writes (changes : List BuilderChange) :
        (changes.map Request.change).filterMap Request.write? =
          changes.map BuilderChange.write := by
      rw [List.filterMap_map]
      exact congrFun List.filterMap_eq_map changes
    rw [List.filterMap_append, List.filterMap_append, Members.find?_append, Members.find?_append,
      writes, writes, Members.find?_perm (perm.map _) (by rwa [List.map_map])]
  · intro requests others same
    refine makeAlike_foldl_after one fun name declared => ?_
    have kept (writes : List (String × Value)) :
        Members.find? (writes.filter fun write => first.type.declares write.1) name =
          Members.find? writes name := Members.find?_filter declared writes
    rw [← kept, same, kept]

/-- A dimmer without a scope that was begun from a record and then refused a name and given a
payload. -/
def lateDimmer : Builder :=
  (((Builder.mk dimmer dimmer.accessors .empty none .silent).store "level" .undefined).change
    (.put "toString" .null)).change (.setPayload (.array []))

/-- Two orders of the same two changes. -/
def brightened : List BuilderChange := [.setMessage (.text "bright"), .put "level" (.bool true)]

/-- It makes the same of its values as the dimmer with groups, and neither order of two changes
and a payload that is put between requests makes a difference to that one. -/
theorem makeAlike_of_declared_values_dimmer :
    (∃ constraint other, (dimmerBuilder.createConstraint.run .restricted).1 = .ok constraint ∧
      (lateDimmer.createConstraint.run .initial).1 = .ok other ∧
      constraint.text = other.text ∧ constraint.toPlain = other.toPlain ∧
      ∀ name, constraint.valueOf name = other.valueOf name) ∧
    ((brightened.map Request.change ++ [Request.create]).foldl after dimmerBuilder).MakeAlike
      ((brightened.reverse.map Request.change ++ [Request.create]).foldl after dimmerBuilder) ∧
    ([Request.create, .change (.setPayload (.array [])), .size].foldl after dimmerBuilder).MakeAlike
      dimmerBuilder := by
  have late : lateDimmer.Reachable := .change (.change (.build Session.genuine_initial
    (.attributes dimmer (.record [("level", .undefined)])) {} rfl) _) _
  obtain ⟨agreeing, reordered, elsewhere⟩ :=
    makeAlike_of_declared_values reachable_dimmerBuilder late rfl
  have agree : ∀ name, dimmer.declares name = true →
      dimmerBuilder.get? name = lateDimmer.get? name := by
    intro name declared
    have listed : name ∈ ["level", "message"] := ConstraintType.mem_attributeNames.2 declared
    rw [List.mem_cons, List.mem_singleton] at listed
    obtain rfl | rfl := listed <;> rfl
  refine ⟨?_, ?_, ?_⟩
  · have alike := agreeing agree .restricted .initial rfl
    have made : (dimmerBuilder.createConstraint.run .restricted).1 = .ok _ := rfl
    have again : (lateDimmer.createConstraint.run .initial).1 = .ok _ := rfl
    rw [made, again] at alike
    cases alike with
    | made _ text plain reads => exact ⟨_, _, made, again, text, plain, reads⟩
  · exact reordered brightened brightened.reverse (List.reverse_perm _).symm (by decide) [.create]
  · exact elsewhere [.create, .change (.setPayload (.array [])), .size] [] rfl

end Builder

end AttributeContracts
