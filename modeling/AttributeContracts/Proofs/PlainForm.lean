/-
# Plain forms by readings

The conversion to plain form walks the value itself. Of a constraint it makes the forms of all
that is held beforehand, and looks them up by the names that were read. Since what is held
under a name has the plain form of what is read under it, the walk can be stated with readings
alone: each listed attribute in turn is read, converted and put under its name.

A synthesized constraint converts itself in the same way, but takes its own values as they are
stored. The two walks share everything except for where a value comes from.
-/

import AttributeContracts.Proofs.First
import AttributeContracts.Proofs.Parts

namespace AttributeContracts

open Outcome

/-! ## What is held and what is read -/

theorem Value.plainElements_eq (elements : List (Option Value)) :
    Value.plainElements elements = elements.mapM (Option.mapM Value.plain) := by
  induction elements with
  | nil => rfl
  | cons element rest ih =>
      cases element with
      | none => rw [Value.plainElements, List.mapM_cons, ih]; rfl
      | some value =>
          rw [Value.plainElements, List.mapM_cons, ih, Option.mapM_some]
          cases value.plain <;> rfl

theorem Value.plainMembers_eq (values : List (String × Value)) :
    Value.plainMembers values = values.map fun member => (member.1, member.2.plain) := by
  induction values with
  | nil => rfl
  | cons member rest ih =>
      obtain ⟨name, value⟩ := member
      rw [Value.plainMembers, ih, List.map_cons]

theorem Answer.plainMembers_eq (answers : List (String × Answer)) :
    Answer.plainMembers answers = answers.map fun member => (member.1, member.2.plain) := by
  induction answers with
  | nil => rfl
  | cons member rest ih =>
      obtain ⟨name, answer⟩ := member
      rw [Answer.plainMembers, ih, List.map_cons]

namespace Constraint

/-- What a constraint holds under a name is looked up there in its plain form. -/
theorem plainForm_of_holds {c : Constraint} {name : String} {value : Value}
    (held : c.Holds name value) :
    (Members.find? c.plainForms name).getD (.ok (.leaf .undefined)) = value.plain := by
  cases held with
  | @stored _ _ values =>
      rw [plainForms, Value.plainMembers_eq, Members.find?_map Value.plain, Value.stored]
      cases Members.find? values name <;> rfl
  | source => rfl
  | target => rfl
  | scripted found =>
      rw [plainForms, Answer.plainMembers_eq, Members.find?_map Answer.plain, found]
      rfl
  | absent lacking =>
      rw [plainForms, Answer.plainMembers_eq, Members.find?_map Answer.plain, lacking]
      rfl

/-- Reads an attribute and converts what it gives. -/
def plainAt (c : Constraint) (name : String) : Except Failure Plain := do
  let value ← c.valueOf name
  value.plain

end Constraint

/-- One conversion, together with the name that it is made for. -/
def Plain.named (convert : String → Except Failure Plain) (name : String) :
    Except Failure (String × Plain) := do
  let plain ← convert name
  pure (name, plain)

/-- The plain form of a constraint of a type, given its names and how each of its attributes is
converted. -/
def ConstraintType.plainInstance (type : ConstraintType) (names : List String)
    (convert : String → Except Failure Plain) : Except Failure Plain := do
  let attributes ← names.mapM (Plain.named convert)
  pure (.instance type.name (assignedMembers attributes))

/-- A synthesized constraint converts what it stores. -/
theorem Constraint.toPlain_synthesized (identity : Identity) (type : ConstraintType)
    (values : List (String × Value)) :
    (Constraint.synthesized identity type values).toPlain =
      type.plainInstance type.attributeNames fun name => (Value.stored values name).plain := rfl

/-- Any other constraint is converted by what it answers, and so is a synthesized one where it
stands below another. -/
theorem Value.plain_constraint {c : Constraint} {names : List String}
    (whole : (Value.constraint c).isConstraint = true) (listed : c.attributeNames = .ok names) :
    (Value.constraint c).plain = c.type.plainInstance names c.plainAt := by
  have answers : c.annotationType = .ok c.type := by
    rw [Constraint.annotationType, if_pos (offers_of_isConstraint whole .annotationType)]
  have converts : ∀ name ∈ names,
      (c.valueOf name >>= fun _ =>
        (Members.find? c.plainForms name).getD (.ok (.leaf .undefined)) >>= fun plain =>
          .ok (name, plain)) = Plain.named c.plainAt name := by
    intro name isListed
    rw [Plain.named, Constraint.plainAt]
    cases read : c.valueOf name with
    | error failure => rfl
    | ok value =>
        rw [ok_bind, Constraint.plainForm_of_holds
          (Constraint.holds_of_valueOf listed isListed read)]
        rfl
  rw [Value.plain, if_pos whole, Constraint.plainAttributes, listed, ok_bind, answers,
    ConstraintType.plainInstance, ← mapM_congr converts]
  rfl

/-! ## Assignment to a fresh record -/

/-- An assigned name has the value that it was last given, apart from the one that is lost. -/
theorem find?_assignedMembers {α : Type} (assignments : Members α) (name : String) :
    Members.find? (assignedMembers assignments) name =
      if name = reservedName then none else Members.find? assignments name := by
  rw [assignedMembers, Members.find?_enumerate]
  split
  · next lost =>
      rw [Members.find?_eq_none_iff]
      simp [lost]
  · next kept =>
      let keep : String → Bool := fun name => decide (name ≠ reservedName)
      have isKept : keep name = true := decide_eq_true kept
      exact Members.find?_filter isKept assignments

theorem mem_assignedMembers {α : Type} {assignments : Members α} {name : String} :
    name ∈ (assignedMembers assignments).map Prod.fst ↔
      name ∈ assignments.map Prod.fst ∧ name ≠ reservedName := by
  rw [assignedMembers, Members.map_fst_enumerate, Members.mem_names, Members.declares_iff]
  simp [and_comm]

/-- So a name that is not lost has one of the values that were assigned to it. -/
theorem exists_find?_assignedMembers {α : Type} {assignments : Members α} {name : String}
    (assigned : name ∈ assignments.map Prod.fst) (kept : name ≠ reservedName) :
    ∃ value, Members.find? (assignedMembers assignments) name = some value ∧
      (name, value) ∈ assignments := by
  obtain ⟨value, found⟩ := Members.exists_find?_of_mem assigned
  refine ⟨value, ?_, Members.mem_of_find? found⟩
  rw [find?_assignedMembers, if_neg kept, found]

/-! ## One conversion after the other -/

namespace ConstraintType

variable {type : ConstraintType} {names : List String}
  {convert other : String → Except Failure Plain}

theorem plainInstance_congr (agree : ∀ name ∈ names, convert name = other name) :
    type.plainInstance names convert = type.plainInstance names other := by
  have named : ∀ name ∈ names, Plain.named convert name = Plain.named other name := by
    intro name listed
    rw [Plain.named, Plain.named, agree name listed]
  rw [plainInstance, plainInstance, mapM_congr named]

theorem named_eq_ok_iff {name : String} {entry : String × Plain} :
    Plain.named convert name = .ok entry ↔ entry.1 = name ∧ convert name = .ok entry.2 := by
  obtain ⟨other, plain⟩ := entry
  rw [Plain.named]
  cases convert name <;> simp [pure, Except.pure, eq_comm]

theorem named_eq_error_iff {name : String} {failure : Failure} :
    Plain.named convert name = .error failure ↔ convert name = .error failure := by
  rw [Plain.named]
  cases convert name <;> simp [pure, Except.pure]

/-- It fails as the conversion of the names in turn does. -/
theorem plainInstance_eq_error_iff {failure : Failure} :
    type.plainInstance names convert = .error failure ↔ names.mapM convert = .error failure := by
  have answers (place : Nat) (name : String) :
      Answers (Plain.named convert) place name ↔ Answers convert place name := by
    simp [Answers, named_eq_ok_iff]
  have failed : type.plainInstance names convert = .error failure ↔
      names.mapM (Plain.named convert) = .error failure := by
    rw [plainInstance]
    cases names.mapM (Plain.named convert) <;> simp [pure, Except.pure]
  rw [failed, mapM_eq_error_iff, mapM_eq_error_iff]
  simp only [FirstWithout.congr fun place name _ => answers place name, named_eq_error_iff]

theorem entries_of_named {entries : List (String × Plain)}
    (mapped : names.mapM (Plain.named convert) = .ok entries) :
    entries.map Prod.fst = names ∧ ∀ entry ∈ entries, convert entry.1 = .ok entry.2 := by
  induction names generalizing entries with
  | nil =>
      cases mapped
      exact ⟨rfl, fun _ none => absurd none List.not_mem_nil⟩
  | cons name rest ih =>
      rw [List.mapM_cons] at mapped
      obtain ⟨entry, first, going⟩ := bind_eq_ok.1 mapped
      obtain ⟨others, found, made⟩ := bind_eq_ok.1 going
      cases made
      obtain ⟨listed, converted⟩ := ih found
      obtain ⟨rfl, isFirst⟩ := named_eq_ok_iff.1 first
      exact ⟨congrArg (entry.1 :: ·) listed, List.forall_mem_cons.2 ⟨isFirst, converted⟩⟩

/-- One that succeeds assigns each name in turn with its conversion. -/
theorem plainInstance_eq_assigned {plain : Plain}
    (converted : type.plainInstance names convert = .ok plain) :
    ∃ entries, plain = .instance type.name (assignedMembers entries) ∧
      entries.map Prod.fst = names ∧ ∀ entry ∈ entries, convert entry.1 = .ok entry.2 := by
  obtain ⟨entries, mapped, made⟩ := bind_eq_ok.1 converted
  cases made
  obtain ⟨listed, forms⟩ := entries_of_named mapped
  exact ⟨entries, rfl, listed, forms⟩

/-- It shows the names, and no other ones, unless one is lost. -/
theorem plainInstance_eq_ok {plain : Plain} (unreserved : reservedName ∉ names)
    (converted : type.plainInstance names convert = .ok plain) :
    ∃ attributes, plain = .instance type.name attributes ∧
      (∀ name, name ∈ attributes.map Prod.fst ↔ name ∈ names) ∧
      ∀ name ∈ names, ∃ part,
        Members.find? attributes name = some part ∧ convert name = .ok part := by
  obtain ⟨entries, rfl, rfl, forms⟩ := plainInstance_eq_assigned converted
  have kept {name : String} (listed : name ∈ entries.map Prod.fst) : name ≠ reservedName := by
    rintro rfl
    exact unreserved listed
  refine ⟨assignedMembers entries, rfl, fun name => ?_, fun name listed => ?_⟩
  · rw [mem_assignedMembers, and_iff_left_of_imp kept]
  · obtain ⟨part, found, isEntry⟩ := exists_find?_assignedMembers listed (kept listed)
    exact ⟨part, found, forms _ isEntry⟩

end ConstraintType

end AttributeContracts
