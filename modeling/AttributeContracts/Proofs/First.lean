/-
# The first of a list

Many operations of this library go through a list in turn and stop at the first element at
which they fail. Which element that is, and at what place, is a fact about the list alone.
-/

import AttributeContracts.Proofs.Outcome

namespace AttributeContracts

/-- The first element of a list, with its place, of which something does not hold. What it
is may depend on the place. -/
structure FirstWithout {α : Type} (holds : Nat → α → Prop) (elements : List α)
    (place : Nat) (element : α) : Prop where
  listed : elements[place]? = some element
  lacks : ¬holds place element
  earlier : ∀ before other, before < place → elements[before]? = some other → holds before other

namespace FirstWithout

variable {α : Type} {holds other : Nat → α → Prop} {first found : α} {rest elements : List α}
  {place : Nat}

/-- Where the first element lacks it, no other one is looked at. -/
theorem cons_self_iff (lacks : ¬holds 0 first) :
    FirstWithout holds (first :: rest) place found ↔ place = 0 ∧ found = first := by
  constructor
  · rintro ⟨listed, _, earlier⟩
    cases place with
    | zero => exact ⟨rfl, (Option.some.inj listed).symm⟩
    | succ before => exact absurd (earlier 0 first (Nat.succ_pos before) rfl) lacks
  · rintro ⟨rfl, rfl⟩
    exact ⟨rfl, lacks, fun before _ less => absurd less (Nat.not_lt_zero before)⟩

/-- Behind an element that has it, the first without it is that of the rest. -/
theorem cons_iff (has : holds 0 first) :
    FirstWithout holds (first :: rest) place found ↔
      ∃ before, place = before + 1 ∧
        FirstWithout (fun place => holds (place + 1)) rest before found := by
  constructor
  · rintro ⟨listed, lacks, earlier⟩
    cases place with
    | zero =>
        cases listed
        exact absurd has lacks
    | succ before =>
        refine ⟨before, rfl, listed, lacks, fun place other less => ?_⟩
        exact earlier (place + 1) other (Nat.succ_lt_succ less)
  · rintro ⟨before, rfl, listed, lacks, earlier⟩
    refine ⟨listed, lacks, fun place other less held => ?_⟩
    cases place with
    | zero =>
        cases held
        exact has
    | succ place => exact earlier place other (Nat.lt_of_succ_lt_succ less) held

/-- Two conditions that agree on the elements of a list have one first element without
them. -/
theorem congr (agree : ∀ place element, elements[place]? = some element →
      (holds place element ↔ other place element)) :
    FirstWithout holds elements place found ↔ FirstWithout other elements place found := by
  constructor
  · rintro ⟨listed, lacks, earlier⟩
    exact ⟨listed, mt (agree place found listed).2 lacks, fun before element less held =>
      (agree before element held).1 (earlier before element less held)⟩
  · rintro ⟨listed, lacks, earlier⟩
    exact ⟨listed, mt (agree place found listed).1 lacks, fun before element less held =>
      (agree before element held).2 (earlier before element less held)⟩

end FirstWithout

namespace Outcome

variable {ε α β : Type} {step : α → Except ε β} {elements : List α}

/-- Whether a step answers for an element, at whatever place that stands. -/
def Answers (step : α → Except ε β) (_place : Nat) (element : α) : Prop :=
  ∃ result, step element = .ok result

/-- A step that is taken for the elements of a list in turn fails with the first element for
which it fails. -/
theorem mapM_eq_error_iff {failure : ε} :
    elements.mapM step = .error failure ↔ ∃ place element,
      FirstWithout (Answers step) elements place element ∧ step element = .error failure := by
  induction elements with
  | nil =>
      constructor
      · intro failed
        cases failed
      · rintro ⟨place, element, first, _⟩
        exact nomatch first.listed
  | cons element rest ih =>
      rw [List.mapM_cons]
      cases stepped : step element with
      | error cause =>
          have lacks : ¬Answers step 0 element := by simp [Answers, stepped]
          simp only [FirstWithout.cons_self_iff lacks, error_bind, Except.error.injEq]
          constructor
          · rintro rfl
            exact ⟨0, element, ⟨rfl, rfl⟩, stepped⟩
          · rintro ⟨_, _, ⟨rfl, rfl⟩, failed⟩
            exact Except.error.inj (stepped.symm.trans failed)
      | ok result =>
          have has : Answers step 0 element := ⟨result, stepped⟩
          have others : (do
              let results ← rest.mapM step
              pure (result :: results) : Except ε (List β)) = .error failure ↔
                rest.mapM step = .error failure := by
            cases rest.mapM step <;> simp [pure, Except.pure]
          simp only [FirstWithout.cons_iff has, ok_bind]
          rw [others, ih]
          constructor
          · rintro ⟨place, found, first, failed⟩
            exact ⟨place + 1, found, ⟨place, rfl, first⟩, failed⟩
          · rintro ⟨_, found, ⟨place, rfl, first⟩, failed⟩
            exact ⟨place, found, first, failed⟩

/-- It answers when it answers for each of them, with the results in the same places. -/
theorem mapM_eq_ok_iff {results : List β} :
    elements.mapM step = .ok results ↔ elements.length = results.length ∧
      ∀ (place : Nat) (element : α) (result : β), elements[place]? = some element →
        results[place]? = some result → step element = .ok result := by
  induction elements generalizing results with
  | nil =>
      cases results with
      | nil => exact ⟨fun _ => ⟨rfl, nofun⟩, fun _ => rfl⟩
      | cons => exact ⟨nofun, fun same => nomatch same.1⟩
  | cons element rest ih =>
      rw [List.mapM_cons, bind_eq_ok]
      constructor
      · rintro ⟨first, stepped, going⟩
        obtain ⟨others, mapped, made⟩ := bind_eq_ok.1 going
        cases made
        obtain ⟨lengths, places⟩ := ih.1 mapped
        refine ⟨congrArg (· + 1) lengths, fun place asked result isAsked isResult => ?_⟩
        cases place with
        | zero =>
            cases isAsked
            cases isResult
            exact stepped
        | succ place => exact places place asked result isAsked isResult
      · rintro ⟨lengths, places⟩
        cases results with
        | nil => cases lengths
        | cons first others =>
            have mapped := ih.2 ⟨Nat.succ.inj lengths, fun place => places (place + 1)⟩
            exact ⟨first, places 0 element first rfl rfl, by rw [mapped]; rfl⟩

/-- It answers exactly when it answers for each of them. -/
theorem exists_mapM_iff : (∃ results, elements.mapM step = .ok results) ↔
    ∀ element ∈ elements, ∃ result, step element = .ok result := by
  constructor
  · rintro ⟨results, mapped⟩ element held
    obtain ⟨lengths, places⟩ := mapM_eq_ok_iff.1 mapped
    obtain ⟨place, inside, rfl⟩ := List.mem_iff_getElem.1 held
    have there : place < results.length := lengths ▸ inside
    exact ⟨results[place], places place _ _ (List.getElem?_eq_getElem inside)
      (List.getElem?_eq_getElem there)⟩
  · exact mapM_answers

/-- A question that every answered step affirms is affirmed when all steps are answered. -/
theorem allM_bind_true : elements.allM (fun element => step element >>= fun _ => .ok true) =
    elements.mapM step >>= fun _ => .ok true := by
  induction elements with
  | nil => rfl
  | cons element rest ih =>
      rw [allM_cons, List.mapM_cons, ih]
      cases step element with
      | error failure => rfl
      | ok result =>
          rw [ok_bind, ok_bind, ok_bind, if_pos rfl]
          cases rest.mapM step <;> rfl

end Outcome

end AttributeContracts
