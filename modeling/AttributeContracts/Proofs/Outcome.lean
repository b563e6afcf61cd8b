/-
# Outcomes that may fail

Guards, readings and comparisons answer or fail. The lemmas here open such a
computation one step at a time: a step whose first part is known, and a question
put to the elements of a list in turn, which stops at the first refusal and at the
first failure.
-/

import AttributeContracts.Failure

namespace AttributeContracts.Outcome

variable {ε α β : Type}

@[simp] theorem ok_bind (value : α) (next : α → Except ε β) :
    (Except.ok value >>= next) = next value := rfl

@[simp] theorem error_bind (failure : ε) (next : α → Except ε β) :
    (Except.error failure >>= next) = .error failure := rfl

/-- A computation in two steps answers when both steps do. -/
theorem bind_eq_ok {outcome : Except ε α} {next : α → Except ε β} {result : β} :
    (outcome >>= next) = .ok result ↔ ∃ value, outcome = .ok value ∧ next value = .ok result := by
  cases outcome with
  | ok value => simp
  | error failure => simp

@[simp] theorem mapError_ok {ε' : Type} (wrap : ε → ε') (value : α) :
    (Except.ok value).mapError wrap = .ok value := rfl

@[simp] theorem mapError_error {ε' : Type} (wrap : ε → ε') (failure : ε) :
    (Except.error failure : Except ε α).mapError wrap = .error (wrap failure) := rfl

theorem mapError_eq_ok {ε' : Type} {wrap : ε → ε'} {outcome : Except ε α} {value : α} :
    outcome.mapError wrap = .ok value ↔ outcome = .ok value := by
  constructor
  · intro kept
    cases outcome with
    | ok found =>
        cases kept
        rfl
    | error failure => cases kept
  · rintro rfl
    rfl

theorem allM_cons (test : α → Except ε Bool) (first : α) (rest : List α) :
    (first :: rest).allM test = test first >>= fun passed =>
      if passed then rest.allM test else .ok false := by
  rw [List.allM]
  congr 1
  funext passed
  cases passed <;> rfl

/-- All elements of a list pass when each of them does. -/
theorem allM_eq_ok_true {test : α → Except ε Bool} {elements : List α} :
    elements.allM test = .ok true ↔ ∀ element ∈ elements, test element = .ok true := by
  induction elements with
  | nil => simp [List.allM, pure, Except.pure]
  | cons first rest ih =>
      rw [allM_cons, bind_eq_ok, List.forall_mem_cons, ← ih]
      constructor
      · rintro ⟨passed, answered, others⟩
        cases passed with
        | false => simp at others
        | true => exact ⟨answered, others⟩
      · rintro ⟨answered, others⟩
        exact ⟨true, answered, others⟩

/-- When a list fails a test, one of its elements does. -/
theorem allM_eq_error {test : α → Except ε Bool} {elements : List α} {failure : ε}
    (failed : elements.allM test = .error failure) :
    ∃ element ∈ elements, test element = .error failure := by
  induction elements with
  | nil => cases failed
  | cons first rest ih =>
      rw [allM_cons] at failed
      cases tested : test first with
      | error cause =>
          rw [tested, error_bind] at failed
          cases failed
          exact ⟨first, List.mem_cons_self, tested⟩
      | ok passed =>
          rw [tested, ok_bind] at failed
          cases passed with
          | false => cases failed
          | true =>
              obtain ⟨element, held, fails⟩ := ih failed
              exact ⟨element, List.mem_cons_of_mem _ held, fails⟩

/-- Two questions with one answer on every element have one answer on the list. -/
theorem allM_congr {first second : α → Except ε Bool} {elements : List α}
    (agree : ∀ element ∈ elements, first element = second element) :
    elements.allM first = elements.allM second := by
  induction elements with
  | nil => rfl
  | cons element rest ih =>
      rw [List.forall_mem_cons] at agree
      rw [allM_cons, allM_cons, agree.1, ih agree.2]

/-- If a second question differs from a first one only by failing at some odd elements, then it
has the same answer on the list, or it fails there as it does at one of these elements. -/
theorem allM_eq_or_error {first second : α → Except ε Bool} {odd : α → Prop} {failure : α → ε}
    {elements : List α} (agree : ∀ element ∈ elements,
      second element = first element ∨ odd element ∧ second element = .error (failure element)) :
    elements.allM second = elements.allM first ∨ ∃ element ∈ elements,
      odd element ∧ elements.allM second = .error (failure element) := by
  induction elements with
  | nil => exact .inl rfl
  | cons element rest ih =>
      obtain ⟨here, others⟩ := List.forall_mem_cons.1 agree
      rw [allM_cons, allM_cons]
      cases here with
      | inr apart =>
          refine .inr ⟨element, List.mem_cons_self, apart.1, ?_⟩
          rw [apart.2, error_bind]
      | inl same =>
          rw [same]
          cases first element with
          | error cause => exact .inl rfl
          | ok passed =>
              cases passed with
              | false => exact .inl rfl
              | true =>
                  refine (ih others).imp id ?_
                  rintro ⟨other, held, isOdd, failed⟩
                  exact ⟨other, List.mem_cons_of_mem _ held, isOdd, failed⟩

/-- A question that is answered, and answered as a proposition is true or false. -/
def Decides (outcome : Except ε Bool) (claim : Prop) : Prop :=
  ∃ answer, outcome = .ok answer ∧ (answer = true ↔ claim)

theorem decides_decide (claim : Prop) [Decidable claim] :
    Decides (.ok (decide claim) : Except ε Bool) claim :=
  ⟨decide claim, rfl, decide_eq_true_iff⟩

/-- A refusal without a question decides what cannot hold. -/
theorem decides_false {claim : Prop} (never : ¬claim) :
    Decides (.ok false : Except ε Bool) claim :=
  ⟨false, rfl, by simp [never]⟩

theorem Decides.eq_ok_true_iff {outcome : Except ε Bool} {claim : Prop}
    (decided : Decides outcome claim) : outcome = .ok true ↔ claim := by
  obtain ⟨answer, rfl, agrees⟩ := decided
  rw [← agrees, Except.ok.injEq]

theorem Decides.congr {outcome : Except ε Bool} {claim other : Prop}
    (decided : Decides outcome claim) (same : claim ↔ other) : Decides outcome other := by
  obtain ⟨answer, answered, agrees⟩ := decided
  exact ⟨answer, answered, agrees.trans same⟩

/-- A second question that is put only after a first was affirmed. -/
theorem Decides.and {first next : Except ε Bool} {left right : Prop}
    (one : Decides first left) (two : Decides next right) :
    Decides (first >>= fun passed => if passed then next else .ok false) (left ∧ right) := by
  obtain ⟨passed, rfl, agrees⟩ := one
  cases passed with
  | false =>
      have refused : ¬left := fun holds => Bool.noConfusion (agrees.2 holds)
      exact decides_false fun both => refused both.1
  | true => exact two.congr ⟨fun holds => ⟨agrees.1 rfl, holds⟩, And.right⟩

/-- Questions that are decided one by one are decided together. -/
theorem decides_allM {test : α → Except ε Bool} {claim : α → Prop} {elements : List α}
    (decided : ∀ element ∈ elements, Decides (test element) (claim element)) :
    Decides (elements.allM test) (∀ element ∈ elements, claim element) := by
  induction elements with
  | nil => exact ⟨true, rfl, by simp⟩
  | cons first rest ih =>
      rw [List.forall_mem_cons] at decided
      rw [allM_cons]
      exact (decided.1.and (ih decided.2)).congr List.forall_mem_cons.symm

/-- A step that every element passes is passed by the list. -/
theorem mapM_answers {step : α → Except ε β} {elements : List α}
    (answers : ∀ element ∈ elements, ∃ result, step element = .ok result) :
    ∃ results, elements.mapM step = .ok results := by
  induction elements with
  | nil => exact ⟨[], rfl⟩
  | cons first rest ih =>
      rw [List.forall_mem_cons] at answers
      obtain ⟨⟨result, stepped⟩, others⟩ := answers
      obtain ⟨results, mapped⟩ := ih others
      exact ⟨result :: results, by rw [List.mapM_cons, stepped, ok_bind, mapped]; rfl⟩

/-- Two steps that agree on every element agree on the list. -/
theorem mapM_congr {first second : α → Except ε β} {elements : List α}
    (agree : ∀ element ∈ elements, first element = second element) :
    elements.mapM first = elements.mapM second := by
  induction elements with
  | nil => rfl
  | cons element rest ih =>
      rw [List.forall_mem_cons] at agree
      rw [List.mapM_cons, List.mapM_cons, agree.1, ih agree.2]

/-- A step that is taken only where there is something. -/
theorem option_mapM_eq_ok {step : α → Except ε β} {element? : Option α} {result? : Option β} :
    element?.mapM step = .ok result? ↔ (element? = none ∧ result? = none) ∨
      ∃ element result, element? = some element ∧ result? = some result ∧
        step element = .ok result := by
  cases element? with
  | none =>
      rw [Option.mapM_none]
      simp [pure, Except.pure, eq_comm]
  | some element =>
      rw [Option.mapM_some]
      cases stepped : step element with
      | error failure => simp [Functor.map, Except.map, stepped]
      | ok result =>
          simp only [Functor.map, Except.map, Except.ok.injEq, reduceCtorEq, false_and, false_or]
          constructor
          · rintro rfl
            exact ⟨element, result, rfl, rfl, stepped⟩
          · rintro ⟨_, _, ⟨⟩, rfl, alsoStepped⟩
            rw [Except.ok.inj (stepped.symm.trans alsoStepped)]

theorem option_mapM_eq_error {step : α → Except ε β} {element? : Option α} {failure : ε} :
    element?.mapM step = .error failure ↔
      ∃ element, element? = some element ∧ step element = .error failure := by
  cases element? with
  | none =>
      rw [Option.mapM_none]
      simp [pure, Except.pure]
  | some element =>
      rw [Option.mapM_some]
      cases stepped : step element <;> simp [Functor.map, Except.map, stepped]

/-- A step that goes alike at each position of two lists goes alike on both. -/
theorem mapM_congr_positions {step : α → Except ε β} {left right : List α}
    (lengths : left.length = right.length)
    (agree : ∀ (i : Nat) (x y : α), left[i]? = some x → right[i]? = some y → step x = step y) :
    left.mapM step = right.mapM step := by
  induction left generalizing right with
  | nil =>
      cases right with
      | nil => rfl
      | cons => cases lengths
  | cons x rest ih =>
      cases right with
      | nil => cases lengths
      | cons y others =>
          have first := agree 0 x y rfl rfl
          rw [List.mapM_cons, List.mapM_cons, first,
            ih (Nat.succ.inj lengths) fun i => agree (i + 1)]

end AttributeContracts.Outcome
