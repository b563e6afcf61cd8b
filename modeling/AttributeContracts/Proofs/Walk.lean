/-
# Walks that stop at a failure

A walk goes along the parts of a value, depth first, and stops at the first reading that fails.
Which failure that is can be said with paths alone: it stands on the path that comes before all
other failing ones, by the number of parts that come before at each of its places.

The walks of this library are made of smaller ones, by a step that is taken at each part of a
list in turn. So what is shown of a walk is shown once, for such a step.
-/

import AttributeContracts.Proofs.First
import AttributeContracts.Proofs.Parts

namespace AttributeContracts

open Outcome

/-- A failure on some path, before which no other path fails. Paths are ordered as they are
walked, depth first. -/
def FirstFailing (fails : List Place → Failure → Prop) (failure : Failure) : Prop :=
  ∃ path, fails path failure ∧
    ∀ earlier cause, fails earlier cause → ¬earlier.map Place.index < path.map Place.index

/-- An outcome that comes of a walk along some paths: it is the first failure on them, and there
is none where it answers. -/
structure Walks {α : Type} (outcome : Except Failure α)
    (fails : List Place → Failure → Prop) : Prop where
  first : ∀ failure, outcome = .error failure ↔ FirstFailing fails failure
  clear : ∀ result, outcome = .ok result → ∀ path failure, ¬fails path failure

namespace Walks

variable {α β : Type} {outcome : Except Failure α} {fails : List Place → Failure → Prop}

/-- A walk that cannot fail. -/
theorem of_clear {result : α} (answers : outcome = .ok result)
    (clear : ∀ path failure, ¬fails path failure) : Walks outcome fails where
  first failure := by
    constructor
    · intro failed
      cases answers.symm.trans failed
    · rintro ⟨path, failed, _⟩
      exact absurd failed (clear path failure)
  clear _ _ := clear

/-- A walk that fails before it has begun. -/
theorem of_error (cause : Failure) :
    Walks (.error cause : Except Failure α) fun path failure => path = [] ∧ failure = cause where
  first failure := by
    constructor
    · intro same
      cases same
      exact ⟨[], ⟨rfl, rfl⟩, fun _ _ _ => List.not_lt_nil _⟩
    · rintro ⟨_, ⟨_, rfl⟩, _⟩
      rfl
  clear result never := nomatch never

theorem congr_paths (walks : Walks outcome fails) {others : List Place → Failure → Prop}
    (same : ∀ path failure, others path failure ↔ fails path failure) : Walks outcome others := by
  have all : others = fails := funext fun path => funext fun failure => propext (same path failure)
  rw [all]
  exact walks

/-- What answers and fails together with a walk is one. -/
theorem congr (walks : Walks outcome fails) {other : Except Failure β}
    (same : ∀ failure, other = .error failure ↔ outcome = .error failure) :
    Walks other fails where
  first failure := (same failure).trans (walks.first failure)
  clear result answered path failure := by
    cases ended : outcome with
    | ok value => exact walks.clear value ended path failure
    | error cause => cases answered.symm.trans ((same cause).2 ended)

/-- It fails exactly when some path does. -/
theorem exists_error_iff (walks : Walks outcome fails) :
    (∃ failure, outcome = .error failure) ↔ ∃ path failure, fails path failure := by
  constructor
  · rintro ⟨failure, failed⟩
    obtain ⟨path, fails, _⟩ := (walks.first failure).1 failed
    exact ⟨path, failure, fails⟩
  · rintro ⟨path, failure, failed⟩
    cases ended : outcome with
    | ok value => exact absurd failed (walks.clear value ended path failure)
    | error cause => exact ⟨cause, rfl⟩

/-- A step is taken at each part of a list in turn, and is a walk itself. Then all of them are a
walk along the paths that begin at the place of a part. -/
theorem mapM {step : α → Except Failure β} {elements : List α} (place : Nat → α → Place)
    (indexed : ∀ index element, (place index element).index = index)
    {below : α → List Place → Failure → Prop}
    (walks : ∀ element ∈ elements, Walks (step element) (below element))
    (splits : ∀ path failure, fails path failure ↔ ∃ index element rest,
      elements[index]? = some element ∧ path = place index element :: rest ∧
        below element rest failure) :
    Walks (elements.mapM step) fails where
  first failure := by
    rw [mapM_eq_error_iff]
    constructor
    · rintro ⟨index, element, isFirst, failed⟩
      have held := List.mem_of_getElem? isFirst.listed
      obtain ⟨rest, fails, least⟩ := ((walks element held).first failure).1 failed
      refine ⟨place index element :: rest,
        (splits _ _).2 ⟨index, element, rest, isFirst.listed, rfl, fails⟩, ?_⟩
      intro earlier cause failsEarlier less
      obtain ⟨before, other, later, listed, rfl, failsLater⟩ := (splits _ _).1 failsEarlier
      rw [List.map_cons, List.map_cons, indexed, indexed, List.cons_lt_cons_iff] at less
      rcases less with less | ⟨rfl, less⟩
      · -- An earlier part was passed, so nothing fails in it.
        obtain ⟨result, answered⟩ := isFirst.earlier before other less listed
        exact (walks other (List.mem_of_getElem? listed)).clear result answered later cause
          failsLater
      · cases isFirst.listed.symm.trans listed
        exact least later cause failsLater less
    · rintro ⟨path, fails, least⟩
      obtain ⟨index, element, rest, listed, rfl, failsRest⟩ := (splits _ _).1 fails
      have failed : step element = .error failure := by
        refine ((walks element (List.mem_of_getElem? listed)).first failure).2
          ⟨rest, failsRest, fun earlier cause failsEarlier less => ?_⟩
        refine least (place index element :: earlier) cause
          ((splits _ _).2 ⟨index, element, earlier, listed, rfl, failsEarlier⟩) ?_
        rw [List.map_cons, List.map_cons, List.cons_lt_cons_iff]
        exact .inr ⟨rfl, less⟩
      refine ⟨index, element, ⟨listed, ?_, ?_⟩, failed⟩
      · rintro ⟨result, answered⟩
        cases failed.symm.trans answered
      · intro before other less isOther
        cases ended : step other with
        | ok result => exact ⟨result, ended⟩
        | error cause =>
            obtain ⟨later, failsLater, _⟩ :=
              ((walks other (List.mem_of_getElem? isOther)).first cause).1 ended
            refine absurd ?_ (least (place before other :: later) cause
              ((splits _ _).2 ⟨before, other, later, isOther, rfl, failsLater⟩))
            rw [List.map_cons, List.map_cons, indexed, indexed, List.cons_lt_cons_iff]
            exact .inl less
  clear results mapped path failure failed := by
    obtain ⟨index, element, rest, listed, rfl, failsRest⟩ := (splits _ _).1 failed
    have held := List.mem_of_getElem? listed
    obtain ⟨result, answered⟩ := exists_mapM_iff.1 ⟨results, mapped⟩ element held
    exact (walks element held).clear result answered rest failure failsRest

end Walks

end AttributeContracts
