/-
# Enumeration and lookup of members

A record is kept as the assignments that made it, and is read in two ways that
share no code: by looking a name up and by enumerating its members. Enumeration
only rearranges the assigned names, so it lists each of them once, and with the
value that lookup gives.
-/

import AttributeContracts.Members

namespace AttributeContracts.Members

variable {α : Type}

/-! ## The order of enumeration -/

theorem insertIndex_perm (index : Nat) (name : String) (sorted : List (Nat × String)) :
    (insertIndex index name sorted).Perm ((index, name) :: sorted) := by
  induction sorted with
  | nil => exact .refl _
  | cons other rest ih =>
      rw [insertIndex]
      split
      · exact .refl _
      · calc
          (other :: insertIndex index name rest).Perm (other :: (index, name) :: rest) :=
            ih.cons other
          List.Perm _ ((index, name) :: other :: rest) := .swap _ _ _

/-- Sorting keeps the index-like names and drops the others. -/
theorem indexNames_perm (names : List String) :
    ((indexNames names).map Prod.snd).Perm (names.filter fun name => (index? name).isSome) := by
  induction names with
  | nil => exact .refl _
  | cons name rest ih =>
      rw [indexNames]
      cases spelled : index? name with
      | none => simpa [spelled] using ih
      | some index =>
          have inserted := (insertIndex_perm index name (indexNames rest)).map Prod.snd
          simpa [spelled] using inserted.trans (ih.cons name)

/-- The order of enumeration is an order of the same names. -/
theorem ordered_perm (names : List String) : (ordered names).Perm names := by
  have complement : (fun name => !(index? name).isSome) = fun name => (index? name).isNone := by
    funext name
    cases index? name <;> rfl
  have halves := List.filter_append_perm (fun name => (index? name).isSome) names
  rw [complement] at halves
  exact ((indexNames_perm names).append_right _).trans halves

/-! ## The names of a record -/

theorem declares_iff {members : Members α} {name : String} :
    declares members name = true ↔ name ∈ members.map Prod.fst := by
  simp [declares]

theorem mem_places {members : Members α} {name : String} :
    name ∈ places members ↔ declares members name = true := by
  induction members with
  | nil => simp [places, declares]
  | cons member rest ih =>
      obtain ⟨assigned, value⟩ := member
      simp only [declares, decide_eq_true_eq, List.any_eq_true] at ih
      by_cases same : name = assigned
      · simp [places, declares, same]
      · simp [places, declares, same, Ne.symm same, ih]

theorem nodup_places (members : Members α) : (places members).Nodup := by
  induction members with
  | nil => exact List.nodup_nil
  | cons member rest ih =>
      obtain ⟨assigned, value⟩ := member
      exact List.nodup_cons.2 ⟨by simp, ih.filter _⟩

/-- Names that are each assigned once keep their order. -/
theorem places_eq_map_fst {members : Members α}
    (distinct : (members.map Prod.fst).Nodup) : places members = members.map Prod.fst := by
  induction members with
  | nil => rfl
  | cons member rest ih =>
      obtain ⟨name, value⟩ := member
      obtain ⟨fresh, others⟩ := List.nodup_cons.1 distinct
      rw [places, ih others, List.map_cons, List.filter_eq_self.2]
      intro other listed
      exact decide_eq_true fun same => fresh (same ▸ listed)

/-- Enumeration lists exactly the assigned names. -/
theorem mem_names {members : Members α} {name : String} :
    name ∈ names members ↔ declares members name = true :=
  (ordered_perm _).mem_iff.trans mem_places

/-- Enumeration lists no name twice. -/
theorem nodup_names (members : Members α) : (names members).Nodup :=
  (ordered_perm _).nodup_iff.2 (nodup_places members)

/-- An assigned name is found. -/
theorem exists_find?_of_mem {members : Members α} {name : String}
    (assigned : name ∈ members.map Prod.fst) : ∃ value, find? members name = some value := by
  rw [← Option.isSome_iff_exists, find?_isSome]
  exact declares_iff.2 assigned

/-- A record without some of its names still holds the other ones as before. -/
theorem find?_filter {keep : String → Bool} {name : String} (kept : keep name = true)
    (members : Members α) :
    find? (members.filter fun member => keep member.1) name = find? members name := by
  induction members with
  | nil => rfl
  | cons member rest ih =>
      obtain ⟨assigned, value⟩ := member
      cases held : keep assigned with
      | true => rw [List.filter_cons, held, if_pos rfl, find?_cons, find?_cons, ih]
      | false =>
          have other : assigned ≠ name := by
            rintro rfl
            exact Bool.noConfusion (held.symm.trans kept)
          rw [List.filter_cons, held, if_neg Bool.false_ne_true, ih, find?_cons, if_neg other,
            Option.or_none]

/-- A name that is not assigned is not found. -/
theorem find?_eq_none_iff {members : Members α} {name : String} :
    find? members name = none ↔ name ∉ members.map Prod.fst := by
  rw [← Option.not_isSome_iff_eq_none, find?_isSome, declares_iff]

/-- Of two records behind each other, the later one is asked first. -/
theorem find?_append (earlier later : Members α) (name : String) :
    find? (earlier ++ later) name = (find? later name).or (find? earlier name) := by
  induction earlier with
  | nil => rw [List.nil_append, find?_nil, Option.or_none]
  | cons member rest ih =>
      obtain ⟨assigned, value⟩ := member
      rw [List.cons_append, find?_cons, ih, find?_cons, Option.or_assoc]

/-- Where each name is assigned once, lookup finds every assignment. -/
theorem find?_eq_some_iff_mem {members : Members α} (distinct : (members.map Prod.fst).Nodup)
    {name : String} {value : α} :
    find? members name = some value ↔ (name, value) ∈ members := by
  refine ⟨mem_of_find?, fun held => ?_⟩
  induction members with
  | nil => exact absurd held List.not_mem_nil
  | cons member rest ih =>
      obtain ⟨fresh, others⟩ := List.nodup_cons.1 distinct
      rw [find?_cons]
      obtain rfl | later := List.mem_cons.1 held
      · rw [find?_eq_none_iff.2 fresh, if_pos rfl, Option.none_or]
      · rw [ih others later, Option.some_or]

/-- So the order of such assignments does not show in lookup. -/
theorem find?_perm {first second : Members α} (perm : first.Perm second)
    (distinct : (first.map Prod.fst).Nodup) (name : String) :
    find? first name = find? second name := by
  have alsoDistinct : (second.map Prod.fst).Nodup := (perm.map Prod.fst).nodup_iff.1 distinct
  apply Option.ext
  intro value
  rw [find?_eq_some_iff_mem distinct, find?_eq_some_iff_mem alsoDistinct, perm.mem_iff]

/-! ## The members of a record -/

/-- Enumeration lists a name with the value that lookup finds. -/
theorem mem_enumerate {members : Members α} {name : String} {value : α} :
    (name, value) ∈ enumerate members ↔ find? members name = some value := by
  simp only [enumerate, List.mem_filterMap, Option.map_eq_some_iff, Prod.mk.injEq]
  constructor
  · rintro ⟨listed, _, found, isFound, rfl, rfl⟩
    exact isFound
  · intro found
    have declared : declares members name = true := by
      rw [← find?_isSome, found, Option.isSome_some]
    exact ⟨name, mem_names.2 declared, value, found, rfl, rfl⟩

/-- What is enumerated is a record again, in which every name has the value that it had. -/
theorem find?_enumerate (members : Members α) (name : String) :
    find? (enumerate members) name = find? members name := by
  cases found : find? members name with
  | none =>
      rw [Option.eq_none_iff_forall_ne_some]
      intro value held
      exact nomatch found.symm.trans (mem_enumerate.1 (mem_of_find? held))
  | some value =>
      have listed : name ∈ (enumerate members).map Prod.fst :=
        List.mem_map_of_mem (mem_enumerate.2 found)
      obtain ⟨held, isHeld⟩ := exists_find?_of_mem listed
      rw [isHeld, ← found, mem_enumerate.1 (mem_of_find? isHeld)]

/-- Every name of a record is enumerated, in its order. -/
theorem map_fst_enumerate (members : Members α) :
    (enumerate members).map Prod.fst = names members := by
  have listed : ∀ name ∈ names members, ∃ value, find? members name = some value := by
    intro name declared
    rw [← Option.isSome_iff_exists, find?_isSome]
    exact mem_names.1 declared
  rw [enumerate, List.map_filterMap]
  generalize names members = shown at listed
  induction shown with
  | nil => rfl
  | cons name rest ih =>
      rw [List.forall_mem_cons] at listed
      obtain ⟨⟨value, found⟩, others⟩ := listed
      simp only [List.filterMap_cons, found, Option.map_some]
      rw [ih others]

end AttributeContracts.Members
