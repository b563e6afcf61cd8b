/-
# Three ways to find an attribute

A name can be asked for among the own names of a constraint type, looked up as one accessor, or
searched for in the snapshot of all accessors. The three share no code: one scans the definitions,
one takes the last definition of the name, and one enumerates a record.

They find the same. A name is found in all three ways or in none, and where it is found there is
one accessor, made from the last definition given for it. Nothing but a definition counts, so a
name such as `toString` or `constructor`, which every record answers to, is found only where a
type declares it.

The snapshot starts with the declared numbers, ascending, and goes on with the other names in the
order in which they were first defined. This is stated of the definitions as a plain list, without
the views that a record has of itself.
-/

import AttributeContracts.Proofs.Accessors
import AttributeContracts.Proofs.Enumeration

namespace AttributeContracts

namespace Members

variable {α : Type}

/-- The value of a name is the first one from the end. -/
theorem find?_eq_lookup_reverse (members : Members α) (name : String) :
    find? members name = members.reverse.lookup name := by
  induction members with
  | nil => rfl
  | cons member rest ih =>
      obtain ⟨assigned, value⟩ := member
      rw [find?_cons, ih, List.reverse_cons, List.lookup_append]
      congr 1
      by_cases same : assigned = name
      · simp [same]
      · have other : (name == assigned) = false := by simpa using Ne.symm same
        rw [if_neg same, List.lookup_cons, other]
        rfl

/-- A record without some of its names has its other places as before. -/
theorem places_filter (keep : String → Bool) (members : Members α) :
    places (members.filter fun member => keep member.1) = (places members).filter keep := by
  induction members with
  | nil => rfl
  | cons member rest ih =>
      obtain ⟨name, value⟩ := member
      cases kept : keep name with
      | true =>
          rw [List.filter_cons_of_pos (by exact kept), places, places, ih,
            List.filter_cons_of_pos kept, List.filter_filter, List.filter_filter]
          simp only [Bool.and_comm]
      | false =>
          have dropped : ∀ other ∈ places rest,
              (keep other && decide (other ≠ name)) = keep other := by
            intro other _
            by_cases same : other = name
            · rw [same, kept, Bool.false_and]
            · rw [decide_eq_true same, Bool.and_true]
          rw [List.filter_cons_of_neg (by simp [kept]), places,
            List.filter_cons_of_neg (by simp [kept]), List.filter_filter, ih]
          exact (List.filter_congr dropped).symm

/-- A record keeps the place that each name has first. -/
theorem places_eq_eraseDups (members : Members α) :
    places members = (members.map Prod.fst).eraseDups := by
  match members with
  | [] => rfl
  | (name, _) :: rest =>
      have others := places_eq_eraseDups (rest.filter fun member => member.1 ≠ name)
      rw [places, ← places_filter fun other => decide (other ≠ name), others, List.map_cons,
        List.eraseDups_cons, List.filter_map]
      congr 3
      apply List.filter_congr
      intro member _
      rw [decide_not]
      rfl
termination_by members.length
decreasing_by exact Nat.lt_succ_of_le (List.length_filter_le _ _)

/-- The names of a record as they are enumerated: the numbers among them, ascending, and then the
other names by their first places. -/
theorem exists_names_eq (members : Members α) :
    ∃ indices : List Nat, indices.Pairwise (· < ·) ∧
      (∀ index, index ∈ indices ↔ index ≤ greatestIndex ∧ index.repr ∈ members.map Prod.fst) ∧
      names members = indices.map Nat.repr ++
        (members.map Prod.fst).eraseDups.filter fun name => name ∉ indices.map Nat.repr := by
  have spelled : (indexNames (places members)).map Prod.snd =
      ((indexNames (places members)).map Prod.fst).map Nat.repr := by
    rw [List.map_map]
    apply List.map_congr_left
    intro entry held
    exact eq_repr_of_index? (mem_indexNames.1 held).2
  have listed (index : Nat) : index ∈ (indexNames (places members)).map Prod.fst ↔
      index ≤ greatestIndex ∧ index.repr ∈ members.map Prod.fst := by
    simp only [List.mem_map (f := Prod.fst) (l := indexNames _), Prod.exists, exists_and_right,
      exists_eq_right, mem_indexNames, index?_eq_some_iff, mem_places, declares_iff]
    constructor
    · rintro ⟨_, held, rfl, within⟩
      exact ⟨within, held⟩
    · rintro ⟨within, held⟩
      exact ⟨_, held, rfl, within⟩
  refine ⟨(indexNames (places members)).map Prod.fst, ?_, listed, ?_⟩
  · have distinct : ((indexNames (places members)).map Prod.fst).Nodup := by
      have apart : (((indexNames (places members)).map Prod.fst).map Nat.repr).Nodup := by
        rw [← spelled]
        exact (indexNames_perm _).nodup_iff.2 ((nodup_places members).filter _)
      exact List.Pairwise.of_map Nat.repr (fun _ _ differ same => differ (congrArg Nat.repr same))
        apart
    have ascending := List.pairwise_map.2 (pairwise_indexNames (places members))
    exact (ascending.and distinct).imp fun steps => Nat.lt_of_le_of_ne steps.1 steps.2
  · rw [names, ordered, spelled, ← places_eq_eraseDups]
    congr 1
    apply List.filter_congr
    intro name held
    rw [← spelled, Bool.eq_iff_iff, decide_eq_true_eq, (indexNames_perm _).mem_iff,
      List.mem_filter, Option.isNone_iff_eq_none, ← Option.not_isSome_iff_eq_none]
    exact ⟨fun other listed => other listed.2, fun unlisted spelled => unlisted ⟨held, spelled⟩⟩

end Members

namespace ConstraintType

/-- The snapshot holds, under a name, the accessor that is found by it and no other. -/
theorem filter_name_accessors (type : ConstraintType) (name : String) :
    type.accessors.filter (fun accessor => accessor.name = name) =
      (type.accessor? name).toList := by
  have distinct : type.accessors.Nodup := by
    have apart : (type.accessors.map Accessor.name).Nodup := by
      rw [map_name_accessors]
      exact Members.nodup_names type.definitions
    exact List.Pairwise.of_map Accessor.name
      (fun _ _ differ same => differ (congrArg Accessor.name same)) apart
  have held (accessor : Accessor) :
      accessor ∈ type.accessors.filter (fun accessor => accessor.name = name) ↔
        type.accessor? name = some accessor := by
    rw [List.mem_filter, mem_accessors, decide_eq_true_eq]
    constructor
    · rintro ⟨found, rfl⟩
      exact found
    · intro found
      obtain ⟨rfl, _⟩ := definition_of_accessor? found
      exact ⟨found, rfl⟩
  cases found : type.accessor? name with
  | none =>
      rw [Option.toList_none, List.eq_nil_iff_forall_not_mem]
      intro accessor listed
      cases found.symm.trans ((held accessor).1 listed)
  | some accessor =>
      rw [Option.toList_some, ← List.perm_singleton,
        List.perm_ext_iff_of_nodup (distinct.filter _) (List.pairwise_singleton _ accessor)]
      intro other
      rw [held, found, Option.some.injEq, List.mem_singleton, eq_comm]

/-- The three ways to find an attribute agree. A name is an own name of a type, has an accessor of
its own and stands in the snapshot exactly once, or it is none of this; and it is the first where
some definition bears it. The accessor that is looked up is the one in the snapshot, with the type
and the default of the last definition. The snapshot lists every name once: the numbers among the
declared names ascend, and the others follow in the order in which they were first defined. -/
theorem lookups_agree (type : ConstraintType) :
    (∀ name : String,
      (type.declares name = true ↔ name ∈ type.definitions.map Prod.fst) ∧
      (type.declares name = true ↔ ∃ accessor, type.accessor? name = some accessor) ∧
      (type.declares name = true ↔
        (type.accessors.filter fun accessor => accessor.name = name).length = 1) ∧
      (type.accessors.filter fun accessor => accessor.name = name) =
        (type.accessor? name).toList ∧
      type.accessor? name = (type.definitions.reverse.lookup name).map fun definition =>
        ⟨name, definition.type, definition.defaultValue⟩) ∧
    (type.accessors.map Accessor.name).Nodup ∧
    ∃ indices : List Nat, indices.Pairwise (· < ·) ∧
      (∀ index, index ∈ indices ↔
        index ≤ 4294967294 ∧ index.repr ∈ type.definitions.map Prod.fst) ∧
      type.accessors.map Accessor.name = indices.map Nat.repr ++
        (type.definitions.map Prod.fst).eraseDups.filter
          fun name => name ∉ indices.map Nat.repr := by
  refine ⟨fun name => ?_, ?_, ?_⟩
  · have found : type.declares name = (type.accessor? name).isSome := by
      rw [declares_eq_isSome, accessor?, Option.isSome_map]
    refine ⟨Members.declares_iff, ?_, ?_, filter_name_accessors type name, ?_⟩
    · rw [found, Option.isSome_iff_exists]
    · rw [found, filter_name_accessors]
      cases type.accessor? name <;> simp
    · rw [accessor?, definition?, Members.find?_eq_lookup_reverse]
      rfl
  · rw [map_name_accessors]
    exact Members.nodup_names type.definitions
  · rw [map_name_accessors]
    exact Members.exists_names_eq type.definitions

/-- A type that declares an inherited name, twice, and numbers out of their order. -/
def crate : ConstraintType where
  identity := .drawn 1
  name := "example.Crate"
  definitions :=
    [("toString", ⟨.number, none⟩), ("10", ⟨.number, none⟩), ("01", ⟨.number, none⟩),
      ("2", ⟨.number, none⟩), ("toString", ⟨.string, none⟩)]

example : crate.accessors.map Accessor.name = ["2", "10", "toString", "01"] ∧
    (crate.accessor? "toString").map Accessor.type = some .string ∧
    crate.declares "constructor" = false := by decide

end ConstraintType

end AttributeContracts
