/-
# Accessors and their snapshots

The accessors of a constraint type are enumerated as a snapshot or found by name;
both give the same accessor, and a name determines it. A cache hands out snapshots
that it took earlier. Since its entries are only ever made by looking a type up,
every snapshot it hands out is the one that a fresh scan would give.
-/

import AttributeContracts.Accessor.Cache
import AttributeContracts.Proofs.Members

namespace AttributeContracts

namespace ConstraintType

/-- The listed names are the declared ones. -/
theorem mem_attributeNames {type : ConstraintType} {name : String} :
    name ∈ type.attributeNames ↔ type.declares name = true :=
  Members.mem_names

/-- A name is declared when it has a definition. -/
theorem declares_eq_isSome (type : ConstraintType) (name : String) :
    type.declares name = (type.definition? name).isSome :=
  (Members.find?_isSome type.definitions name).symm

/-- A declared name has a definition. -/
theorem exists_definition {type : ConstraintType} {name : String}
    (declared : type.declares name = true) :
    ∃ definition, type.definition? name = some definition := by
  rwa [← Option.isSome_iff_exists, ← declares_eq_isSome]

theorem declares_of_definition {type : ConstraintType} {name : String}
    {definition : AttributeDefinition} (found : type.definition? name = some definition) :
    type.declares name = true := by
  rw [declares_eq_isSome, found, Option.isSome_some]

/-- A group conversion declares its two ends. -/
theorem declares_convertGroup_iff {name : String} :
    convertGroup.declares name = true ↔ name = "from" ∨ name = "to" := by
  have listed : convertGroup.attributeNames = ["from", "to"] := rfl
  rw [← mem_attributeNames, listed, List.mem_cons, List.mem_singleton]

theorem isNone_accessor? (type : ConstraintType) (name : String) :
    (type.accessor? name).isNone = !type.declares name := by
  rw [accessor?, Option.isNone_map, ← Option.not_isSome, declares_eq_isSome]

/-- An accessor found by a name bears it, and comes from the definition of it. -/
theorem definition_of_accessor? {type : ConstraintType} {name : String} {accessor : Accessor}
    (found : type.accessor? name = some accessor) :
    accessor.name = name ∧ ∃ definition,
      type.definition? name = some definition ∧ accessor.type = definition.type := by
  obtain ⟨definition, isDefined, rfl⟩ := Option.map_eq_some_iff.1 found
  exact ⟨rfl, definition, isDefined, rfl⟩

/-- The snapshot holds exactly the accessors that are found by their names. -/
theorem mem_accessors {type : ConstraintType} {accessor : Accessor} :
    accessor ∈ type.accessors ↔ type.accessor? accessor.name = some accessor := by
  rw [accessors, List.mem_map]
  constructor
  · rintro ⟨⟨name, definition⟩, enumerated, rfl⟩
    have found : type.definition? name = some definition := Members.mem_enumerate.1 enumerated
    show (type.definition? name).map (Accessor.ofDefinition name) = _
    rw [found, Option.map_some]
  · intro found
    rw [accessor?, Option.map_eq_some_iff] at found
    obtain ⟨definition, isDefined, same⟩ := found
    exact ⟨(accessor.name, definition), Members.mem_enumerate.2 isDefined, same⟩

theorem mem_accessors_of_definition {type : ConstraintType} {name : String}
    {definition : AttributeDefinition} (found : type.definition? name = some definition) :
    Accessor.ofDefinition name definition ∈ type.accessors :=
  mem_accessors.2 (Option.map_eq_some_iff.2 ⟨definition, found, rfl⟩)

/-- A snapshot never holds two accessors of one name. -/
theorem accessor_eq_of_name {type : ConstraintType} {first second : Accessor}
    (firstHeld : first ∈ type.accessors) (secondHeld : second ∈ type.accessors)
    (same : first.name = second.name) : first = second := by
  rw [mem_accessors] at firstHeld secondHeld
  rw [same, secondHeld] at firstHeld
  exact (Option.some.inj firstHeld).symm

/-- The snapshot keeps the order in which the names are listed. -/
theorem map_name_accessors (type : ConstraintType) :
    type.accessors.map Accessor.name = type.attributeNames := by
  rw [accessors, List.map_map]
  exact Members.map_fst_enumerate type.definitions

end ConstraintType

namespace AccessorCache

/-- The caches that a program can hold: entries are private, so they only come
from lookups and only go with all others. -/
inductive Reachable : AccessorCache → Prop
  | make (namespaces : List String) (enabled : Bool) (level : LogLevel) :
      Reachable (make namespaces enabled level)
  | lookup {cache : AccessorCache} (earlier : Reachable cache) (type : ConstraintType) :
      Reachable (cache.lookup type).2
  | clear {cache : AccessorCache} (earlier : Reachable cache) : Reachable cache.clear

/-- Looking a type up changes nothing of a cache but its contents. -/
theorem clear_lookup (cache : AccessorCache) (type : ConstraintType) :
    (cache.lookup type).2.clear = cache.clear := by
  unfold lookup
  split
  · split <;> rfl
  · rfl

/-- One lookup adds nothing but the snapshot of the type looked up. -/
theorem mem_entries_lookup {cache : AccessorCache} {type : ConstraintType}
    {entry : ConstraintType × List Accessor} (kept : entry ∈ (cache.lookup type).2.entries) :
    entry ∈ cache.entries ∨ entry = (type, type.accessors) := by
  unfold lookup at kept
  split at kept
  · split at kept
    · exact .inl kept
    · rwa [List.mem_append, List.mem_singleton] at kept
  · exact .inl kept

/-- Every kept snapshot is that of its type. -/
theorem Reachable.entry_eq {cache : AccessorCache} (reachable : Reachable cache) :
    ∀ entry ∈ cache.entries, entry.2 = entry.1.accessors := by
  induction reachable with
  | make namespaces enabled level => simp [AccessorCache.make]
  | lookup earlier type ih =>
      intro entry kept
      rcases mem_entries_lookup kept with before | rfl
      · exact ih entry before
      · rfl
  | clear earlier ih => simp [AccessorCache.clear]

/-- Whether it was kept or not, the snapshot handed out is a fresh one. -/
theorem Reachable.lookup_fst {cache : AccessorCache} (reachable : Reachable cache)
    (type : ConstraintType) : (cache.lookup type).1 = type.accessors := by
  unfold AccessorCache.lookup
  split
  · split
    · next snapshot found =>
        rw [find?, Option.map_eq_some_iff] at found
        obtain ⟨entry, kept, rfl⟩ := found
        have isType : entry.1 = type := by simpa using List.find?_some kept
        rw [reachable.entry_eq entry (List.mem_of_find?_eq_some kept), isType]
    · rfl
  · rfl

end AccessorCache

end AttributeContracts
