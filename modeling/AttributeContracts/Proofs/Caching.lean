/-
# What one lookup does to a cache

A cache keeps the snapshots of some types, each once. A lookup stores one snapshot more, or
none, and hands out the accessors of the type in either case. Its logger is handed a message
exactly when a snapshot is stored. Nothing that a builder does after its lookup reaches a
cache.
-/

import AttributeContracts.Proofs.Builder

namespace AttributeContracts

open Outcome

/-! ## One lookup -/

namespace AccessorCache

variable {cache : AccessorCache} {types : List ConstraintType}

/-- A cache that keeps the snapshots of some types, each once, and nothing else. -/
structure Keeps (cache : AccessorCache) (types : List ConstraintType) : Prop where
  distinct : types.Nodup
  entries : cache.entries = types.map fun type => (type, type.accessors)

theorem keeps_clear (cache : AccessorCache) : cache.clear.Keeps [] := ⟨List.nodup_nil, rfl⟩

private theorem find?_snapshots (types : List ConstraintType) (type : ConstraintType) :
    ((types.map fun kept => (kept, kept.accessors)).find? fun entry => entry.1 = type).map
        Prod.snd = if type ∈ types then some type.accessors else none := by
  induction types with
  | nil => rfl
  | cons kept rest ih =>
      by_cases same : kept = type
      · simp [same]
      · simpa [same, Ne.symm same] using ih

theorem Keeps.find?_eq (keeps : cache.Keeps types) (type : ConstraintType) :
    cache.find? type = if type ∈ types then some type.accessors else none := by
  rw [find?, keeps.entries, find?_snapshots]

theorem Keeps.has_iff (keeps : cache.Keeps types) (type : ConstraintType) :
    cache.has type = true ↔ type ∈ types := by
  rw [has, keeps.find?_eq]
  split <;> simp [*]

theorem Keeps.size_eq (keeps : cache.Keeps types) : cache.size = types.length := by
  rw [size, keeps.entries, List.length_map]

/-- A type is stored when it may be kept and is not kept yet. -/
theorem Keeps.fills_eq (keeps : cache.Keeps types) (type : ConstraintType) :
    cache.fills type = (cache.isCacheable type && type ∉ types) := by
  have absent : (!cache.has type) = decide (type ∉ types) := by
    rw [Bool.eq_iff_iff, decide_eq_true_iff, ← keeps.has_iff, Bool.not_eq_true', Bool.not_eq_true]
  rw [fills, absent]

/-- Hit, miss or neither, a lookup hands out the accessors of the type. -/
theorem Keeps.lookup_fst (keeps : cache.Keeps types) (type : ConstraintType) :
    (cache.lookup type).1 = type.accessors := by
  rw [lookup, keeps.find?_eq]
  by_cases kept : type ∈ types
  · rw [if_pos kept]
    split <;> rfl
  · rw [if_neg kept]
    split <;> rfl

/-- A lookup that stores puts the type behind those that were kept before. -/
theorem Keeps.lookup (keeps : cache.Keeps types) (type : ConstraintType) :
    (cache.lookup type).2.Keeps
      (if cache.fills type then types ++ [type] else types) := by
  rw [AccessorCache.lookup, keeps.fills_eq, keeps.find?_eq]
  by_cases kept : type ∈ types
  · simp only [kept, if_true, not_true, decide_false, Bool.and_false, Bool.false_eq_true,
      if_false]
    split <;> exact keeps
  · simp only [kept, if_false, not_false_eq_true, decide_true, Bool.and_true]
    split
    · refine ⟨?_, ?_⟩
      · exact List.nodup_append.2 ⟨keeps.distinct, by simp,
          fun held isHeld other isOther same =>
            kept (List.mem_singleton.1 isOther ▸ same ▸ isHeld)⟩
      · rw [keeps.entries, List.map_append]
        rfl
    · exact keeps

/-- What may be kept is a matter of the options that a cache was made with. -/
theorem isCacheable_congr {other : AccessorCache} (same : cache.clear = other.clear)
    (type : ConstraintType) : cache.isCacheable type = other.isCacheable type :=
  congrArg (fun cleared => cleared.isCacheable type) same

/-- A type may be kept by an enabled cache that has a namespace of it. -/
theorem isCacheable_iff {type : ConstraintType} :
    cache.isCacheable type = true ↔
      cache.enabled = true ∧ ∃ space ∈ cache.namespaces, space.toList <+: type.name.toList := by
  simp only [isCacheable, Bool.and_eq_true, List.any_eq_true, List.isPrefixOf_iff_prefix]

/-- A cache that keeps what it may keep of the types that were looked up. -/
def Follows (cache : AccessorCache) (looked : List ConstraintType) : Prop :=
  ∃ types, cache.Keeps types ∧
    ∀ type, type ∈ types ↔ cache.isCacheable type = true ∧ type ∈ looked

theorem follows_clear (cache : AccessorCache) : cache.clear.Follows [] :=
  ⟨[], cache.keeps_clear, by simp⟩

variable {looked : List ConstraintType}

theorem Follows.fills_eq (follows : cache.Follows looked) (type : ConstraintType) :
    cache.fills type = (cache.isCacheable type && type ∉ looked) := by
  obtain ⟨types, keeps, kept_iff⟩ := follows
  rw [keeps.fills_eq]
  cases cacheable : cache.isCacheable type with
  | false => rfl
  | true => simp [kept_iff, cacheable]

/-- After a lookup the cache keeps what it may keep of one type more. -/
theorem Follows.lookup (follows : cache.Follows looked) (type : ConstraintType) :
    (cache.lookup type).2.Follows (looked ++ [type]) := by
  have stores := follows.fills_eq type
  obtain ⟨types, keeps, kept_iff⟩ := follows
  refine ⟨_, keeps.lookup type, fun asked => ?_⟩
  rw [isCacheable_congr (clear_lookup cache type), stores, List.mem_append, List.mem_singleton]
  by_cases isType : asked = type
  · subst isType
    cases cacheable : cache.isCacheable asked with
    | false => simp [kept_iff, cacheable]
    | true => by_cases seen : asked ∈ looked <;> simp [kept_iff, cacheable, seen]
  · split <;> simp [kept_iff, isType]

/-- The logger is handed one message for each lookup of a type that may be kept and is
absent. -/
theorem Follows.told_eq (follows : cache.Follows looked) (type : ConstraintType) :
    cache.told type =
      ([type].filter fun asked => cache.isCacheable asked && asked ∉ looked).map
        fun asked => .fill asked asked.accessors.length := by
  have answered : (cache.lookup type).1 = type.accessors := by
    obtain ⟨types, keeps, _⟩ := follows
    exact keeps.lookup_fst type
  rw [told, follows.fills_eq, answered, List.filter_cons, List.filter_nil]
  split <;> rfl

end AccessorCache

namespace Session

/-- Two sessions with the same caches and the same printed lines. -/
structure SameCaches (one two : Session) : Prop where
  caches : one.caches = two.caches
  log : one.log = two.log

namespace SameCaches

theorem refl (session : Session) : session.SameCaches session := ⟨rfl, rfl⟩

theorem trans {one two three : Session} (left : one.SameCaches two)
    (right : two.SameCaches three) : one.SameCaches three :=
  ⟨left.caches.trans right.caches, left.log.trans right.log⟩

end SameCaches

end Session

namespace Action

variable {α β : Type}

/-- An action that touches neither a cache nor the printed lines. -/
def LeavesCaches (action : Action α) : Prop :=
  ∀ session, (action.run session).2.SameCaches session

theorem leavesCaches_ofExcept (outcome : Except Failure α) : (ofExcept outcome).LeavesCaches :=
  fun session => .refl session

theorem LeavesCaches.bind {first : Action α} {next : α → Action β} (one : first.LeavesCaches)
    (others : ∀ value, (next value).LeavesCaches) : (first >>= next).LeavesCaches := by
  intro session
  exact run_bind_snd (·.SameCaches session) (one session)
    fun value reached left => (others value reached).trans left

theorem LeavesCaches.mapFailure {action : Action α} (left : action.LeavesCaches)
    (wrap : Failure → Failure) : (mapFailure wrap action).LeavesCaches := by
  intro session
  rw [run_mapFailure]
  exact left session

theorem leavesCaches_privileged_readAttribute (constraint : Constraint) (name : String)
    (scope? : Option ScopeId) :
    (privileged scope? (readAttribute constraint name scope?)).LeavesCaches := by
  intro session
  rw [run_privileged_readAttribute]
  cases scope? <;> exact ⟨rfl, rfl⟩

end Action

theorem Builder.leavesCaches_readAll (constraint : Constraint) (accessors : List Accessor)
    (builder : Builder) : (builder.readAll constraint accessors).LeavesCaches := by
  induction accessors generalizing builder with
  | nil => exact Action.leavesCaches_ofExcept (.ok builder)
  | cons accessor rest ih =>
      have read := Action.leavesCaches_privileged_readAttribute constraint accessor.name
        builder.scope?
      exact (read.mapFailure _).bind fun value => ih (builder.store accessor.name value)

end AttributeContracts
