/-
# What a cache keeps

A program uses a cache in three ways. It looks a type up, it clears the cache, or it begins
a builder, which looks the builder's type up on the way and may fail after that. However
often this happens, the cache keeps the snapshots of exactly those types that it may keep
and that were looked up since it was last cleared.

What a use makes of the cache is shown once for each use, and a whole history follows by
induction. Two types of one name are two types here, as they are for the cache.
-/

import AttributeContracts.Proofs.Caching

namespace AttributeContracts

namespace BuilderOrigin

/-- The type that beginning a builder looks up. A constraint that does not answer with a
type is not looked up at all. -/
def type? : BuilderOrigin → Option ConstraintType
  | .empty type => some type
  | .attributes type _ => some type
  | .copy constraint => constraint.annotationType.toOption

/-- To caches and printed lines, beginning a builder is the lookup of its type. What
follows on the lookup, and how it ends, does not show there. -/
theorem build_of_type? {origin : BuilderOrigin} {type : ConstraintType}
    (looks : origin.type? = some type) (options : BuilderOptions) (session : Session) :
    ((origin.build options).run session).2.SameCaches
      ((Action.lookupAccessors options.cache? type).run session).2 := by
  have empty : ((Builder.forType type options).run session).2.SameCaches
      ((Action.lookupAccessors options.cache? type).run session).2 :=
    Action.run_bind_snd (·.SameCaches _) (.refl _) fun _ _ reached => reached
  have filled {next : Builder → Action Builder} (left : ∀ builder, (next builder).LeavesCaches) :
      ((Builder.forType type options >>= next).run session).2.SameCaches
        ((Action.lookupAccessors options.cache? type).run session).2 :=
    Action.run_bind_snd (·.SameCaches _) empty fun builder reached same =>
      (left builder reached).trans same
  cases origin with
  | empty _ =>
      cases looks
      exact empty
  | attributes _ source =>
      cases looks
      exact filled fun builder => Action.leavesCaches_ofExcept _
  | copy constraint =>
      have answered : constraint.annotationType = .ok type := by
        rw [type?] at looks
        cases answer : constraint.annotationType with
        | ok found => simpa [answer, Except.toOption] using looks
        | error failure => simp [answer, Except.toOption] at looks
      rw [build, Builder.fromInstance, Action.run_bind, Action.run_ofExcept, answered]
      exact filled fun builder => builder.leavesCaches_readAll constraint builder.accessors

/-- A constraint that does not answer with a type leaves everything as it is. -/
theorem build_of_type?_none {origin : BuilderOrigin} (mute : origin.type? = none)
    (options : BuilderOptions) (session : Session) :
    ((origin.build options).run session).2 = session := by
  cases origin with
  | empty type => cases mute
  | attributes type source => cases mute
  | copy constraint =>
      rw [build, Builder.fromInstance, Action.run_bind, Action.run_ofExcept]
      rw [type?] at mute
      cases answer : constraint.annotationType with
      | ok found => simp [answer, Except.toOption] at mute
      | error failure => rfl

end BuilderOrigin

/-! ## Uses of a cache -/

/-- What a program does with a cache. -/
inductive CacheUse where
  | lookup (type : ConstraintType)
  | clear
  /-- Begins a builder that works with this cache and else with the given options. -/
  | build (origin : BuilderOrigin) (options : BuilderOptions)

namespace CacheUse

/-- The session after a use of the cache at a position, whether the use succeeds or fails. -/
def after (id : CacheId) (session : Session) : CacheUse → Session
  | .lookup type => ((Action.lookupAccessors (some id) type).run session).2
  | .clear =>
      match session.cache? id with
      | some cache => session.setCache id cache.clear
      | none => session
  | .build origin options => ((origin.build { options with cache? := some id }).run session).2

/-- The type that a use looks up. -/
def type? : CacheUse → Option ConstraintType
  | .lookup type => some type
  | .clear => none
  | .build origin _ => origin.type?

/-- What a use makes of the cache. -/
def effect (cache : AccessorCache) : CacheUse → AccessorCache
  | .lookup type => (cache.lookup type).2
  | .clear => cache.clear
  | .build origin _ =>
      match origin.type? with
      | some type => (cache.lookup type).2
      | none => cache

/-- What a use hands to the logger of the cache. -/
def told (cache : AccessorCache) (use : CacheUse) : List LogMessage :=
  match use.type? with
  | some type => cache.told type
  | none => []

variable {session : Session} {id : CacheId} {cache : AccessorCache}

/-- The step: what a use makes of the cache, and what the logger prints of it. -/
theorem after_of_held (held : session.cache? id = some cache) (use : CacheUse) :
    (use.after id session).cache? id = some (use.effect cache) ∧
      (use.after id session).log =
        session.log ++ (use.told cache).filterMap (·.line? cache.level) := by
  have stored (next : AccessorCache) : (session.setCache id next).cache? id = some next := by
    have inside : id < session.caches.length := (List.getElem?_eq_some_iff.1 held).1
    rw [Session.cache?, Session.setCache, List.getElem?_set_self inside]
  have unchanged : session.log = session.log ++ [].filterMap (LogMessage.line? · cache.level) :=
    (List.append_nil _).symm
  cases use with
  | lookup type =>
      rw [after, Action.run_lookupAccessors_snd_of_held held]
      exact ⟨stored _, rfl⟩
  | clear =>
      rw [after, held]
      exact ⟨stored _, unchanged⟩
  | build origin options =>
      cases looks : origin.type? with
      | some type =>
          have same := BuilderOrigin.build_of_type? looks { options with cache? := some id } session
          rw [Action.run_lookupAccessors_snd_of_held held] at same
          rw [after, Session.cache?, same.caches, same.log, effect, told, type?, looks]
          exact ⟨stored _, rfl⟩
      | none =>
          rw [after, BuilderOrigin.build_of_type?_none looks, effect, told, type?, looks]
          exact ⟨held, unchanged⟩

/-! ## Histories

A history lists uses of one cache, the latest first. -/

/-- The session after a history. -/
def reach (id : CacheId) (session : Session) : List CacheUse → Session
  | [] => session
  | use :: earlier => use.after id (reach id session earlier)

/-- The types looked up since the last clearing. -/
def lookedUp : List CacheUse → List ConstraintType
  | [] => []
  | .lookup type :: earlier => lookedUp earlier ++ [type]
  | .clear :: _ => []
  | .build origin _ :: earlier => lookedUp earlier ++ origin.type?.toList

/-- The lookups of a type that may be kept and was absent, the earliest first. -/
def missed (cacheable : ConstraintType → Bool) : List CacheUse → List ConstraintType
  | [] => []
  | use :: earlier =>
      missed cacheable earlier ++
        use.type?.toList.filter fun type => cacheable type && type ∉ lookedUp earlier

/-- The messages handed to the logger of the cache at a position, the earliest first. -/
def handed (id : CacheId) (session : Session) : List CacheUse → List LogMessage
  | [] => []
  | use :: earlier =>
      handed id session earlier ++
        ((reach id session earlier).cache? id).toList.flatMap use.told

variable {start : AccessorCache} {earlier : List CacheUse}

/-- A use changes nothing of the cache but its contents. -/
theorem clear_effect (cache : AccessorCache) (use : CacheUse) :
    (use.effect cache).clear = cache.clear := by
  cases use with
  | lookup type => exact cache.clear_lookup type
  | clear => rfl
  | build origin options =>
      rw [effect]
      split
      · exact cache.clear_lookup _
      · rfl

theorem follows_effect (follows : cache.Follows (lookedUp earlier)) (use : CacheUse) :
    (use.effect cache).Follows (lookedUp (use :: earlier)) := by
  cases use with
  | lookup type => exact follows.lookup type
  | clear => exact cache.follows_clear
  | build origin options =>
      rw [effect, lookedUp]
      cases origin.type? with
      | some type => exact follows.lookup type
      | none => rwa [Option.toList_none, List.append_nil]

theorem told_eq (follows : cache.Follows (lookedUp earlier)) (use : CacheUse) :
    use.told cache =
      (use.type?.toList.filter fun type => cache.isCacheable type && type ∉ lookedUp earlier).map
        fun type => .fill type type.accessors.length := by
  rw [told]
  cases use.type? with
  | some type => exact follows.told_eq type
  | none => rfl

/-- By induction on the history: the cache follows the lookups since the last clearing, and
its options stay those that it was made with. -/
theorem reach_follows (made : session.cache? id = some start) (empty : start.clear = start)
    (uses : List CacheUse) :
    ∃ cache, (reach id session uses).cache? id = some cache ∧ cache.clear = start ∧
      cache.Follows (lookedUp uses) := by
  induction uses with
  | nil => exact ⟨start, made, empty, empty ▸ start.follows_clear⟩
  | cons use earlier ih =>
      obtain ⟨cache, held, rule, follows⟩ := ih
      exact ⟨use.effect cache, (after_of_held held use).1, (clear_effect cache use).trans rule,
        follows_effect follows use⟩

/-- The logger is handed a message for each lookup that missed, and for nothing else. -/
theorem handed_eq (made : session.cache? id = some start) (empty : start.clear = start)
    (uses : List CacheUse) :
    handed id session uses =
      (missed start.isCacheable uses).map fun type => .fill type type.accessors.length := by
  induction uses with
  | nil => rfl
  | cons use earlier ih =>
      obtain ⟨cache, held, rule, follows⟩ := reach_follows made empty earlier
      have cacheable : cache.isCacheable = start.isCacheable :=
        funext (AccessorCache.isCacheable_congr (rule.trans empty.symm))
      rw [handed, missed, List.map_append, ih, held, Option.toList_some, List.flatMap_singleton,
        told_eq follows, cacheable]

/-- The lines of a session grow by what the level of the cache lets through. -/
theorem log_reach (made : session.cache? id = some start) (empty : start.clear = start)
    (uses : List CacheUse) :
    (reach id session uses).log =
      session.log ++ (handed id session uses).filterMap (·.line? start.level) := by
  induction uses with
  | nil => exact (List.append_nil _).symm
  | cons use earlier ih =>
      obtain ⟨cache, held, rule, _⟩ := reach_follows made empty earlier
      have level : cache.level = start.level := by rw [← rule, AccessorCache.clear]
      rw [reach, (after_of_held held use).2, ih, level, handed, held, Option.toList_some,
        List.flatMap_singleton, List.filterMap_append, List.append_assoc]

/-- From a new cache, whatever its options, and through any history: the cache keeps the
accessors of exactly those types, each once, that it may keep and that were looked up since
it was last cleared. Looking any type up answers its accessors, as does beginning a builder.
The logger is handed one message for each lookup of a type that may be kept and was absent,
and what is printed is what its level lets through of them. -/
theorem reach_keeps_lookedUp {session : Session} {id : CacheId} {namespaces : List String}
    {enabled : Bool} {level : LogLevel}
    (made : session.cache? id = some (.make namespaces enabled level)) (uses : List CacheUse) :
    let start := AccessorCache.make namespaces enabled level
    let reached := reach id session uses
    (∀ type, start.isCacheable type = true ↔
        enabled = true ∧ ∃ space ∈ namespaces, space.toList <+: type.name.toList) ∧
      (∃ (cache : AccessorCache) (types : List ConstraintType),
        reached.cache? id = some cache ∧ types.Nodup ∧
        (∀ type, type ∈ types ↔ start.isCacheable type = true ∧ type ∈ lookedUp uses) ∧
        cache.entries = types.map (fun type => (type, type.accessors)) ∧
        (∀ type, cache.has type = true ↔ type ∈ types) ∧ cache.size = types.length) ∧
      (∀ type, ((Action.lookupAccessors (some id) type).run reached).1 = .ok type.accessors) ∧
      (∀ (origin : BuilderOrigin) (options : BuilderOptions) (builder : Builder),
        ((origin.build { options with cache? := some id }).run reached).1 = .ok builder →
          builder.accessors = builder.type.accessors) ∧
      handed id session uses =
        (missed start.isCacheable uses).map (fun type => .fill type type.accessors.length) ∧
      reached.log = session.log ++ (handed id session uses).filterMap (·.line? level) := by
  intro start reached
  obtain ⟨cache, held, rule, types, keeps, kept_iff⟩ := reach_follows made rfl uses
  have cacheable : cache.isCacheable = start.isCacheable :=
    funext (AccessorCache.isCacheable_congr rule)
  have scans (type : ConstraintType) :
      ((Action.lookupAccessors (some id) type).run reached).1 = .ok type.accessors := by
    rw [Action.run_lookupAccessors_fst_of_held held, keeps.lookup_fst]
  refine ⟨fun type => AccessorCache.isCacheable_iff, ?_, scans, ?_, handed_eq made rfl uses,
    log_reach made rfl uses⟩
  · rw [cacheable] at kept_iff
    exact ⟨cache, types, held, keeps.distinct, kept_iff, keeps.entries, keeps.has_iff,
      keeps.size_eq⟩
  · intro origin options builder built
    exact Builder.accessors_of_build scans origin built

/-- A type for each serial number, all of one name. -/
def lantern (serial : Nat) : ConstraintType where
  identity := .drawn serial
  name := "example.Lantern"
  definitions := [("message", ⟨.string, some (.text "dark")⟩)]

/-- A type of another namespace. -/
def foreign : ConstraintType := ⟨.drawn 2, "foreign.Lantern", []⟩

/-- A constraint of the second that cannot be read. -/
def brokenLantern : Constraint :=
  .literal (.drawn 3) (lantern 1) [("message", .raises "out of oil")] none
    (.returns (.text "@Lantern")) []

/-- A session with a cache that tells of everything. -/
def talkative : Session :=
  { Session.initial with caches := [.make ["example."] true (.atLeast .debug)] }

/-- Looks the first up, clears the cache, looks the first up twice, the foreign one once,
and fails to copy a constraint of the second; listed the latest first. -/
def errands : List CacheUse :=
  [.build (.copy brokenLantern) {}, .lookup foreign, .lookup (lantern 0), .lookup (lantern 0),
    .clear, .lookup (lantern 0)]

/-- Both namesakes are kept and the foreign type is not. The logger is told three times, the
first time before the clearing and the last time by the copy that failed. -/
theorem reach_keeps_lookedUp_namesakes :
    ∃ (cache : AccessorCache) (types : List ConstraintType),
      (reach 0 talkative errands).cache? 0 = some cache ∧ cache.size = types.length ∧
        lantern 0 ∈ types ∧ lantern 1 ∈ types ∧ foreign ∉ types ∧
        handed 0 talkative errands =
          [.fill (lantern 0) 1, .fill (lantern 0) 1, .fill (lantern 1) 1] := by
  have made : talkative.cache? 0 = some (.make ["example."] true (.atLeast .debug)) := rfl
  obtain ⟨_, ⟨cache, types, held, _, kept_iff, _, _, size⟩, _, _, told, _⟩ :=
    reach_keeps_lookedUp made errands
  refine ⟨cache, types, held, size, ?_, ?_, ?_, told⟩
  · exact (kept_iff _).2 ⟨by decide, by decide⟩
  · exact (kept_iff _).2 ⟨by decide, by decide⟩
  · intro kept
    exact absurd ((kept_iff _).1 kept).1 (by decide)

end CacheUse

end AttributeContracts
