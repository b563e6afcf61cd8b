/-
# Accessor caches

A cache keeps the accessor snapshots of types whose qualified names start with
one of its namespaces; other types are scanned afresh each time. Types made
while a configuration is loaded are unbounded in number, and a cache without
that limit would keep every one of them alive.

Types are told apart by identity, not by name. The first snapshot stored for a
type stays until the cache is cleared.
-/

import AttributeContracts.Accessor
import AttributeContracts.Log
import AttributeContracts.Value.Sameness

namespace AttributeContracts

/-- Snapshots by type, with the rule for what may be kept and the level of the
logger that is told of each fill. -/
structure AccessorCache where
  namespaces : List String
  enabled : Bool
  level : LogLevel
  entries : List (ConstraintType × List Accessor)

/-- The namespace of the built-in constraint types. -/
def builtinNamespace : String := "validation.constraints."

namespace AccessorCache

/-- A cache with nothing in it. -/
def make (namespaces : List String) (enabled : Bool) (level : LogLevel) : AccessorCache :=
  ⟨namespaces, enabled, level, []⟩

/-- Whether snapshots of a type may be kept. -/
def isCacheable (cache : AccessorCache) (type : ConstraintType) : Bool :=
  cache.enabled &&
    cache.namespaces.any fun space => space.toList.isPrefixOf type.name.toList

/-- The snapshot kept for a type. -/
def find? (cache : AccessorCache) (type : ConstraintType) : Option (List Accessor) :=
  (cache.entries.find? fun entry => entry.1 = type).map Prod.snd

def has (cache : AccessorCache) (type : ConstraintType) : Bool := (cache.find? type).isSome

def size (cache : AccessorCache) : Nat := cache.entries.length

def clear (cache : AccessorCache) : AccessorCache := { cache with entries := [] }

/-- Whether looking a type up stores a snapshot. -/
def fills (cache : AccessorCache) (type : ConstraintType) : Bool :=
  cache.isCacheable type && !cache.has type

/-- The snapshot of a type, and the cache after the lookup. -/
def lookup (cache : AccessorCache) (type : ConstraintType) : List Accessor × AccessorCache :=
  if cache.isCacheable type then
    match cache.find? type with
    | some snapshot => (snapshot, cache)
    | none =>
        (type.accessors, { cache with entries := cache.entries ++ [(type, type.accessors)] })
  else (type.accessors, cache)

end AccessorCache

end AttributeContracts
