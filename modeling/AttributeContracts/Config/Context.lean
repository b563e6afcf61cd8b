/-
# Contexts

A configuration put into effect: a log level, an accessor cache of the
configured namespaces and a scope of the configured mode. Builders take all
three at once.
-/

import AttributeContracts.Builder
import AttributeContracts.Config.Schema

namespace AttributeContracts

/-- What a configuration sets up in a session. -/
structure MetadataContext where
  level : LogLevel
  cache : CacheId
  scope : ScopeId
deriving DecidableEq, Repr

namespace MetadataContext

/-- The options of builders that work in a context. -/
def options (context : MetadataContext) : BuilderOptions :=
  ⟨some context.cache, some context.scope, some context.level⟩

/-- Puts a configuration into effect and says so in the log. -/
def ofConfig (config : MetadataConfig) : Action MetadataContext := do
  let cache ← Action.modify fun session =>
    session.addCache (.make config.builtinNamespaces config.cacheBuiltins config.logLevel)
  Action.log config.logLevel .debug "Metadata context created"
    [("namespaces", .arrayOf (config.builtinNamespaces.map .text)),
      ("cacheBuiltins", .bool config.cacheBuiltins),
      ("accessMode", .text config.accessMode.text)]
  let scope ← Action.modify fun session => session.addScope (.ofMode config.accessMode)
  pure ⟨config.logLevel, cache, scope⟩

end MetadataContext

end AttributeContracts
