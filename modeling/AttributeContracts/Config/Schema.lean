/-
# The configuration schema

A configuration has four settings, and a document may leave out any of them. A document is given
to a validator with the schema of configurations, and whatever the validator finds is reported at
once. A document without issues is merged over the standard settings, part by part and as it
stands: the schema is what keeps parts of the wrong kind out.

So a document is read into settings that are parts of documents themselves. Settings of the right
kinds amount to a configuration, which is what the rest of the library works with.
-/

import AttributeContracts.Access.Scope
import AttributeContracts.Accessor.Cache
import AttributeContracts.Config.Validator

namespace AttributeContracts

/-- The settings of the library. -/
structure MetadataConfig where
  /-- Types whose names start with one of these may have their snapshots kept. -/
  builtinNamespaces : List String
  cacheBuiltins : Bool
  accessMode : AccessMode
  logLevel : LogLevel
deriving DecidableEq, Repr

/-- The settings as parts of a document. -/
structure Settings where
  builtinNamespaces : Document
  cacheBuiltins : Document
  accessMode : Document
  logLevel : Document

namespace Settings

/-- The document that says every setting. -/
def document (settings : Settings) : Document :=
  .object
    [("builtinNamespaces", settings.builtinNamespaces),
      ("cacheBuiltins", settings.cacheBuiltins),
      ("accessMode", settings.accessMode),
      ("logLevel", settings.logLevel)]

/-- The configuration that settings amount to, if each is of its kind. -/
def config? (settings : Settings) : Option MetadataConfig := do
  let builtinNamespaces ← settings.builtinNamespaces.texts?
  let cacheBuiltins ← settings.cacheBuiltins.bool?
  let accessMode ← settings.accessMode.text?.bind AccessMode.ofText?
  let logLevel ← settings.logLevel.text?.bind LogLevel.ofText?
  pure { builtinNamespaces, cacheBuiltins, accessMode, logLevel }

end Settings

namespace MetadataConfig

/-- The settings that hold when nothing is said. -/
def standard : MetadataConfig :=
  ⟨[builtinNamespace], true, .unrestricted, .standard⟩

/-- The settings of a configuration. -/
def settings (config : MetadataConfig) : Settings where
  builtinNamespaces := .list (config.builtinNamespaces.map .text)
  cacheBuiltins := .bool config.cacheBuiltins
  accessMode := .text config.accessMode.text
  logLevel := .text config.logLevel.text

/-- The schema of configurations. -/
def schema : Schema :=
  .object
    [("builtinNamespaces", .array (.string 1)),
      ("cacheBuiltins", .boolean),
      ("accessMode", .enum ["unrestricted", "restricted"]),
      ("logLevel", .enum (LogLevel.all.map LogLevel.text))]

end MetadataConfig

/-- An issue as it is reported: the whole document is named by a slash, and a missing message is
made up from the keyword. -/
def SchemaIssue.reported (issue : SchemaIssue) : ConfigIssue where
  path := if issue.instancePath = "" then "/" else issue.instancePath
  message := issue.message?.getD ("does not satisfy '" ++ issue.keyword ++ "'")
  keyword := issue.keyword

namespace Settings

variable (validator : Validator)

/-- The issues of a document, as they are reported. -/
def documentIssues (document : Document) : List ConfigIssue :=
  if (validator MetadataConfig.schema document).valid then []
  else (validator.issues MetadataConfig.schema document).map SchemaIssue.reported

/-- Merges a document over the standard settings. -/
def merge (document : Document) : Settings :=
  let standard := MetadataConfig.standard.settings
  { builtinNamespaces := (document.get "builtinNamespaces").coalesce standard.builtinNamespaces
    cacheBuiltins := (document.get "cacheBuiltins").coalesce standard.cacheBuiltins
    accessMode := (document.get "accessMode").coalesce standard.accessMode
    logLevel := (document.get "logLevel").coalesce standard.logLevel }

/-- The settings of a document, or everything that is wrong with it. A document that is absent or
null says nothing. -/
def ofDocument (document : Document) : Except Failure Settings :=
  if document.isNullish then .ok MetadataConfig.standard.settings
  else
    let issues := documentIssues validator document
    if issues ≠ [] || !document.isObject then .error (.invalidConfig issues)
    else .ok (merge document)

end Settings

end AttributeContracts
