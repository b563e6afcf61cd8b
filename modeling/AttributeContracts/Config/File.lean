/-
# Configuration files

A directory may hold a configuration under one of three names, tried in a fixed
order; the first name that exists is taken even if it turns out to be a
directory. The name also decides how a file is read: as JSON if it ends so, and
otherwise as YAML. What it says is then checked by a validator.
-/

import AttributeContracts.Config.Document.Json
import AttributeContracts.Config.Document.Yaml
import AttributeContracts.Config.Schema

namespace AttributeContracts

/-- What a name in a directory stands for. -/
inductive DirectoryEntry where
  | file (content : String)
  | directory
deriving DecidableEq, Repr

namespace Settings

/-- The names of a configuration file, in the order in which they are tried. -/
def fileNames : List String :=
  ["constraint-metadata.yaml", "constraint-metadata.yml", "constraint-metadata.json"]

/-- The name under which a directory holds a configuration. -/
def findFile? (entries : Members DirectoryEntry) : Option String :=
  fileNames.find? (Members.declares entries)

/-- Whether a file of this name is read as JSON. -/
def isJsonName (name : String) : Bool := ".json".toList.isSuffixOf name.toList

/-- The document in a file. -/
def readDocument (name content : String) : Except Failure Document :=
  if isJsonName name then
    match Document.ofJson? content with
    | some document => .ok document
    | none => .error .malformedJson
  else Document.ofYaml content

/-- The settings in a file. -/
def loadFile (validator : Validator) (name : String) : DirectoryEntry → Except Failure Settings
  | .file content => do
      let document ← readDocument name content
      ofDocument validator document
  | .directory => .error .unreadableFile

/-- The settings that a directory holds under a name. -/
def load (validator : Validator) (entries : Members DirectoryEntry) (name : String) :
    Except Failure Settings :=
  match Members.find? entries name with
  | some entry => loadFile validator name entry
  | none => .error .unreadableFile

end Settings

end AttributeContracts
