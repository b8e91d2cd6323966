import StepArguments.Config.Json
import StepArguments.Variables.Store
import StepArguments.Yaml.Core

/-! # Configurations

A configuration holds settings and batch variables. It is written in JSON or YAML, and the name of
its file tells which. -/

namespace StepArguments

/-- The settings of a run and its batch variables. -/
structure Config where
  settings : Settings := {}
  bindings : Bindings := []
deriving Inhabited

/-- The format of a configuration. -/
inductive ConfigFormat where
  | json
  | yaml
deriving DecidableEq

/-- Why there is no configuration. -/
inductive ConfigError where
  | json (error : Json.Error)
  | yaml
  /-- The name of the file shows no known format. -/
  | unsupportedFormat (path : String)
  /-- There is no text to read. -/
  | unreadable

def ConfigError.message : ConfigError → String
  | .json error => "JSON deserialization failed: " ++ error.message
  | .yaml => "YAML deserialization failed"
  | .unsupportedFormat path => "Unsupported configuration format: " ++ path
  | .unreadable => "The file cannot be read"

/-- The last part of a path that names something: nothing if the path ends by going up. -/
def fileName? (path : String) : Option (List Char) :=
  match ((Text.splitAt '/' path.toList).filter fun part => part != [] && part != ['.']).getLast? with
  | some ['.', '.'] => none
  | name? => name?

/-- The part of a file name behind its last dot. A dot at the start of the name does not count. -/
def extension? (name : List Char) : Option (List Char) :=
  let reversed := name.reverse
  let extension := (reversed.takeWhile (· != '.')).reverse
  match reversed.dropWhile (· != '.') with
  | '.' :: _ :: _ => some extension
  | _ => none

namespace ConfigFormat

def ofPath (path : String) : Except ConfigError ConfigFormat :=
  let extension := ((fileName? path).bind extension?).map fun e => String.ofList (e.map Char.toLower)
  if extension = some "json" then .ok .json
  else if extension = some "yaml" ∨ extension = some "yml" then .ok .yaml
  else .error (.unsupportedFormat path)

end ConfigFormat

namespace Config

def kind : String := "struct EngineConfig"

def jsonFields : List (Json.Field Config) :=
  [{ name := "settings"
     read := fun depth s =>
       (Settings.read depth s).map fun (settings, s) => (({ · with settings }), s) },
   { name := "variables"
     read := fun depth s =>
       (Json.readBindings depth s).map fun (bindings, s) => (({ · with bindings }), s) }]

def yamlSettings : List (Yaml.Field Settings) :=
  [{ name := "dryRun"
     read? := fun _ node => node.boolean?.map fun b => ({ · with dryRun := b }) },
   { name := "maxDepth"
     read? := fun _ node => node.natural?.map fun n => ({ · with maxDepth := n }) }]

def yamlFields : List (Yaml.Field Config) :=
  [{ name := "settings"
     read? := fun depth node =>
       (Yaml.readRecord? yamlSettings {} depth node).map fun settings => ({ · with settings }) },
   { name := "variables"
     read? := fun depth node =>
       (Yaml.readBindings? depth node).map fun bindings => ({ · with bindings }) }]

/-- Reads a configuration from YAML text. A text without a document is the empty configuration. -/
def ofYaml? (text : List Char) : Option Config := do
  match ← Yaml.Node.ofText? text with
  | none => some {}
  | some node => Yaml.readRecord? yamlFields {} Yaml.Node.depthLimit node

def parse (text : String) (format : ConfigFormat) : Except ConfigError Config :=
  match format with
  | .json =>
    (Json.readAll (Json.readRecord kind jsonFields {} Json.depthLimit) text.toList).mapError .json
  | .yaml =>
    match ofYaml? text.toList with
    | some config => .ok config
    | none => .error .yaml

/-- Reads a configuration from the bytes of a file, if it has any, in the format that its name
shows. -/
def load (path : String) (content : Option (List UInt8)) : Except ConfigError Config := do
  let format ← ConfigFormat.ofPath path
  match content.bind Text.Utf8.decode? with
  | some text => parse (String.ofList text) format
  | none => .error .unreadable

def store (c : Config) : Store where
  batch := c.bindings

end Config

end StepArguments
