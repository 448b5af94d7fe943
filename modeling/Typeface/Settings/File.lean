import Typeface.Release
import Typeface.Settings.App
import Typeface.Yaml.Decoder

/-!
# Settings files

A record may be loaded from a YAML file that holds a mapping of its fields.
Then its standard dotenv file is not read.  Whatever is wrong with the file or
its content is a fault of configuration.
-/

namespace Typeface.Settings

/-- Builds a record from fields. -/
abbrev Build (α : Type) := Surroundings → Fields → Except Failure α

/-- A failure other than a fault becomes the cause of a fault. -/
def blame {α : Type} (build : Mishap → Fault) : Except Failure α → Except Failure α
  | .error (.mishap mishap) => .error (.caused (build mishap) mishap)
  | outcome => outcome

/-- The fields of a decoded file. -/
def fieldsOf (path : HostText) (content : Value) : Except Failure Fields :=
  match content with
  | .null => Failure.raise (.emptyConfigFile path.value)
  | .dict entries =>
    if entries.all fun entry => AppSettings.isText entry.1 then .ok (Value.fields entries)
    else Failure.ofMishap .wrongArgument
  | _ => Failure.ofMishap .wrongArgument

/-- Whether a text is YAML at all is told apart from everything else that can go wrong. -/
def faultOf (path : HostText) : Mishap → Fault
  | .malformedYaml => .invalidYaml path.value none
  | _ => .configLoad none

/-- A file of no more bytes is decoded as a whole before it is parsed. -/
def firstRead : Nat := 4096

/-- What is wrong with the file of some bytes that are no text. -/
def flawOf (surroundings : Surroundings) (content : Text.Bytes) : Mishap :=
  let early := if firstRead < content.length then surroundings.earlyFlaw? content else none
  early.getD (.undecodableText content)

/-- The text of the bytes in a file. -/
def textOf (surroundings : Surroundings) (content : Text.Bytes) : Except Mishap String :=
  match Text.utf8? content with
  | none => .error (flawOf surroundings content)
  | some text => .ok (String.ofList (Dotenv.unifyLineEnds text.toList))

/-- The value that the file at a path holds. -/
def decodeFile (surroundings : Surroundings) (path : Path) : Except Mishap Value := do
  let content ← surroundings.read path
  let text ← textOf surroundings content
  Yaml.decode surroundings.yamlDepth text

def asFailure {α : Type} : Except Mishap α → Except Failure α
  | .ok value => .ok value
  | .error mishap => Failure.ofMishap mishap

/-- Loads a record from the file at a path. -/
def loadText {α : Type} (surroundings : Surroundings) (build : Build α) (path : HostText) :
    Except Failure α := do
  let path := Path.ofText path
  match ← surroundings.probe path with
  | none => Failure.raise (.configFileNotFound path.text.value)
  | some _ =>
    let content := asFailure (decodeFile surroundings path)
    let fields := content.bind (fieldsOf path.text)
    blame (faultOf path.text) (fields.bind (build surroundings))

/-- Loads a record from the file at a path that a host program hands over. -/
def loadFile {α : Type} (surroundings : Surroundings) (build : Build α) (path : Value) :
    Except Failure α :=
  match path.hostText? with
  | some path => loadText surroundings build path
  | none => Failure.ofMishap .wrongArgument

/-- The dotenv file at a path, if there is something. -/
def dotenvAt (surroundings : Surroundings) (path : Value) : Except Failure DotenvChoice :=
  match path.hostText? with
  | some path => do
    let found ← surroundings.probe (.ofText path)
    return if found.isSome then .files [path] else .absent
  | none => Failure.ofMishap .wrongArgument

/-- How one sort of settings is loaded. -/
abbrev Loader (α : Type) := Surroundings → Fields → DotenvChoice → Except Failure α

/-- From a YAML file, which shuts out the standard dotenv file. -/
def fromYaml {α : Type} (load : Loader α) (surroundings : Surroundings) (path : Value) :
    Except Failure α :=
  loadFile surroundings (fun surroundings fields => load surroundings fields .absent) path

/-- From a YAML file if one is given and there, else from the environment and a dotenv file. -/
def fromEnvironmentAndYaml {α : Type} (load : Loader α) (surroundings : Surroundings)
    (yamlPath dotenvPath : Value) : Except Failure α := do
  let dotenv : Except Failure α := do
    let choice ← dotenvAt surroundings dotenvPath
    load surroundings [] choice
  if yamlPath.isGiven then
    match yamlPath.hostText? with
    | some path =>
      match ← surroundings.probe (.ofText path) with
      | some _ => fromYaml load surroundings yamlPath
      | none => dotenv
    | none => Failure.ofMishap .wrongArgument
  else dotenv

/-- From the environment and a dotenv file, the standard one unless another is there. -/
def fromEnvironment {α : Type} (load : Loader α) (surroundings : Surroundings)
    (dotenvPath : Value) : Except Failure α :=
  if dotenvPath.isGiven then do
    match ← dotenvAt surroundings dotenvPath with
    | .absent => load surroundings [] .standard
    | choice => load surroundings [] choice
  else load surroundings [] .standard

end Typeface.Settings
