import Typeface.Settings.Dotenv

/-!
# Sources of settings

A setting is taken from the first source that has it: what the caller gives,
the environment, the dotenv file.  In the last two a setting is a variable,
whose name is a stem that all settings of a record share and the name of the
setting.  The caller may also give options: another dotenv file or none, another
stem, exact names, and that empty variables count as absent.  There are more
options than these, which the surroundings account for.
-/

namespace Typeface

/-- The dotenv files to read: those given, or the standard one unless it is shut out. -/
inductive DotenvChoice
  | files (paths : List HostText)
  | absent
deriving DecidableEq, Repr

namespace DotenvChoice

/-- The file that is read where none is chosen. -/
def standard : DotenvChoice := .files [".env"]

/-- The choice that a value stands for. -/
def ofValue : Value → Except Failure DotenvChoice
  | .null => .ok .absent
  | .text path => .ok (.files [path])
  | .brokenText content => .ok (.files [{ codes := content.codes }])
  | .list items | .tuple items | .set items =>
    match items.mapM Value.hostText? with
    | some paths => .ok (.files paths)
    | none => Failure.ofMishap .wrongArgument
  | .dict entries =>
    match entries.mapM fun entry => entry.1.hostText? with
    | some paths => .ok (.files paths)
    | none => Failure.ofMishap .wrongArgument
  | .bytes [] => .ok (.files [])
  | _ => Failure.ofMishap .wrongArgument

/-- The name under which a caller may make the choice among the fields. -/
def name : String := "_env_file"

/-- The choice among given fields, or the one that stands in. -/
def ofGiven (given : Fields) (standIn : DotenvChoice) : Except Failure DotenvChoice :=
  match given.lookup name with
  | some value => ofValue value
  | none => .ok standIn

end DotenvChoice

namespace Surroundings

/-- What is at a path, as far as a program can ask. -/
def probe (surroundings : Surroundings) (path : Path) : Except Failure (Option Node) :=
  match surroundings.files.probe path with
  | .ok found => .ok found
  | .error _ => Failure.ofMishap .operatingSystem

/-- The content of the file at a path. -/
def read (surroundings : Surroundings) (path : Path) : Except Mishap Text.Bytes :=
  match surroundings.files.read path with
  | .ok content => .ok content
  | .error _ => .error .operatingSystem

/-- The home directory of a user by name.  The program's own user needs no name, and a variable
tells where that home is. -/
def home? (surroundings : Surroundings) (user : String) : Option String :=
  if user.isEmpty then (surroundings.environment.lookup "HOME").or surroundings.ownHome
  else surroundings.homes.lookup user

/-- A home directory without the slashes at its end, unless it is the root. -/
def homeText (home : String) : HostText :=
  let letters := Text.trimRight (· == '/') home.toList
  if letters.isEmpty then "/" else String.ofList letters

/-- The user whom the first part of a path names by a tilde. -/
def userOf? (path : Path) : Option HostText :=
  match path.parts with
  | { codes := first :: rest } :: _ =>
    if path.root.isEmpty && first == '~'.toNat then some { codes := rest } else none
  | _ => none

/-- A path in which the home directory of a user stands for the user. -/
def expand (surroundings : Surroundings) (path : Path) : Except Failure Path :=
  match userOf? path with
  | none => .ok path
  | some user =>
    match (user.plain?.bind surroundings.home?).map homeText with
    | none => Failure.ofMishap .noHome
    | some home =>
      if home.startsWith "~" then Failure.ofMishap .noHome
      else
        let directory := Path.ofText home
        .ok { directory with parts := directory.parts ++ path.parts.tail }

/-- The variables of the file at a path. -/
def variablesIn (surroundings : Surroundings) (path : Path) : Except Failure Variables :=
  match surroundings.read path with
  | .error mishap => Failure.ofMishap mishap
  | .ok content =>
    match Text.utf8? content with
    | none => Failure.ofMishap (.undecodableText content)
    | some text => .ok (Dotenv.decode surroundings.environment text)

/-- The variables of dotenv files.  What is no file gives none. -/
def variablesOf (surroundings : Surroundings) : List HostText → Except Failure Variables
  | [] => .ok []
  | path :: rest => do
    let path ← surroundings.expand (.ofText path)
    match ← surroundings.probe path with
    | some (.file _) =>
      let held ← surroundings.variablesIn path
      let others ← variablesOf surroundings rest
      return held ++ others
    | _ => variablesOf surroundings rest

/-- The variables that a choice of dotenv files gives. -/
def dotenv (surroundings : Surroundings) (choice : DotenvChoice) : Except Failure Variables :=
  match choice with
  | .files paths => surroundings.variablesOf paths
  | .absent => .ok []

/-- Whether a file is at the path of a dotenv file. -/
def isDotenvFile (surroundings : Surroundings) (path : HostText) : Bool :=
  match surroundings.expand (.ofText path) >>= surroundings.probe with
  | .ok (some (.file _)) => true
  | _ => false

/-- The dotenv files of a choice that are there. -/
def dotenvFiles (surroundings : Surroundings) : Except Failure DotenvChoice → List HostText
  | .ok (.files paths) => paths.filter surroundings.isDotenvFile
  | _ => []

end Surroundings

namespace Sources

/-- The stem among given fields, or the one that stands in. -/
def stemOf (given : Fields) (standIn : String) : Except Failure HostText :=
  match given.lookup "_env_prefix" with
  | none | some .null => .ok standIn
  | some value =>
    match value.hostText? with
    | some stem => .ok stem
    | none => Failure.ofMishap .wrongArgument

/-- Whether an option among given fields is on. -/
def isOn (given : Fields) (option : String) : Bool :=
  (given.lookup option).any Value.isGiven

/-- The options that are described here. -/
def options : List String :=
  ["_env_file", "_env_prefix", "_case_sensitive", "_env_ignore_empty"]

/-- Whether all given fields that look like options are described here: options have a low line in
front. -/
def knowsOptions (given : Fields) : Bool :=
  given.all fun entry => entry.1.toList.head? != some '_' || options.contains entry.1

/-- Opens the sources of a record, by the options that are described here. -/
def gatherDescribed (stem : String) (surroundings : Surroundings) (given : Fields)
    (standIn : DotenvChoice) : Except Failure Sources := do
  let choice ← DotenvChoice.ofGiven given standIn
  let dotenv ← surroundings.dotenv choice
  let stem ← stemOf given stem
  let environment := Variables.ofEnvironment surroundings.environment
  let naming := if isOn given "_case_sensitive" then Naming.exact else Naming.anyCase
  if isOn given "_env_ignore_empty" then
    return { stem, naming, given, environment := environment.nonempty, dotenv := dotenv.nonempty }
  else return { stem, naming, given, environment, dotenv }

/-- The sources that other options make of a loading.  One that fails even without them fails in the
same way. -/
def gatherFurther (surroundings : Surroundings) (loading : Loading) : Except Failure Sources :=
  match surroundings.further loading with
  | .ok sources => .ok sources
  | .error .failed => loading.described.bind fun _ => Failure.ofMishap .settingsSource
  | .error .exited => .error .exit

/-- Opens the sources of a record. -/
def gather (stem : String) (surroundings : Surroundings) (given : Fields)
    (standIn : DotenvChoice) : Except Failure Sources :=
  let described := gatherDescribed stem surroundings given standIn
  if knowsOptions given then described
  else
    let dotenvFiles := surroundings.dotenvFiles (DotenvChoice.ofGiven given standIn)
    gatherFurther surroundings { stem, given, dotenvFiles, described }

/-- A given field, by its name or else by another spelling of it. -/
def given? (sources : Sources) (name : String) : Option Value :=
  (sources.given.lookup name).orElse fun _ =>
    (sources.given.find? fun entry => sources.naming.same entry.1 name).map (·.2)

/-- The variable of a setting in one of the sources that hold variables, whose names are texts. -/
def heldBy? (sources : Sources) (held : Variables) (name : String) : Option String :=
  match (sources.stem ++ (name : HostText)).plain? with
  | some full => held.find? sources.naming full
  | none => none

/-- A setting from the first source that has it. -/
def value? (sources : Sources) (name : String) : Option Value :=
  (sources.given? name).orElse fun _ =>
    ((sources.heldBy? sources.environment name).orElse fun _ =>
      sources.heldBy? sources.dotenv name).map .text

/-- The settings of some names, as far as a source has them. -/
def fields (sources : Sources) (names : List String) : Fields :=
  names.filterMap fun name => (sources.value? name).map fun value => (name, value)

end Sources

end Typeface
