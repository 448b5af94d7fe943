import Typeface.Checked
import Typeface.FileTree
import Typeface.Text.Letter

/-!
# Surroundings

What a program finds around it: environment variables, files, the home
directories of users, the limits of the readers that it uses, and what becomes of
options of a loading that are not described here.  Variables are looked up without
regard to the case of letters, unless exact names are asked for; of two variables
whose names differ only in case the later one counts.
-/

namespace Typeface

/-- Variables with their values.  A variable may be named without being given a value. -/
abbrev Variables := List (String × Option String)

/-- How the names of variables are told apart. -/
inductive Naming
  | anyCase
  | exact
deriving DecidableEq, Repr

/-- Whether two names count as one. -/
def Naming.same (naming : Naming) (left right : String) : Bool :=
  match naming with
  | anyCase => Text.foldName left == Text.foldName right
  | exact => left == right

/-- The sources of the settings of one record. -/
structure Sources where
  /-- What the names of all its variables begin with. -/
  stem : HostText
  naming : Naming
  given : Fields
  environment : Variables
  dotenv : Variables

/-- A loading that is given options which are not described here. -/
structure Loading where
  stem : String
  given : Fields
  /-- The dotenv files that it finds. -/
  dotenvFiles : List HostText
  /-- The sources that the options described here come to. -/
  described : Except Failure Sources

/-- How a loading may break down over options that are not described here. -/
inductive Breakdown
  | failed
  /-- The program is told to end. -/
  | exited
deriving DecidableEq, Repr

structure Surroundings where
  environment : List (String × String)
  files : FileTree
  /-- The home directories that the system knows, by the names of users. -/
  homes : List (String × String) := []
  /-- The home directory of the user who runs the program. -/
  ownHome : Option String := none
  /-- How deep the lists and objects of a JSON text may nest. -/
  jsonDepth : Nat := 990
  /-- How deep the collections of a YAML text may nest. -/
  yamlDepth : Nat := 480
  /-- What is found wrong with the beginning of a YAML file before the part that cannot be
  decoded. -/
  earlyFlaw? : Text.Bytes → Option Mishap := fun _ => none
  /-- What other options make of the sources of a loading. -/
  further : Loading → Except Breakdown Sources := fun loading =>
    loading.described.mapError fun _ => .failed

namespace Variables

def ofEnvironment (environment : List (String × String)) : Variables :=
  environment.map fun entry => (entry.1, some entry.2)

/-- Gives a variable a value.  One that is there already keeps its place. -/
def assign (name : String) (value : Option String) : Variables → Variables
  | [] => [(name, value)]
  | entry :: rest =>
    if entry.1 = name then (name, value) :: rest else entry :: assign name value rest

/-- Each variable once, where it comes first and with the value that it has last. -/
def distinct (known : Variables) : Variables :=
  known.foldl (fun seen entry => assign entry.1 entry.2 seen) []

/-- The variables that are not empty. -/
def nonempty (known : Variables) : Variables :=
  known.filter fun entry => entry.2 != some ""

/-- The value of the last variable of a name. -/
def find? (known : Variables) (naming : Naming) (name : String) : Option String :=
  match known.reverse.find? fun entry => naming.same entry.1 name with
  | some entry => entry.2
  | none => none

end Variables

end Typeface
