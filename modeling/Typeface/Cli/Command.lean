import Typeface.Cli.Words
import Typeface.FileTree
import Typeface.Style
import Typeface.Weight

/-!
# Commands

What a command line asks for.  The settings are loaded between its first part,
which chooses the settings file and the topic, and its second part, the command
itself; a misuse in the second part is noticed after loading.
-/

namespace Typeface.Cli

/-- Why nothing is to be done: help was asked for, or the line does not fit. -/
inductive Stop
  | help
  | misuse
  /-- A path holds a character that no name can hold. -/
  | unspeakable
deriving DecidableEq, Repr

def Stop.exitCode : Stop → Nat
  | help => 0
  | misuse => 2
  | unspeakable => 1

def helpSwitch : Switch :=
  { name := "--help", short := none, takesValue := false }

/-- The words of a line, unless help is asked for or the line does not fit. -/
def wordsOf (switches : List Switch) (mixed : Bool) (line : List String) : Except Stop Words :=
  match Grammar.words? { switches := helpSwitch :: switches, mixed } line with
  | none => .error .misuse
  | some words => if words.has helpSwitch.name then .error .help else .ok words

inductive Topic
  | resolve
  | listFonts
  | convert
  | releases
deriving DecidableEq, Repr

def Topic.ofName? : String → Option Topic
  | "resolve" => some resolve
  | "list-fonts" => some listFonts
  | "convert" => some convert
  | "releases" => some releases
  | _ => none

/-- The first part of a command line. -/
structure Opening where
  verbose : Bool
  /-- The settings file. -/
  config : Option String
  topic : Topic
  rest : List String
deriving DecidableEq, Repr

/-- Whether a path is the sort of thing that an option asks for. -/
inductive Demand
  | existing
  | notFile
deriving DecidableEq, Repr

def Demand.isMet (demand : Demand) (found : Node) : Bool :=
  match demand, found with
  | notFile, .file _ => false
  | _, _ => true

/-- The path that an option gives, if it gives one.  What is at the path must be readable. -/
def pathOf (files : FileTree) (demand : Demand) (words : Words) (name : String) :
    Except Stop (Option String) :=
  match words.value? name with
  | none => .ok none
  | some path =>
    if path.contains '\x00' then .error .unspeakable
    else
      match files.written? path with
      | none => if demand = .existing then .error .misuse else .ok (some path)
      | some found =>
        if demand.isMet found && files.mayRead (.ofText path) then .ok (some path)
        else .error .misuse

/-- A line that names no command does not fit. -/
def nonempty (line : List String) : Except Stop (List String) :=
  if line.isEmpty then .error .misuse else .ok line

def Opening.ofLine (files : FileTree) (line : List String) : Except Stop Opening := do
  let line ← nonempty line
  let words ← wordsOf
    [{ name := "--verbose", short := some 'v', takesValue := false },
      { name := "--config", short := some 'c', takesValue := true }] false line
  let config ← pathOf files .existing words "--config"
  match words.arguments with
  | [] => .error .misuse
  | name :: rest =>
    match Topic.ofName? name with
    | none => .error .misuse
    | some topic => .ok { verbose := words.has "--verbose", config, topic, rest }

inductive Command
  | resolve (name : String)
  | listFonts (mappedOnly : Bool)
  | convert (family : String) (weight : Weight) (style : Style)
  | listReleases
  | download (tag asset : String) (output : Option String)
deriving DecidableEq, Repr

namespace Command

/-- The value of an option with choices, or what stands in for it. -/
def choice {α : Type} (words : Words) (name : String) (ofName? : String → Option α)
    (standIn : α) : Except Stop α :=
  match words.value? name with
  | none => .ok standIn
  | some text =>
    match ofName? text with
    | some value => .ok value
    | none => .error .misuse

def ofResolve (line : List String) : Except Stop Command := do
  let words ← wordsOf [] true line
  match words.arguments with
  | [name] => .ok (.resolve name)
  | _ => .error .misuse

def ofListFonts (line : List String) : Except Stop Command := do
  let words ← wordsOf [{ name := "--mapped-only", short := none, takesValue := false }] true line
  match words.arguments with
  | [] => .ok (.listFonts (words.has "--mapped-only"))
  | _ => .error .misuse

def ofConvert (line : List String) : Except Stop Command := do
  let words ← wordsOf
    [{ name := "--weight", short := none, takesValue := true },
      { name := "--style", short := none, takesValue := true }] true line
  let weight ← choice words "--weight" Weight.ofName? .regular
  let style ← choice words "--style" Style.ofName? .normal
  match words.arguments with
  | [family] => .ok (.convert family weight style)
  | _ => .error .misuse

def ofListReleases (line : List String) : Except Stop Command := do
  let words ← wordsOf [] true line
  match words.arguments with
  | [] => .ok .listReleases
  | _ => .error .misuse

/-- A download goes to a directory, which need not be there yet. -/
def ofDownload (files : FileTree) (line : List String) : Except Stop Command := do
  let words ← wordsOf [{ name := "--output", short := some 'o', takesValue := true }] true line
  let output ← pathOf files .notFile words "--output"
  match words.arguments with
  | [tag, asset] => .ok (.download tag asset output)
  | _ => .error .misuse

def ofReleases (files : FileTree) (line : List String) : Except Stop Command := do
  let line ← nonempty line
  let words ← wordsOf [] false line
  match words.arguments with
  | "list" :: rest => ofListReleases rest
  | "download" :: rest => ofDownload files rest
  | _ => .error .misuse

/-- The second part of a command line. -/
def ofLine (files : FileTree) (topic : Topic) (line : List String) : Except Stop Command :=
  match topic with
  | .resolve => ofResolve line
  | .listFonts => ofListFonts line
  | .convert => ofConvert line
  | .releases => ofReleases files line

end Command

end Typeface.Cli
