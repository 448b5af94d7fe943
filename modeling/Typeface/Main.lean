import Typeface.Cli

/-!
# The program

Reads the environment and the files that a command line may name, runs the
line, and writes what it leaves behind.  There is no transport here, so that
every request of the client breaks off.
-/

namespace Typeface.Program

/-- Variables as the system keeps them, each ended by a zero. -/
def variablesOf (bytes : Text.Bytes) : List (String × String) :=
  let text := (Text.utf8? bytes).getD ""
  (text.splitOn "\x00").filterMap fun entry =>
    let name := entry.toList.takeWhile (· != '=')
    match entry.toList.drop name.length with
    | _ :: value => some (String.ofList name, String.ofList value)
    | [] => none

/-- The paths that a word of a command line may hold. -/
def pathsIn (word : String) : List String :=
  let letters := word.toList
  let attached := (letters.dropWhile (· != '=')).drop 1
  [word, String.ofList attached, String.ofList (letters.drop 2)]

/-- What is at a path, if something is there. -/
def nodeAt (path : String) : IO (Option Node) := do
  try
    let content ← IO.FS.readBinFile path
    return some (.file content.data.toList)
  catch failure =>
    match failure with
    | .noFileOrDirectory .. => return none
    | _ => return some .directory

/-- A tree with the nodes of paths and the directories above them. -/
def treeOf (working : List HostText) (found : List (String × Node)) : FileTree :=
  let start : FileTree := { nodes := [], working }
  let withDirectories :=
    (List.range (start.here.length + 1)).foldl
      (fun tree length => tree.put (start.here.take length) .directory) start
  found.foldl (fun tree entry =>
    let path := Path.ofText entry.1
    let (_, grown) := tree.makeDirectories { path with parts := path.parts.dropLast }
    match grown.locate path with
    | .ok location => grown.put location entry.2
    | .error _ => grown) withDirectories

/-- The environment and the files that a line may name. -/
def surroundings (line : List String) : IO Surroundings := do
  let environment ← try
      let bytes ← IO.FS.readBinFile "/proc/self/environ"
      pure (variablesOf bytes.data.toList)
    catch _ => pure []
  let working := ((environment.lookup "PWD").map fun path => (Path.ofText path).parts).getD []
  let paths := (".env" :: line.flatMap pathsIn).filter fun path => !path.isEmpty
  let nodes ← paths.filterMapM fun path => do
    return (← nodeAt path).map fun node => (path, node)
  return { environment, files := treeOf working nodes }

/-- A line that tells of a failure that no command handles. -/
def failureLine (failure : Failure) : String :=
  match failure.fault? with
  | some fault => ((fault.message?).getD "failure").reported
  | none => "failure"

end Typeface.Program

open Typeface in
def main (line : List String) : IO UInt32 := do
  let surroundings ← Program.surroundings line
  let outcome := Cli.run surroundings (.opened []) line
  IO.print outcome.output
  IO.eprint outcome.errors
  for entry in outcome.state.log do
    IO.eprintln s!"{entry.source} - {entry.severity.name} - {entry.message.reported}"
  if let some failure := outcome.escaped then
    IO.eprintln (Program.failureLine failure)
  return outcome.exitCode.toUInt32
