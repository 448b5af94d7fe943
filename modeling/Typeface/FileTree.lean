import Typeface.Path
import Typeface.Text.Encoding

/-!
# File trees

A file tree lists the files and directories that exist, each at its location
below the root, and has a working directory, which programs find there.  The
system may deny a program to read, to change or to pass through what is at a
location.  Operations that the disk would refuse leave the tree as it was.
-/

namespace Typeface

/-- The name of a file or directory, in bytes. -/
structure Name where
  bytes : Text.Bytes
deriving DecidableEq, Repr

namespace Name

def ofText (text : String) : Name :=
  { bytes := (HostText.ofText text).bytes?.getD [] }

instance : Coe String Name := ⟨ofText⟩

end Name

/-- The names of the directories from the root down to a node, and its own. -/
abbrev Location := List Name

inductive Node
  | file (content : Text.Bytes)
  | directory
deriving DecidableEq, Repr

/-- What a program does to what is at a location: it reads a file or lists a directory, it makes,
replaces or removes an entry of a directory, or it goes on through a directory. -/
inductive Access
  | read
  | write
  | search
deriving DecidableEq, Repr

structure FileTree where
  nodes : List (Location × Node)
  /-- The path of the working directory from the root, as texts. -/
  working : List HostText
  /-- What the system denies. -/
  denied : List (Location × Access) := []
deriving DecidableEq, Repr

namespace FileTree

/-- The longest name in bytes that a directory can hold. -/
def nameLimit : Nat := 255

/-- A path must be shorter than this in bytes. -/
def pathLimit : Nat := 4096

/-- The root is a directory always. -/
def node? (tree : FileTree) (location : Location) : Option Node :=
  if location.isEmpty then some .directory else tree.nodes.lookup location

def allows (tree : FileTree) (access : Access) (location : Location) : Bool :=
  !tree.denied.contains (location, access)

/-- Why a path leads nowhere. -/
inductive Obstacle
  | missing
  /-- Something else is there already. -/
  | occupied
  /-- A name or the whole path is too long. -/
  | tooLong
  | denied
  /-- The path holds a zero, which ends a path. -/
  | unspeakable
  /-- The path holds a surrogate that stands for no byte. -/
  | unencodable
deriving DecidableEq, Repr

/-- Whether the path itself is at fault, which is noticed before the disk is asked. -/
def Obstacle.isOfPath (obstacle : Obstacle) : Bool :=
  obstacle == unspeakable || obstacle == unencodable

/-- Follows names from a location.  All but the last must be those of directories that exist. -/
def walk (tree : FileTree) : Location → List Name → Except Obstacle Location
  | here, [] => .ok here
  | here, name :: rest =>
    match tree.node? here with
    | none => .error .missing
    | some (.file _) => .error .occupied
    | some .directory =>
      if !tree.allows .search here then .error .denied
      else if name = ".." then walk tree here.dropLast rest
      else if name = "." then walk tree here rest
      else if nameLimit < name.bytes.length then .error .tooLong
      else walk tree (here ++ [name]) rest

/-- The location of the working directory. -/
def here (tree : FileTree) : Location :=
  tree.working.filterMap fun part => part.bytes?.map Name.mk

def start (tree : FileTree) (path : Path) : Location :=
  if path.isAbsolute then [] else tree.here

/-- The names along a path.  The path without parts names the place itself by a dot. -/
def namesOf? (path : Path) : Option (List Name) :=
  if path.parts.isEmpty && !path.isAbsolute then some ["."]
  else path.parts.mapM fun part => part.bytes?.map Name.mk

/-- The number of bytes of a path. -/
def lengthOf (path : Path) : Nat :=
  (path.text.bytes?.getD []).length

/-- Where a path leads, whether or not something is there. -/
def locate (tree : FileTree) (path : Path) : Except Obstacle Location :=
  match namesOf? path with
  | none => .error .unencodable
  | some names =>
    if names.any fun name => name.bytes.contains 0 then .error .unspeakable
    else if pathLimit ≤ lengthOf path then .error .tooLong
    else tree.walk (tree.start path) names

/-- What is at a path. -/
def at? (tree : FileTree) (path : Path) : Option Node :=
  match tree.locate path with
  | .ok location => tree.node? location
  | .error _ => none

/-- What is at a path as it is written.  An empty one leads nowhere, and one that can only name a
directory does not lead to a file. -/
def written? (tree : FileTree) (text : HostText) : Option Node :=
  if text.isEmpty || pathLimit ≤ (text.bytes?.getD []).length then none
  else
    match tree.at? (.ofText text) with
    | some (.file content) => if Path.endsOpen text then none else some (.file content)
    | found => found

/-- Whether a program may read what is at a path. -/
def mayRead (tree : FileTree) (path : Path) : Bool :=
  match tree.locate path with
  | .ok location => tree.allows .read location
  | .error _ => false

/-- What is at a path.  That the disk refuses to look is a failure here, and nothing else is. -/
def probe (tree : FileTree) (path : Path) : Except Obstacle (Option Node) :=
  match tree.locate path with
  | .ok location => .ok (tree.node? location)
  | .error .tooLong => .error .tooLong
  | .error .denied => .error .denied
  | .error _ => .ok none

/-- The content of the file at a path. -/
def read (tree : FileTree) (path : Path) : Except Obstacle Text.Bytes :=
  match tree.locate path with
  | .error obstacle => .error obstacle
  | .ok location =>
    match tree.node? location with
    | none => .error .missing
    | some .directory => .error .occupied
    | some (.file content) =>
      if tree.allows .read location then .ok content else .error .denied

def isDirectory (tree : FileTree) (path : Path) : Bool :=
  tree.at? path == some .directory

/-- Replaces what is at a location. -/
def put (tree : FileTree) (location : Location) (node : Node) : FileTree :=
  { tree with nodes := tree.nodes.filter (fun entry => entry.1 != location) ++ [(location, node)] }

def remove (tree : FileTree) (location : Location) : FileTree :=
  { tree with nodes := tree.nodes.filter fun entry => entry.1 != location }

/-- Makes one directory in a directory that exists. -/
def makeDirectory (tree : FileTree) (path : Path) : Except Obstacle FileTree :=
  match tree.locate path with
  | .error obstacle => .error obstacle
  | .ok location =>
    match tree.node? location with
    | some _ => .error .occupied
    | none =>
      if tree.allows .write location.dropLast then .ok (tree.put location .directory)
      else .error .denied

/-- Why a directory cannot be made, unless it is there already. -/
def standing? (tree : FileTree) (path : Path) (obstacle : Obstacle) : Option Obstacle :=
  if !obstacle.isOfPath && tree.isDirectory path then none else some obstacle

/-- Makes a directory and those above it.  The parts are given last one first; directories
made on the way stay even if a later one is refused. -/
def makeUpward (tree : FileTree) (root : String) : List HostText → Option Obstacle × FileTree
  | [] => (none, tree)
  | last :: above =>
    let path : Path := { root, parts := (last :: above).reverse }
    match tree.makeDirectory path with
    | .ok changed => (none, changed)
    | .error .missing =>
      match makeUpward tree root above with
      | (some obstacle, changed) => (some obstacle, changed)
      | (none, changed) =>
        match changed.makeDirectory path with
        | .ok final => (none, final)
        | .error obstacle => (changed.standing? path obstacle, changed)
    | .error obstacle => (tree.standing? path obstacle, tree)

/-- Makes a directory with its parents unless it is there, and tells what is in the way. -/
def makeDirectories (tree : FileTree) (path : Path) : Option Obstacle × FileTree :=
  tree.makeUpward path.root path.parts.reverse

/-- A name that nothing in the tree has: it is longer than all names there. -/
def freshName (tree : FileTree) : Name :=
  let lengths := tree.nodes.map fun entry => ((entry.1.getLast?.map Name.bytes).getD []).length
  { bytes := ("tmp" : Name).bytes ++ List.replicate (lengths.foldl max 0) '_'.toNat.toUInt8 ++
      (".tmp" : Name).bytes }

/-- The number of bytes in the names of temporary files. -/
def freshLength : Nat := 15

/-- The number of bytes of the absolute path of a location. -/
def lengthAt (location : Location) : Nat :=
  location.foldl (fun total name => total + 1 + name.bytes.length) 0

/-- Whether a program may go from the root through a location. -/
def isOpen (tree : FileTree) (location : Location) : Bool :=
  (List.range (location.length + 1)).all fun length => tree.allows .search (location.take length)

/-- A new empty file in the directory at a path.  It is made by its absolute path. -/
def createIn (tree : FileTree) (directory : Path) : Except Obstacle (Location × FileTree) :=
  match tree.locate directory with
  | .error obstacle => .error obstacle
  | .ok location =>
    match tree.node? location with
    | some .directory =>
      if pathLimit ≤ lengthAt location + 1 + freshLength then .error .tooLong
      else if tree.isOpen location && tree.allows .write location then
        let created := location ++ [tree.freshName]
        .ok (created, tree.put created (.file []))
      else .error .denied
    | some (.file _) => .error .occupied
    | none => .error .missing

/-- Adds bytes at the end of the file at a location. -/
def append (tree : FileTree) (location : Location) (bytes : Text.Bytes) : FileTree :=
  match tree.node? location with
  | some (.file content) => tree.put location (.file (content ++ bytes))
  | _ => tree

/-- Moves a file to a path, over a file that is there; a directory there is kept. -/
def moveTo (tree : FileTree) (source : Location) (path : Path) : Except Obstacle FileTree :=
  match tree.locate path, tree.node? source with
  | .error obstacle, _ => .error obstacle
  | .ok target, some (.file content) =>
    if tree.node? target = some .directory then .error .occupied
    else if tree.allows .write target.dropLast then
      .ok ((tree.remove source).put target (.file content))
    else .error .denied
  | .ok _, _ => .error .missing

/-- Whether a location lies below another one. -/
def isBelow (base location : Location) : Bool :=
  base.length < location.length && location.take base.length == base

/-- The nodes below the working directory, by their locations from there. -/
def listing (tree : FileTree) : List (Location × Node) :=
  (tree.nodes.filter fun entry => isBelow tree.here entry.1).map fun entry =>
    (entry.1.drop tree.here.length, entry.2)

end FileTree

end Typeface
