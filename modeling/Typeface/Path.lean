import Typeface.Text.Host

/-!
# Paths

A path as it is written: slashes in front of an absolute path, and its parts.
Parts that are empty or a single dot name nothing and are dropped.  Two dots
stay, since what they name depends on the directories that are there.
-/

namespace Typeface

structure Path where
  /-- The slashes in front: none, one, or exactly two. -/
  root : String
  parts : List HostText
deriving DecidableEq, Repr

namespace Path

def isAbsolute (path : Path) : Bool :=
  !path.root.isEmpty

def slash : Nat := '/'.toNat

/-- Splits at slashes. -/
def splitSlashes : List Nat → List (List Nat)
  | [] => [[]]
  | code :: rest =>
    if code = slash then [] :: splitSlashes rest
    else
      match splitSlashes rest with
      | first :: others => (code :: first) :: others
      | [] => [[code]]

/-- Three or more slashes in front count as one. -/
def rootOf (codes : List Nat) : String :=
  match (codes.takeWhile (· == slash)).length with
  | 0 => ""
  | 2 => "//"
  | _ => "/"

def ofText (text : HostText) : Path :=
  let pieces := (splitSlashes text.codes).map HostText.mk
  { root := rootOf text.codes
    parts := pieces.filter fun piece => !piece.isEmpty && piece != "." }

/-- Whether a path as it is written can only name a directory: after its last slash there is
nothing, or a single dot. -/
def endsOpen (text : HostText) : Bool :=
  let last := HostText.mk ((splitSlashes text.codes).getLast?.getD [])
  last.isEmpty || last == "."

/-- Parts with slashes between them. -/
def joinSlashes (parts : List HostText) : HostText :=
  { codes := [slash].intercalate (parts.map HostText.codes) }

def text (path : Path) : HostText :=
  if path.root.isEmpty && path.parts.isEmpty then "."
  else path.root ++ joinSlashes path.parts

/-- A path below another one.  An absolute path stands for itself. -/
def join (base below : Path) : Path :=
  if below.isAbsolute then below
  else { base with parts := base.parts ++ below.parts }

end Path

end Typeface
