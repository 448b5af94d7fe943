import Typeface.Text.Host
import Typeface.Vocabulary

/-!
# Records of releases

A published release has a tag and a list of files to download, its assets.
-/

namespace Typeface

/-- What a release or an asset is known by.  It is a number, unless a vocabulary was handed over in
its place, of which the title is kept. -/
inductive Identifier
  | number (value : Int)
  | title (vocabulary : Vocabulary)
deriving DecidableEq, Repr

structure Asset where
  id : Identifier
  url : HostText
  name : Option HostText
  label : Option HostText
  contentType : HostText
  size : Int
deriving DecidableEq, Repr

structure Release where
  id : Identifier
  url : HostText
  tag : HostText
  name : Option HostText
  body : Option HostText
  draft : Bool
  prerelease : Bool
  assets : List Asset
deriving DecidableEq, Repr

end Typeface
