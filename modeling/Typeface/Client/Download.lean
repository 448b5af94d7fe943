import Typeface.Client

/-!
# Downloads

An asset is written to a temporary file first, which takes its final name when
all of it has arrived.  A file that had the name is replaced then and not
before; if the download breaks off, the temporary file is removed.  Of the
display of progress only that matters which can make a download fail, and of
that not what depends on the time that the pieces take.
-/

namespace Typeface.Client

def requesting : String := "send asset download request"

def receiving : String := "get asset download response bytes"

/-- The directory to write to: the one given, or else the working directory. -/
def directoryOf (files : FileTree) : Value → Except Failure Path
  | .null => .ok { root := "/", parts := files.working }
  | given =>
    match given.hostText? with
    | some path => .ok (.ofText path)
    | none => Failure.ofMishap .wrongArgument

/-- A file name as a path below a directory. -/
def pathIn (directory : Path) (name : Value) : Except Failure (HostText × Path) :=
  match name.hostText? with
  | some name => .ok (name, directory.join (.ofText name))
  | none => Failure.ofMishap .wrongArgument

/-- The reply that an exchange brings. -/
def replyFrom (url : HostText) : Exchange → Except Failure Reply
  | .broken (.trouble trouble) => .error (troubled requesting trouble)
  | .broken (.value _) => .error (.mishap .wrongValue)
  | .broken (.system _) => .error (.mishap .operatingSystem)
  | .broken (.other name) => .error (.mishap (.foreign name))
  | .reply reply =>
    match reply.statusTrouble? url with
    | some trouble => .error (troubled requesting trouble)
    | none => .ok reply

/-- The size of a download as its reply announces it, or else as the release list has it. -/
def announcedSize (reply : Reply) (asset : Asset) : Except Failure Int :=
  match reply.header? "content-length" with
  | none => .ok asset.size
  | some text =>
    if text.isEmpty then .ok asset.size
    else
      match Number.plainInteger? text with
      | some size => .ok size
      | none => Failure.ofMishap .wrongValue

/-- What an obstacle on the disk means for the file at a path. -/
def obstructed (path : Path) : FileTree.Obstacle → Failure
  | .unspeakable => .mishap .wrongValue
  | .unencodable => .mishap .unrepresentable
  | _ => .caused (.assetWrite path.text.value none) .operatingSystem

/-- Gives a temporary file its final name.  It stays where the path itself is at fault. -/
def settle (files : FileTree) (temporary : Location) (path : Path) :
    Except Failure Unit × FileTree :=
  match files.moveTo temporary path with
  | .ok final => (.ok (), final)
  | .error obstacle =>
    (.error (obstructed path obstacle),
      if obstacle.isOfPath then files else files.remove temporary)

/-- Ends a download of which all pieces that came are in a temporary file. -/
def conclude (files : FileTree) (temporary : Location) (path : Path) :
    Option Break → Except Failure Unit × FileTree
  | none => settle files temporary path
  | some (.trouble trouble) => (.error (troubled receiving trouble), files.remove temporary)
  | some (.system message) =>
    (.error (.caused (.assetWrite path.text.value (some message.value)) .operatingSystem),
      files.remove temporary)
  | some (.value _) => (.error (.mishap .wrongValue), files)
  | some (.other name) => (.error (.mishap (.foreign name)), files)

/-- Writes pieces to a file in the order in which they arrive.  Empty ones are passed over. -/
def writePieces (files : FileTree) (location : Location) : List Text.Bytes → FileTree
  | [] => files
  | piece :: rest =>
    if piece.isEmpty then writePieces files location rest
    else writePieces (files.append location piece) location rest

/-- Whether progress can be shown of a download of a size, which is a floating-point number
there. -/
def isMeasurable (size : Int) : Bool :=
  (Number.Binary64.ofInt size).isFinite

/-- What arrives of a download: the pieces and the end, and the size if progress is to be shown. -/
structure Arrival where
  pieces : List Text.Bytes
  ending : Option Break
  shown : Option Int

/-- Fills a new temporary file with what arrives, and gives it its name.  The display of progress
begins when the file is there, and the file stays if the display fails. -/
def fill (files : FileTree) (temporary : Location) (path : Path) (arrival : Arrival) :
    Except Failure Unit × FileTree :=
  if arrival.shown.all isMeasurable then
    conclude (writePieces files temporary arrival.pieces) temporary path arrival.ending
  else (.error (.mishap .outOfRange), files)

/-- Saves what arrives as the file at a path in a directory. -/
def save (files : FileTree) (directory path : Path) (arrival : Arrival) :
    Except Failure Unit × FileTree :=
  match files.makeDirectories directory with
  | (some obstacle, changed) => (.error (obstructed path obstacle), changed)
  | (none, changed) =>
    match changed.createIn directory with
    | .error obstacle => (.error (obstructed path obstacle), changed)
    | .ok (temporary, opened) => fill opened temporary path arrival

/-- What arrives by a reply that announces a size. -/
def arrivalOf (settings : ClientSettings) (reply : Reply) (size : Int) : Arrival :=
  { pieces := reply.arrivals settings.chunkSize.toNat
    ending := reply.ending
    shown := if settings.showProgress then some size else none }

/-- Saves the content of a reply. -/
def receive (settings : ClientSettings) (asset : Asset) (directory path : Path) (reply : Reply)
    (state : State) : Except Failure Path × State :=
  match announcedSize reply asset with
  | .error failure => (.error failure, state)
  | .ok size =>
    match save state.files directory path (arrivalOf settings reply size) with
    | (.error failure, files) => (.error failure, { state with files })
    | (.ok (), files) =>
      (.ok path, { state with files }.record .info
        ("Asset downloaded successfully to: " ++ path.text))

/-- Asks for the content of an asset and saves it. -/
def transfer (settings : ClientSettings) (release : Release) (asset : Asset) (name : HostText)
    (directory path : Path) (state : State) : Except Failure Path × State :=
  let announced := state.record .info
    ("Downloading asset '" ++ name ++ "' of release '" ++ release.tag ++ "'")
  let (exchange, asked) := announced.request (.download asset.url settings.timeout)
  match replyFrom asset.url exchange with
  | .error failure => (.error failure, asked)
  | .ok reply => receive settings asset directory path reply asked

/-- Downloads the first asset of a release that has a name, into a directory. -/
def download (settings : ClientSettings) (release : Release) (name directory : Value)
    (state : State) : Except Failure Path × State :=
  match release.asset? name with
  | none => (Failure.raise (.assetNotFound name release.tag.value), state)
  | some asset =>
    match directoryOf state.files directory with
    | .error failure => (.error failure, state)
    | .ok directory =>
      match pathIn directory name with
      | .error failure => (.error failure, state)
      | .ok (shown, path) => transfer settings release asset shown directory path state

end Typeface.Client
