import Typeface.FileTree
import Typeface.Json.Bytes
import Typeface.Release
import Typeface.Settings.Client
import Typeface.Transport

/-!
# The release client

The client asks the service for its list of releases.  Trouble on the way and a
reply that is no list of releases are told apart by the action that failed.
-/

namespace Typeface.Client

/-- What the client works on: its session, the files it may write, and its log. -/
structure State where
  session : Session
  files : FileTree
  log : Log
  /-- How deep the lists and objects in a reply may nest. -/
  depth : Nat := 990

/-- The name under which the client logs. -/
def source : String := "fontident.releases.client"

namespace State

def record (state : State) (severity : Severity) (message : HostText) : State :=
  { state with log := state.log ++ [{ severity, source, message }] }

/-- Makes a call that brings the next exchange. -/
def request (state : State) (call : Call) : Exchange × State :=
  let (exchange, session) := state.session.request call
  (exchange, { state with session })

def close (state : State) : State :=
  { state with session := state.session.close }

end State

def sending : String := "send releases request"

def decoding : String := "decode releases response"

/-- An action that failed by trouble of the transport. -/
def troubled (action : String) (trouble : Trouble) : Failure :=
  .caused (.releaseRequest (.text action) (some trouble.message.value)) (.transport trouble)

/-- An action that failed for a reason of its own. -/
def failed (action : String) (mishap : Mishap) : Failure :=
  .caused (.releaseRequest (.text action) none) mishap

/-- What a text that is no JSON means to the transport. -/
def notJson : Mishap :=
  .transport { name := "JSONDecodeError", message := "" }

/-- The items of a value that can be listed: a mapping lists its keys, a text its characters. -/
def itemsOf : Value → Except Mishap (List Value)
  | .list items => .ok items
  | .dict entries => .ok (entries.map (·.1))
  | .text content => .ok (content.toList.map fun letter => .text (String.ofList [letter]))
  | .brokenText content => .ok (content.codes.map fun (code : Nat) => Value.ofCodes [code])
  | _ => .error .wrongArgument

/-- The releases in items, up to the first item that is none. -/
def releasesIn : List Value → Except Mishap (List Release)
  | [] => .ok []
  | item :: rest =>
    match Release.ofValue item with
    | .error complaints => .error (.invalid complaints)
    | .ok release =>
      match releasesIn rest with
      | .error mishap => .error mishap
      | .ok releases => .ok (release :: releases)

/-- The releases in a decoded reply. -/
def releasesOf (value : Value) : Except Mishap (List Release) :=
  match itemsOf value with
  | .error mishap => .error mishap
  | .ok items => releasesIn items

/-- The releases in the body of a reply.  One that nests too deep is no refusal of the client's. -/
def decodeBody (depth : Nat) (body : Text.Bytes) : Except Failure (List Release) :=
  match Json.decodeBytes depth body with
  | .error .malformed => .error (failed sending notJson)
  | .error .oversized => .error (failed decoding .wrongValue)
  | .error .tooDeep => .error (.mishap .tooDeep)
  | .ok value =>
    match releasesOf value with
    | .error mishap => .error (failed decoding mishap)
    | .ok releases => .ok releases

/-- The releases that an exchange brings. -/
def releasesFrom (depth : Nat) (url : HostText) : Exchange → Except Failure (List Release)
  | .broken (.trouble trouble) => .error (troubled sending trouble)
  | .broken (.value message) =>
    .error (.caused (.releaseRequest (.text decoding) (some message.value)) .wrongValue)
  | .broken (.system _) => .error (.mishap .operatingSystem)
  | .broken (.other name) => .error (.mishap (.foreign name))
  | .reply reply =>
    match reply.statusTrouble? url with
    | some trouble => .error (troubled sending trouble)
    | none => decodeBody depth reply.body

/-- Fetches all releases. -/
def fetchReleases (settings : ClientSettings) (state : State) :
    Except Failure (List Release) × State :=
  let url := settings.releasesUrl
  let announced := state.record .info ("Fetching releases from " ++ url)
  let (exchange, asked) := announced.request (.get url settings.timeout)
  match releasesFrom state.depth url exchange with
  | .error failure => (.error failure, asked)
  | .ok releases =>
    (.ok releases, asked.record .debug s!"Fetched {Number.decimal releases.length} releases")

/-- The first release with a tag. -/
def findTag (tag : Value) (releases : List Release) : Except Failure Release :=
  match releases.find? fun release => release.tag.value.equal tag with
  | some release => .ok release
  | none => Failure.raise (.releaseNotFound tag)

/-- Fetches the release with a tag. -/
def fetchRelease (settings : ClientSettings) (tag : Value) (state : State) :
    Except Failure Release × State :=
  match fetchReleases settings state with
  | (.error failure, after) => (.error failure, after)
  | (.ok releases, after) => (findTag tag releases, after)

/-- The tag of a version: the letter v with the version behind it. -/
def versionTag (version : Value) : Except Value.Unwritten Value :=
  (Value.spoken version).map fun shown => HostText.value ("v" ++ shown)

/-- Fetches the release of a version. -/
def fetchVersion (settings : ClientSettings) (version : Value) (state : State) :
    Except Failure Release × State :=
  match versionTag version with
  | .ok tag => fetchRelease settings tag state
  | .error reason => (Failure.ofMishap (.ofUnwritten reason), state)

end Typeface.Client
