import Typeface.Failure
import Typeface.Log
import Typeface.Text.Letter

/-!
# Transport

Requests go to a server whose behaviour is given: a list of exchanges, one for
each request.  An exchange brings a reply or breaks off.  A session keeps the
calls that were made, in order.
-/

namespace Typeface

open Typeface.Number

/-- How an exchange breaks off: with trouble that the transport names, with a failure of the system
or of a value, or with a failure of any other kind. -/
inductive Break
  | trouble (trouble : Trouble)
  | system (message : HostText)
  | value (message : HostText)
  | other (name : String)
deriving DecidableEq, Repr

structure Reply where
  status : Int
  reason : Option String
  headers : List (String × String)
  body : Text.Bytes
  /-- The pieces in which the body arrives, where these are not slices of it. -/
  pieces : Option (List Text.Bytes)
  /-- What happens after the last piece. -/
  ending : Option Break
deriving DecidableEq, Repr

inductive Exchange
  | reply (reply : Reply)
  | broken (reason : Break)
deriving DecidableEq, Repr

/-- A call of the session. -/
inductive Call
  | get (url : HostText) (timeout : Binary64)
  /-- A request for the content of a file, read piece by piece. -/
  | download (url : HostText) (timeout : Binary64)
  | close
deriving DecidableEq, Repr

/-- A session with the exchanges still to come and the calls made. -/
structure Session where
  script : List Exchange
  calls : List Call
deriving DecidableEq, Repr

namespace Session

def opened (script : List Exchange) : Session :=
  { script, calls := [] }

/-- What a request meets when the exchanges have run out. -/
def exhausted : Exchange :=
  .broken (.trouble { name := "ConnectionError", message := "script exhausted" })

/-- Makes a request, which takes the next exchange. -/
def request (session : Session) (call : Call) : Exchange × Session :=
  (session.script.head?.getD exhausted,
    { script := session.script.tail, calls := session.calls ++ [call] })

def close (session : Session) : Session :=
  { session with calls := session.calls ++ [.close] }

end Session

namespace Reply

/-- Header names match whatever the case of their letters; the last one counts. -/
def header? (reply : Reply) (name : String) : Option String :=
  (reply.headers.reverse.find? fun entry => Text.lowerText entry.1 == Text.lowerText name).map (·.2)

/-- The trouble that an error status means. -/
def statusTrouble? (reply : Reply) (url : HostText) : Option Trouble :=
  let blame? :=
    if 400 ≤ reply.status ∧ reply.status < 500 then some "Client"
    else if 500 ≤ reply.status ∧ reply.status < 600 then some "Server"
    else none
  blame?.map fun blame =>
    let status := decimal reply.status
    let reason := reply.reason.getD "None"
    { name := "HTTPError", message := s!"{status} {blame} Error: {reason} for url: " ++ url }

end Reply

/-- Cuts bytes into slices of a size. -/
def slices (size : Nat) (bytes : Text.Bytes) : List Text.Bytes :=
  go bytes.length bytes
where
  go : Nat → Text.Bytes → List Text.Bytes
    | 0, _ => []
    | steps + 1, rest =>
      if rest.isEmpty then [] else rest.take (max size 1) :: go steps (rest.drop (max size 1))

/-- The pieces in which the content of a reply arrives. -/
def Reply.arrivals (reply : Reply) (chunkSize : Nat) : List Text.Bytes :=
  reply.pieces.getD (slices chunkSize reply.body)

end Typeface
