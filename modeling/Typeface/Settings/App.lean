import Typeface.Json.Decoder
import Typeface.Log
import Typeface.Settings.Client
import Typeface.Text.Flaw

/-!
# Settings of the application

The settings of the application hold those of the release client.  Where these
are given in parts by several sources, the parts are put together; they are then
loaded as settings of their own, so that they also look for their own variables.
-/

namespace Typeface

structure AppSettings where
  environment : HostText
  logLevel : String
  logFormat : HostText
  releases : ClientSettings
deriving DecidableEq, Repr

namespace AppSettings

def stem : String := "APP_"

def defaultLogFormat : String := "%(asctime)s - %(name)s - %(levelname)s - %(message)s"

/-- The name of a level of severity, in capitals. -/
def levelName (value : Value) : Except Defect String := do
  let text ← Coercion.text value
  let name := String.ofList (text.letters.map Text.raiseLetter)
  match Severity.ofName? name with
  | some _ => .ok name
  | none => .error (.rule s!"Unknown log level: {text.reported}")

/-- Spells a name as the field that it names in other letters. -/
def fieldName (name : Value) : Value :=
  match name with
  | .text name =>
    .text ((ClientSettings.fieldNames.find? fun field => field == Text.foldName name).getD name)
  | other => other

/-- Settings of the client as they stand in a variable: the names of fields match in any letters. -/
def spellFields (value : Value) : Value :=
  match value with
  | .dict entries => Value.ofEntries (entries.map fun entry => (fieldName entry.1, entry.2))
  | other => other

/-- Settings of the client from a variable that holds JSON; a null counts as none. -/
def ofVariable (depth : Nat) (naming : Naming) (text : Option String) :
    Except Failure (Option Value) :=
  match text with
  | none => .ok none
  | some text =>
    match Json.decode depth text with
    | .ok .null => .ok none
    | .ok value => .ok (some (if naming = .exact then value else spellFields value))
    | .error .tooDeep => Failure.ofMishap .tooDeep
    | .error _ => Failure.ofMishap .settingsSource

/-- Two mappings put together, the second one winning.  What is no mapping replaces the other. -/
def merge (lower higher : Option Value) : Option Value :=
  match lower, higher with
  | some (.dict lower), some (.dict higher) => some (Value.ofEntries (lower ++ higher))
  | lower, none => lower
  | _, some value => some value

def isText : Value → Bool
  | .text _ | .brokenText _ => true
  | _ => false

/-- Settings of the client from a mapping of them. -/
def clientOf (surroundings : Surroundings) (value : Value) :
    Except Failure (Checked ClientSettings) :=
  match value with
  | .dict entries =>
    if entries.all fun entry => isText entry.1 then
      match ClientSettings.load surroundings (Value.fields entries) .standard with
      | .ok settings => .ok (.ok settings)
      | .error (.mishap (.invalid complaints)) =>
        .ok (.error (Complaint.within (.field "releases") complaints))
      | .error (.mishap (.undecodableText content)) =>
        let message := ((Text.flaw? content).map Text.Flaw.message).getD ""
        .ok (.error [{ place := [.field "releases"], defect := .rule message }])
      | .error failure => .error failure
    else Failure.ofMishap .wrongArgument
  | _ =>
    .ok (.error [{ place := [.field "releases"], defect := .notRecord "ReleaseClientConfig" }])

/-- The settings of the client: from a mapping if there is one, else from their own sources. -/
def releasesField (surroundings : Surroundings) (value : Option Value) :
    Except Failure (Checked ClientSettings) :=
  match value with
  | some value => clientOf surroundings value
  | none => (ClientSettings.load surroundings [] .standard).map .ok

/-- Loads the settings from their sources. -/
def load (surroundings : Surroundings) (given : Fields) (standIn : DotenvChoice) :
    Except Failure AppSettings := do
  let sources ← Sources.gather stem surroundings given standIn
  let decoded := ofVariable surroundings.jsonDepth sources.naming
  let inEnvironment ← decoded (sources.heldBy? sources.environment "releases")
  let inDotenv ← decoded (sources.heldBy? sources.dotenv "releases")
  let value := merge (merge inDotenv inEnvironment) (sources.given? "releases")
  let releases ← releasesField surroundings value
  let fields := sources.fields ["environment", "log_level", "log_format"]
  (Checked.also (Checked.also (Checked.also (Checked.also (.ok AppSettings.mk)
    (Checked.defaulted fields "environment" Coercion.text "development"))
    (Checked.defaulted fields "log_level" levelName "INFO"))
    (Checked.defaulted fields "log_format" Coercion.text defaultLogFormat))
    releases).orFail

end AppSettings

end Typeface
