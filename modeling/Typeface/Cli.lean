import Typeface.Catalog.Legacy
import Typeface.Cli.Command
import Typeface.Cli.LogFormat
import Typeface.Client.Download
import Typeface.Conversion
import Typeface.Settings.File

/-!
# The command line

A run reads its line, loads the settings, sets the level of the log and carries
the command out.  What it leaves behind is its outcome: an exit code, the texts
it wrote, the records that the level lets through, and the calls and files of
its client.
-/

namespace Typeface.Cli

structure Outcome where
  exitCode : Nat
  output : String
  errors : String
  /-- Records below this level are dropped. -/
  level : Severity
  /-- A failure that no command handles. -/
  escaped : Option Failure
  state : Client.State

/-- The level before any settings are loaded. -/
def initialLevel : Severity := .warning

/-- The name under which the commands log. -/
def source : String := "fontident.cli"

/-- What a command comes to. -/
structure Result where
  exitCode : Nat
  output : String
  errors : String
  escaped : Option Failure
  state : Client.State

namespace Result

def done (output : String) (state : Client.State) : Result :=
  { exitCode := 0, output, errors := "", escaped := none, state }

def escape (failure : Failure) (state : Client.State) : Result :=
  { exitCode := 1, output := "", errors := "", escaped := some failure, state }

end Result

/-- The message of a failure that is a fault. -/
def messageOf (failure : Failure) : HostText :=
  ((failure.fault?).bind Fault.message?).getD ""

/-- A text as output, which must be made of characters. -/
def printed (text : HostText) : Except Failure String :=
  match text.plain? with
  | some line => .ok line
  | none => Failure.ofMishap .unrepresentable

/-- Fills a text up with spaces to a width. -/
def padded (width : Nat) (text : String) : String :=
  text ++ String.ofList (List.replicate (width - text.length) ' ')

def shown (value : Value) : String :=
  value.display?.getD ""

/-- A resolved font with its boldness. -/
def descriptorLines (descriptor : Descriptor) : String :=
  let bold := shown (.bool descriptor.isBold)
  s!"{shown descriptor.value}\n   Bold: {bold}\n"

def resolve (name : String) (state : Client.State) : Result :=
  match Descriptor.ofLegacy (.text name) with
  | .ok descriptor => .done (descriptorLines descriptor) state
  | .error failure =>
    if failure.fault?.isSome then
      { exitCode := 1
        output := ""
        errors := s!"❌ {(messageOf failure).reported}\n"
        escaped := none
        state }
    else .escape failure state

/-- The line of a catalog entry. -/
def entryLine (mappedOnly : Bool) (entry : Entry) : String :=
  let name := padded 20 (shown entry.name)
  match entry.mapping with
  | none => if mappedOnly then "" else s!"{name} (reserved, no mapping)\n"
  | some mapping =>
    s!"{name} {shown mapping.family}  {shown mapping.weight} {shown mapping.style}\n"

def listFonts (mappedOnly : Bool) (state : Client.State) : Result :=
  .done (String.join (Catalog.legacy.entries.map (entryLine mappedOnly))) state

def convert (family : String) (weight : Weight) (style : Style) (state : Client.State) : Result :=
  match (Conversion.toDocument { family := .text family, weight, style }).1.bind fun font =>
    font.json with
  | .ok text => .done (text ++ "\n") state
  | .error failure => .escape failure state

/-- Ends a command of which the client failed: faults of releases are logged, others escape. -/
def failed (opening : String) (failure : Failure) (state : Client.State) : Result :=
  if failure.isIn .release then
    { exitCode := 1
      output := ""
      errors := ""
      escaped := none
      state := { state with
        log := state.log ++
          [{ severity := .error, source, message := opening ++ ": " ++ messageOf failure }] } }
  else .escape failure state

def releaseLine (release : Release) : HostText :=
  let flags := if release.prerelease then " (prerelease)" else ""
  release.tag ++ s!"{flags}: {Number.decimal release.assets.length} assets\n"

/-- Prints lines up to the first one that is no output. -/
def printLines : List HostText → String × Option Failure
  | [] => ("", none)
  | line :: rest =>
    match printed line with
    | .error failure => ("", some failure)
    | .ok shown => (shown ++ (printLines rest).1, (printLines rest).2)

/-- Ends a command that printed lines. -/
def printing (lines : List HostText) (state : Client.State) : Result :=
  match printLines lines with
  | (output, none) => .done output state
  | (output, some failure) => { Result.escape failure state with output }

def listReleases (settings : ClientSettings) (state : Client.State) : Result :=
  match Client.fetchReleases settings state with
  | (.ok releases, after) => printing (releases.map releaseLine) after.close
  | (.error failure, after) => failed "Listing releases failed" failure after.close

/-- Finds a release and downloads one of its assets. -/
def fetchAndDownload (settings : ClientSettings) (tag asset : String) (output : Option String)
    (state : Client.State) : Except Failure Path × Client.State :=
  match Client.fetchRelease settings (.text tag) state with
  | (.error failure, after) => (.error failure, after)
  | (.ok release, after) =>
    Client.download settings release (.text asset) (.ofOption .text output) after

def download (settings : ClientSettings) (tag asset : String) (output : Option String)
    (state : Client.State) : Result :=
  match fetchAndDownload settings tag asset output state with
  | (.ok path, after) => printing ["✅ Downloaded " ++ path.text ++ "\n"] after.close
  | (.error failure, after) => failed "Download failed" failure after.close

/-- Carries a command out. -/
def perform (settings : AppSettings) (state : Client.State) : Command → Result
  | .resolve name => resolve name state
  | .listFonts mappedOnly => listFonts mappedOnly state
  | .convert family weight style => convert family weight style state
  | .listReleases => listReleases settings.releases state
  | .download tag asset output => download settings.releases tag asset output state

/-- The level that the settings call for. -/
def levelOf (settings : AppSettings) (verbose : Bool) : Severity :=
  if verbose then .debug else (Severity.ofName? settings.logLevel).getD .info

/-- Loads the settings and checks that a log can be kept by them. -/
def prepare (surroundings : Surroundings) (opening : Opening) : Except Failure AppSettings := do
  let settings ← Settings.fromEnvironmentAndYaml AppSettings.load surroundings
    (.ofOption .text opening.config) (.text ".env")
  if LogFormat.isValid settings.logFormat then return settings
  else Failure.ofMishap .wrongValue

/-- The records that a level lets through. -/
def visible (level : Severity) (log : Log) : Log :=
  log.filter fun entry => level.rank ≤ entry.severity.rank

/-- The failure that goes with a stop, where one does. -/
def Stop.failure? : Stop → Option Failure
  | .unspeakable => some (.mishap .wrongValue)
  | _ => none

def stopped (stop : Stop) (level : Severity) (state : Client.State) : Outcome :=
  { exitCode := stop.exitCode, output := "", errors := "", level, escaped := stop.failure?, state }

/-- Runs a command line. -/
def run (surroundings : Surroundings) (session : Session) (line : List String) : Outcome :=
  let start : Client.State :=
    { session, files := surroundings.files, log := [], depth := surroundings.jsonDepth }
  match Opening.ofLine surroundings.files line with
  | .error stop => stopped stop initialLevel start
  | .ok opening =>
    match prepare surroundings opening with
    | .error failure =>
      { exitCode := 1, output := "", errors := "", level := initialLevel
        escaped := some failure, state := start }
    | .ok settings =>
      let level := levelOf settings opening.verbose
      match Command.ofLine surroundings.files opening.topic opening.rest with
      | .error stop => stopped stop level start
      | .ok command =>
        let result := perform settings start command
        { exitCode := result.exitCode
          output := result.output
          errors := result.errors
          level
          escaped := result.escaped
          state := { result.state with log := visible level result.state.log } }

end Typeface.Cli
