import Typeface.Complaint
import Typeface.Value.Display

/-!
# Failures

A `Fault` is a refusal that the library has a name for.  It keeps the values it
was built from, since callers read them back, and its message embeds them.  A
`Mishap` is any other failure: an argument of the wrong sort, a number out of
range, a record that does not fit, trouble from the network or the disk.  A
fault may have a mishap as its cause.
-/

namespace Typeface

/-- Trouble that the transport reports: its name there, and its message. -/
structure Trouble where
  name : String
  message : HostText
deriving DecidableEq, Repr

inductive Mishap
  | noSuchAttribute
  | wrongArgument
  | wrongValue
  | outOfRange
  | frozenField
  | noSuchEntry
  | noSuchIndex
  | undecodableText (content : Text.Bytes)
  | settingsSource
  /-- A path names a user whose home directory is not known. -/
  | noHome
  | operatingSystem
  | malformedYaml
  /-- A text nests deeper than it can be read. -/
  | tooDeep
  | unrepresentable
  /-- A record with a surrogate has no JSON text. -/
  | unserializable
  | invalid (complaints : List Complaint)
  | transport (trouble : Trouble)
  /-- A failure of any other kind, known by its name. -/
  | foreign (name : String)
deriving DecidableEq, Repr

/-- The failure that comes of writing a value that cannot be written. -/
def Mishap.ofUnwritten : Value.Unwritten → Mishap
  | .untitled => noSuchAttribute
  | .overlong => wrongValue

inductive Fault
  | general (message details : Value)
  | validation (message details : Value)
  | configuration (message details : Value)
  | release (message details : Value)
  | fontNotFound (name kind : Value)
  | wrongVocabulary (expected actual : Value)
  | integrityViolation (field code : Value)
  | catalogIntegrity (duplicates : Value)
  | invalidBold (value : Value)
  | invalidAssetId (value : Value)
  | configFileNotFound (path : Value)
  | emptyConfigFile (path : Value)
  | invalidYaml (path : Value) (error : Option Value)
  | configLoad (error : Option Value)
  | invalidEndpointUrl
  | invalidLogLevel (level : Value)
  | releaseRequest (action : Value) (error : Option Value)
  | releaseNotFound (tag : Value)
  | assetNotFound (name tag : Value)
  | assetWrite (path : Value) (error : Option Value)
deriving Repr

namespace Fault

open Value

/-- An enumeration member by what it stands for, anything else as it is. -/
def plain (value : Value) : Value :=
  (underlying? value).getD value

/-- An opening, followed by a reason where there is one in words. -/
def withReason (opening : HostText) (error : Option Value) : Except Unwritten HostText :=
  match error with
  | none => .ok opening
  | some reason => (spoken reason).map fun shown => opening ++ ": " ++ shown

/-- The message, unless a value in it cannot be written. -/
def message : Fault → Except Unwritten HostText
  | general message _ | validation message _ | configuration message _ | release message _ =>
    spoken message
  | fontNotFound name kind => do
    let kind ← spoken kind
    let name ← spoken name
    return "Found unknown " ++ kind ++ " '" ++ name ++ "'"
  | wrongVocabulary expected actual => do
    let expected ← spoken (plain expected)
    let actual ← spoken (plain actual)
    return "Expected value to be a " ++ expected ++ ", got " ++ actual
  | integrityViolation field code => do
    let field ← spoken field
    let code ← written code
    return "Missing font " ++ field ++ " for external code " ++ code
  | catalogIntegrity duplicates =>
    (spoken duplicates).map ("Duplicate legacy font names in catalog: " ++ ·)
  | invalidBold value => .ok s!"Bold must be a boolean, got {sort value}"
  | invalidAssetId value => do
    let value ← written value
    return s!"Font asset id must be a non-negative integer, got {value}"
  | configFileNotFound path => (spoken path).map ("Configuration file not found: " ++ ·)
  | emptyConfigFile path => (spoken path).map ("Empty configuration file: " ++ ·)
  | invalidYaml path error => do
    let path ← spoken path
    withReason ("Invalid YAML in " ++ path) error
  | configLoad error => withReason "Failed to load configuration" error
  | invalidEndpointUrl => .ok "API URL must start with https:// or http://"
  | invalidLogLevel level => (spoken level).map ("Unknown log level: " ++ ·)
  | releaseRequest action error => do
    let action ← spoken action
    withReason ("Failed to " ++ action) error
  | releaseNotFound tag => (spoken tag).map ("Failed to find release for version " ++ ·)
  | assetNotFound name tag => do
    let name ← spoken name
    let tag ← spoken tag
    return "Failed to find release asset '" ++ name ++ "' for release '" ++ tag ++ "'"
  | assetWrite path error => do
    let path ← spoken path
    withReason ("Failed to write file at path '" ++ path ++ "'") error

def message? (fault : Fault) : Option HostText :=
  fault.message.toOption

/-- What the fault tells programs beside its message. -/
def details : Fault → Value
  | general _ details | validation _ details | configuration _ details | release _ details => details
  | fontNotFound name kind => dict [(text "name", name), (text "kind", kind)]
  | wrongVocabulary expected actual =>
    dict [(text "expected", plain expected), (text "actual", plain actual)]
  | integrityViolation field code => dict [(text "field", field), (text "code", code)]
  | _ => null

/-- The values a fault was built from, where it keeps them by name. -/
def attributes : Fault → List (String × Value)
  | fontNotFound name kind => [("name", name), ("kind", kind)]
  | wrongVocabulary expected actual => [("expected", expected), ("actual", actual)]
  | integrityViolation field code => [("field", field), ("code", code)]
  | catalogIntegrity duplicates => [("duplicates", duplicates)]
  | releaseNotFound tag => [("tag", tag)]
  | assetNotFound name tag => [("asset_name", name), ("tag", tag)]
  | _ => []

/-- The four groups of faults; the last two faults are mere wrong values. -/
inductive Group
  | general
  | validation
  | configuration
  | release
  | value
deriving DecidableEq, Repr

def group : Fault → Group
  | validation .. | invalidBold _ | invalidAssetId _ => .validation
  | configuration .. | configFileNotFound _ | emptyConfigFile _ | invalidYaml .. | configLoad _ =>
    .configuration
  | release .. | releaseRequest .. | releaseNotFound _ | assetNotFound .. | assetWrite .. => .release
  | invalidEndpointUrl | invalidLogLevel _ => .value
  | _ => .general

end Fault

inductive Failure
  | fault (fault : Fault)
  | caused (fault : Fault) (cause : Mishap)
  | mishap (mishap : Mishap)
  /-- The program is told to end, which is no error. -/
  | exit
deriving Repr

namespace Failure

def ofMishap {α : Type} (mishap : Mishap) : Except Failure α :=
  .error (.mishap mishap)

/-- Raises a fault.  A fault whose message cannot be written fails for that reason instead. -/
def raise {α : Type} (fault : Fault) : Except Failure α :=
  match fault.message with
  | .ok _ => .error (.fault fault)
  | .error reason => .error (.mishap (.ofUnwritten reason))

def fault? : Failure → Option Fault
  | .fault known => some known
  | .caused known _ => some known
  | .mishap _ | .exit => none

/-- Whether the failure is one of the faults of a group. -/
def isIn (group : Fault.Group) (failure : Failure) : Bool :=
  failure.fault?.any fun known => known.group == group

end Failure

end Typeface
