import Typeface.Arguments
import Typeface.Failure

/-!
# Kinds of faults

Each kind of fault has the name that reports give it and the parameters that a
fault of the kind is built from.
-/

namespace Typeface.Fault

inductive Kind
  | general
  | validation
  | configuration
  | release
  | fontNotFound
  | wrongVocabulary
  | integrityViolation
  | catalogIntegrity
  | invalidBold
  | invalidAssetId
  | configFileNotFound
  | emptyConfigFile
  | invalidYaml
  | configLoad
  | invalidEndpointUrl
  | invalidLogLevel
  | releaseRequest
  | releaseNotFound
  | assetNotFound
  | assetWrite
deriving DecidableEq, Repr

namespace Kind

def all : List Kind :=
  [general, validation, configuration, release, fontNotFound, wrongVocabulary, integrityViolation,
    catalogIntegrity, invalidBold, invalidAssetId, configFileNotFound, emptyConfigFile, invalidYaml,
    configLoad, invalidEndpointUrl, invalidLogLevel, releaseRequest, releaseNotFound, assetNotFound,
    assetWrite]

/-- The name of the kind in reports. -/
def name : Kind → String
  | general => "FontIdentError"
  | validation => "FontValidationError"
  | configuration => "ConfigurationError"
  | release => "ReleaseError"
  | fontNotFound => "FontNotFoundError"
  | wrongVocabulary => "WrongEnumerationFamilyError"
  | integrityViolation => "IntegrityViolationError"
  | catalogIntegrity => "CatalogIntegrityError"
  | invalidBold => "InvalidBoldValueError"
  | invalidAssetId => "InvalidAssetIdError"
  | configFileNotFound => "ConfigFileNotFoundError"
  | emptyConfigFile => "EmptyConfigFileError"
  | invalidYaml => "InvalidYamlError"
  | configLoad => "ConfigLoadError"
  | invalidEndpointUrl => "InvalidEndpointUrlError"
  | invalidLogLevel => "InvalidLogLevelError"
  | releaseRequest => "ReleaseRequestError"
  | releaseNotFound => "ReleaseNotFoundError"
  | assetNotFound => "ReleaseAssetNotFoundError"
  | assetWrite => "AssetWriteError"

def ofName? (name : String) : Option Kind :=
  all.find? fun kind => kind.name == name

def parameters : Kind → List Parameter
  | general | validation | configuration | release =>
    [{ name := "message" }, { name := "details", standIn := some .null }]
  | fontNotFound => [{ name := "name" }, { name := "kind", standIn := some (.text "Font") }]
  | wrongVocabulary => [{ name := "expected" }, { name := "actual" }]
  | integrityViolation => [{ name := "field" }, { name := "code" }]
  | catalogIntegrity => [{ name := "duplicates" }]
  | invalidBold => [{ name := "value" }]
  | invalidAssetId => [{ name := "asset_id" }]
  | configFileNotFound | emptyConfigFile => [{ name := "config_path" }]
  | invalidYaml => [{ name := "config_path" }, { name := "error" }]
  | configLoad => [{ name := "error" }]
  | invalidEndpointUrl => []
  | invalidLogLevel => [{ name := "level" }]
  | releaseRequest => [{ name := "action" }, { name := "error" }]
  | releaseNotFound => [{ name := "tag" }]
  | assetNotFound => [{ name := "asset_name" }, { name := "tag" }]
  | assetWrite => [{ name := "path" }, { name := "error" }]

/-- The fault that the kind makes of the values of its parameters. -/
def fault? : Kind → List Value → Option Fault
  | general, [message, details] => some (.general message details)
  | validation, [message, details] => some (.validation message details)
  | configuration, [message, details] => some (.configuration message details)
  | release, [message, details] => some (.release message details)
  | fontNotFound, [name, kind] => some (.fontNotFound name kind)
  | wrongVocabulary, [expected, actual] => some (.wrongVocabulary expected actual)
  | integrityViolation, [field, code] => some (.integrityViolation field code)
  | catalogIntegrity, [duplicates] => some (.catalogIntegrity duplicates)
  | invalidBold, [value] => some (.invalidBold value)
  | invalidAssetId, [asset] => some (.invalidAssetId asset)
  | configFileNotFound, [path] => some (.configFileNotFound path)
  | emptyConfigFile, [path] => some (.emptyConfigFile path)
  | invalidYaml, [path, error] => some (.invalidYaml path (some error))
  | configLoad, [error] => some (.configLoad (some error))
  | invalidEndpointUrl, [] => some .invalidEndpointUrl
  | invalidLogLevel, [level] => some (.invalidLogLevel level)
  | releaseRequest, [action, error] => some (.releaseRequest action (some error))
  | releaseNotFound, [tag] => some (.releaseNotFound tag)
  | assetNotFound, [asset, tag] => some (.assetNotFound asset tag)
  | assetWrite, [path, error] => some (.assetWrite path (some error))
  | _, _ => none

/-- Builds a fault of the kind from arguments. -/
def build (kind : Kind) (arguments : Arguments) : Except Failure Fault :=
  match (arguments.bind? kind.parameters).bind kind.fault? with
  | some built =>
    match built.message with
    | .ok _ => .ok built
    | .error reason => Failure.ofMishap (.ofUnwritten reason)
  | none => Failure.ofMishap .wrongArgument

end Kind

def kind : Fault → Kind
  | general .. => .general
  | validation .. => .validation
  | configuration .. => .configuration
  | release .. => .release
  | fontNotFound .. => .fontNotFound
  | wrongVocabulary .. => .wrongVocabulary
  | integrityViolation .. => .integrityViolation
  | catalogIntegrity _ => .catalogIntegrity
  | invalidBold _ => .invalidBold
  | invalidAssetId _ => .invalidAssetId
  | configFileNotFound _ => .configFileNotFound
  | emptyConfigFile _ => .emptyConfigFile
  | invalidYaml .. => .invalidYaml
  | configLoad _ => .configLoad
  | invalidEndpointUrl => .invalidEndpointUrl
  | invalidLogLevel _ => .invalidLogLevel
  | releaseRequest .. => .releaseRequest
  | releaseNotFound _ => .releaseNotFound
  | assetNotFound .. => .assetNotFound
  | assetWrite .. => .assetWrite

/-- The names of the kinds above a fault of its kind, the nearest first, up to the kinds that all
programs have. -/
def bases (fault : Fault) : List String :=
  let own : List String :=
    match fault.kind, fault.group with
    | .general, _ => []
    | .validation, _ | .configuration, _ | .release, _ => [Kind.general.name]
    | .fontNotFound, _ => [Kind.general.name, "LookupError"]
    | .wrongVocabulary, _ => [Kind.general.name, "TypeError"]
    | _, .general => [Kind.general.name]
    | _, .validation => [Kind.validation.name, Kind.general.name]
    | _, .configuration => [Kind.configuration.name, Kind.general.name]
    | _, .release => [Kind.release.name, Kind.general.name]
    | _, .value => ["ValueError"]
  own ++ ["Exception", "BaseException"]

end Typeface.Fault
