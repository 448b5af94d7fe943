import Typeface.Settings.Sources

/-!
# Settings of the release client

Which repository to ask, where, and how to download.  The address of the
service keeps no slash at its end.
-/

namespace Typeface

open Typeface.Number

structure ClientSettings where
  owner : String
  repository : String
  apiUrl : HostText
  apiVersion : HostText
  userAgent : HostText
  timeout : Binary64
  chunkSize : Int
  showProgress : Bool
deriving DecidableEq, Repr

namespace ClientSettings

/-- Drops the slashes at the end. -/
def withoutEndSlashes (text : HostText) : HostText :=
  { codes := Text.trimRight (· == Path.slash) text.codes }

def hasWebScheme (text : HostText) : Bool :=
  text.startsWith "https://" || text.startsWith "http://"

/-- The address of a service. -/
def serviceUrl (value : Value) : Except Defect HostText := do
  let text ← Coercion.text value
  if hasWebScheme text then .ok (withoutEndSlashes text)
  else .error (.rule "API URL must start with https:// or http://")

/-- Thirty seconds. -/
def defaultTimeout : Binary64 := .ofInt 30

/-- The names of the fields. -/
def fieldNames : List String :=
  ["owner", "repo", "api_url", "api_version", "user_agent", "timeout_seconds", "chunk_size",
    "show_progress"]

def ofFields (fields : Fields) : Checked ClientSettings :=
  Checked.also (Checked.also (Checked.also (Checked.also (Checked.also (Checked.also (Checked.also
    (Checked.also (.ok ClientSettings.mk)
    (Checked.defaulted fields "owner" Coercion.nonemptyText "fontident"))
    (Checked.defaulted fields "repo" Coercion.nonemptyText "fontident"))
    (Checked.defaulted fields "api_url" serviceUrl "https://api.github.com"))
    (Checked.defaulted fields "api_version" Coercion.text "2022-11-28"))
    (Checked.defaulted fields "user_agent" Coercion.text "fontident/0.1.0"))
    (Checked.defaulted fields "timeout_seconds" Coercion.positiveFloat defaultTimeout))
    (Checked.defaulted fields "chunk_size" Coercion.positiveInteger 8192))
    (Checked.defaulted fields "show_progress" Coercion.truth true)

/-- What the names of its variables begin with. -/
def stem : String := "RELEASES_"

/-- Loads the settings from their sources. -/
def load (surroundings : Surroundings) (given : Fields) (standIn : DotenvChoice) :
    Except Failure ClientSettings := do
  let sources ← Sources.gather stem surroundings given standIn
  (ofFields (sources.fields fieldNames)).orFail

/-- The fields by name. -/
def toFields (settings : ClientSettings) : Fields :=
  [("owner", .text settings.owner), ("repo", .text settings.repository),
    ("api_url", settings.apiUrl.value), ("api_version", settings.apiVersion.value),
    ("user_agent", settings.userAgent.value), ("timeout_seconds", .float settings.timeout),
    ("chunk_size", .int settings.chunkSize), ("show_progress", .bool settings.showProgress)]

/-- The address of the release list. -/
def releasesUrl (settings : ClientSettings) : HostText :=
  settings.apiUrl ++ s!"/repos/{settings.owner}/{settings.repository}/releases"

/-- The headers of every request. -/
def headers (settings : ClientSettings) : List (String × HostText) :=
  [("User-Agent", settings.userAgent), ("Accept", "application/vnd.github+json"),
    ("X-GitHub-Api-Version", settings.apiVersion)]

end ClientSettings

end Typeface
