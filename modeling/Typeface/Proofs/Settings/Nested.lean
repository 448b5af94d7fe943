import Mathlib
import Typeface.Proofs.Settings.Address
import Typeface.Proofs.Settings.App

/-!
# Which dotenv file the settings of the client come from

A caller may name the dotenv file to read.  Settings of the client that are
loaded on their own follow this choice.  Settings of the application hold
settings of the client too, but those read the standard file, whatever file is
named: they are the ones that the named file gives exactly if each field that is
left to the two files reads the same in both.
-/

namespace Typeface

namespace Settings

variable {α : Type} {load : Loader α} {surroundings : Surroundings} {path : HostText}

/-- The variables of the dotenv file that a caller names: none if it is not there. -/
def namedBy (surroundings : Surroundings) (path : HostText) : Except Failure Variables :=
  dotenvAt surroundings path.value >>= surroundings.dotenv

theorem dotenvAt_value :
    dotenvAt surroundings path.value = (do
      let found ← surroundings.probe (.ofText path)
      return if found.isSome then .files [path] else .absent) := by
  simp only [dotenvAt, HostText.hostText?_value]

/-- The look whether a file is there is made once more where its variables are read. -/
theorem namedBy_eq_variablesOf (hhome : surroundings.expand (.ofText path) = .ok (.ofText path)) :
    namedBy surroundings path = surroundings.variablesOf [path] := by
  have hread : surroundings.dotenv (.files [path]) = surroundings.variablesOf [path] := rfl
  rw [namedBy, dotenvAt_value, Surroundings.variablesOf, hhome]
  cases hfound : surroundings.probe (.ofText path) with
  | error failure => simp only [bind, Except.bind, hfound]
  | ok found =>
    cases found with
    | none => simp [bind, Except.bind, pure, Except.pure, Surroundings.dotenv, hfound,
        Surroundings.variablesOf]
    | some node =>
      simp [bind, Except.bind, pure, Except.pure, hread, Surroundings.variablesOf, hhome, hfound]

theorem namedBy_standard : namedBy surroundings ".env" = surroundings.variablesOf [".env"] :=
  namedBy_eq_variablesOf rfl

theorem fromEnvironmentAndYaml_eq_ok_iff {content : α} :
    fromEnvironmentAndYaml load surroundings .null path.value = .ok content ↔
      ∃ choice, dotenvAt surroundings path.value = .ok choice ∧
        load surroundings [] choice = .ok content :=
  bind_eq_ok_iff

theorem namedBy_eq_ok_iff {held : Variables} :
    namedBy surroundings path = .ok held ↔
      ∃ choice, dotenvAt surroundings path.value = .ok choice ∧
        surroundings.dotenv choice = .ok held := by
  rw [namedBy, bind_eq_ok_iff]

end Settings

namespace ClientSettings

variable {surroundings : Surroundings} {path : HostText} {settings : ClientSettings}
variable {named standard held : Variables}

/-- The settings are those that the environment and the variables of a dotenv file come to. -/
def DrawnFrom (surroundings : Surroundings) (held : Variables) (settings : ClientSettings) : Prop :=
  ∀ name ∈ fieldNames, reading name (((surroundings.exported? (stem ++ name)).orElse fun _ =>
    held.find? .anyCase (stem ++ name)).map .text) = .ok (settings.toFields.lookup name)

theorem drawnFrom_iff :
    DrawnFrom surroundings held settings ↔
      ∀ name ∈ fieldNames, reading name ((Sources.ofVariables stem surroundings held).value? name) =
        .ok (settings.toFields.lookup name) := by
  simp only [DrawnFrom, Sources.value?_ofVariables]

theorem load_nil_eq_ok_iff {choice : DotenvChoice} :
    load surroundings [] choice = .ok settings ↔
      ∃ held, surroundings.dotenv choice = .ok held ∧ DrawnFrom surroundings held settings := by
  have hdrawn : ∀ held, ofFields ((Sources.ofVariables stem surroundings held).fields fieldNames) =
      .ok settings ↔ DrawnFrom surroundings held settings := by
    intro held
    rw [ofFields_eq_ok_iff_reading, drawnFrom_iff]
    apply forall₂_congr
    intro name hname
    rw [Sources.lookup_fields, if_pos hname]
  rw [load_eq_ok_iff, Sources.gather_nil]
  cases surroundings.dotenv choice <;> simp [Except.map, hdrawn]

theorem fromDotenv_eq_ok_iff :
    Settings.fromEnvironmentAndYaml load surroundings .null path.value = .ok settings ↔
      ∃ held, Settings.namedBy surroundings path = .ok held ∧
        DrawnFrom surroundings held settings := by
  simp only [Settings.fromEnvironmentAndYaml_eq_ok_iff, Settings.namedBy_eq_ok_iff,
    load_nil_eq_ok_iff]
  constructor
  · rintro ⟨choice, hchoice, held, hheld, hdrawn⟩
    exact ⟨held, ⟨choice, hchoice, hheld⟩, hdrawn⟩
  · rintro ⟨held, ⟨choice, hchoice, hheld⟩, hdrawn⟩
    exact ⟨choice, hchoice, held, hheld, hdrawn⟩

/-- Settings drawn from one file are those of another exactly if each field that the environment
leaves open reads the same. -/
theorem DrawnFrom.iff_reads_alike (hstandard : DrawnFrom surroundings standard settings) :
    DrawnFrom surroundings named settings ↔
      ∀ name ∈ fieldNames, surroundings.exported? (stem ++ name) = none →
        reading name ((named.find? .anyCase (stem ++ name)).map .text) =
          reading name ((standard.find? .anyCase (stem ++ name)).map .text) := by
  rw [drawnFrom_iff]
  exact Sources.forall_read_iff_reads_alike (drawnFrom_iff.mp hstandard)

end ClientSettings

namespace AppSettings

variable {surroundings : Surroundings} {choice : DotenvChoice} {app : AppSettings}

theorem nestedValue_ofVariables {held : Variables}
    (hexported : surroundings.exported? "APP_RELEASES" = none)
    (hheld : held.find? .anyCase "APP_RELEASES" = none) :
    nestedValue surroundings.jsonDepth (Sources.ofVariables stem surroundings held) = .ok none :=
  nestedValue_plain hexported hheld

/-- Without a mapping of them, the settings of the client are loaded with the standard file,
whatever file the settings of the application are loaded with. -/
theorem releases_of_load_nil (hexported : surroundings.exported? "APP_RELEASES" = none)
    (hheld : ∀ held, surroundings.dotenv choice = .ok held →
      held.find? .anyCase "APP_RELEASES" = none)
    (hload : load surroundings [] choice = .ok app) :
    ∃ held, surroundings.dotenv choice = .ok held ∧
      ClientSettings.load surroundings [] .standard = .ok app.releases := by
  obtain ⟨frame, nested, settings, ⟨sources, value, hgather, hvalue, hframe, hnested⟩, hclient,
    rfl⟩ := load_eq_ok_iff.mp hload
  rw [Sources.gather_nil] at hgather
  cases hdotenv : surroundings.dotenv choice with
  | error failure => simp [hdotenv, Except.map] at hgather
  | ok held =>
    obtain rfl : Sources.ofVariables stem surroundings held = sources := by
      simpa [hdotenv, Except.map] using hgather
    obtain rfl : none = value := by
      simpa [nestedValue_ofVariables hexported (hheld held hdotenv)] using hvalue
    obtain rfl : [] = nested := by simpa [nestedFields?] using hnested
    rw [releases_of_frameOf hframe]
    exact ⟨held, rfl, hclient⟩

end AppSettings

open Settings in
/-- Where no variable gives them as a mapping, the settings of the client within settings of the
application are those that the standard dotenv file gives, whatever file is named.  The named file
gives the same exactly if each field that the environment leaves open reads the same in the two
files. -/
theorem named_dotenv_governs_iff {surroundings : Surroundings} {path : HostText} {app : AppSettings}
    (hexported : surroundings.exported? "APP_RELEASES" = none)
    (hnamed : ∀ held, namedBy surroundings path = .ok held →
      held.find? .anyCase "APP_RELEASES" = none)
    (hload : fromEnvironmentAndYaml AppSettings.load surroundings .null path.value = .ok app) :
    fromEnvironmentAndYaml ClientSettings.load surroundings .null (.text ".env") =
        .ok app.releases ∧
      ∃ named standard, namedBy surroundings path = .ok named ∧
        surroundings.variablesOf [".env"] = .ok standard ∧
        (fromEnvironmentAndYaml ClientSettings.load surroundings .null path.value =
            .ok app.releases ↔
          ∀ name ∈ ClientSettings.fieldNames,
            surroundings.exported? (ClientSettings.stem ++ name) = none →
              ClientSettings.reading name
                  ((named.find? .anyCase (ClientSettings.stem ++ name)).map .text) =
                ClientSettings.reading name
                  ((standard.find? .anyCase (ClientSettings.stem ++ name)).map .text)) := by
  obtain ⟨choice, hchoice, hload⟩ := fromEnvironmentAndYaml_eq_ok_iff.mp hload
  have hheld : ∀ held, surroundings.dotenv choice = .ok held →
      held.find? .anyCase "APP_RELEASES" = none := by
    intro held hdotenv
    apply hnamed
    exact namedBy_eq_ok_iff.mpr ⟨choice, hchoice, hdotenv⟩
  obtain ⟨named, hdotenv, hclient⟩ := AppSettings.releases_of_load_nil hexported hheld hload
  obtain ⟨standard, hstandard, hdrawn⟩ := ClientSettings.load_nil_eq_ok_iff.mp hclient
  have hread : namedBy surroundings path = .ok named :=
    namedBy_eq_ok_iff.mpr ⟨choice, hchoice, hdotenv⟩
  have hdirect : fromEnvironmentAndYaml ClientSettings.load surroundings .null
      (".env" : HostText).value = .ok app.releases :=
    ClientSettings.fromDotenv_eq_ok_iff.mpr
      ⟨standard, namedBy_standard.trans hstandard, hdrawn⟩
  rw [HostText.value_ofText] at hdirect
  refine ⟨hdirect, named, standard, hread, hstandard, ?_⟩
  rw [ClientSettings.fromDotenv_eq_ok_iff, ← hdrawn.iff_reads_alike]
  simp [hread]

namespace Sample

/-- A directory with a dotenv file that names an owner, but no standard one. -/
def withNamedDotenv : Surroundings :=
  { environment := []
    files :=
      { nodes := [(["work"], .directory),
          (["work", "prod.env"], .file (Text.toUtf8 "RELEASES_OWNER=x"))]
        working := ["work"] } }

/-- The same directory, in an environment that names another owner. -/
def withOwnerExported : Surroundings :=
  { withNamedDotenv with environment := [("RELEASES_OWNER", "y")] }

/-- The variables of the named file. -/
def named : Variables := [("RELEASES_OWNER", some "x")]

/-- The default settings of the application, but for the owner of the repository. -/
def appOf (owner : String) : AppSettings :=
  { environment := "development", logLevel := "INFO", logFormat := AppSettings.defaultLogFormat
    releases := addressed owner "https://api.github.com" }

end Sample

/-- An owner in the environment leaves nothing to the two files. -/
theorem named_dotenv_governs_exported :
    Sample.withOwnerExported.exported? "APP_RELEASES" = none ∧
      Settings.namedBy Sample.withOwnerExported "prod.env" = .ok Sample.named ∧
      Sample.named.find? .anyCase "APP_RELEASES" = none ∧
      Settings.fromEnvironmentAndYaml AppSettings.load Sample.withOwnerExported .null
        (.text "prod.env") = .ok (Sample.appOf "y") ∧
      Settings.fromEnvironmentAndYaml ClientSettings.load Sample.withOwnerExported .null
        (.text "prod.env") = .ok (Sample.appOf "y").releases := by
  have hexported : Sample.withOwnerExported.exported? "APP_RELEASES" = none := by cbv
  have hread : Settings.namedBy Sample.withOwnerExported "prod.env" = .ok Sample.named := by cbv
  have hlacks : Sample.named.find? .anyCase "APP_RELEASES" = none := by cbv
  have hload : Settings.fromEnvironmentAndYaml AppSettings.load Sample.withOwnerExported .null
      (.text "prod.env") = .ok (Sample.appOf "y") := by cbv
  have hheld : ∀ held, Settings.namedBy Sample.withOwnerExported "prod.env" = .ok held →
      held.find? .anyCase "APP_RELEASES" = none := by
    intro held hheld
    obtain rfl : Sample.named = held := by simpa [hread] using hheld
    exact hlacks
  obtain ⟨_, named, standard, hnamed, hstandard, halike⟩ :=
    named_dotenv_governs_iff hexported hheld hload
  refine ⟨hexported, hread, hlacks, hload, halike.mpr fun name hname hopen => ?_⟩
  have hnone : Sample.withOwnerExported.variablesOf [".env"] = .ok [] := by cbv
  obtain rfl : Sample.named = named := by simpa [hread] using hnamed
  obtain rfl : [] = standard := by simpa [hnone] using hstandard
  have htexts : ∀ name ∈ ClientSettings.fieldNames,
      Sample.withOwnerExported.exported? (ClientSettings.stem ++ name) = none →
        Sample.named.find? .anyCase (ClientSettings.stem ++ name) =
          Variables.find? [] .anyCase (ClientSettings.stem ++ name) := by decide +kernel
  rw [htexts name hname hopen]

/-- The owner in the named file is overlooked by the settings of the application. -/
theorem named_dotenv_governs_overlooked :
    Sample.withNamedDotenv.exported? "APP_RELEASES" = none ∧
      Settings.namedBy Sample.withNamedDotenv "prod.env" = .ok Sample.named ∧
      Sample.named.find? .anyCase "APP_RELEASES" = none ∧
      Settings.fromEnvironmentAndYaml AppSettings.load Sample.withNamedDotenv .null
        (.text "prod.env") = .ok (Sample.appOf "fontident") ∧
      Settings.fromEnvironmentAndYaml ClientSettings.load Sample.withNamedDotenv .null
        (.text "prod.env") ≠ .ok (Sample.appOf "fontident").releases := by
  have hclient : Settings.fromEnvironmentAndYaml ClientSettings.load Sample.withNamedDotenv .null
      (.text "prod.env") = .ok (Sample.addressed "x" "https://api.github.com") := by cbv
  refine ⟨by cbv, by cbv, by cbv, by cbv, ?_⟩
  rw [hclient]
  intro hsame
  exact absurd (congrArg ClientSettings.owner (Except.ok.inj hsame)) (by decide)

end Typeface
