import Mathlib
import Typeface.Proofs.Failure
import Typeface.Proofs.Settings.Client
import Typeface.Proofs.Settings.Sources
import Typeface.Settings.File

/-!
# Routes to the settings of the client

Settings of the client are built by a caller, or loaded from a YAML file or the
environment, on their own or within the settings of the application.  All these
routes end in the same loading from sources, so that what holds of every record
loaded there holds of every record that is accepted anywhere.
-/

namespace Typeface

namespace Settings

variable {α : Type} {surroundings : Surroundings} {build : Build α} {load : Loader α}
variable {path : HostText} {content : α}

/-- The fields that the file at a path gives. -/
def fieldsIn (surroundings : Surroundings) (path : Path) : Except Failure Fields :=
  (asFailure (decodeFile surroundings path)).bind (fieldsOf path.text)

theorem blame_eq_ok_iff {faultFor : Mishap → Fault} {outcome : Except Failure α} :
    blame faultFor outcome = .ok content ↔ outcome = .ok content := by
  unfold blame
  split <;> simp

theorem loadText_found {node : Node} (hfound : surroundings.probe (.ofText path) = .ok (some node)) :
    loadText surroundings build path =
      blame (faultOf (Path.ofText path).text)
        ((fieldsIn surroundings (.ofText path)).bind (build surroundings)) := by
  simp only [loadText, hfound, bind, Except.bind]
  rfl

theorem loadText_missing (hfound : surroundings.probe (.ofText path) = .ok none) :
    loadText surroundings build path =
      Failure.raise (.configFileNotFound (Path.ofText path).text.value) := by
  simp only [loadText, hfound, bind, Except.bind]

theorem loadText_unreachable {failure : Failure}
    (hfound : surroundings.probe (.ofText path) = .error failure) :
    loadText surroundings build path = .error failure := by
  simp only [loadText, hfound, bind, Except.bind]

theorem loadText_ok (hload : loadText surroundings build path = .ok content) :
    ∃ given, build surroundings given = .ok content := by
  cases hfound : surroundings.probe (.ofText path) with
  | error failure =>
    rw [loadText_unreachable hfound] at hload
    cases hload
  | ok found =>
    cases found with
    | none =>
      rw [loadText_missing hfound] at hload
      exact absurd hload (Failure.raise_ne_ok _ _)
    | some node =>
      rw [loadText_found hfound, blame_eq_ok_iff] at hload
      obtain ⟨given, _, hbuild⟩ := bind_eq_ok_iff.mp hload
      exact ⟨given, hbuild⟩

theorem fromYaml_ok {path : Value} (hload : fromYaml load surroundings path = .ok content) :
    ∃ given, load surroundings given .absent = .ok content := by
  unfold fromYaml loadFile at hload
  split at hload
  · exact loadText_ok hload
  · cases hload

theorem dotenvRoute_ok {path : Value}
    (hload : (do let choice ← dotenvAt surroundings path; load surroundings [] choice) =
      .ok content) : ∃ given choice, load surroundings given choice = .ok content := by
  obtain ⟨choice, _, hload⟩ := bind_eq_ok_iff.mp hload
  exact ⟨[], choice, hload⟩

theorem fromEnvironmentAndYaml_ok {yamlPath dotenvPath : Value}
    (hload : fromEnvironmentAndYaml load surroundings yamlPath dotenvPath = .ok content) :
    ∃ given choice, load surroundings given choice = .ok content := by
  unfold fromEnvironmentAndYaml at hload
  split at hload
  · split at hload
    · obtain ⟨found, _, hload⟩ := bind_eq_ok_iff.mp hload
      split at hload
      · obtain ⟨given, hload⟩ := fromYaml_ok hload
        exact ⟨given, .absent, hload⟩
      · exact dotenvRoute_ok hload
    · cases hload
  · exact dotenvRoute_ok hload

section Related

variable {β : Type} {Related : α → β → Prop}

theorem loadText_ok_of_builds {other : Build β}
    (hother : ∀ given, build surroundings given = .ok content →
      ∃ result, other surroundings given = .ok result ∧ Related content result)
    (hload : loadText surroundings build path = .ok content) :
    ∃ result, loadText surroundings other path = .ok result ∧ Related content result := by
  cases hfound : surroundings.probe (.ofText path) with
  | error failure =>
    rw [loadText_unreachable hfound] at hload
    cases hload
  | ok found =>
    cases found with
    | none =>
      rw [loadText_missing hfound] at hload
      exact absurd hload (Failure.raise_ne_ok _ _)
    | some node =>
      rw [loadText_found hfound, blame_eq_ok_iff] at hload
      obtain ⟨given, hgiven, hbuild⟩ := bind_eq_ok_iff.mp hload
      obtain ⟨result, hresult, hrelated⟩ := hother given hbuild
      refine ⟨result, ?_, hrelated⟩
      rw [loadText_found hfound, blame_eq_ok_iff]
      exact bind_eq_ok_iff.mpr ⟨given, hgiven, hresult⟩

/-- Where one loader loads, another that loads from the same fields and dotenv files does so on the
same route. -/
theorem fromEnvironmentAndYaml_ok_of_loads {other : Loader β}
    (hother : ∀ given choice, load surroundings given choice = .ok content →
      ∃ result, other surroundings given choice = .ok result ∧ Related content result)
    {yamlPath dotenvPath : Value}
    (hload : fromEnvironmentAndYaml load surroundings yamlPath dotenvPath = .ok content) :
    ∃ result, fromEnvironmentAndYaml other surroundings yamlPath dotenvPath = .ok result ∧
      Related content result := by
  have hdotenv : (dotenvAt surroundings dotenvPath >>= load surroundings []) = .ok content →
      ∃ result, (dotenvAt surroundings dotenvPath >>= other surroundings []) = .ok result ∧
        Related content result := by
    intro hroute
    obtain ⟨choice, hchoice, hcontent⟩ := bind_eq_ok_iff.mp hroute
    obtain ⟨result, hresult, hrelated⟩ := hother [] choice hcontent
    exact ⟨result, bind_eq_ok_iff.mpr ⟨choice, hchoice, hresult⟩, hrelated⟩
  unfold fromEnvironmentAndYaml at hload ⊢
  split at hload
  next hgiven =>
    split at hload
    · next path hpath =>
      obtain ⟨found, hfound, hcontent⟩ := bind_eq_ok_iff.mp hload
      simp only [hgiven, if_true, hfound, bind, Except.bind]
      cases found with
      | none => exact hdotenv hcontent
      | some node =>
        simp only [fromYaml, loadFile, hpath] at hcontent ⊢
        exact loadText_ok_of_builds (fun given => hother given .absent) hcontent
    · cases hload
  next hgiven =>
    rw [if_neg hgiven]
    exact hdotenv hload

end Related

theorem fromEnvironment_ok {dotenvPath : Value}
    (hload : fromEnvironment load surroundings dotenvPath = .ok content) :
    ∃ given choice, load surroundings given choice = .ok content := by
  unfold fromEnvironment at hload
  split at hload
  · obtain ⟨choice, _, hload⟩ := bind_eq_ok_iff.mp hload
    split at hload
    · exact ⟨[], .standard, hload⟩
    · exact ⟨[], choice, hload⟩
  · exact ⟨[], .standard, hload⟩

end Settings

namespace AppSettings

variable {surroundings : Surroundings} {settings : ClientSettings}

/-- The fields that the client's settings get from a mapping of them, or none where there is no
mapping. -/
def nestedFields? : Option Value → Option Fields
  | none => some []
  | some (.dict entries) =>
    if entries.all fun entry => isText entry.1 then some (Value.fields entries) else none
  | some _ => none

theorem releasesField_eq_ok_iff {value : Option Value} :
    releasesField surroundings value = .ok (.ok settings) ↔
      ∃ nested, nestedFields? value = some nested ∧
        ClientSettings.load surroundings nested .standard = .ok settings := by
  cases value with
  | none =>
    cases hload : ClientSettings.load surroundings [] .standard <;>
      simp [releasesField, nestedFields?, hload, Except.map]
  | some value =>
    cases value with
    | dict entries =>
      by_cases htexts : (entries.all fun entry => isText entry.1) = true
      · simp only [releasesField, clientOf, nestedFields?, htexts, if_true, Option.some.injEq,
          exists_eq_left']
        split
        · next hload => simp [hload]
        · next hload => simp [hload]
        · next hload => simp [hload]
        · next hload => simp [hload]
      · simp [releasesField, clientOf, nestedFields?, htexts, Failure.ofMishap]
    | _ => simp [releasesField, clientOf, nestedFields?]

/-- The mapping of the client's settings that sources give, put together from its parts. -/
def nestedValue (depth : Nat) (sources : Sources) : Except Failure (Option Value) := do
  let decoded := ofVariable depth sources.naming
  let inEnvironment ← decoded (sources.heldBy? sources.environment "releases")
  let inDotenv ← decoded (sources.heldBy? sources.dotenv "releases")
  return merge (merge inDotenv inEnvironment) (sources.given? "releases")

/-- The settings of the application that sources give, for settings of the client. -/
def frameOf (sources : Sources) : Checked (ClientSettings → AppSettings) :=
  let fields := sources.fields ["environment", "log_level", "log_format"]
  Checked.also (Checked.also (Checked.also (.ok AppSettings.mk)
    (Checked.defaulted fields "environment" Coercion.text "development"))
    (Checked.defaulted fields "log_level" levelName "INFO"))
    (Checked.defaulted fields "log_format" Coercion.text defaultLogFormat)

theorem load_eq (surroundings : Surroundings) (given : Fields) (choice : DotenvChoice) :
    load surroundings given choice = (do
      let sources ← Sources.gather stem surroundings given choice
      let value ← nestedValue surroundings.jsonDepth sources
      let releases ← releasesField surroundings value
      ((frameOf sources).also releases).orFail) := by
  simp only [load, nestedValue, frameOf, bind_assoc, pure_bind]

theorem releases_of_frameOf {sources : Sources} {frame : ClientSettings → AppSettings}
    (hframe : frameOf sources = .ok frame) (settings : ClientSettings) :
    (frame settings).releases = settings := by
  simp only [frameOf, Checked.also_eq_ok_iff, Except.ok.injEq] at hframe
  obtain ⟨_, _, ⟨_, _, ⟨_, _, rfl, _, rfl⟩, _, rfl⟩, _, rfl⟩ := hframe
  rfl

/-- The sources make up settings of the application, but for those of the client, which are to be
loaded from some fields. -/
def Prepared (surroundings : Surroundings) (given : Fields) (choice : DotenvChoice)
    (frame : ClientSettings → AppSettings) (nested : Fields) : Prop :=
  ∃ sources value, Sources.gather stem surroundings given choice = .ok sources ∧
    nestedValue surroundings.jsonDepth sources = .ok value ∧ frameOf sources = .ok frame ∧
      nestedFields? value = some nested

theorem load_eq_ok_iff {given : Fields} {choice : DotenvChoice} {app : AppSettings} :
    load surroundings given choice = .ok app ↔
      ∃ frame nested settings, Prepared surroundings given choice frame nested ∧
        ClientSettings.load surroundings nested .standard = .ok settings ∧
          frame settings = app := by
  simp only [load_eq, bind_eq_ok_iff, Checked.orFail_eq_ok_iff, Checked.also_eq_ok_iff]
  constructor
  · rintro ⟨sources, hgather, value, hvalue, _, hreleases, frame, settings, hframe, rfl, rfl⟩
    obtain ⟨nested, hnested, hload⟩ := releasesField_eq_ok_iff.mp hreleases
    exact ⟨frame, nested, settings, ⟨sources, value, hgather, hvalue, hframe, hnested⟩, hload, rfl⟩
  · rintro ⟨frame, nested, settings, ⟨sources, value, hgather, hvalue, hframe, hnested⟩, hload, rfl⟩
    have hreleases := releasesField_eq_ok_iff.mpr ⟨nested, hnested, hload⟩
    exact ⟨sources, hgather, value, hvalue, _, hreleases, frame, settings, hframe, rfl, rfl⟩

theorem load_ok {given : Fields} {choice : DotenvChoice} {app : AppSettings}
    (hload : load surroundings given choice = .ok app) :
    ∃ nested, ClientSettings.load surroundings nested .standard = .ok app.releases := by
  obtain ⟨frame, nested, settings, ⟨_, _, _, _, hframe, _⟩, hnested, rfl⟩ := load_eq_ok_iff.mp hload
  rw [releases_of_frameOf hframe]
  exact ⟨nested, hnested⟩

end AppSettings

/-- Settings of the client that some route from the surroundings ends in. -/
inductive Accepted (surroundings : Surroundings) : ClientSettings → Prop
  | built {given : Fields} {choice : DotenvChoice} {settings : ClientSettings}
      (hload : ClientSettings.load surroundings given choice = .ok settings) :
      Accepted surroundings settings
  | fromYaml {path : Value} {settings : ClientSettings}
      (hload : Settings.fromYaml ClientSettings.load surroundings path = .ok settings) :
      Accepted surroundings settings
  | fromEnvironmentAndYaml {yamlPath dotenvPath : Value} {settings : ClientSettings}
      (hload : Settings.fromEnvironmentAndYaml ClientSettings.load surroundings yamlPath
        dotenvPath = .ok settings) : Accepted surroundings settings
  | nested {given : Fields} {choice : DotenvChoice} {app : AppSettings}
      (hload : AppSettings.load surroundings given choice = .ok app) :
      Accepted surroundings app.releases
  | nestedFromYaml {path : Value} {app : AppSettings}
      (hload : Settings.fromYaml AppSettings.load surroundings path = .ok app) :
      Accepted surroundings app.releases
  | nestedFromEnvironmentAndYaml {yamlPath dotenvPath : Value} {app : AppSettings}
      (hload : Settings.fromEnvironmentAndYaml AppSettings.load surroundings yamlPath
        dotenvPath = .ok app) : Accepted surroundings app.releases
  | nestedFromEnvironment {dotenvPath : Value} {app : AppSettings}
      (hload : Settings.fromEnvironment AppSettings.load surroundings dotenvPath = .ok app) :
      Accepted surroundings app.releases

namespace Accepted

variable {surroundings : Surroundings} {settings : ClientSettings}

/-- Every route ends in the loading of the client's own settings. -/
theorem loaded (haccepted : Accepted surroundings settings) :
    ∃ given choice, ClientSettings.load surroundings given choice = .ok settings := by
  have happ : ∀ {app : AppSettings} {given choice},
      AppSettings.load surroundings given choice = .ok app →
        ∃ given choice, ClientSettings.load surroundings given choice = .ok app.releases := by
    intro app given choice hload
    obtain ⟨nested, hnested⟩ := AppSettings.load_ok hload
    exact ⟨nested, .standard, hnested⟩
  cases haccepted with
  | built hload => exact ⟨_, _, hload⟩
  | fromYaml hload =>
    obtain ⟨given, hload⟩ := Settings.fromYaml_ok hload
    exact ⟨given, .absent, hload⟩
  | fromEnvironmentAndYaml hload => exact Settings.fromEnvironmentAndYaml_ok hload
  | nested hload => exact happ hload
  | nestedFromYaml hload =>
    obtain ⟨given, hload⟩ := Settings.fromYaml_ok hload
    exact happ hload
  | nestedFromEnvironmentAndYaml hload =>
    obtain ⟨given, choice, hload⟩ := Settings.fromEnvironmentAndYaml_ok hload
    exact happ hload
  | nestedFromEnvironment hload =>
    obtain ⟨given, choice, hload⟩ := Settings.fromEnvironment_ok hload
    exact happ hload

theorem sound (haccepted : Accepted surroundings settings) : settings.Sound := by
  obtain ⟨given, choice, hload⟩ := haccepted.loaded
  obtain ⟨sources, _, hfields⟩ := ClientSettings.load_eq_ok_iff.mp hload
  exact ClientSettings.sound_of_ofFields hfields

end Accepted

end Typeface
