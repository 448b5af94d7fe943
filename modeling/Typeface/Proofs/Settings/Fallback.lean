import Mathlib
import Typeface.Proofs.Settings.Closure
import Typeface.Proofs.Settings.Nested

/-!
# A named dotenv file that is not there

There are two ways to load settings from the environment and a named dotenv
file.  If the file is there both read it.  If it is not, one reads none, and the
other falls back on the standard file: the two agree exactly if that file makes
no difference.  For settings of the application this comes down to the fields
that the environment leaves open, and to the mapping of the client's settings,
whose own variables are read from the standard file in any case.
-/

namespace Typeface

namespace Settings

variable {α : Type} {surroundings : Surroundings} {load : Loader α} {path : HostText}

theorem isGiven_value (hpath : path ≠ "") : path.value.isGiven = true := by
  rw [HostText.value, Value.ofCodes]
  split
  · next letters hletters =>
    have hletter : letters ≠ [] := by
      rintro rfl
      apply hpath
      apply HostText.eq_of_codes_eq
      exact (Text.toNat_of_mapM_scalar? hletters).symm
    simpa [Value.isGiven] using hletter
  · rfl

theorem fromEnvironment_eq_iff (hpath : path ≠ "") :
    fromEnvironment load surroundings path.value =
        fromEnvironmentAndYaml load surroundings .null path.value ↔
      (surroundings.Lacks path →
        load surroundings [] .standard = load surroundings [] .absent) := by
  have hyaml : fromEnvironmentAndYaml load surroundings .null path.value =
      (dotenvAt surroundings path.value >>= load surroundings []) := rfl
  rw [← Surroundings.probe_eq_none_iff, fromEnvironment, if_pos (isGiven_value hpath), hyaml,
    dotenvAt_value]
  cases hfound : surroundings.probe (.ofText path) with
  | error failure => simp [bind, Except.bind]
  | ok found =>
    cases found with
    | none => simp [bind, Except.bind, pure, Except.pure]
    | some node => simp [bind, Except.bind, pure, Except.pure]

end Settings

namespace AppSettings

variable {surroundings : Surroundings} {choice : DotenvChoice} {app : AppSettings}
variable {held : Variables}

/-- The settings of the client that come of the environment and the variables of a dotenv file. -/
def releasesWith (surroundings : Surroundings) (held : Variables) :
    Except Failure (Checked ClientSettings) :=
  nestedValue surroundings.jsonDepth (Sources.ofVariables stem surroundings held) >>=
    releasesField surroundings

theorem load_nil_eq_ok_iff :
    load surroundings [] choice = .ok app ↔
      ∃ held, surroundings.dotenv choice = .ok held ∧
        releasesWith surroundings held = .ok (.ok app.releases) ∧
        ∀ name ∈ ownNames, ownReading name
          ((Sources.ofVariables stem surroundings held).value? name) = .ok (app.own name) := by
  rw [load_eq_ok_iff_own, Sources.gather_nil]
  simp only [releasesWith, bind_eq_ok_iff]
  cases surroundings.dotenv choice <;> simp [Except.map]

/-- Variables that are not the application's make no difference, whatever comes of loading. -/
theorem load_standard_of_find?_eq_none (hread : surroundings.variablesOf [".env"] = .ok held)
    (hheld : ∀ name ∈ "releases" :: ownNames, held.find? .anyCase (stem ++ name) = none) :
    load surroundings [] .standard = load surroundings [] .absent := by
  have hstandard : surroundings.dotenv .standard = .ok held := hread
  have habsent : surroundings.dotenv .absent = .ok [] := rfl
  rw [List.forall_mem_cons] at hheld
  have hvalue : ∀ name ∈ ownNames, (Sources.ofVariables stem surroundings held).value? name =
      (Sources.ofVariables stem surroundings []).value? name := by
    intro name hname
    rw [Sources.value?_ofVariables, Sources.value?_ofVariables, hheld.2 name hname]
    rfl
  have hframe : frameOf (Sources.ofVariables stem surroundings held) =
      frameOf (Sources.ofVariables stem surroundings []) := by
    have hfields := Sources.fields_congr hvalue
    simp only [ownNames] at hfields
    simp only [frameOf, hfields]
  have hnested : nestedValue surroundings.jsonDepth (Sources.ofVariables stem surroundings held) =
      nestedValue surroundings.jsonDepth (Sources.ofVariables stem surroundings []) := by
    have hreleases : (Sources.ofVariables stem surroundings held).heldBy?
        (Sources.ofVariables stem surroundings held).dotenv "releases" = none := by
      rw [Sources.heldBy?_of_stem rfl]
      exact hheld.1
    rw [nestedValue, hreleases]
    rfl
  rw [load_eq, load_eq, Sources.gather_nil, Sources.gather_nil, hstandard, habsent]
  simp only [Except.map, bind, Except.bind, hframe, hnested]

end AppSettings

open Settings AppSettings in
/-- The two loaders agree exactly if the named file is not missing or the standard one, which is read
in its place, makes no difference.  Settings that are loaded without it are loaded with it exactly if
it can be read, each field of the application's own that the environment leaves open reads to its
default there, and it leaves the settings of the client as they are.  Without variables of the
application it makes no difference to any outcome. -/
theorem environment_loaders_agree_iff {surroundings : Surroundings} {path : HostText}
    (hpath : path ≠ "") :
    (fromEnvironment AppSettings.load surroundings path.value =
        fromEnvironmentAndYaml AppSettings.load surroundings .null path.value ↔
      (surroundings.Lacks path →
        AppSettings.load surroundings [] .standard = AppSettings.load surroundings [] .absent)) ∧
    (∀ app, AppSettings.load surroundings [] .absent = .ok app →
      (AppSettings.load surroundings [] .standard = .ok app ↔
        ∃ held, surroundings.variablesOf [".env"] = .ok held ∧
          releasesWith surroundings held = releasesWith surroundings [] ∧
          ∀ name ∈ ownNames, surroundings.exported? (AppSettings.stem ++ name) = none →
            ownReading name ((held.find? .anyCase (AppSettings.stem ++ name)).map .text) =
              ownReading name none)) ∧
    ∀ held, surroundings.variablesOf [".env"] = .ok held →
      (∀ name ∈ "releases" :: ownNames, held.find? .anyCase (AppSettings.stem ++ name) = none) →
      AppSettings.load surroundings [] .standard = AppSettings.load surroundings [] .absent := by
  refine ⟨fromEnvironment_eq_iff hpath, fun app happ => ?_, fun held hread hheld => ?_⟩
  · obtain ⟨absent, habsent, hreleases, hown⟩ := load_nil_eq_ok_iff.mp happ
    obtain rfl : [] = absent := Except.ok.inj habsent
    rw [load_nil_eq_ok_iff]
    apply exists_congr
    intro held
    rw [hreleases]
    apply and_congr_right
    intro _
    apply and_congr_right
    intro _
    exact Sources.forall_read_iff_reads_alike hown
  · exact load_standard_of_find?_eq_none hread hheld

namespace Sample

/-- A directory with a standard dotenv file that names the environment of the application. -/
def withEnvironment : Surroundings :=
  { environment := []
    files :=
      { nodes := [(["work"], .directory),
          (["work", ".env"], .file (Text.toUtf8 "APP_ENVIRONMENT=x"))]
        working := ["work"] } }

end Sample

/-- The standard file names an owner, which both loaders take from it. -/
theorem environment_loaders_agree_owner :
    ("missing.env" : HostText) ≠ "" ∧ Sample.surroundings.Lacks "missing.env" ∧
      Settings.fromEnvironment AppSettings.load Sample.surroundings (.text "missing.env") =
        Settings.fromEnvironmentAndYaml AppSettings.load Sample.surroundings .null
          (.text "missing.env") := by
  have hpath : ("missing.env" : HostText) ≠ "" := by decide
  have hmissing : Sample.surroundings.probe (.ofText "missing.env") = .ok none := by cbv
  have hread : Sample.surroundings.variablesOf [".env"] = .ok [("RELEASES_OWNER", some "x")] := by
    cbv
  have hheld : ∀ name ∈ "releases" :: AppSettings.ownNames,
      Variables.find? [("RELEASES_OWNER", some "x")] .anyCase (AppSettings.stem ++ name) = none := by
    decide
  obtain ⟨hagree, _, halike⟩ :=
    @environment_loaders_agree_iff Sample.surroundings "missing.env" hpath
  exact ⟨hpath, Surroundings.probe_eq_none_iff.mp hmissing,
    hagree.mpr fun _ => halike _ hread hheld⟩

/-- The environment of the standard file shows in place of a named file that is not there. -/
theorem environment_loaders_agree_leak :
    Sample.withEnvironment.Lacks "missing.env" ∧
      (Settings.fromEnvironment AppSettings.load Sample.withEnvironment
        (.text "missing.env")).toOption.map (·.environment) = some "x" ∧
      (Settings.fromEnvironmentAndYaml AppSettings.load Sample.withEnvironment .null
        (.text "missing.env")).toOption.map (·.environment) = some "development" ∧
      Settings.fromEnvironment AppSettings.load Sample.withEnvironment (.text "missing.env") ≠
        Settings.fromEnvironmentAndYaml AppSettings.load Sample.withEnvironment .null
          (.text "missing.env") := by
  have hmissing : Sample.withEnvironment.probe (.ofText "missing.env") = .ok none := by cbv
  have hleft : (Settings.fromEnvironment AppSettings.load Sample.withEnvironment
      (.text "missing.env")).toOption.map (·.environment) = some "x" := by cbv
  have hright : (Settings.fromEnvironmentAndYaml AppSettings.load Sample.withEnvironment .null
      (.text "missing.env")).toOption.map (·.environment) = some "development" := by cbv
  refine ⟨Surroundings.probe_eq_none_iff.mp hmissing, hleft, hright, fun hsame => ?_⟩
  rw [hsame, hright] at hleft
  exact absurd hleft (by decide)

end Typeface
