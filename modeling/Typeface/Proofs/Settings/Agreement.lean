import Mathlib
import Typeface.Proofs.Settings.Nested
import Typeface.Proofs.Settings.Precedence

/-!
# Settings of the client, nested and by themselves

A mapping of settings of the client may stand in a YAML file of its own or, under
the name of their field, in one of the application.  Either way the same
loading gets the same mapping: by itself without the standard dotenv file,
nested with it.  Where there is no such file the two agree, whatever the mapping
holds, and so they do on an empty mapping where the application's file has
none.
-/

namespace Typeface

theorem Surroundings.dotenv_standard_of_lacks {surroundings : Surroundings}
    (hdotenv : surroundings.Lacks ".env") : surroundings.dotenv .standard = .ok [] := by
  change surroundings.variablesOf [".env"] = .ok []
  have hhome : surroundings.expand (.ofText ".env") = .ok (.ofText ".env") := rfl
  have hprobe := probe_eq_none_iff.mpr hdotenv
  simp only [variablesOf, hhome, hprobe, bind, Except.bind]

theorem Surroundings.isDotenvFile_of_lacks {surroundings : Surroundings}
    (hdotenv : surroundings.Lacks ".env") : surroundings.isDotenvFile ".env" = false := by
  have hhome : surroundings.expand (.ofText ".env") = .ok (.ofText ".env") := rfl
  have hprobe := probe_eq_none_iff.mpr hdotenv
  simp only [isDotenvFile, hhome, hprobe, bind, Except.bind]

theorem ClientSettings.load_standard_of_lacks {surroundings : Surroundings}
    (hdotenv : surroundings.Lacks ".env") (given : Fields) :
    load surroundings given .standard = load surroundings given .absent := by
  rw [load, load, Sources.gather_standard (Surroundings.dotenv_standard_of_lacks hdotenv)
    (Surroundings.isDotenvFile_of_lacks hdotenv)]

namespace Settings

variable {α : Type} {surroundings : Surroundings} {load : Loader α} {path : HostText}
variable {value : Value} {entries : List (Value × Value)} {content : α}

/-- The fields of a mapping in a file are those that a nested mapping gets. -/
theorem fieldsOf_dict_eq_ok_iff {shown : HostText} {given : Fields} :
    fieldsOf shown (.dict entries) = .ok given ↔
      AppSettings.nestedFields? (some (.dict entries)) = some given := by
  by_cases hnames : (entries.all fun entry => AppSettings.isText entry.1) = true
  · simp [fieldsOf, AppSettings.nestedFields?, hnames]
  · simp [fieldsOf, AppSettings.nestedFields?, hnames, Failure.ofMishap]

theorem fromYaml_eq_ok_iff_of_holds (hholds : Holds surroundings path (.dict entries)) :
    fromYaml load surroundings path.value = .ok content ↔
      ∃ given, AppSettings.nestedFields? (some (.dict entries)) = some given ∧
        load surroundings given .absent = .ok content := by
  simp only [fromYaml, loadFile, HostText.hostText?_value]
  rw [loadText_of_holds hholds, blame_eq_ok_iff]
  change fieldsOf (Path.ofText path).text (.dict entries) >>=
    (fun given => load surroundings given .absent) = .ok content ↔ _
  simp only [bind_eq_ok_iff, fieldsOf_dict_eq_ok_iff]

end Settings

namespace AppSettings

variable {surroundings : Surroundings} {settings : ClientSettings} {given : Fields}

/-- A mapping of settings of the client, given and nothing else, is loaded as such. -/
theorem exists_load_releases_iff {value : Value}
    (hexported : surroundings.exported? "APP_RELEASES" = none)
    (hown : ∀ name ∈ ownNames, ∃ result,
      ownReading name ((surroundings.exported? (stem ++ name)).map .text) = .ok result) :
    (∃ app, load surroundings [("releases", value)] .absent = .ok app ∧ app.releases = settings) ↔
      ∃ nested, nestedFields? (some value) = some nested ∧
        ClientSettings.load surroundings nested .standard = .ok settings := by
  have hgather : Sources.gather stem surroundings [("releases", value)] .absent =
      .ok (Sources.plain stem surroundings [("releases", value)] []) :=
    Sources.gather_plain (by simp [Fields.PlainNames]) stem surroundings .absent
  have hvalue : nestedValue surroundings.jsonDepth
      (Sources.plain stem surroundings [("releases", value)] []) = .ok (some value) :=
    nestedValue_plain hexported rfl
  have hread : ∀ name ∈ ownNames,
      (Sources.plain stem surroundings [("releases", value)] []).value? name =
        (surroundings.exported? (stem ++ name)).map .text := by
    intro name hname
    have hother : ∀ name ∈ ownNames, ¬ SameName "releases" name := by decide
    apply Sources.value?_plain_of_forall_ne
    intro entry hentry
    rw [List.mem_singleton.mp hentry]
    exact hother name hname
  rw [← releasesField_eq_ok_iff]
  simp only [load_eq_ok_iff_own, hgather, Except.ok.injEq, exists_eq_left', hvalue]
  constructor
  · rintro ⟨app, ⟨hreleases, _⟩, rfl⟩
    exact hreleases
  · intro hreleases
    obtain ⟨app, rfl, happ⟩ := exists_own hown settings
    refine ⟨app, ⟨hreleases, fun name hname => ?_⟩, rfl⟩
    rw [hread name hname]
    exact happ name hname

/-- Without a mapping for them, given under any spelling, the settings of the client are loaded by
themselves. -/
theorem releases_of_load_absent {app : AppSettings}
    (hexported : surroundings.exported? "APP_RELEASES" = none) (hplain : given.PlainNames)
    (hkeys : ∀ entry ∈ given, ¬ SameName entry.1 "releases")
    (hload : load surroundings given .absent = .ok app) :
    ClientSettings.load surroundings [] .standard = .ok app.releases := by
  obtain ⟨sources, hgather, ⟨value, hvalue, hreleases⟩, _⟩ := load_eq_ok_iff_own.mp hload
  rw [Sources.gather_plain hplain] at hgather
  obtain rfl := Except.ok.inj hgather
  rw [nestedValue_plain hexported rfl, Sources.given?_eq_none_of_forall_ne hkeys] at hvalue
  obtain rfl := Except.ok.inj hvalue
  obtain ⟨nested, hnested, hclient⟩ := releasesField_eq_ok_iff.mp hreleases
  obtain rfl := Option.some.inj hnested
  exact hclient

end AppSettings

open Settings AppSettings in
/-- Without a standard dotenv file and without a variable that holds them as a mapping, settings of
the client are the same whether their mapping stands in a file of its own or under their name in a
file of the application.  Where no key there is that name in any letters, and none is an option of
the loading, they are those of an empty mapping. -/
theorem nested_releases_agree {surroundings : Surroundings} (hdotenv : surroundings.Lacks ".env")
    (hexported : surroundings.exported? "APP_RELEASES" = none) :
    (∀ (outer inner : HostText) entries,
      Holds surroundings outer (.dict [(.text "releases", .dict entries)]) →
      Holds surroundings inner (.dict entries) →
      (∀ name ∈ ownNames, ∃ result,
        ownReading name ((surroundings.exported? (AppSettings.stem ++ name)).map .text) =
          .ok result) →
      ∀ settings, (∃ app, fromYaml AppSettings.load surroundings outer.value = .ok app ∧
          app.releases = settings) ↔
        fromYaml ClientSettings.load surroundings inner.value = .ok settings) ∧
    ∀ (outer empty : HostText) given app, Gives surroundings outer given →
      Holds surroundings empty (.dict []) →
      given.PlainNames → (∀ entry ∈ given, ¬ SameName entry.1 "releases") →
      fromYaml AppSettings.load surroundings outer.value = .ok app →
      fromYaml ClientSettings.load surroundings empty.value = .ok app.releases := by
  refine ⟨?_, ?_⟩
  · intro outer inner entries houter hinner hown settings
    have hfields : nestedFields? (some (.dict [(.text "releases", .dict entries)])) =
        some [("releases", .dict entries)] := rfl
    simp only [fromYaml_eq_ok_iff_of_holds houter, hfields, Option.some.injEq, exists_eq_left',
      fromYaml_eq_ok_iff_of_holds hinner, exists_load_releases_iff hexported hown,
      ClientSettings.load_standard_of_lacks hdotenv]
  · intro outer empty given app houter hempty hplain hkeys hload
    have hclient := releases_of_load_absent hexported hplain hkeys
      ((fromYaml_eq_ok_iff_of_gives houter).mp hload)
    rw [ClientSettings.load_standard_of_lacks hdotenv] at hclient
    exact (fromYaml_eq_ok_iff_of_holds hempty).mpr ⟨[], rfl, hclient⟩

namespace Sample

/-- A file of the application, and beside it a mapping of settings of the client. -/
def withMapping (content mapping : String) (environment : List (String × String)) :
    Surroundings :=
  withYaml content [("d.yaml", mapping)] environment

variable {content mapping : String} {environment : List (String × String)}

theorem read_withMapping :
    (withMapping content mapping environment).files.read (.ofText "d.yaml") =
      .ok (Text.toUtf8 mapping) := by
  cbv

theorem lacks_withMapping : (withMapping content mapping environment).Lacks ".env" := by
  apply Surroundings.probe_eq_none_iff.mp
  cbv

/-- The same owner, nested and by itself. -/
def agreeing : Surroundings :=
  withMapping "releases:\n  owner: up\n" "owner: up\n" []

/-- The settings of the client under their name in capitals, and an empty mapping. -/
def capitalised : Surroundings :=
  withMapping "RELEASES:\n  owner: up\n" "\x7b\x7d" []

/-- Another stem, under which a variable holds settings of the client, and an empty mapping. -/
def restemmed : Surroundings :=
  withMapping "_env_prefix: FOO_\n" "\x7b\x7d" [("FOO_RELEASES", "\x7b\"owner\": \"up\"\x7d")]

/-- The fields of the application's file give an owner that the empty mapping beside it does not,
though none is the settings of the client by name. -/
structure GivesOwner (surroundings : Surroundings) (given : Fields) : Prop where
  dotenv : surroundings.Lacks ".env"
  exported : surroundings.exported? "APP_RELEASES" = none
  gives : Settings.Gives surroundings "c.yaml" given
  unnamed : given.lookup "releases" = none
  nested : Settings.fromYaml AppSettings.load surroundings (.text "c.yaml") = .ok (appOf "up")
  empty : Settings.Holds surroundings "d.yaml" (.dict [])
  direct : Settings.fromYaml ClientSettings.load surroundings (.text "d.yaml") ≠
    .ok (appOf "up").releases

/-- Whether sources have a chain for the settings of the client. -/
def nestsChain (depth : Nat) (sources : Sources) (keys : List String) (held : Option String) :
    Bool :=
  match AppSettings.nestedValue depth sources with
  | .ok (some value) => isChain keys held value
  | _ => false

theorem nestedValue_of_nestsChain {depth : Nat} {sources : Sources} {keys : List String}
    {held : Option String} (hchain : nestsChain depth sources keys held = true) :
    AppSettings.nestedValue depth sources = .ok (some (chain keys held)) := by
  unfold nestsChain at hchain
  split at hchain
  · next hvalue => rw [hvalue, eq_chain_of_isChain hchain]
  · cases hchain

/-- Sources that hold a mapping with an owner, and nothing for the application's own fields. -/
theorem load_eq_appOf {surroundings : Surroundings} {given : Fields} {sources : Sources}
    (hdotenv : surroundings.Lacks ".env")
    (hgather : Sources.gather AppSettings.stem surroundings given .absent = .ok sources)
    (hchain : nestsChain surroundings.jsonDepth sources ["owner"] (some "up") = true)
    (hown : ∀ name ∈ AppSettings.ownNames, (sources.value? name).isNone = true)
    (hclient : ClientSettings.load surroundings [("owner", .text "up")] .absent =
      .ok (appOf "up").releases) :
    AppSettings.load surroundings given .absent = .ok (appOf "up") := by
  have hnested := nestedValue_of_nestsChain hchain
  rw [← ClientSettings.load_standard_of_lacks hdotenv] at hclient
  refine AppSettings.load_eq_ok_iff_own.mpr ⟨sources, hgather, ⟨_, hnested, ?_⟩, ?_⟩
  · exact AppSettings.releasesField_eq_ok_iff.mpr ⟨[("owner", .text "up")], rfl, hclient⟩
  · have hdefaults : ∀ name ∈ AppSettings.ownNames,
        AppSettings.ownReading name none = .ok ((appOf "up").own name) := by
      simp only [AppSettings.ownNames, List.forall_mem_cons, List.not_mem_nil, false_imp_iff,
        implies_true, and_true]
      exact ⟨rfl, rfl, rfl⟩
    intro name hname
    rw [Option.isNone_iff_eq_none.mp (hown name hname)]
    exact hdefaults name hname

theorem givesOwner_of_load {key : String} {keys : List String} {held : Option String}
    (hchain : spellsChain 480 content (key :: keys) held = true) (hkey : key ≠ "releases")
    (hexported : (withMapping content "\x7b\x7d" environment).exported? "APP_RELEASES" = none)
    (hnested : AppSettings.load (withMapping content "\x7b\x7d" environment)
      [(key, chain keys held)] .absent = .ok (appOf "up"))
    (hdirect : ClientSettings.load (withMapping content "\x7b\x7d" environment) [] .absent =
      .ok (appOf "fontident").releases) :
    GivesOwner (withMapping content "\x7b\x7d" environment) [(key, chain keys held)] := by
  have hempty : spellsChain 480 "\x7b\x7d" [] none = true := by decide +kernel
  have hholds : Settings.Holds (withMapping content "\x7b\x7d" environment) "d.yaml" (.dict []) :=
    holds_chain read_withMapping hempty
  have hgives : Settings.Gives (withMapping content "\x7b\x7d" environment) "c.yaml"
      [(key, chain keys held)] := gives_chain (read_withYaml _ _ _) hchain
  constructor
  case dotenv => exact lacks_withMapping
  case exported => exact hexported
  case gives => exact hgives
  case unnamed => simp [hkey.symm]
  case nested => exact (Settings.fromYaml_eq_ok_iff_of_gives hgives).mpr hnested
  case empty => exact hholds
  case direct =>
    have hload := (Settings.fromYaml_eq_ok_iff_of_holds hholds).mpr ⟨[], rfl, hdirect⟩
    rw [HostText.value_ofText] at hload
    rw [hload]
    intro hsame
    exact absurd (congrArg ClientSettings.owner (Except.ok.inj hsame)) (by decide)

end Sample

theorem nested_releases_agree_owner :
    Sample.agreeing.Lacks ".env" ∧ Sample.agreeing.exported? "APP_RELEASES" = none ∧
      ∃ app, Settings.fromYaml AppSettings.load Sample.agreeing (.text "c.yaml") = .ok app ∧
        app.releases = Sample.addressed "up" "https://api.github.com" := by
  have houter : Sample.spellsChain 480 "releases:\n  owner: up\n" ["releases", "owner"] (some "up") =
      true := by decide +kernel
  have hinner : Sample.spellsChain 480 "owner: up\n" ["owner"] (some "up") = true := by decide +kernel
  have hload : ClientSettings.load Sample.agreeing [("owner", .text "up")] .absent =
      .ok (Sample.addressed "up" "https://api.github.com") := by
    apply Sample.eq_ok_of_toOption
    decide +kernel
  have hdirect : Settings.fromYaml ClientSettings.load Sample.agreeing (.text "d.yaml") =
      .ok (Sample.addressed "up" "https://api.github.com") :=
    (Settings.fromYaml_eq_ok_iff_of_gives
      (Sample.gives_chain Sample.read_withMapping hinner)).mpr hload
  have hown : ∀ name ∈ AppSettings.ownNames, ∃ result, AppSettings.ownReading name
      ((Sample.agreeing.exported? (AppSettings.stem ++ name)).map .text) = .ok result := by
    simp only [AppSettings.ownNames, List.forall_mem_cons, List.not_mem_nil, false_imp_iff,
      implies_true, and_true]
    exact ⟨⟨_, rfl⟩, ⟨_, rfl⟩, ⟨_, rfl⟩⟩
  obtain ⟨hagree, _⟩ := @nested_releases_agree Sample.agreeing Sample.lacks_withMapping rfl
  refine ⟨Sample.lacks_withMapping, rfl, ?_⟩
  exact (hagree "c.yaml" "d.yaml" _ (Sample.holds_chain (Sample.read_withYaml _ _ _) houter)
    (Sample.holds_chain Sample.read_withMapping hinner) hown _).mpr hdirect

/-- Without the name of the settings of the client, the application's file gives them all the same:
under that name in capitals, or through the stem of a variable. -/
theorem nested_releases_agree_unnamed :
    Sample.GivesOwner Sample.capitalised [("RELEASES", .dict [(.text "owner", .text "up")])] ∧
      Sample.GivesOwner Sample.restemmed [("_env_prefix", .text "FOO_")] := by
  constructor
  · have hchain : Sample.spellsChain 480 "RELEASES:\n  owner: up\n" ["RELEASES", "owner"] (some "up") =
        true := by decide +kernel
    apply Sample.givesOwner_of_load hchain (by decide) rfl
    · apply Sample.load_eq_appOf Sample.lacks_withMapping rfl
      · decide +kernel
      · decide +kernel
      · exact Sample.eq_ok_of_toOption (by decide +kernel)
    · exact Sample.eq_ok_of_toOption (by decide +kernel)
  · have hchain : Sample.spellsChain 480 "_env_prefix: FOO_\n" ["_env_prefix"] (some "FOO_") = true := by
      decide +kernel
    apply Sample.givesOwner_of_load hchain (by decide) rfl
    · apply Sample.load_eq_appOf Sample.lacks_withMapping rfl
      · decide +kernel
      · decide +kernel
      · exact Sample.eq_ok_of_toOption (by decide +kernel)
    · exact Sample.eq_ok_of_toOption (by decide +kernel)

end Typeface
