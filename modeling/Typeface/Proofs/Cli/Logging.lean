import Mathlib
import Typeface.Proofs.Cli.Calls
import Typeface.Proofs.Cli.LogFormat
import Typeface.Proofs.Settings.App

/-!
# Logs of runs

The level of the log is looked up when the settings are loaded, and a run looks
it up again when it sets the log up; both accept the same names.  The format is
not looked at before the log is set up.  A run therefore starts exactly if the
format that it loads is a format.
-/

namespace Typeface

namespace AppSettings

variable {given : Option Value} {name : String} {format : HostText}

/-- A text with its letters in capitals, as far as these are letters of ASCII. -/
def raised (text : HostText) : String :=
  String.ofList (text.letters.map Text.raiseLetter)

/-- What is given for the level of the log names this one, in capitals or small letters. -/
inductive NamesLevel : Option Value → Severity → Prop
  | standard : NamesLevel none .info
  | given {value : Value} {text : HostText} {level : Severity}
      (htext : Coercion.text value = .ok text)
      (hname : Severity.ofName? (raised text) = some level) : NamesLevel (some value) level

/-- What is given for the format of the log is this one, letter for letter. -/
inductive GivesFormat : Option Value → HostText → Prop
  | standard : GivesFormat none defaultLogFormat
  | given {value : Value} {format : HostText} (htext : Coercion.text value = .ok format) :
      GivesFormat (some value) format

/-- The application's own fields are what the sources give for them. -/
def ReadFrom (settings : AppSettings) (sources : Sources) : Prop :=
  ∀ name ∈ ownNames, ownReading name (sources.value? name) = .ok (settings.own name)

/-- A name is accepted for the level only where the look-up at the start finds it again. -/
theorem namesLevel_of_levelName {value : Value} (hname : levelName value = .ok name) :
    ∃ level, NamesLevel (some value) level ∧ Severity.ofName? name = some level := by
  obtain ⟨text, htext, hknown⟩ := bind_eq_ok_iff.mp hname
  dsimp only at hknown
  split at hknown
  · next level hlevel =>
    cases hknown
    exact ⟨level, .given htext hlevel, hlevel⟩
  · cases hknown

theorem namesLevel_of_ownReading (hreading : ownReading "log_level" given = .ok name) :
    ∃ level, NamesLevel given level ∧ Severity.ofName? name = some level := by
  obtain ⟨_, hfound, hname⟩ := map_eq_ok_iff.mp hreading
  obtain rfl := HostText.ofText_inj.mp hname
  rcases Checked.defaulted_given_eq_ok_iff.mp hfound with ⟨value, rfl, hname⟩ | ⟨rfl, rfl⟩
  · exact namesLevel_of_levelName hname
  · exact ⟨.info, .standard, rfl⟩

theorem givesFormat_of_ownReading (hreading : ownReading "log_format" given = .ok format) :
    GivesFormat given format := by
  rcases Checked.defaulted_given_eq_ok_iff.mp hreading with ⟨value, rfl, htext⟩ | ⟨rfl, rfl⟩
  · exact .given htext
  · exact .standard

end AppSettings

namespace Cli

open AppSettings

variable {surroundings : Surroundings} {opening : Opening} {settings : AppSettings}

/-- What a loader makes of the settings file that a run is given, or of the environment and the
standard dotenv file. -/
def loadFor {α : Type} (load : Settings.Loader α) (surroundings : Surroundings)
    (opening : Opening) : Except Failure α :=
  Settings.fromEnvironmentAndYaml load surroundings (.ofOption .text opening.config) (.text ".env")

/-- The standard format shows something of each record. -/
theorem wellFormed_default : LogFormat.WellFormed defaultLogFormat :=
  (LogFormat.isValid_iff _).mp (by cbv)

theorem prepare_eq_ok_iff :
    prepare surroundings opening = .ok settings ↔
      loadFor AppSettings.load surroundings opening = .ok settings ∧
        LogFormat.WellFormed settings.logFormat := by
  rw [← LogFormat.isValid_iff]
  constructor
  · intro hprepare
    obtain ⟨found, hfound, hvalid⟩ := bind_eq_ok_iff.mp hprepare
    split at hvalid
    · next hformat =>
      cases hvalid
      exact ⟨hfound, hformat⟩
    · cases hvalid
  · rintro ⟨hload, hvalid⟩
    exact bind_eq_ok_iff.mpr ⟨settings, hload, if_pos hvalid⟩

/-- The failure is not one of the faults that commands report. -/
theorem prepare_of_not_wellFormed
    (hload : loadFor AppSettings.load surroundings opening = .ok settings)
    (hformat : ¬ LogFormat.WellFormed settings.logFormat) :
    prepare surroundings opening = .error (.mishap .wrongValue) := by
  rw [← LogFormat.isValid_iff] at hformat
  have hroute : Settings.fromEnvironmentAndYaml AppSettings.load surroundings
      (.ofOption .text opening.config) (.text ".env") = .ok settings := hload
  simp only [prepare, hroute, bind, Except.bind, if_neg hformat]
  rfl

/-- The sources behind loaded settings, with what they give for the log. -/
theorem sources_of_loadFor (hload : loadFor AppSettings.load surroundings opening = .ok settings) :
    ∃ sources level, loadFor (Sources.gather stem) surroundings opening = .ok sources ∧
      NamesLevel (sources.value? "log_level") level ∧
      Severity.ofName? settings.logLevel = some level ∧
      GivesFormat (sources.value? "log_format") settings.logFormat := by
  -- The two loaders walk one route, at the end of which both gather the same sources.
  have hgathers : ∀ given choice, AppSettings.load surroundings given choice = .ok settings →
      ∃ sources, Sources.gather stem surroundings given choice = .ok sources ∧
        settings.ReadFrom sources := by
    intro given choice hsettings
    obtain ⟨sources, hgather, _, hown⟩ := load_eq_ok_iff_own.mp hsettings
    exact ⟨sources, hgather, hown⟩
  obtain ⟨sources, hsources, hown⟩ :=
    Settings.fromEnvironmentAndYaml_ok_of_loads hgathers hload
  obtain ⟨level, hnames, hlevel⟩ := namesLevel_of_ownReading (hown "log_level" (by decide))
  exact ⟨sources, level, hsources, hnames, hlevel,
    givesFormat_of_ownReading (hown "log_format" (by decide))⟩

/-- The log is set up, and the run keeps it to the level given here, or to that for debugging where
its line asks for more. -/
structure Starts (surroundings : Surroundings) (session : Session) (line : List String)
    (opening : Opening) (settings : AppSettings) (level : Severity) : Prop where
  prepared : prepare surroundings opening = .ok settings
  level : (run surroundings session line).level = if opening.verbose then .debug else level

/-- The run ends before its command, and leaves the log as it was. -/
def halted (surroundings : Surroundings) (session : Session) : Outcome :=
  { exitCode := 1, output := "", errors := "", level := .warning
    escaped := some (.mishap .wrongValue), state := start surroundings session }

theorem level_run {line : List String} {session : Session}
    (hopening : Opening.ofLine surroundings.files line = .ok opening)
    (hprepare : prepare surroundings opening = .ok settings) :
    (run surroundings session line).level = levelOf settings opening.verbose := by
  simp only [run, hopening, hprepare]
  split <;> rfl

/-- A run whose settings load starts exactly if its log format is empty or has a field in it, and
then keeps to the level that its sources name.  Otherwise the failure escapes before any command,
while the level stays as it was. -/
theorem starts_iff_wellFormed (surroundings : Surroundings) (session : Session)
    (line : List String) (opening : Opening) (settings : AppSettings)
    (hopening : Opening.ofLine surroundings.files line = .ok opening)
    (hload : loadFor AppSettings.load surroundings opening = .ok settings) :
    ∃ sources level, loadFor (Sources.gather stem) surroundings opening = .ok sources ∧
      NamesLevel (sources.value? "log_level") level ∧
      Severity.ofName? settings.logLevel = some level ∧
      GivesFormat (sources.value? "log_format") settings.logFormat ∧
      (Starts surroundings session line opening settings level ↔
        LogFormat.WellFormed settings.logFormat) ∧
      (¬ LogFormat.WellFormed settings.logFormat →
        run surroundings session line = halted surroundings session) := by
  obtain ⟨sources, level, hsources, hnames, hlevel, hgives⟩ := sources_of_loadFor hload
  refine ⟨sources, level, hsources, hnames, hlevel, hgives, ⟨?_, ?_⟩, ?_⟩
  · intro hstarts
    exact (prepare_eq_ok_iff.mp hstarts.prepared).2
  · intro hformat
    have hprepare := prepare_eq_ok_iff.mpr ⟨hload, hformat⟩
    refine ⟨hprepare, ?_⟩
    rw [level_run hopening hprepare, levelOf, hlevel, Option.getD_some]
  · intro hformat
    simp only [run, hopening, prepare_of_not_wellFormed hload hformat]
    rfl

end Cli

namespace Cli.Sample

def resolveLine : List String := ["resolve", "Arial"]

def resolveOpening : Opening :=
  { verbose := false, config := none, topic := .resolve, rest := ["Arial"] }

def fatalSurroundings : Surroundings :=
  { surroundings with environment := [("APP_LOG_LEVEL", "Fatal")] }

def fatalSettings : AppSettings :=
  { settings with logLevel := "FATAL" }

def plainSurroundings : Surroundings :=
  { surroundings with environment := [("APP_LOG_FORMAT", "plain")] }

def plainSettings : AppSettings :=
  { settings with logFormat := "plain" }

end Cli.Sample

namespace Cli

/-- The level goes by its second name, with only the first letter a capital. -/
theorem starts_iff_wellFormed_fatal :
    Starts Sample.fatalSurroundings Sample.session Sample.resolveLine Sample.resolveOpening
      Sample.fatalSettings .critical := by
  have hopening : Opening.ofLine Sample.fatalSurroundings.files Sample.resolveLine =
      .ok Sample.resolveOpening := by cbv
  have hload : loadFor AppSettings.load Sample.fatalSurroundings Sample.resolveOpening =
      .ok Sample.fatalSettings := by cbv
  obtain ⟨_, _, _, _, hlevel, _, hstarts, _⟩ :=
    starts_iff_wellFormed _ Sample.session _ _ _ hopening hload
  cases hlevel
  exact hstarts.mpr wellFormed_default

/-- Settings with a format that has no field are loaded, but no run starts from them. -/
theorem starts_iff_wellFormed_plain :
    loadFor AppSettings.load Sample.plainSurroundings Sample.resolveOpening =
        .ok Sample.plainSettings ∧
      (∀ level, ¬ Starts Sample.plainSurroundings Sample.session Sample.resolveLine
        Sample.resolveOpening Sample.plainSettings level) ∧
      (run Sample.plainSurroundings Sample.session Sample.resolveLine).escaped =
        some (.mishap .wrongValue) := by
  refine ⟨by cbv, ?_, by cbv⟩
  intro level hstarts
  have hprepare : prepare Sample.plainSurroundings Sample.resolveOpening =
      .error (.mishap .wrongValue) := by cbv
  rw [hstarts.prepared] at hprepare
  cases hprepare

end Cli

end Typeface
