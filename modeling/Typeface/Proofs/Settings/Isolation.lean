import Mathlib
import Typeface.Fault.Kind
import Typeface.Proofs.FileTree
import Typeface.Proofs.FileTree.Alike
import Typeface.Proofs.Settings.Closure

/-!
# What the dotenv file changes behind a YAML file

A record that is loaded from a YAML file is to have nothing from the standard
dotenv file.  So it is with settings of the client.  Settings of the
application hold settings of the client, and those are loaded in turn with the
standard dotenv file among their sources: two directories that differ in this
file only give the same settings exactly if it makes no difference there.
-/

namespace Typeface

/-- What sort of failure it is, whatever values it keeps; there is none of the end of a program. -/
def Failure.kind : Failure → Option (Sum Fault.Kind Mishap)
  | .fault known => some (.inl known.kind)
  | .caused known _ => some (.inl known.kind)
  | .mishap reason => some (.inr reason)
  | .exit => none

/-- Two outcomes are the same value, or failures of one kind. -/
def Agree {α : Type} (left right : Except Failure α) : Prop :=
  left.mapError Failure.kind = right.mapError Failure.kind

/-- Two outcomes are the same value, or both are failures. -/
def SameValue {α : Type} (left right : Except Failure α) : Prop :=
  ∀ content, left = .ok content ↔ right = .ok content

/-- Both of two outcomes end the program, or neither does. -/
def ExitAlike {α : Type} (left right : Except Failure α) : Prop :=
  left = .error .exit ↔ right = .error .exit

/-- Two outcomes are the same value, or both end the program, or both are other failures. -/
structure SameEnd {α : Type} (left right : Except Failure α) : Prop where
  value : SameValue left right
  exit : ExitAlike left right

theorem SameEnd.of_eq {α : Type} {left right : Except Failure α} (hsame : left = right) :
    SameEnd left right := by
  rw [hsame]
  exact ⟨fun _ => Iff.rfl, Iff.rfl⟩

theorem sameEnd_iff {α : Type} {left right : Except Failure α} :
    SameEnd left right ↔ SameValue left right ∧ ExitAlike left right :=
  ⟨fun hsame => ⟨hsame.value, hsame.exit⟩, fun hboth => ⟨hboth.1, hboth.2⟩⟩

/-- What a file shows of a failure in loading from it: the end of the program, or one kind of
fault. -/
def Failure.loadingKind : Failure → Option (Sum Fault.Kind Mishap)
  | .exit => none
  | _ => some (.inl .configLoad)

theorem mapError_loadingKind_eq_iff {α : Type} {left right : Except Failure α} :
    left.mapError Failure.loadingKind = right.mapError Failure.loadingKind ↔
      SameEnd left right := by
  rw [sameEnd_iff, SameValue, ExitAlike]
  cases left with
  | ok content =>
    cases right with
    | ok other => simp [Except.mapError]
    | error reason => simp [Except.mapError]
  | error failure =>
    cases right with
    | ok other => simp [Except.mapError]
    | error reason =>
      cases failure <;> cases reason <;> simp [Except.mapError, Failure.loadingKind]

theorem toOption_eq_of_agree {α : Type} {left right : Except Failure α}
    (hagree : Agree left right) : left.toOption = right.toOption := by
  unfold Agree at hagree
  cases left <;> cases right <;> simp_all [Except.mapError, Except.toOption]

namespace Surroundings

/-- Where the standard dotenv file stands. -/
def dotenvPlace (surroundings : Surroundings) : Location :=
  surroundings.files.here ++ [(".env" : Name)]

def LeadsToDotenv (surroundings : Surroundings) (path : Path) : Prop :=
  surroundings.files.locate path = .ok surroundings.dotenvPlace

/-- The same variables, files and limits, but for the standard dotenv file. -/
structure AlikeButDotenv (left right : Surroundings) : Prop where
  environment : left.environment = right.environment
  files : FileTree.AlikeBut left.dotenvPlace left.files right.files
  homes : left.homes = right.homes
  ownHome : left.ownHome = right.ownHome
  jsonDepth : left.jsonDepth = right.jsonDepth
  yamlDepth : left.yamlDepth = right.yamlDepth
  earlyFlaw : left.earlyFlaw? = right.earlyFlaw?

/-- Given fields have no options but those that are described here, and do not choose the standard
dotenv file to be read. -/
structure SparesDotenv (surroundings : Surroundings) (given : Fields) : Prop where
  options : given.KnowsOptions
  dotenv : ∀ paths, DotenvChoice.ofGiven given .absent = .ok (.files paths) →
    ∀ path ∈ paths, ∀ found, surroundings.expand (.ofText path) = .ok found →
      ¬ surroundings.LeadsToDotenv found

namespace AlikeButDotenv

variable {left right : Surroundings} {given : Fields} {path : Path}

theorem probe (halike : AlikeButDotenv left right) (hpath : ¬ left.LeadsToDotenv path) :
    left.probe path = right.probe path := by
  unfold Surroundings.probe
  rw [halike.files.probe hpath]

theorem read (halike : AlikeButDotenv left right) (hpath : ¬ left.LeadsToDotenv path) :
    left.read path = right.read path := by
  unfold Surroundings.read
  rcases halike.files.read hpath with hsame | ⟨⟨_, hleft⟩, _, hright⟩
  · rw [hsame]
  · rw [hleft, hright]

theorem expand (halike : AlikeButDotenv left right) (path : Path) :
    left.expand path = right.expand path := by
  unfold Surroundings.expand Surroundings.home?
  rw [halike.environment, halike.homes, halike.ownHome]

theorem variablesIn (halike : AlikeButDotenv left right) (hpath : ¬ left.LeadsToDotenv path) :
    left.variablesIn path = right.variablesIn path := by
  unfold Surroundings.variablesIn
  rw [halike.read hpath, halike.environment]

theorem variablesOf (halike : AlikeButDotenv left right) {paths : List HostText}
    (hpaths : ∀ path ∈ paths, ∀ found, left.expand (.ofText path) = .ok found →
      ¬ left.LeadsToDotenv found) :
    left.variablesOf paths = right.variablesOf paths := by
  induction paths with
  | nil => rfl
  | cons path rest ih =>
    rw [List.forall_mem_cons] at hpaths
    rw [Surroundings.variablesOf, Surroundings.variablesOf, ← halike.expand, ih hpaths.2]
    cases hexpand : left.expand (.ofText path) with
    | error failure => rfl
    | ok found =>
      have hfound := hpaths.1 found hexpand
      simp only [bind, Except.bind, halike.probe hfound, halike.variablesIn hfound]

/-- Sources that do not read the standard dotenv file are the same on both sides. -/
theorem gather (halike : AlikeButDotenv left right) (hspares : left.SparesDotenv given)
    (stem : String) :
    Sources.gather stem left given .absent = Sources.gather stem right given .absent := by
  rw [Sources.gather_of_knowsOptions hspares.options, Sources.gather_of_knowsOptions hspares.options]
  unfold Sources.gatherDescribed
  rw [halike.environment]
  cases hchoice : DotenvChoice.ofGiven given .absent with
  | error failure => rfl
  | ok choice =>
    have hdotenv : left.dotenv choice = right.dotenv choice := by
      cases choice with
      | absent => rfl
      | files paths => exact halike.variablesOf (hspares.dotenv paths hchoice)
    simp only [bind, Except.bind, hdotenv]

theorem client_load (halike : AlikeButDotenv left right) (hspares : left.SparesDotenv given) :
    ClientSettings.load left given .absent = ClientSettings.load right given .absent := by
  unfold ClientSettings.load
  rw [halike.gather hspares]

theorem nests_iff (halike : AlikeButDotenv left right) (hspares : left.SparesDotenv given)
    {nested : Fields} :
    AppSettings.Nests left given .absent nested ↔ AppSettings.Nests right given .absent nested := by
  unfold AppSettings.Nests
  rw [halike.gather hspares, halike.jsonDepth]

theorem prepared_iff (halike : AlikeButDotenv left right) (hspares : left.SparesDotenv given)
    {frame : ClientSettings → AppSettings} {nested : Fields} :
    AppSettings.Prepared left given .absent frame nested ↔
      AppSettings.Prepared right given .absent frame nested := by
  unfold AppSettings.Prepared
  rw [halike.gather hspares, halike.jsonDepth]

end AlikeButDotenv

end Surroundings

namespace Settings

variable {α : Type} {left right : Surroundings} {path : HostText}

/-- The file at a path gives some fields. -/
def Gives (surroundings : Surroundings) (path : HostText) (given : Fields) : Prop :=
  fieldsIn surroundings (.ofText path) = .ok given

theorem kind_blamed {outcome : Except Failure α} (shown : HostText)
    (hstops : Failure.Fails Failure.StopsLoading outcome) :
    (blame (faultOf shown) outcome).mapError Failure.kind =
      outcome.mapError Failure.loadingKind := by
  cases outcome with
  | ok content => rfl
  | error failure =>
    rcases Failure.fails_error.mp hstops with ⟨reason, rfl, hother⟩ | rfl
    · cases reason <;> first | rfl | exact absurd rfl hother
    · rfl

theorem agree_blame_iff {left right : Except Failure α} (shown : HostText)
    (hleft : Failure.Fails Failure.StopsLoading left)
    (hright : Failure.Fails Failure.StopsLoading right) :
    Agree (blame (faultOf shown) left) (blame (faultOf shown) right) ↔ SameEnd left right := by
  rw [Agree, kind_blamed shown hleft, kind_blamed shown hright, mapError_loadingKind_eq_iff]

theorem fieldsIn_of_alike (halike : Surroundings.AlikeButDotenv left right)
    (hpath : ¬ left.LeadsToDotenv (.ofText path)) :
    fieldsIn left (.ofText path) = fieldsIn right (.ofText path) := by
  unfold fieldsIn decodeFile textOf flawOf
  rw [halike.read hpath, halike.yamlDepth, halike.earlyFlaw]

/-- What the file at a path gives, it gives only where it is there. -/
theorem probe_of_gives {given : Fields} (hgives : Gives left path given) :
    ∃ node, left.probe (.ofText path) = .ok (some node) := by
  cases hread : left.read (.ofText path) with
  | error mishap =>
    simp only [Gives, fieldsIn, decodeFile, hread, bind, Except.bind, asFailure,
      Failure.ofMishap] at hgives
    cases hgives
  | ok bytes =>
    have hfound : left.files.read (.ofText path) = .ok bytes := by
      unfold Surroundings.read at hread
      split at hread <;> cases hread
      assumption
    exact ⟨_, Surroundings.probe_eq_some_iff.mpr (Surroundings.at?_of_read hfound)⟩

/-- Where a YAML file is the same on both sides, loading from it agrees exactly if loading from its
fields gives the same. -/
theorem agree_fromYaml_iff {load : Loader α}
    (hfails : ∀ surroundings given, Failure.Fails Failure.StopsLoading
      (load surroundings given .absent))
    (hprobe : left.probe (.ofText path) = right.probe (.ofText path))
    (hfields : fieldsIn left (.ofText path) = fieldsIn right (.ofText path)) :
    Agree (fromYaml load left path.value) (fromYaml load right path.value) ↔
      ∀ given, Gives left path given →
        SameEnd (load left given .absent) (load right given .absent) := by
  simp only [fromYaml, loadFile, HostText.hostText?_value]
  cases hfound : left.probe (.ofText path) with
  | error failure =>
    have hnone : ∀ given, ¬ Gives left path given := by
      intro given hgives
      obtain ⟨node, hnode⟩ := probe_of_gives hgives
      rw [hfound] at hnode
      cases hnode
    rw [loadText_unreachable hfound, loadText_unreachable (hprobe ▸ hfound)]
    simp [Agree, hnone]
  | ok found =>
    cases found with
    | none =>
      have hnone : ∀ given, ¬ Gives left path given := by
        intro given hgives
        obtain ⟨node, hnode⟩ := probe_of_gives hgives
        rw [hfound] at hnode
        cases hnode
      rw [loadText_missing hfound, loadText_missing (hprobe ▸ hfound)]
      simp [Agree, hnone]
    | some node =>
      rw [loadText_found hfound, loadText_found (hprobe ▸ hfound), ← hfields]
      cases hgiven : fieldsIn left (.ofText path) with
      | error failure => simp [Agree, Except.bind, Gives, hgiven]
      | ok given =>
        simp only [Except.bind, Except.ok.injEq, Gives, hgiven, forall_eq']
        exact agree_blame_iff _ (hfails left given) (hfails right given)

end Settings

namespace AppSettings

variable {left right : Surroundings} {given nested other : Fields} {choice : DotenvChoice}
variable {frame frame' : ClientSettings → AppSettings}

theorem Prepared.unique (hprepared : Prepared left given choice frame nested)
    (hother : Prepared left given choice frame' other) : frame = frame' ∧ nested = other := by
  obtain ⟨sources, value, hgather, hvalue, hframe, hnested⟩ := hprepared
  obtain ⟨sources', value', hgather', hvalue', hframe', hother⟩ := hother
  obtain rfl : sources = sources' := by simpa [hgather] using hgather'
  obtain rfl : value = value' := by simpa [hvalue] using hvalue'
  exact ⟨by simpa [hframe] using hframe', by simpa [hnested] using hother⟩

/-- What is prepared becomes settings of the application with those of the client it waits for. -/
theorem Prepared.load_frame_iff (hprepared : Prepared left given choice frame nested)
    (settings : ClientSettings) :
    load left given choice = .ok (frame settings) ↔
      ClientSettings.load left nested .standard = .ok settings := by
  have hreleases : ∀ settings, (frame settings).releases = settings := by
    obtain ⟨_, _, _, _, hframe, _⟩ := hprepared
    exact releases_of_frameOf hframe
  rw [load_eq_ok_iff]
  constructor
  · rintro ⟨frame', other, found, hother, hload, hsame⟩
    obtain ⟨rfl, rfl⟩ := hprepared.unique hother
    have hfound : found = settings := by
      rw [← hreleases found, hsame, hreleases]
    exact hfound ▸ hload
  · intro hload
    exact ⟨frame, nested, settings, hprepared, hload, rfl⟩

/-- Settings of the application come out the same exactly if the settings of the client do that are
loaded for them. -/
theorem sameValue_load_iff
    (hprepared : ∀ frame nested, Prepared left given choice frame nested ↔
      Prepared right given choice frame nested) :
    SameValue (load left given choice) (load right given choice) ↔
      ∀ frame nested, Prepared left given choice frame nested →
        SameValue (ClientSettings.load left nested .standard)
          (ClientSettings.load right nested .standard) := by
  constructor
  · intro hsame frame nested hleft settings
    have hright := (hprepared frame nested).mp hleft
    rw [← hleft.load_frame_iff, ← hright.load_frame_iff]
    exact hsame (frame settings)
  · intro hsame app
    rw [load_eq_ok_iff, load_eq_ok_iff]
    constructor
    · rintro ⟨frame, nested, settings, hleft, hload, hframe⟩
      exact ⟨frame, nested, settings, (hprepared frame nested).mp hleft,
        (hsame frame nested hleft settings).mp hload, hframe⟩
    · rintro ⟨frame, nested, settings, hright, hload, hframe⟩
      have hleft := (hprepared frame nested).mpr hright
      exact ⟨frame, nested, settings, hleft, (hsame frame nested hleft settings).mpr hload, hframe⟩

theorem Nests.unique (hnests : Nests left given choice nested)
    (hother : Nests left given choice other) : nested = other := by
  obtain ⟨sources, value, hgather, hvalue, hnested⟩ := hnests
  obtain ⟨sources', value', hgather', hvalue', hother⟩ := hother
  obtain rfl : sources = sources' := by simpa [hgather] using hgather'
  obtain rfl : value = value' := by simpa [hvalue] using hvalue'
  simpa [hnested] using hother

/-- Loading ends the program on both sides exactly if loading the settings of the client does. -/
theorem exitAlike_load_iff (hknown : given.KnowsOptions)
    (hnests : ∀ nested, Nests left given choice nested ↔ Nests right given choice nested) :
    ExitAlike (load left given choice) (load right given choice) ↔
      ∀ nested, Nests left given choice nested →
        ExitAlike (ClientSettings.load left nested .standard)
          (ClientSettings.load right nested .standard) := by
  have hgather : ∀ surroundings, Sources.gather stem surroundings given choice ≠ .error .exit := by
    intro surroundings
    rw [Sources.gather_of_knowsOptions hknown]
    exact (Sources.fails_gatherDescribed stem).ne_exit
  rw [ExitAlike, load_eq_exit_iff, load_eq_exit_iff]
  simp only [hgather, false_or, ← hnests]
  constructor
  · intro halike nested hnested
    have honly : ∀ surroundings, (∃ other, Nests left given choice other ∧
        ClientSettings.load surroundings other .standard = .error .exit) ↔
          ClientSettings.load surroundings nested .standard = .error .exit := by
      intro surroundings
      constructor
      · rintro ⟨other, hother, hexit⟩
        rwa [hnested.unique hother]
      · intro hexit
        exact ⟨nested, hnested, hexit⟩
    rwa [honly, honly] at halike
  · intro halike
    constructor
    · rintro ⟨nested, hnested, hexit⟩
      exact ⟨nested, hnested, (halike nested hnested).mp hexit⟩
    · rintro ⟨nested, hnested, hexit⟩
      exact ⟨nested, hnested, (halike nested hnested).mpr hexit⟩

end AppSettings

open Settings AppSettings Surroundings in
/-- In two directories that differ in the standard dotenv file only, loading from a YAML file gives
the same exactly if loading from the fields of that file does.  Where these fields do not choose the
dotenv file themselves, and have no options but those that are described here, this always holds of
settings of the client; of settings of the application it holds exactly if the settings of the client
within them, loaded with the dotenv file among their sources, come out the same. -/
theorem fromYaml_isolated_iff {left right : Surroundings} {path : HostText}
    (halike : AlikeButDotenv left right) (hpath : ¬ left.LeadsToDotenv (.ofText path)) :
    (Agree (fromYaml ClientSettings.load left path.value)
        (fromYaml ClientSettings.load right path.value) ↔
      ∀ given, Gives left path given → SameEnd (ClientSettings.load left given .absent)
        (ClientSettings.load right given .absent)) ∧
    (Agree (fromYaml AppSettings.load left path.value)
        (fromYaml AppSettings.load right path.value) ↔
      ∀ given, Gives left path given → SameEnd (AppSettings.load left given .absent)
        (AppSettings.load right given .absent)) ∧
    ∀ given, left.SparesDotenv given →
      SameEnd (ClientSettings.load left given .absent)
        (ClientSettings.load right given .absent) ∧
      (SameEnd (AppSettings.load left given .absent) (AppSettings.load right given .absent) ↔
        (∀ frame nested, Prepared left given .absent frame nested →
          SameValue (ClientSettings.load left nested .standard)
            (ClientSettings.load right nested .standard)) ∧
        ∀ nested, Nests left given .absent nested →
          ExitAlike (ClientSettings.load left nested .standard)
            (ClientSettings.load right nested .standard)) := by
  have hprobe := halike.probe hpath
  have hfields := fieldsIn_of_alike halike hpath
  refine ⟨?_, ?_, fun given hspares => ⟨?_, ?_⟩⟩
  · exact agree_fromYaml_iff (fun _ _ => ClientSettings.fails_load) hprobe hfields
  · exact agree_fromYaml_iff (fun _ _ => AppSettings.fails_load) hprobe hfields
  · exact .of_eq (halike.client_load hspares)
  · rw [sameEnd_iff, sameValue_load_iff fun frame nested => halike.prepared_iff hspares,
      exitAlike_load_iff hspares.options fun nested => halike.nests_iff hspares]

namespace Sample

/-- A directory with a YAML file that sets nothing, and a dotenv file that names an owner. -/
def withDotenv : Surroundings :=
  { environment := []
    files :=
      { nodes := [(["work"], .directory), (["work", "app.yaml"], .file (Text.toUtf8 "\x7b\x7d")),
          (["work", ".env"], .file (Text.toUtf8 "RELEASES_OWNER=x"))]
        working := ["work"] } }

/-- The same directory without its dotenv file. -/
def withoutDotenv : Surroundings :=
  { withDotenv with files := withDotenv.files.remove ["work", ".env"] }

theorem alikeButDotenv : Surroundings.AlikeButDotenv withDotenv withoutDotenv where
  environment := rfl
  files :=
    { working := rfl
      denied := rfl
      node := fun _ hother => (FileTree.node?_remove_of_ne hother).symm
      leftFile := by decide +kernel
      rightFile := by decide +kernel }
  homes := rfl
  ownHome := rfl
  jsonDepth := rfl
  yamlDepth := rfl
  earlyFlaw := rfl

theorem app_leads_elsewhere : ¬ withDotenv.LeadsToDotenv (.ofText "app.yaml") := by
  have hplace : withDotenv.files.locate (.ofText "app.yaml") = .ok ["work", "app.yaml"] := by cbv
  intro hleads
  rw [Surroundings.LeadsToDotenv, hplace] at hleads
  exact absurd (Except.ok.inj hleads) (by decide)

theorem gives_nothing {given : Fields} (hgives : Settings.Gives withDotenv "app.yaml" given) :
    given = [] := by
  have hfields : Settings.fieldsIn withDotenv (.ofText "app.yaml") = .ok [] := by cbv
  rw [Settings.Gives, hfields] at hgives
  exact (Except.ok.inj hgives).symm

end Sample

theorem fromYaml_isolated_client :
    Surroundings.AlikeButDotenv Sample.withDotenv Sample.withoutDotenv ∧
      ¬ Sample.withDotenv.LeadsToDotenv (.ofText "app.yaml") ∧
      Agree (Settings.fromYaml ClientSettings.load Sample.withDotenv (.text "app.yaml"))
        (Settings.fromYaml ClientSettings.load Sample.withoutDotenv (.text "app.yaml")) := by
  obtain ⟨hclient, _, hspared⟩ :=
    fromYaml_isolated_iff Sample.alikeButDotenv Sample.app_leads_elsewhere
  refine ⟨Sample.alikeButDotenv, Sample.app_leads_elsewhere, hclient.mpr ?_⟩
  intro given hgives
  obtain rfl := Sample.gives_nothing hgives
  exact (hspared [] ⟨nofun, nofun⟩).1

/-- The owner in the dotenv file shows in the settings of the application. -/
theorem fromYaml_isolated_leak :
    Surroundings.AlikeButDotenv Sample.withDotenv Sample.withoutDotenv ∧
      ¬ Sample.withDotenv.LeadsToDotenv (.ofText "app.yaml") ∧
      ¬ Agree (Settings.fromYaml AppSettings.load Sample.withDotenv (.text "app.yaml"))
        (Settings.fromYaml AppSettings.load Sample.withoutDotenv (.text "app.yaml")) := by
  refine ⟨Sample.alikeButDotenv, Sample.app_leads_elsewhere, fun hagree => ?_⟩
  have hleft : (Settings.fromYaml AppSettings.load Sample.withDotenv
      (.text "app.yaml")).toOption.map (·.releases.owner) = some "x" := by cbv
  have hright : (Settings.fromYaml AppSettings.load Sample.withoutDotenv
      (.text "app.yaml")).toOption.map (·.releases.owner) = some "fontident" := by cbv
  rw [toOption_eq_of_agree hagree, hright] at hleft
  exact absurd hleft (by decide)

end Typeface
