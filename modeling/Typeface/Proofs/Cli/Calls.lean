import Mathlib
import Typeface.Proofs.Checked
import Typeface.Proofs.Client.Delivery
import Typeface.Proofs.Client.Escape
import Typeface.Proofs.Client.Lookup
import Typeface.Proofs.Value

/-!
# The calls of a run

A command on releases asks for the list, and a download asks for the content of
an asset when the list has it.  Nothing is asked for twice, and the last call
closes the session, whatever became of the requests.
-/

namespace Typeface

/-- The asset is the first one that has the name. -/
def Release.FirstNamed (release : Release) (name : HostText) (asset : Asset) : Prop :=
  ∃ before after, release.assets = before ++ asset :: after ∧ asset.name = some name ∧
    ∀ earlier ∈ before, earlier.name ≠ some name

theorem Release.asset?_eq_some_iff {release : Release} {name : HostText} {asset : Asset} :
    release.asset? name.value = some asset ↔ release.FirstNamed name asset := by
  rw [asset?_value, List.find?_eq_some_iff_append]
  simp only [beq_iff_eq, Bool.not_eq_true', beq_eq_false_iff_ne, FirstNamed]
  constructor
  · rintro ⟨hname, before, after, hsplit, hearlier⟩
    exact ⟨before, after, hsplit, hname, hearlier⟩
  · rintro ⟨before, after, hsplit, hname, hearlier⟩
    exact ⟨hname, before, after, hsplit, hearlier⟩

namespace Client

variable {settings : ClientSettings} {state : State} {exchange : Exchange} {url : HostText}
variable {releases : List Release} {release : Release} {tag : HostText} {depth : Nat}

/-! ## Requests of the client -/

theorem session_fetchReleases (settings : ClientSettings) (state : State) :
    (fetchReleases settings state).2.session =
      (state.session.request (.get settings.releasesUrl settings.timeout)).2 := by
  simp only [fetchReleases]
  split <;> rfl

theorem session_fetchRelease (settings : ClientSettings) (tag : Value) (state : State) :
    (fetchRelease settings tag state).2.session =
      (state.session.request (.get settings.releasesUrl settings.timeout)).2 := by
  rw [← session_fetchReleases]
  simp only [fetchRelease]
  split
  · next hfetch => rw [hfetch]
  · next hfetch => rw [hfetch]

theorem session_receive (settings : ClientSettings) (asset : Asset) (directory path : Path)
    (reply : Reply) (state : State) :
    (receive settings asset directory path reply state).2.session = state.session := by
  simp only [receive]
  split
  · rfl
  · split <;> rfl

theorem session_transfer (settings : ClientSettings) (release : Release) (asset : Asset)
    (name : HostText) (directory path : Path) (state : State) :
    (transfer settings release asset name directory path state).2.session =
      (state.session.request (.download asset.url settings.timeout)).2 := by
  simp only [transfer]
  split
  · rfl
  · rw [session_receive]
    rfl

/-- A download makes a request exactly where the release has the asset. -/
theorem session_download (settings : ClientSettings) (release : Release) (name : HostText)
    (output : Option HostText) (state : State) :
    (download settings release name.value (.ofOption HostText.value output) state).2.session =
      match release.asset? name.value with
      | none => state.session
      | some asset => (state.session.request (.download asset.url settings.timeout)).2 := by
  simp only [download]
  cases release.asset? name.value with
  | none => rfl
  | some asset =>
    simp only [directoryOf_ofOption, pathIn, HostText.hostText?_value, session_transfer]

/-! ## What the list holds -/

/-- A reply of good status arrives whose body is an object or a text with nothing in it. -/
inductive Hollow (depth : Nat) : Exchange → Prop
  | body {reply : Reply} {value : Value} (hstatus : ¬ reply.HasErrorStatus)
      (hvalue : Json.decodeBytes depth reply.body = .ok value)
      (hempty : value = .dict [] ∨ value = .text "") : Hollow depth (.reply reply)

theorem releasesFrom_ok (hfrom : releasesFrom depth url exchange = .ok releases) :
    Delivers depth exchange releases ∨ Hollow depth exchange ∧ releases = [] := by
  cases exchange with
  | broken reason => cases reason <;> cases hfrom
  | reply reply =>
    simp only [releasesFrom] at hfrom
    split at hfrom
    · cases hfrom
    next hstatus =>
    rw [Reply.statusTrouble?_eq_none_iff] at hstatus
    simp only [decodeBody] at hfrom
    split at hfrom
    · cases hfrom
    · cases hfrom
    · cases hfrom
    next value hvalue =>
    split at hfrom
    · cases hfrom
    next found hfound =>
    cases hfrom
    have hdecoded := Json.decoded_of_decodeBytes hvalue
    exact ((releasesOf_eq_ok_iff hdecoded).mp hfound).imp (.body hstatus hvalue)
      (And.imp_left (.body hstatus hvalue))

theorem fetchRelease_eq_ok_iff :
    (fetchRelease settings tag.value state).1 = .ok release ↔
      ∃ releases, Delivers state.depth state.next releases ∧
        FirstTagged tag releases release := by
  rw [fst_fetchRelease]
  constructor
  · intro hfound
    obtain ⟨releases, hfrom, hfind⟩ := bind_eq_ok_iff.mp hfound
    have hfirst := findTag_eq_ok_iff.mp hfind
    rcases releasesFrom_ok hfrom with hdelivers | ⟨_, rfl⟩
    · exact ⟨releases, hdelivers, hfirst⟩
    · obtain ⟨before, after, hsplit, _⟩ := hfirst
      simp at hsplit
  · rintro ⟨releases, hdelivers, hfirst⟩
    exact bind_eq_ok_iff.mpr
      ⟨releases, releasesFrom_delivers hdelivers, findTag_eq_ok_iff.mpr hfirst⟩

/-- The exchange brings a list in which the first release with the tag has the asset, as the first
one with the name. -/
def Offers (depth : Nat) (exchange : Exchange) (tag name : HostText) (asset : Asset) : Prop :=
  ∃ releases release, Delivers depth exchange releases ∧ FirstTagged tag releases release ∧
    release.FirstNamed name asset

end Client

namespace Cli

open Client

variable {settings : ClientSettings} {state : State} {tag name : String} {output : Option String}

/-! ## Commands -/

theorem session_failed (opening : String) (failure : Failure) (state : State) :
    (failed opening failure state).state.session = state.session := by
  simp only [failed]
  split <;> rfl

theorem output_failed (opening : String) (failure : Failure) (state : State) :
    (failed opening failure state).output = "" := by
  simp only [failed]
  split <;> rfl

theorem session_printing (lines : List HostText) (state : State) :
    (printing lines state).state.session = state.session := by
  simp only [printing]
  split <;> rfl

theorem output_printing (lines : List HostText) (state : State) :
    (printing lines state).output = (printLines lines).1 := by
  simp only [printing]
  split
  · next hlines => rw [hlines]; rfl
  · next hlines => rw [hlines]

theorem session_listReleases (settings : ClientSettings) (state : State) :
    (listReleases settings state).state.session =
      (state.session.request (.get settings.releasesUrl settings.timeout)).2.close := by
  rw [← session_fetchReleases]
  simp only [listReleases]
  split
  · next hfetch => rw [hfetch, session_printing]; rfl
  · next hfetch => rw [hfetch, session_failed]; rfl

/-- A list that arrives is printed with a line for each release. -/
theorem output_listReleases_of_delivers {releases : List Release}
    (hdelivers : Delivers state.depth state.next releases) :
    (listReleases settings state).output = (printLines (releases.map releaseLine)).1 := by
  have hfetched := fst_fetchReleases_eq_releasesFrom settings state
  rw [releasesFrom_delivers hdelivers] at hfetched
  simp only [listReleases]
  split
  · next hfetch =>
    rw [hfetch] at hfetched
    cases hfetched
    exact output_printing _ _
  · next hfetch =>
    rw [hfetch] at hfetched
    cases hfetched

/-- Nothing is written of a list that does not arrive as a whole. -/
theorem output_listReleases_of_not_delivers
    (hmissing : ∀ releases, ¬ Delivers state.depth state.next releases) :
    (listReleases settings state).output = "" := by
  have hfetched := fst_fetchReleases_eq_releasesFrom settings state
  simp only [listReleases]
  split
  · next releases after hfetch =>
    rw [hfetch] at hfetched
    obtain ⟨_, rfl⟩ := (releasesFrom_ok hfetched.symm).resolve_left (hmissing releases)
    rfl
  · exact output_failed _ _ _

theorem session_download (settings : ClientSettings) (tag name : String) (output : Option String)
    (state : State) :
    (download settings tag name output state).state.session =
      (fetchAndDownload settings tag name output state).2.session.close := by
  simp only [download]
  split
  · next hfetch => rw [hfetch, session_printing]; rfl
  · next hfetch => rw [hfetch, session_failed]; rfl

/-- An asset that the list offers is asked for after the list. -/
theorem calls_fetchAndDownload_of_offers {asset : Asset}
    (hoffers : Offers state.depth state.next tag name asset) :
    (fetchAndDownload settings tag name output state).2.session.calls =
      state.session.calls ++
        [.get settings.releasesUrl settings.timeout, .download asset.url settings.timeout] := by
  obtain ⟨releases, release, hdelivers, hfirst, hnamed⟩ := hoffers
  have hfound : (fetchRelease settings (.text tag) state).1 = .ok release := by
    rw [← HostText.value_ofText]
    exact fetchRelease_eq_ok_iff.mpr ⟨releases, hdelivers, hfirst⟩
  have hasked := session_fetchRelease settings (.text tag) state
  simp only [fetchAndDownload]
  split
  · next hfetch =>
    rw [hfetch] at hfound
    cases hfound
  · next after hfetch =>
    rw [hfetch] at hfound hasked
    cases hfound
    rw [← HostText.value_ofText, ← ofOption_map_ofText, Client.session_download,
      Release.asset?_eq_some_iff.mpr hnamed, hasked]
    simp [Session.request]

/-- Where the list does not offer the asset, no request follows the one for the list. -/
theorem calls_fetchAndDownload_of_not_offers
    (hmissing : ∀ asset, ¬ Offers state.depth state.next tag name asset) :
    (fetchAndDownload settings tag name output state).2.session.calls =
      state.session.calls ++ [.get settings.releasesUrl settings.timeout] := by
  have hasked := session_fetchRelease settings (.text tag) state
  simp only [fetchAndDownload]
  split
  · next hfetch =>
    rw [hfetch] at hasked
    exact congrArg Session.calls hasked
  · next release after hfetch =>
    have hfound := congrArg Prod.fst hfetch
    rw [← HostText.value_ofText] at hfound
    obtain ⟨releases, hdelivers, hfirst⟩ := fetchRelease_eq_ok_iff.mp hfound
    have hnone : release.asset? (HostText.ofText name).value = none := by
      rw [Option.eq_none_iff_forall_ne_some]
      intro asset hasset
      exact hmissing asset
        ⟨releases, release, hdelivers, hfirst, Release.asset?_eq_some_iff.mp hasset⟩
    rw [hfetch] at hasked
    rw [← HostText.value_ofText name, ← ofOption_map_ofText, Client.session_download, hnone, hasked]
    rfl

/-! ## Runs -/

/-- What the client of a run starts from. -/
def start (surroundings : Surroundings) (session : Session) : State :=
  { session, files := surroundings.files, log := [], depth := surroundings.jsonDepth }

/-- The line gets as far as the body of a command, under settings that were loaded. -/
def Reaches (surroundings : Surroundings) (line : List String) (settings : AppSettings)
    (command : Command) : Prop :=
  ∃ opening, Opening.ofLine surroundings.files line = .ok opening ∧
    prepare surroundings opening = .ok settings ∧
    Command.ofLine surroundings.files opening.topic opening.rest = .ok command

/-- What a run comes to at a level, which may drop some records, if its command comes to this. -/
def Result.outcome (result : Result) (level : Severity) : Outcome :=
  { exitCode := result.exitCode
    output := result.output
    errors := result.errors
    level
    escaped := result.escaped
    state := { result.state with log := visible level result.state.log } }

theorem run_eq_of_reaches {surroundings : Surroundings} {line : List String}
    {settings : AppSettings} {command : Command} (session : Session)
    (hreaches : Reaches surroundings line settings command) :
    ∃ level, run surroundings session line =
      (perform settings (start surroundings session) command).outcome level := by
  obtain ⟨opening, hopening, hprepare, hcommand⟩ := hreaches
  refine ⟨levelOf settings opening.verbose, ?_⟩
  simp only [run, hopening, hprepare, hcommand]
  rfl

/-- A run that reaches a command leaves the session and the output of the command. -/
theorem run_of_reaches {surroundings : Surroundings} {line : List String}
    {settings : AppSettings} {command : Command} (session : Session)
    (hreaches : Reaches surroundings line settings command) :
    (run surroundings session line).state.session =
        (perform settings (start surroundings session) command).state.session ∧
      (run surroundings session line).output =
        (perform settings (start surroundings session) command).output := by
  obtain ⟨level, hrun⟩ := run_eq_of_reaches session hreaches
  rw [hrun]
  exact ⟨rfl, rfl⟩

end Cli

namespace Cli.Sample

def surroundings : Surroundings :=
  { environment := [], files := Client.Sample.files }

/-- The settings where nothing is set. -/
def settings : AppSettings :=
  { environment := "development", logLevel := "INFO", logFormat := AppSettings.defaultLogFormat
    releases :=
      { owner := "fontident", repository := "fontident", apiUrl := "https://api.github.com"
        apiVersion := "2022-11-28", userAgent := "fontident/0.1.0"
        timeout := ClientSettings.defaultTimeout, chunkSize := 8192, showProgress := true } }

def opening : Opening :=
  { verbose := false, config := none, topic := .releases, rest := ["download", "v1", "a"] }

def listing : String :=
  "[\x7b\"id\":1,\"url\":\"u\",\"tag_name\":\"v1\",\"assets\":[" ++
    "\x7b\"id\":2,\"url\":\"d\",\"name\":\"a\"\x7d]\x7d]"

def asset : Asset :=
  { id := .number 2, url := "d", name := some "a", label := none
    contentType := "application/octet-stream", size := 0 }

def release : Release :=
  { Client.Sample.listed with assets := [asset] }

def session : Session :=
  .opened [.reply (Client.Sample.replyOf listing)]

end Cli.Sample

namespace Cli

open Client

end Cli

end Typeface
