import Mathlib
import Typeface.Cli
import Typeface.Proofs.Client.Listing
import Typeface.Proofs.Client.Saving

/-!
# Downloads that fail with no fault of the client

Handlers of the client's faults let every other failure through.  Here it is
worked out which exchanges, replies and paths a download fails on in that way,
first for the download alone and then for the command that finds the release as
well.  All other runs of the command end with exit code zero, or with exit code
one and a record of the failure.
-/

namespace Typeface

/-- The reply announces a length that is given and is no number. -/
def Reply.MisstatesLength (reply : Reply) : Prop :=
  ∃ text, reply.header? "content-length" = some text ∧ text ≠ "" ∧
    Number.plainInteger? text = none

namespace Client

open FileTree Failure

variable {settings : ClientSettings} {asset : Asset} {reply : Reply} {directory path : Path}
variable {files made : FileTree} {temporary : Location} {state : State} {ending : Option Break}

/-- Progress is to be shown of a size that is beyond every floating-point number. -/
def Unmeasurable (settings : ClientSettings) (asset : Asset) (reply : Reply) : Prop :=
  settings.showProgress = true ∧
    ∃ size, announcedSize reply asset = .ok size ∧ isMeasurable size = false

/-- The endings of a reply after which saving at a path lets a failure through: one that is no
trouble of the transport and no failure of the system, or none where some part of the path can be no
name. -/
def EndsBadly (path : Path) (ending : Option Break) : Prop :=
  (∃ message, ending = some (.value message)) ∨ (∃ name, ending = some (.other name)) ∨
    ending = none ∧ path.isUnspeakable = true

/-- The exchanges on which a download to a path in a directory fails with no fault of the client. -/
def LetsThrough (settings : ClientSettings) (files : FileTree) (asset : Asset)
    (directory path : Path) : Exchange → Prop
  | .broken (.trouble _) => False
  | .broken (.system _) => True
  | .broken (.value _) => True
  | .broken (.other _) => True
  | .reply reply => reply.statusTrouble? asset.url = none ∧
      (reply.MisstatesLength ∨ directory.isUnspeakable = true ∨
        files.IsReady directory ∧
          (Unmeasurable settings asset reply ∨ EndsBadly path reply.ending))

theorem escapes_conclude (files : FileTree) (temporary : Location) (path : Path)
    (ending : Option Break) :
    escapes .release (conclude files temporary path ending).1 = true ↔ EndsBadly path ending := by
  simp only [EndsBadly]
  cases ending with
  | none =>
    rw [← blamesPath_moveTo files temporary path]
    simp only [conclude, settle]
    split
    · next hmoved => simp [hmoved, blamesPath]
    · next hmoved => simp [hmoved, blamesPath]
  | some reason => cases reason <;> simp [conclude, isIn, fault?, troubled, Fault.group]

theorem escapes_fill (hvacant : made.node? temporary = none) (path : Path) (arrival : Arrival) :
    escapes .release (fill (made.put temporary (.file [])) temporary path arrival).1 = true ↔
      arrival.shown.all isMeasurable = false ∨ EndsBadly path arrival.ending := by
  rw [fill_put hvacant]
  split
  · next hmeasurable => simp [hmeasurable, escapes_conclude]
  · next hunmeasurable => simp [hunmeasurable, isIn, fault?]

theorem escapes_save (files : FileTree) (directory path : Path) (arrival : Arrival) :
    escapes .release (save files directory path arrival).1 = true ↔
      directory.isUnspeakable = true ∨ files.IsReady directory ∧
        (arrival.shown.all isMeasurable = false ∨ EndsBadly path arrival.ending) := by
  by_cases hready : files.IsReady directory
  · have hspelled : directory.isUnspeakable = false := by
      rw [← any_isOfPath_makeDirectories files directory, hready.1, Option.any_none]
    obtain ⟨temporary, hvacant, _, hfill⟩ := save_of_isReady hready path arrival
    rw [hfill, escapes_fill hvacant]
    simp [hready, hspelled]
  · obtain ⟨obstacle, hrefused, hblamed⟩ := save_of_not_isReady hready path arrival
    rw [hrefused, ← hblamed]
    simp [hready]

theorem announcedSize_eq_error_iff {failure : Failure} :
    announcedSize reply asset = .error failure ↔
      reply.MisstatesLength ∧ .mishap .wrongValue = failure := by
  simp only [announcedSize, Reply.MisstatesLength, ofMishap]
  cases reply.header? "content-length" with
  | none => simp
  | some text =>
    by_cases hempty : text = ""
    · simp [hempty]
    · cases hnumber : Number.plainInteger? text <;> simp [hempty, hnumber]

theorem all_shown_arrivalOf {size : Int} (hsize : announcedSize reply asset = .ok size) :
    (arrivalOf settings reply size).shown.all isMeasurable = false ↔
      Unmeasurable settings asset reply := by
  simp only [arrivalOf, Unmeasurable, hsize, Except.ok.injEq, exists_eq_left']
  cases settings.showProgress <;> simp

theorem escapes_receive (settings : ClientSettings) (asset : Asset) (directory path : Path)
    (reply : Reply) (state : State) :
    escapes .release (receive settings asset directory path reply state).1 = true ↔
      reply.MisstatesLength ∨ directory.isUnspeakable = true ∨
        state.files.IsReady directory ∧
          (Unmeasurable settings asset reply ∨ EndsBadly path reply.ending) := by
  simp only [receive]
  cases hsize : announcedSize reply asset with
  | error failure =>
    obtain ⟨hlength, rfl⟩ := announcedSize_eq_error_iff.mp hsize
    simp [hlength, isIn, fault?]
  | ok size =>
    have hlength : ¬ reply.MisstatesLength := by
      intro hlength
      have hfails : announcedSize reply asset = .error (.mishap .wrongValue) :=
        announcedSize_eq_error_iff.mpr ⟨hlength, rfl⟩
      rw [hsize] at hfails
      cases hfails
    have hsave := escapes_save state.files directory path (arrivalOf settings reply size)
    rw [all_shown_arrivalOf hsize] at hsave
    simp only [hlength, false_or]
    have hending : (arrivalOf settings reply size).ending = reply.ending := rfl
    rw [← hending, ← hsave]
    split
    · next hsaved => rw [hsaved]; rfl
    · next hsaved => rw [hsaved]; rfl

theorem request_fst (state : State) (call : Call) :
    (state.request call).1 = state.session.script.head?.getD Session.exhausted := rfl

theorem escapes_transfer (settings : ClientSettings) (release : Release) (asset : Asset)
    (name : HostText) (directory path : Path) (state : State) :
    escapes .release (transfer settings release asset name directory path state).1 = true ↔
      LetsThrough settings state.files asset directory path state.next := by
  simp only [transfer, request_fst, State.record, State.next]
  cases state.session.script.head?.getD Session.exhausted with
  | broken reason =>
    cases reason <;> simp [replyFrom, LetsThrough, isIn, fault?, troubled, Fault.group]
  | reply reply =>
    simp only [replyFrom, LetsThrough]
    cases reply.statusTrouble? asset.url with
    | some trouble => simp [isIn, fault?, troubled, Fault.group]
    | none =>
      simp only [true_and]
      exact escapes_receive settings asset directory path reply _

/-- The directory that an option gives, or else the working directory. -/
def targetOf (files : FileTree) : Option HostText → Path
  | none => { root := "/", parts := files.working }
  | some given => .ofText given

theorem directoryOf_ofOption (files : FileTree) (output : Option HostText) :
    directoryOf files (.ofOption HostText.value output) = .ok (targetOf files output) := by
  cases output with
  | none => rfl
  | some given =>
    rw [Value.ofOption, directoryOf]
    · rw [HostText.hostText?_value]
      rfl
    · exact given.value_ne_null

/-- Whether a download of an asset by name, to the directory of an option, fails with no fault of
the client. -/
def Unhandled (settings : ClientSettings) (release : Release) (name : HostText)
    (output : Option HostText) (state : State) : Prop :=
  ∃ asset, release.asset? name.value = some asset ∧
    LetsThrough settings state.files asset (targetOf state.files output)
      ((targetOf state.files output).join (.ofText name)) state.next

theorem escapes_download (settings : ClientSettings) (release : Release) (name : HostText)
    (output : Option HostText) (state : State) :
    escapes .release
        (download settings release name.value (.ofOption HostText.value output) state).1 = true ↔
      Unhandled settings release name output state := by
  simp only [download, Unhandled]
  cases release.asset? name.value with
  | none =>
    have hmessage : (Fault.assetNotFound name.value release.tag.value).message?.isSome = true := by
      simp [Fault.message?, Fault.message, bind, Except.bind, pure, Except.pure, Except.toOption]
    have hraise : escapes .release (raise (.assetNotFound name.value release.tag.value) :
        Except Failure Path) = false := escapes_raise hmessage rfl
    simpa using hraise
  | some asset =>
    simp only [Option.some.injEq, exists_eq_left', directoryOf_ofOption, pathIn,
      HostText.hostText?_value]
    exact escapes_transfer settings release asset name _ _ state

end Client

namespace Cli

open Failure

variable {settings : ClientSettings} {tag asset : String} {output : Option String}
variable {state : Client.State}

theorem escaped_failed (opening : String) (failure : Failure) (state : Client.State) :
    (failed opening failure state).escaped.isSome = !failure.isIn .release := by
  unfold failed
  split
  · next hrelease => simp [hrelease]
  · next hrelease => simp [hrelease, Result.escape]

/-- A line is printed unless it has a surrogate in it. -/
theorem escaped_printing (line : HostText) (state : Client.State) :
    (printing [line] state).escaped.isSome = line.plain?.isNone := by
  simp only [printing, printLines, printed]
  cases line.plain? <;> rfl

theorem ofOption_map_ofText (output : Option String) :
    Value.ofOption HostText.value (output.map HostText.ofText) = .ofOption .text output := by
  cases output with
  | none => rfl
  | some given => exact HostText.value_ofText given

/-- What the command fails on with no fault of the client, once it has found the release: what the
download fails on, and a path that cannot be printed. -/
def Unreported (settings : ClientSettings) (release : Release) (name : String)
    (output : Option String) (state : Client.State) : Prop :=
  Client.Unhandled settings release name (output.map HostText.ofText) state ∨
    ∃ path, (Client.download settings release (.text name) (.ofOption .text output) state).1 =
      .ok path ∧ path.text.plain? = none

theorem escaped_download_of_found {release : Release} {after : Client.State}
    (hfetch : Client.fetchRelease settings (.text tag) state = (.ok release, after)) :
    (download settings tag asset output state).escaped.isSome = true ↔
      Unreported settings release asset output after := by
  have hescapes := Client.escapes_download settings release asset (output.map HostText.ofText) after
  rw [HostText.value_ofText, ofOption_map_ofText] at hescapes
  simp only [Unreported, ← hescapes, download, fetchAndDownload, hfetch]
  split
  · next path last hdone =>
    have hline : ("✅ Downloaded " ++ path.text ++ "\n").plain?.isNone = path.text.plain?.isNone := by
      rw [HostText.plain?_append, HostText.plain?_append, HostText.plain?_ofText,
        HostText.plain?_ofText]
      cases path.text.plain? <;> rfl
    rw [escaped_printing, hdone, hline, Option.isNone_iff_eq_none]
    simp
  · next hdone => simp [hdone, escaped_failed]

theorem escaped_download_of_missing {failure : Failure} {after : Client.State}
    (hfetch : Client.fetchRelease settings (.text tag) state = (.error failure, after)) :
    (download settings tag asset output state).escaped.isSome = true ↔
      Client.Unguarded state.depth state.next := by
  have hescapes := Client.escapes_fetchRelease settings tag state
  rw [HostText.value_ofText, hfetch] at hescapes
  rw [← hescapes]
  simp [download, fetchAndDownload, hfetch, escaped_failed]

/-- Where no failure escapes, the command ends well or with a record of what went wrong. -/
theorem exitCode_download (hhandled : (download settings tag asset output state).escaped = none) :
    (download settings tag asset output state).exitCode = 0 ∨
      (download settings tag asset output state).exitCode = 1 ∧
        ∃ message : HostText, (download settings tag asset output state).state.log.getLast? =
          some { severity := .error, source
                 message := ("Download failed: " : HostText) ++ message } := by
  unfold download at hhandled ⊢
  split
  · next path after hfetched =>
    rw [hfetched] at hhandled
    simp only [printing, printLines] at hhandled ⊢
    cases hline : printed ("✅ Downloaded " ++ path.text ++ "\n") with
    | error failure =>
      rw [hline] at hhandled
      cases hhandled
    | ok shown => exact .inl rfl
  · next failure after hfetched =>
    rw [hfetched] at hhandled
    simp only [failed] at hhandled ⊢
    split
    · refine .inr ⟨rfl, messageOf failure, ?_⟩
      rw [List.getLast?_concat]
      rfl
    · next hforeign => simp [hforeign, Result.escape] at hhandled

end Cli

end Typeface
