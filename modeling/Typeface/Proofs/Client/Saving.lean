import Typeface.Client.Download
import Typeface.Proofs.Failure
import Typeface.Proofs.FileTree.Files
import Typeface.Proofs.Value

/-!
# How a download is saved

All pieces go to a new file before anything else happens to the tree, and the
ending decides what becomes of that file.  These lemmas say what one piece adds,
what all of them add up to, and in which state saving leaves the tree: as the
making of its directory left it, except where the file got its name, or where a
failure of no fault of the client cut in.  A download changes files in no way
but by saving.
-/

namespace Typeface

/-! ## Slices -/

theorem flatten_slices_go (size steps : Nat) (bytes : Text.Bytes) (hsteps : bytes.length ≤ steps) :
    (slices.go size steps bytes).flatten = bytes := by
  induction steps generalizing bytes with
  | zero =>
    have hempty : bytes = [] := List.length_eq_zero_iff.mp (Nat.le_zero.mp hsteps)
    simp [slices.go, hempty]
  | succ steps ih =>
    simp only [slices.go]
    split
    · next hempty =>
      rw [List.isEmpty_iff.mp hempty]
      rfl
    · next hgiven =>
      have hlength : 0 < bytes.length := by
        rw [List.length_pos_iff]
        simpa using hgiven
      have hrest : (bytes.drop (max size 1)).length ≤ steps := by
        rw [List.length_drop]
        omega
      rw [List.flatten_cons, ih _ hrest, List.take_append_drop]

/-- Slices of any size give the bytes back. -/
theorem flatten_slices (size : Nat) (bytes : Text.Bytes) : (slices size bytes).flatten = bytes :=
  flatten_slices_go size bytes.length bytes (Nat.le_refl _)

theorem Reply.flatten_arrivals {reply : Reply} (hpieces : reply.pieces = none) (size : Nat) :
    (reply.arrivals size).flatten = reply.body := by
  simp [arrivals, hpieces, flatten_slices]

namespace Client

open FileTree

variable {files made after : FileTree} {directory path : Path} {temporary : Location}
variable {content : Text.Bytes} {pieces : List Text.Bytes} {ending : Option Break}
variable {arrival : Arrival} {failure : Failure} {settings : ClientSettings} {asset : Asset}
variable {state : State}

/-! ## Pieces -/

/-- However the content is cut into pieces, and however many of them are empty, the file holds
what it held and then all of them in order. -/
theorem writePieces_put (files : FileTree) (hlocation : temporary ≠ []) (content : Text.Bytes)
    (pieces : List Text.Bytes) :
    writePieces (files.put temporary (.file content)) temporary pieces =
      files.put temporary (.file (content ++ pieces.flatten)) := by
  induction pieces generalizing content with
  | nil => simp [writePieces]
  | cons piece rest ih =>
    simp only [writePieces]
    split
    · next hempty =>
      rw [ih, List.isEmpty_iff.mp hempty]
      simp
    · rw [append_put hlocation, ih, List.flatten_cons, List.append_assoc]

/-! ## Endings -/

@[simp]
theorem isIn_obstructed (path : Path) (obstacle : Obstacle) :
    (obstructed path obstacle).isIn .release = !obstacle.isOfPath := by
  cases obstacle <;> rfl

/-- A fault of the client takes the temporary file away again. -/
theorem conclude_release (hvacant : made.node? temporary = none)
    (hdone : conclude (made.put temporary (.file content)) temporary path ending =
      (.error failure, after)) (hrelease : failure.isIn .release = true) : after = made := by
  cases ending with
  | none =>
    simp only [conclude, settle] at hdone
    split at hdone
    · cases hdone
    · next obstacle _ =>
      cases hdone
      rw [isIn_obstructed, Bool.not_eq_true'] at hrelease
      rw [hrelease]
      exact remove_put hvacant
  | some reason =>
    cases reason with
    | trouble trouble => exact (congrArg Prod.snd hdone).symm.trans (remove_put hvacant)
    | system message => exact (congrArg Prod.snd hdone).symm.trans (remove_put hvacant)
    | value message =>
      cases hdone
      cases hrelease
    | other name =>
      cases hdone
      cases hrelease

/-- An ending without success leaves the temporary file in the tree or takes it away. -/
theorem conclude_error (hvacant : made.node? temporary = none)
    (hfailed : conclude (made.put temporary (.file content)) temporary path ending =
      (.error failure, after)) :
    after = made ∨ after = made.put temporary (.file content) := by
  cases ending with
  | none =>
    simp only [conclude, settle] at hfailed
    split at hfailed
    · cases hfailed
    · next obstacle _ =>
      cases hfailed
      cases obstacle.isOfPath with
      | true => exact .inr rfl
      | false => exact .inl (remove_put hvacant)
  | some reason =>
    cases reason with
    | trouble trouble => exact .inl ((congrArg Prod.snd hfailed).symm.trans (remove_put hvacant))
    | system message => exact .inl ((congrArg Prod.snd hfailed).symm.trans (remove_put hvacant))
    | value message => exact .inr (congrArg Prod.snd hfailed).symm
    | other name => exact .inr (congrArg Prod.snd hfailed).symm

theorem conclude_ok (hvacant : made.node? temporary = none)
    (hdone : conclude (made.put temporary (.file content)) temporary path ending = (.ok (), after)) :
    ∃ place, after.locate path = .ok place ∧ after.node? place = some (.file content) ∧
      ∀ other, other ≠ place → after.node? other = made.node? other := by
  cases ending with
  | none =>
    simp only [conclude, settle] at hdone
    split at hdone
    · next final hfinal =>
      cases hdone
      have hsource : (made.put temporary (.file content)).node? temporary =
          some (.file content) := node?_put_self (ne_nil_of_node?_eq_none hvacant)
      simpa only [remove_put hvacant] using moveTo_ok hsource hfinal
    · cases hdone
  | some reason => cases reason <;> cases hdone

/-! ## Saving -/

/-- A new file takes all pieces before its ending, unless the display of progress fails. -/
theorem fill_put (hvacant : made.node? temporary = none) (path : Path) (arrival : Arrival) :
    fill (made.put temporary (.file [])) temporary path arrival =
      if arrival.shown.all isMeasurable then
        conclude (made.put temporary (.file arrival.pieces.flatten)) temporary path arrival.ending
      else (.error (.mishap .outOfRange), made.put temporary (.file [])) := by
  rw [fill, writePieces_put made (ne_nil_of_node?_eq_none hvacant), List.nil_append]

/-- Where the directory takes no file, nothing but directories is made. -/
theorem save_of_not_isReady (hready : ¬ files.IsReady directory) (path : Path)
    (arrival : Arrival) :
    ∃ obstacle, save files directory path arrival =
        (.error (obstructed path obstacle), (files.makeDirectories directory).2) ∧
      obstacle.isOfPath = directory.isUnspeakable := by
  have hspelled := any_isOfPath_makeDirectories files directory
  simp only [IsReady] at hready
  unfold save
  cases hmade : files.makeDirectories directory with
  | mk refused made =>
    rw [hmade] at hready hspelled
    cases refused with
    | some obstacle => exact ⟨obstacle, rfl, hspelled⟩
    | none =>
      dsimp only at hready ⊢
      cases hcreated : made.createIn directory with
      | error obstacle => exact ⟨obstacle, rfl, blamesPath_createIn hcreated⟩
      | ok created => exact absurd ⟨rfl, created, hcreated⟩ hready

/-- Where the directory takes a file, a new one is filled. -/
theorem save_of_isReady (hready : files.IsReady directory) (path : Path) (arrival : Arrival) :
    ∃ temporary, (files.makeDirectories directory).2.node? temporary = none ∧
      (files.makeDirectories directory).2.IsChild directory temporary ∧
      save files directory path arrival =
        fill ((files.makeDirectories directory).2.put temporary (.file [])) temporary path
          arrival := by
  obtain ⟨hmade, ⟨temporary, opened⟩, hcreated⟩ := hready
  obtain ⟨hvacant, hchild, hopened⟩ := createIn_ok hcreated
  refine ⟨temporary, hvacant, hchild, ?_⟩
  rw [← hopened]
  unfold save
  cases hchanged : files.makeDirectories directory with
  | mk refused made =>
    rw [hchanged] at hmade hcreated
    dsimp only at hmade hcreated ⊢
    subst hmade
    dsimp only
    rw [hcreated]

/-- Saving fails with a fault of the client only where it leaves no file behind. -/
theorem save_release (hsave : save files directory path arrival = (.error failure, after))
    (hrelease : failure.isIn .release = true) : after = (files.makeDirectories directory).2 := by
  by_cases hready : files.IsReady directory
  · obtain ⟨temporary, hvacant, _, hfill⟩ := save_of_isReady hready path arrival
    rw [hfill, fill_put hvacant] at hsave
    split at hsave
    · exact conclude_release hvacant hsave hrelease
    · cases hsave
      cases hrelease
  · obtain ⟨obstacle, hrefused, _⟩ := save_of_not_isReady hready path arrival
    rw [hrefused] at hsave
    exact (congrArg Prod.snd hsave).symm

/-- Saving without success leaves at most one file behind, directly in the directory. -/
theorem save_error (hsave : save files directory path arrival = (.error failure, after)) :
    after = (files.makeDirectories directory).2 ∨
      ∃ temporary content, (files.makeDirectories directory).2.node? temporary = none ∧
        (files.makeDirectories directory).2.IsChild directory temporary ∧
        after = (files.makeDirectories directory).2.put temporary (.file content) := by
  by_cases hready : files.IsReady directory
  · obtain ⟨temporary, hvacant, hchild, hfill⟩ := save_of_isReady hready path arrival
    rw [hfill, fill_put hvacant] at hsave
    split at hsave
    · rcases conclude_error hvacant hsave with hmade | hkept
      · exact .inl hmade
      · exact .inr ⟨temporary, _, hvacant, hchild, hkept⟩
    · exact .inr ⟨temporary, [], hvacant, hchild, (congrArg Prod.snd hsave).symm⟩
  · obtain ⟨obstacle, hrefused, _⟩ := save_of_not_isReady hready path arrival
    rw [hrefused] at hsave
    exact .inl (congrArg Prod.snd hsave).symm

/-- Saving that succeeds has filled a new file of the directory and moved it to its path. -/
theorem save_ok (hsave : save files directory path arrival = (.ok (), after)) :
    ∃ temporary, (files.makeDirectories directory).2.node? temporary = none ∧
      (files.makeDirectories directory).2.IsChild directory temporary ∧
      conclude ((files.makeDirectories directory).2.put temporary
        (.file arrival.pieces.flatten)) temporary path arrival.ending = (.ok (), after) := by
  by_cases hready : files.IsReady directory
  · obtain ⟨temporary, hvacant, hchild, hfill⟩ := save_of_isReady hready path arrival
    rw [hfill, fill_put hvacant] at hsave
    split at hsave
    · exact ⟨temporary, hvacant, hchild, hsave⟩
    · cases hsave
  · obtain ⟨obstacle, hrefused, _⟩ := save_of_not_isReady hready path arrival
    rw [hrefused] at hsave
    cases hsave

/-! ## Downloads -/

theorem pathIn_ok {name : Value} {shown : HostText}
    (hpath : pathIn directory name = .ok (shown, path)) :
    name = shown.value ∧ path = directory.join (.ofText shown) := by
  unfold pathIn at hpath
  split at hpath
  · next hname =>
    cases hpath
    exact ⟨HostText.hostText?_eq_some_iff.mp hname, rfl⟩
  · cases hpath

/-- What a download comes to: it fails with all files as they were, or with what saving leaves, or
its file is saved. -/
inductive Comes (files : FileTree) (name directory : Value) :
    Except Failure Path → FileTree → Prop
  | early (failure : Failure) : Comes files name directory (.error failure) files
  | failed {target path : Path} {arrival : Arrival} {failure : Failure} {after : FileTree}
      (htarget : directoryOf files directory = .ok target)
      (hsave : save files target path arrival = (.error failure, after)) :
      Comes files name directory (.error failure) after
  | saved {text : HostText} {target path : Path} {arrival : Arrival} {after : FileTree}
      (hname : name = text.value) (htarget : directoryOf files directory = .ok target)
      (hpath : path = target.join (.ofText text))
      (hsave : save files target path arrival = (.ok (), after)) :
      Comes files name directory (.ok path) after

theorem comes_receive {text : HostText} {name given : Value} {reply : Reply}
    (hname : name = text.value) (hdirectory : directoryOf state.files given = .ok directory)
    (hpath : path = directory.join (.ofText text)) :
    Comes state.files name given (receive settings asset directory path reply state).1
      (receive settings asset directory path reply state).2.files := by
  simp only [receive]
  split
  · exact .early _
  · split
    · next hsave => exact .failed hdirectory hsave
    · next hsave => exact .saved hname hdirectory hpath hsave

theorem comes_download (settings : ClientSettings) (release : Release) (name directory : Value)
    (state : State) :
    Comes state.files name directory (download settings release name directory state).1
      (download settings release name directory state).2.files := by
  simp only [download]
  split
  · cases hraised : (Failure.raise (.assetNotFound name release.tag.value) :
        Except Failure Path) with
    | error failure => exact .early failure
    | ok path => exact absurd hraised (Failure.raise_ne_ok _ _)
  split
  · exact .early _
  next target htarget =>
  split
  · exact .early _
  next text path hpath =>
  obtain ⟨hname, hjoined⟩ := pathIn_ok hpath
  simp only [transfer]
  split
  · exact .early _
  · -- the request changes the session and the log, and leaves the files to what is received
    have hfiles : ∀ reply asset asked, asked.files = state.files →
        Comes state.files name directory (receive settings asset target path reply asked).1
          (receive settings asset target path reply asked).2.files := by
      intro reply asset asked hsame
      rw [← hsame] at htarget ⊢
      exact comes_receive hname htarget hjoined
    exact hfiles _ _ _ rfl

end Client

/-! ## A sample -/

namespace Client.Sample

def settings : ClientSettings :=
  { owner := "fontident", repository := "fontident", apiUrl := "https://api.github.com"
    apiVersion := "2022-11-28", userAgent := "fontident/0.1.0", timeout := .ofInt 30
    chunkSize := 2, showProgress := false }

/-- A release of which two assets have one name and another has none. -/
def release : Release :=
  { id := .number 1, url := "https://dl/1", tag := "v1", name := none, body := none, draft := false
    prerelease := false
    assets :=
      [{ id := .number 2, url := "https://dl/2", name := none, label := none, contentType := ""
         size := 0 },
        { id := .number 3, url := "https://dl/3", name := some "a.zip", label := none
          contentType := "", size := 3 },
        { id := .number 4, url := "https://dl/4", name := some "a.zip", label := none
          contentType := "", size := 4 }] }

/-- A working directory with an older file of the name of the asset. -/
def files : FileTree :=
  { nodes := [(["work"], .directory), (["work", "a.zip"], .file [9])], working := ["work"] }

/-- A server whose one reply has the length that it announces, its body, its pieces and its
ending. -/
def state (length : String) (body : Text.Bytes) (pieces : Option (List Text.Bytes))
    (ending : Option Break) : State :=
  { session := .opened [.reply
      { status := 200, reason := none, headers := [("Content-Length", length)], body, pieces
        ending }]
    files
    log := [] }

end Client.Sample

end Typeface
