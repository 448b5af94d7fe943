import Mathlib
import Typeface.Proofs.Client.Delivery

/-!
# Where downloads put their files

The temporary file of a download lies in the directory that was asked for.  The
final file need not: the name of the asset is taken as a path below the
directory, so that its parts may lead out of it, and an absolute name leaves it
altogether.  A download keeps to its directory exactly where the name, followed
from the place of the directory, ends directly below that place.
-/

namespace Typeface

/-! ## Following names -/

/-- Where names lead from a location if every directory on the way is there. -/
def FileTree.follow (here : Location) (names : List Name) : Location :=
  names.foldl (fun (place : Location) (name : Name) =>
    if name = ".." then place.dropLast else if name = "." then place else place ++ [name]) here

/-- The names of the parts of a path, if all of them can be names. -/
def Path.names? (path : Path) : Option (List Name) :=
  path.parts.mapM fun part => part.bytes?.map Name.mk

/-- The names of the path, taken below a place, end directly below it. -/
def Path.StaysIn (base : Location) (below : Path) : Prop :=
  ∀ names, below.names? = some names →
    ∃ last, FileTree.follow (if below.isAbsolute then [] else base) names = base ++ [last]

/-- A path of one part that does not lead upwards. -/
def Path.IsPlain (path : Path) : Prop :=
  path.isAbsolute = false ∧ ∃ part, path.parts = [part] ∧ part ≠ ".."

/-- A text that is not one of ASCII does not have the bytes of one as its name. -/
theorem Name.ne_of_text_ne {part : HostText} {bytes : Text.Bytes} {plain : String}
    (plainBytes : Text.Bytes) (hbytes : part.bytes? = some bytes) (hne : part ≠ plain)
    (hplain : (plain : Name) = ⟨plainBytes⟩) (hsmall : ∀ byte ∈ plainBytes, byte.toNat < 0x80)
    (hcodes : (plain : HostText).codes = plainBytes.map UInt8.toNat) :
    (⟨bytes⟩ : Name) ≠ plain := by
  intro hname
  obtain rfl : bytes = plainBytes := congrArg Name.bytes (hname.trans hplain)
  apply hne
  apply HostText.eq_of_codes_eq
  rw [HostText.codes_of_bytes? hbytes hsmall, hcodes]

theorem Path.ne_dot_of_mem_parts {text part : HostText} (hpart : part ∈ (Path.ofText text).parts) :
    part ≠ "." := by
  have hkept := (List.mem_filter.mp hpart).2
  rw [Bool.and_eq_true, bne_iff_ne] at hkept
  exact hkept.2

theorem Path.IsPlain.staysIn {text : HostText} (hplain : (Path.ofText text).IsPlain)
    (base : Location) : (Path.ofText text).StaysIn base := by
  obtain ⟨hrelative, part, hparts, hup⟩ := hplain
  have hdot : part ≠ "." := Path.ne_dot_of_mem_parts (hparts ▸ List.mem_singleton_self part)
  intro names hnames
  rw [Path.names?, hparts] at hnames
  obtain ⟨bytes, hbytes, rfl⟩ : ∃ bytes, part.bytes? = some bytes ∧ names = [⟨bytes⟩] := by
    cases hbytes : part.bytes? with
    | none => simp [hbytes] at hnames
    | some bytes => exact ⟨bytes, rfl, by simpa [hbytes, eq_comm] using hnames⟩
  have hnotUp : (⟨bytes⟩ : Name) ≠ ".." :=
    Name.ne_of_text_ne [0x2E, 0x2E] hbytes hup rfl (by simp) rfl
  have hnotDot : (⟨bytes⟩ : Name) ≠ "." := Name.ne_of_text_ne [0x2E] hbytes hdot rfl (by simp) rfl
  rw [hrelative]
  exact ⟨⟨bytes⟩, by simp [FileTree.follow, hnotUp, hnotDot]⟩

namespace FileTree

variable {tree : FileTree} {here place base : Location} {names more : List Name}
variable {path directory below : Path}

/-- A walk that comes to an end has followed its names. -/
theorem follow_of_walk (hwalk : tree.walk here names = .ok place) : follow here names = place := by
  induction names generalizing here with
  | nil =>
    cases hwalk
    rfl
  | cons name rest ih =>
    simp only [walk] at hwalk
    split at hwalk
    · cases hwalk
    · cases hwalk
    split at hwalk
    · cases hwalk
    rw [follow, List.foldl_cons]
    split at hwalk
    · next hup =>
      rw [if_pos hup]
      exact ih hwalk
    next hdown =>
    rw [if_neg hdown]
    split at hwalk
    · next hdot =>
      rw [if_pos hdot]
      exact ih hwalk
    next hname =>
    rw [if_neg hname]
    split at hwalk
    · cases hwalk
    · exact ih hwalk

/-- A path that leads somewhere follows its names there.  The dot of a path without parts leads
nowhere. -/
theorem follow_of_locate (hplace : tree.locate path = .ok place) :
    ∃ names, path.names? = some names ∧ follow (tree.start path) names = place := by
  obtain ⟨names, hnames, _, _, hwalk⟩ := locate_eq_ok_iff.mp hplace
  have hfollow := follow_of_walk hwalk
  unfold namesOf? at hnames
  split at hnames
  · next hempty =>
    cases hnames
    rw [Bool.and_eq_true, List.isEmpty_iff] at hempty
    rw [Path.names?, hempty.1]
    exact ⟨[], rfl, hfollow⟩
  · exact ⟨names, hnames, hfollow⟩

/-- A path below a directory is followed from the place of the directory. -/
theorem follow_of_locate_join (hbase : tree.locate directory = .ok base)
    (hplace : tree.locate (directory.join below) = .ok place) :
    ∃ names, below.names? = some names ∧
      follow (if below.isAbsolute then [] else base) names = place := by
  obtain ⟨names, hnames, hfollow⟩ := follow_of_locate hplace
  by_cases habsolute : below.isAbsolute = true
  · rw [if_pos habsolute]
    rw [Path.join, if_pos habsolute] at hnames hfollow
    rw [start, if_pos habsolute] at hfollow
    exact ⟨names, hnames, hfollow⟩
  · rw [if_neg habsolute]
    rw [Path.join, if_neg habsolute] at hnames hfollow
    obtain ⟨above, habove, hfollowAbove⟩ := follow_of_locate hbase
    simp only [Path.names?, List.mapM_append, bind, Option.bind_eq_some_iff, pure,
      Option.some.injEq] at hnames
    obtain ⟨front, hfront, back, hback, rfl⟩ := hnames
    obtain rfl : front = above := Option.some.inj (hfront.symm.trans habove)
    refine ⟨back, hback, ?_⟩
    calc
      follow base back = follow (follow (tree.start directory) front) back := by
        rw [hfollowAbove]
      _ = follow (tree.start directory) (front ++ back) := List.foldl_append.symm
      _ = place := hfollow

end FileTree

namespace Client

open FileTree

variable {directory path : Path} {state : State}
variable {files made after : FileTree} {temporary location : Location} {content : Text.Bytes}
variable {arrival : Arrival} {failure : Failure}

/-! ## Saving -/

/-- What saving without success stores is the temporary file, which lies in the directory. -/
theorem isChild_of_save_error
    (hsave : save files directory path arrival = (.error failure, after))
    (hnew : after.node? location = some (.file content))
    (hold : files.node? location ≠ some (.file content)) : after.IsChild directory location := by
  have hgrown := makeDirectories_grown files directory
  have hmade : (files.makeDirectories directory).2.node? location ≠ some (.file content) := by
    rwa [Ne, hgrown.file_iff]
  rcases save_error hsave with rfl | ⟨temporary, kept, hvacant, hchild, rfl⟩
  · exact absurd hnew hmade
  · have hlocation : location = temporary := by
      by_contra hother
      rw [node?_put_of_ne hother] at hnew
      exact hmade hnew
    rw [hlocation]
    exact (keepsDirectories_put_vacant hvacant).isChild hchild

/-- Where saving succeeds, the directory is there in the end. -/
theorem locate_of_save_ok (hsave : save files directory path arrival = (.ok (), after)) :
    ∃ base, after.locate directory = .ok base := by
  obtain ⟨temporary, hvacant, ⟨base, _, hbase, _⟩, hconclude⟩ := save_ok hsave
  have hopened : ((files.makeDirectories directory).2.put temporary
      (.file arrival.pieces.flatten)).locate directory = .ok base :=
    (keepsDirectories_put_vacant hvacant).locate hbase
  cases hending : arrival.ending with
  | none =>
    rw [hending] at hconclude
    simp only [conclude, settle] at hconclude
    split at hconclude
    · next final hmoved =>
      cases hconclude
      exact ⟨base, (keepsDirectories_moveTo hmoved).locate hopened⟩
    · cases hconclude
  | some reason =>
    rw [hending] at hconclude
    cases reason <;> cases hconclude

/-! ## Containment -/

/-- A file at the location is new or has another content, or the outcome leads to it. -/
def Stored (before : FileTree) (outcome : Except Failure Path) (after : FileTree)
    (location : Location) : Prop :=
  (∃ content, after.node? location = some (.file content) ∧
    before.node? location ≠ some (.file content)) ∨
  ∃ path, outcome = .ok path ∧ after.locate path = .ok location

/-- Every file that was stored lies directly in the directory that was asked for. -/
def Contained (before : FileTree) (directory : Value) (outcome : Except Failure Path)
    (after : FileTree) : Prop :=
  ∀ location, Stored before outcome after location →
    ∃ target, directoryOf before directory = .ok target ∧ after.IsChild target location

/-- The name, followed from the place of the directory that was asked for, ends directly below. -/
def NameStays (before after : FileTree) (name directory : Value) : Prop :=
  ∀ (text : HostText) target base, name = text.value → directoryOf before directory = .ok target →
    after.locate target = .ok base → (Path.ofText text).StaysIn base

theorem contained_of_error {name given : Value}
    (hcomes : Comes files name given (.error failure) after) :
    Contained files given (.error failure) after := by
  intro location hstored
  rcases hstored with ⟨content, hnew, hold⟩ | ⟨path, hpath, _⟩
  · cases hcomes with
    | early => exact absurd hnew hold
    | failed htarget hsave => exact ⟨_, htarget, isChild_of_save_error hsave hnew hold⟩
  · cases hpath

/-- A download that returns stores one file, where its path leads. -/
theorem stored_iff_of_save (hsave : save files directory path arrival = (.ok (), after)) :
    ∃ place, after.locate path = .ok place ∧
      ∀ location, Stored files (.ok path) after location ↔ location = place := by
  obtain ⟨place, hplace, hcontent, hother⟩ := replaced_of_save hsave
  refine ⟨place, hplace, fun location => ⟨?_, ?_⟩⟩
  · intro hstored
    rcases hstored with ⟨content, hnew, hold⟩ | ⟨found, hfound, hlocation⟩
    · by_contra hne
      exact hold ((hother location content hne).mp hnew)
    · cases hfound
      rw [hplace] at hlocation
      cases hlocation
      rfl
  · rintro rfl
    exact .inr ⟨path, rfl, hplace⟩

theorem contained_iff_of_ok {name given : Value} (hcomes : Comes files name given (.ok path) after) :
    Contained files given (.ok path) after ↔ NameStays files after name given := by
  cases hcomes with
  | @saved text target path arrival after hname htarget hpath hsave =>
    obtain ⟨place, hplace, hstored⟩ := stored_iff_of_save hsave
    obtain ⟨base, hbase⟩ := locate_of_save_ok hsave
    rw [hpath] at hplace
    obtain ⟨names, hnames, hfollow⟩ := follow_of_locate_join hbase hplace
    constructor
    · intro hcontained other found start hother hfound hstart others hothers
      obtain ⟨known, hknown, home, last, hhome, hlast⟩ := hcontained place ((hstored place).mpr rfl)
      obtain rfl := HostText.value_injective (hname.symm.trans hother)
      cases hnames.symm.trans hothers
      cases htarget.symm.trans hfound
      cases htarget.symm.trans hknown
      cases hbase.symm.trans hstart
      cases hbase.symm.trans hhome
      exact ⟨last, hfollow.trans hlast⟩
    · intro hstays location hlocation
      obtain ⟨last, hlast⟩ := hstays text target base hname htarget hbase names hnames
      refine ⟨target, htarget, base, last, hbase, ?_⟩
      calc
        location = place := (hstored location).mp hlocation
        _ = follow (if (Path.ofText text).isAbsolute then [] else base) names := hfollow.symm
        _ = base ++ [last] := hlast

/-- A download that fails stores nothing outside of its directory, and one that returns does not
exactly if the name, followed from the place of the directory, ends directly below it.  A plain name
does so always.  The temporary file of a download is made in the directory itself. -/
theorem download_contained_iff (settings : ClientSettings) (release : Release)
    (name directory : Value) (state : State) :
    let run := download settings release name directory state
    (Contained state.files directory run.1 run.2.files ↔
      ∀ path, run.1 = .ok path → NameStays state.files run.2.files name directory) ∧
    (∀ text : HostText, name = text.value → (Path.ofText text).IsPlain →
      Contained state.files directory run.1 run.2.files) ∧
    ∀ target created opened, directoryOf state.files directory = .ok target →
      (state.files.makeDirectories target).2.createIn target = .ok (created, opened) →
      opened.IsChild target created := by
  intro run
  have hcomes : Comes state.files name directory run.1 run.2.files :=
    comes_download settings release name directory state
  generalize run.1 = outcome at hcomes ⊢
  generalize run.2.files = after at hcomes ⊢
  have hiff : Contained state.files directory outcome after ↔
      ∀ path, outcome = .ok path → NameStays state.files after name directory := by
    cases outcome with
    | error failure =>
      constructor
      · intro _ path hpath
        cases hpath
      · intro _
        exact contained_of_error hcomes
    | ok path =>
      rw [contained_iff_of_ok hcomes]
      exact ⟨fun hstays _ _ => hstays, fun hstays => hstays path rfl⟩
  refine ⟨hiff, ?_, ?_⟩
  · intro text hname hplain
    apply hiff.mpr
    intro path _ other target base hother _ _
    obtain rfl := HostText.value_injective (hname.symm.trans hother)
    exact hplain.staysIn base
  · intro target created opened _ hcreated
    exact isChild_of_createIn hcreated

/-- A release with an asset whose name leads upwards. -/
def Sample.climbing : Release :=
  { Sample.release with
    assets :=
      [{ id := .number 2, url := "https://dl/2", name := some "../evil.txt", label := none
         contentType := "", size := 1 }] }

/-- The name of an asset leads out of the directory that was asked for. -/
theorem download_contained_climbing :
    let run := download Sample.settings Sample.climbing (.text "../evil.txt") (.text "out")
      (Sample.state "" [1] none none)
    ¬ Contained Sample.files (.text "out") run.1 run.2.files := by
  intro run hcontained
  have hnew : run.2.files.node? ["work", "evil.txt"] = some (.file [1]) := by
    unfold run
    cbv
  have hout : run.2.files.locate (.ofText "out") = .ok ["work", "out"] := by
    unfold run
    cbv
  obtain ⟨target, htarget, place, last, hplace, hlast⟩ :=
    hcontained ["work", "evil.txt"] (.inl ⟨[1], hnew, by decide⟩)
  cases htarget
  cases hout.symm.trans hplace
  simp at hlast

end Client

end Typeface
