import Mathlib
import Typeface.Proofs.Client.Saving

/-!
# Failed downloads leave no file behind

A download can fail at the look-up, at the request, while directories are made,
at the opening of the temporary file, after any number of pieces, or at the
final move.  If it fails with a fault of the client, all files are what they
were, and the only trace in the tree are new directories on the path of the
directory that was asked for.
-/

namespace Typeface.Client

open FileTree

variable {settings : ClientSettings} {state after : State}
variable {failure : Failure}

theorem download_release {release : Release} {name directory : Value}
    (hdownload : download settings release name directory state = (.error failure, after))
    (hrelease : failure.isIn .release = true) :
    after.files = state.files ∨ ∃ target, directoryOf state.files directory = .ok target ∧
      GrownAlong target state.files after.files := by
  have hcomes := comes_download settings release name directory state
  rw [hdownload] at hcomes
  dsimp only at hcomes
  generalize after.files = changed at hcomes ⊢
  cases hcomes with
  | early => exact .inl rfl
  | failed htarget hsave =>
    exact .inr ⟨_, htarget, save_release hsave hrelease ▸ makeDirectories_grown state.files _⟩

/-- Whatever the server does and wherever it stops, a download that ends in a fault of the client
keeps every file with its content and brings no new one.  A location that changed was vacant, holds
a directory now, and is on the path of the directory that was asked for. -/
theorem download_fault_keeps_files (settings : ClientSettings) (release : Release)
    (name directory : Value) (state after : State) (failure : Failure)
    (hdownload : download settings release name directory state = (.error failure, after))
    (hrelease : failure.isIn .release = true) :
    (∀ location content, after.files.node? location = some (.file content) ↔
      state.files.node? location = some (.file content)) ∧
    after.files.working = state.files.working ∧
    ∀ location, after.files.node? location ≠ state.files.node? location →
      state.files.node? location = none ∧ after.files.node? location = some .directory ∧
        ∃ target, directoryOf state.files directory = .ok target ∧
          after.files.OnPath target location := by
  rcases download_release hdownload hrelease with hsame | ⟨target, htarget, hgrown⟩
  · rw [hsame]
    exact ⟨fun _ _ => .rfl, rfl, fun _ hchanged => absurd rfl hchanged⟩
  · refine ⟨hgrown.file_iff, hgrown.working, fun location hchanged => ?_⟩
    obtain ⟨hvacant, hmade, hon⟩ := (hgrown.node location).resolve_left hchanged
    exact ⟨hvacant, hmade, target, htarget, hon⟩

/-- The server stops after three pieces, when two directories have been made. -/
theorem download_fault_keeps_files_broken_off :
    ∃ failure after, download Sample.settings Sample.release (.text "a.zip") (.text "new/fonts")
        (Sample.state "" [] (some [[1], [], [2]])
          (some (.trouble { name := "ConnectionError", message := "reset" }))) =
          (.error failure, after) ∧
      failure.isIn .release = true ∧
      (∀ location content, after.files.node? location = some (.file content) ↔
        Sample.files.node? location = some (.file content)) ∧
      after.files.node? ["work", "new", "fonts"] = some .directory := by
  have hfailure : (download Sample.settings Sample.release (.text "a.zip") (.text "new/fonts")
      (Sample.state "" [] (some [[1], [], [2]])
        (some (.trouble { name := "ConnectionError", message := "reset" })))).1 =
      .error (troubled receiving { name := "ConnectionError", message := "reset" }) := by
    cbv
  exact ⟨_, _, Prod.ext hfailure rfl, rfl,
    (download_fault_keeps_files _ _ _ _ _ _ _ (Prod.ext hfailure rfl) rfl).1, by cbv⟩

end Typeface.Client
