import Mathlib
import Typeface.Proofs.Client.Saving
import Typeface.Proofs.Failure

/-!
# Downloads that arrive

A download that returns made one request, to the first asset of the name, and
the path that it returns leads to a file with all pieces of the reply in order.
Every other file is what it was, so that nothing is left of the temporary one.
-/

namespace Typeface

/-- The file at a path has the content, and every other file is what it was. -/
def FileTree.Replaced (path : Path) (content : Text.Bytes) (before after : FileTree) : Prop :=
  ∃ place, after.locate path = .ok place ∧ after.node? place = some (.file content) ∧
    ∀ other kept, other ≠ place →
      (after.node? other = some (.file kept) ↔ before.node? other = some (.file kept))

/-- A look-up by a text is a look-up by the name itself. -/
theorem Release.asset?_value (release : Release) (name : HostText) :
    release.asset? name.value = release.assets.find? fun asset => asset.name == some name := by
  have hmatch : ∀ known : Option HostText,
      (known.any fun found => found.value.equal name.value) = (known == some name) := by
    intro known
    cases known with
    | none => rfl
    | some found =>
      rw [Bool.eq_iff_iff]
      simp
  simp only [asset?, hmatch]

namespace Client

open FileTree

variable {settings : ClientSettings} {asset : Asset} {reply : Reply} {directory path found : Path}
variable {state after : State}

theorem replaced_of_save {files changed : FileTree} {arrival : Arrival}
    (hsave : save files directory path arrival = (.ok (), changed)) :
    Replaced path arrival.pieces.flatten files changed := by
  obtain ⟨temporary, hvacant, _, hconclude⟩ := save_ok hsave
  obtain ⟨place, hplace, hcontent, hother⟩ := conclude_ok hvacant hconclude
  refine ⟨place, hplace, hcontent, fun other kept hne => ?_⟩
  rw [hother other hne]
  exact (makeDirectories_grown files directory).file_iff other kept

theorem receive_ok
    (hreceive : receive settings asset directory path reply state = (.ok found, after)) :
    found = path ∧ after.session = state.session ∧
      Replaced path (reply.arrivals settings.chunkSize.toNat).flatten state.files after.files := by
  simp only [receive] at hreceive
  split at hreceive
  · cases hreceive
  · split at hreceive
    · cases hreceive
    · next hsave =>
      cases hreceive
      exact ⟨rfl, rfl, replaced_of_save hsave⟩

theorem replyFrom_ok {url : HostText} {exchange : Exchange}
    (hreply : replyFrom url exchange = .ok reply) : exchange = .reply reply := by
  unfold replyFrom at hreply
  split at hreply
  · cases hreply
  · cases hreply
  · cases hreply
  · cases hreply
  · split at hreply
    · cases hreply
    · cases hreply
      rfl

/-- Where the exchanges have run out, a request meets no reply. -/
theorem head?_of_next_eq_reply {script : List Exchange}
    (hnext : script.head?.getD Session.exhausted = .reply reply) :
    script.head? = some (.reply reply) := by
  cases hhead : script.head? with
  | none =>
    rw [hhead] at hnext
    cases hnext
  | some exchange =>
    rw [hhead] at hnext
    exact congrArg some hnext

theorem directoryOf_ok {files : FileTree} {given : Value}
    (hdirectory : directoryOf files given = .ok directory) :
    given = .null ∧ directory = { root := "/", parts := files.working } ∨
      ∃ written : HostText, given = written.value ∧ directory = .ofText written := by
  unfold directoryOf at hdirectory
  split at hdirectory
  · cases hdirectory
    exact .inl ⟨rfl, rfl⟩
  · split at hdirectory
    · next written hwritten =>
      cases hdirectory
      exact .inr ⟨written, HostText.hostText?_eq_some_iff.mp hwritten, rfl⟩
    · cases hdirectory

theorem transfer_ok {release : Release} {name : HostText}
    (htransfer : transfer settings release asset name directory path state = (.ok found, after)) :
    found = path ∧
      after.session.calls = state.session.calls ++ [.download asset.url settings.timeout] ∧
      ∃ reply, state.session.script.head? = some (.reply reply) ∧
        Replaced path (reply.arrivals settings.chunkSize.toNat).flatten state.files
          after.files := by
  simp only [transfer] at htransfer
  split at htransfer
  · cases htransfer
  · next reply hreply =>
    obtain ⟨hfound, hsession, hreplaced⟩ := receive_ok htransfer
    exact ⟨hfound, congrArg Session.calls hsession, reply,
      head?_of_next_eq_reply (replyFrom_ok hreply), hreplaced⟩

/-- A download that returns made exactly one request, to the first asset that has the name.  The
path that it returns is the name below the directory, or below the working directory where none is
given, and leads to a file that holds the pieces of the reply in order: its body, if no pieces
differ from slices of it.  Every other file is what it was. -/
theorem download_delivers (settings : ClientSettings) (release : Release) (name directory : Value)
    (state after : State) (path : Path)
    (hdownload : download settings release name directory state = (.ok path, after)) :
    ∃ (text : HostText) (asset : Asset) (target : Path) (reply : Reply) (bytes : Text.Bytes),
      name = text.value ∧
      release.assets.find? (fun asset => asset.name == some text) = some asset ∧
      (directory = .null ∧ target = { root := "/", parts := state.files.working } ∨
        ∃ given : HostText, directory = given.value ∧ target = .ofText given) ∧
      path = target.join (.ofText text) ∧
      state.session.script.head? = some (.reply reply) ∧
      after.session.calls = state.session.calls ++ [.download asset.url settings.timeout] ∧
      bytes = (reply.arrivals settings.chunkSize.toNat).flatten ∧
      (reply.pieces = none → bytes = reply.body) ∧
      Replaced path bytes state.files after.files := by
  simp only [download] at hdownload
  split at hdownload
  · exact absurd (congrArg Prod.fst hdownload) (by simp [Failure.raise_ne_ok])
  next asset hasset =>
  split at hdownload
  · cases hdownload
  next target htarget =>
  split at hdownload
  · cases hdownload
  next text joined hpath =>
  obtain ⟨rfl, rfl⟩ := pathIn_ok hpath
  obtain ⟨rfl, hcalls, reply, hreply, hreplaced⟩ := transfer_ok hdownload
  rw [Release.asset?_value] at hasset
  exact ⟨text, asset, target, reply, _, rfl, hasset, directoryOf_ok htarget, rfl, hreply, hcalls,
    rfl, fun hpieces => Reply.flatten_arrivals hpieces _, hreplaced⟩

/-- The body comes in slices of two bytes and takes the place of an older file. -/
theorem download_delivers_body :
    ∃ after, download Sample.settings Sample.release (.text "a.zip") .null
        (Sample.state "3" [1, 2, 3] none none) =
          (.ok { root := "/", parts := ["work", "a.zip"] }, after) ∧
      Replaced { root := "/", parts := ["work", "a.zip"] } [1, 2, 3] Sample.files after.files := by
  have hpath : (download Sample.settings Sample.release (.text "a.zip") .null
      (Sample.state "3" [1, 2, 3] none none)).1 =
        .ok { root := "/", parts := ["work", "a.zip"] } := by
    cbv
  refine ⟨_, Prod.ext hpath rfl, ?_⟩
  obtain ⟨_, _, _, _, _, _, _, _, _, hreply, _, _, hbody, hreplaced⟩ :=
    download_delivers _ _ _ _ _ _ _ (Prod.ext hpath rfl)
  cases hreply
  rwa [hbody rfl] at hreplaced

end Client

end Typeface
