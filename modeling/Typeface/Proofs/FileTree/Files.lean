import Typeface.Proofs.FileTree

/-!
# Files that come and go

A new file gets a name that nothing in the tree has, so that removing it gives
the tree back.  A file that is moved is found where its new path leads, and
nowhere else does a look find anything new.  That a path itself is at fault
depends on the path alone: some part of it can be no name.
-/

namespace Typeface

/-- Whether some part of the path can be no name: it cannot be written in bytes, or these hold a
zero. -/
def Path.isUnspeakable (path : Path) : Bool :=
  path.parts.any fun part => part.bytes?.all fun bytes => bytes.contains 0

namespace FileTree

variable {tree after : FileTree} {location : Location} {path directory : Path}

/-! ## Fresh names -/

theorem le_foldl_max (lengths : List Nat) (start : Nat) :
    start ≤ lengths.foldl max start ∧ ∀ length ∈ lengths, length ≤ lengths.foldl max start := by
  induction lengths generalizing start with
  | nil => simp
  | cons first rest ih =>
    obtain ⟨hstart, hrest⟩ := ih (max start first)
    simp only [List.foldl_cons, List.mem_cons, forall_eq_or_imp]
    exact ⟨by omega, by omega, hrest⟩

theorem length_freshName (tree : FileTree) :
    (tree.nodes.map fun entry => ((entry.1.getLast?.map Name.bytes).getD []).length).foldl max 0 <
      tree.freshName.bytes.length := by
  simp only [freshName, List.length_append, List.length_replicate]
  have hstem : ("tmp" : Name).bytes.length = 3 := rfl
  omega

theorem node?_freshName (tree : FileTree) (location : Location) :
    tree.node? (location ++ [tree.freshName]) = none := by
  rw [node?_eq_lookup (by simp), List.lookup_eq_none_iff]
  intro entry hentry
  have hlongest := (le_foldl_max
    (tree.nodes.map fun entry => ((entry.1.getLast?.map Name.bytes).getD []).length) 0).2
    _ (List.mem_map_of_mem hentry)
  have hne : location ++ [tree.freshName] ≠ entry.1 := by
    intro heq
    simp only [← heq, List.getLast?_append, List.getLast?_singleton, Option.some_or,
      Option.map_some, Option.getD_some] at hlongest
    exact absurd (length_freshName tree) (Nat.not_lt.mpr hlongest)
  simpa using hne

/-! ## Paths that cannot be spelled -/

/-- Whether an outcome is that the path itself is at fault. -/
def blamesPath {α : Type} : Except Obstacle α → Bool
  | .ok _ => false
  | .error obstacle => obstacle.isOfPath

theorem blamesPath_walk (tree : FileTree) (here : Location) (names : List Name) :
    blamesPath (tree.walk here names) = false := by
  induction names generalizing here with
  | nil => rfl
  | cons name rest ih =>
    rw [walk]
    split
    · rfl
    · rfl
    split
    · rfl
    split
    · exact ih _
    split
    · exact ih _
    split
    · rfl
    · exact ih _

/-- The parts have names without a zero, or else one of them can be no name. -/
theorem all_mapM_bytes? (parts : List HostText) :
    ((parts.mapM fun (part : HostText) => part.bytes?.map Name.mk).all fun names =>
      names.any fun name => name.bytes.contains 0) =
      parts.any fun part => part.bytes?.all fun bytes => bytes.contains 0 := by
  induction parts with
  | nil => rfl
  | cons part rest ih =>
    rw [List.mapM_cons, List.any_cons, ← ih]
    cases part.bytes? with
    | none => rfl
    | some bytes =>
      cases rest.mapM fun (part : HostText) => part.bytes?.map Name.mk with
      | none => simp
      | some names => simp

theorem all_namesOf? (path : Path) :
    ((namesOf? path).all fun names => names.any fun name => name.bytes.contains 0) =
      path.isUnspeakable := by
  unfold namesOf?
  split
  · next hempty =>
    have hparts : path.parts = [] := by
      rw [Bool.and_eq_true, List.isEmpty_iff] at hempty
      exact hempty.1
    rw [Path.isUnspeakable, hparts]
    rfl
  · exact all_mapM_bytes? path.parts

@[simp]
theorem blamesPath_locate (tree : FileTree) (path : Path) :
    blamesPath (tree.locate path) = path.isUnspeakable := by
  rw [← all_namesOf?, locate]
  cases namesOf? path with
  | none => rfl
  | some names =>
    dsimp only
    split
    · next hzero => exact hzero.symm
    · next hzero =>
      rw [Option.all_some, eq_false_of_ne_true hzero]
      split
      · rfl
      · exact blamesPath_walk _ _ _

theorem isOfPath_of_locate {obstacle : Obstacle} (hplace : tree.locate path = .error obstacle) :
    obstacle.isOfPath = path.isUnspeakable := by
  rw [← blamesPath_locate tree, hplace, blamesPath]

theorem isUnspeakable_of_locate (hplace : tree.locate path = .ok location) :
    path.isUnspeakable = false := by
  rw [← blamesPath_locate tree, hplace, blamesPath]

theorem blamesPath_makeDirectory (tree : FileTree) (path : Path) :
    blamesPath (tree.makeDirectory path) = path.isUnspeakable := by
  unfold makeDirectory
  split
  · next hplace => exact isOfPath_of_locate hplace
  next hplace =>
  rw [isUnspeakable_of_locate hplace]
  split
  · rfl
  split
  · rfl
  · rfl

/-- An obstacle that stands in the way is the path itself exactly if it was so before. -/
theorem any_isOfPath_standing? (tree : FileTree) (path : Path) (obstacle : Obstacle) :
    (tree.standing? path obstacle).any Obstacle.isOfPath = obstacle.isOfPath := by
  unfold standing?
  split
  · next hstanding =>
    rw [Bool.and_eq_true, Bool.not_eq_true'] at hstanding
    exact hstanding.1.symm
  · rfl

theorem any_isOfPath_makeUpward (tree : FileTree) (root : String) (reversed : List HostText) :
    (tree.makeUpward root reversed).1.any Obstacle.isOfPath =
      Path.isUnspeakable { root, parts := reversed.reverse } := by
  induction reversed with
  | nil => rfl
  | cons last above ih =>
    have hmake := blamesPath_makeDirectory tree { root, parts := (last :: above).reverse }
    simp only [makeUpward]
    split
    · next made hmade =>
      rw [hmade] at hmake
      exact hmake
    · next hmissing =>
      rw [hmissing] at hmake
      -- the way up is shorter, so that it can be spelled where this path can
      have habove : Path.isUnspeakable { root, parts := above.reverse } = false := by
        have hspelled := hmake.symm
        simp only [Path.isUnspeakable, List.any_reverse, List.any_cons] at hspelled ⊢
        exact (Bool.or_eq_false_iff.mp hspelled).2
      rw [habove] at ih
      split
      · next obstacle changed hupward =>
        rw [hupward] at ih
        exact ih.trans hmake
      · next changed hupward =>
        split
        · exact hmake
        · next obstacle hfinal =>
          have hagain := blamesPath_makeDirectory changed { root, parts := (last :: above).reverse }
          rw [hfinal] at hagain
          rw [any_isOfPath_standing?]
          exact hagain
    · next obstacle _ hobstacle =>
      rw [hobstacle] at hmake
      rw [any_isOfPath_standing?]
      exact hmake

theorem any_isOfPath_makeDirectories (tree : FileTree) (path : Path) :
    (tree.makeDirectories path).1.any Obstacle.isOfPath = path.isUnspeakable := by
  have hupward := any_isOfPath_makeUpward tree path.root path.parts.reverse
  rwa [List.reverse_reverse] at hupward

/-! ## Creating and moving -/

/-- Whether the directory at a path takes a new file once it has been made with those above it. -/
def IsReady (tree : FileTree) (directory : Path) : Prop :=
  (tree.makeDirectories directory).1 = none ∧
    ∃ created, (tree.makeDirectories directory).2.createIn directory = .ok created

/-- The location lies directly in the directory at a path. -/
def IsChild (tree : FileTree) (directory : Path) (location : Location) : Prop :=
  ∃ place name, tree.locate directory = .ok place ∧ location = place ++ [name]

theorem KeepsDirectories.isChild (hkeeps : KeepsDirectories tree after)
    (hchild : tree.IsChild directory location) : after.IsChild directory location := by
  obtain ⟨place, name, hplace, hlocation⟩ := hchild
  exact ⟨place, name, hkeeps.locate hplace, hlocation⟩

/-- A new file goes where nothing was, directly in its directory. -/
theorem createIn_ok (hcreated : tree.createIn directory = .ok (location, after)) :
    tree.node? location = none ∧ tree.IsChild directory location ∧
      after = tree.put location (.file []) := by
  unfold createIn at hcreated
  split at hcreated
  · cases hcreated
  next place hplace =>
  split at hcreated
  · split at hcreated
    · cases hcreated
    split at hcreated
    · cases hcreated
      exact ⟨node?_freshName tree place, ⟨place, _, hplace, rfl⟩, rfl⟩
    · cases hcreated
  · cases hcreated
  · cases hcreated

theorem blamesPath_createIn {obstacle : Obstacle}
    (hrefused : tree.createIn directory = .error obstacle) :
    obstacle.isOfPath = directory.isUnspeakable := by
  unfold createIn at hrefused
  split at hrefused
  · next hplace =>
    cases hrefused
    exact isOfPath_of_locate hplace
  next hplace =>
  rw [isUnspeakable_of_locate hplace]
  split at hrefused
  · split at hrefused
    · cases hrefused
      rfl
    split at hrefused
    · cases hrefused
    · cases hrefused
      rfl
  · cases hrefused
    rfl
  · cases hrefused
    rfl

theorem isChild_of_createIn (hcreated : tree.createIn directory = .ok (location, after)) :
    after.IsChild directory location := by
  obtain ⟨hvacant, hchild, rfl⟩ := createIn_ok hcreated
  exact (keepsDirectories_put_vacant hvacant).isChild hchild

theorem blamesPath_moveTo (tree : FileTree) (source : Location) (path : Path) :
    blamesPath (tree.moveTo source path) = path.isUnspeakable := by
  unfold moveTo
  split
  · next hplace => exact isOfPath_of_locate hplace
  · next hplace _ =>
    rw [isUnspeakable_of_locate hplace]
    split
    · rfl
    split
    · rfl
    · rfl
  · next hplace _ =>
    rw [isUnspeakable_of_locate hplace]
    rfl

/-- A move takes no directory away: it moves a file, and over no directory. -/
theorem keepsDirectories_moveTo {source : Location}
    (hmoved : tree.moveTo source path = .ok after) : KeepsDirectories tree after := by
  simp only [moveTo] at hmoved
  split at hmoved
  · cases hmoved
  · next target content hplace hsource =>
    split at hmoved
    · cases hmoved
    next htarget =>
    split at hmoved
    · cases hmoved
      refine ⟨rfl, rfl, fun other hother => ?_⟩
      have hne : other ≠ target := by
        rintro rfl
        exact htarget hother
      have hleft : other ≠ source := by
        rintro rfl
        simp [hsource] at hother
      rw [node?_put_of_ne hne, node?_remove_of_ne hleft, hother]
    · cases hmoved
  · cases hmoved

/-- A file that was moved is where its new path leads, with its content.  Elsewhere a look finds
what it would find if the file had just been removed. -/
theorem moveTo_ok {source : Location} {content : Text.Bytes}
    (hsource : tree.node? source = some (.file content))
    (hmoved : tree.moveTo source path = .ok after) :
    ∃ target, after.locate path = .ok target ∧ after.node? target = some (.file content) ∧
      ∀ other, other ≠ target → after.node? other = (tree.remove source).node? other := by
  have hkeeps := keepsDirectories_moveTo hmoved
  simp only [moveTo, hsource] at hmoved
  cases hplace : tree.locate path with
  | error obstacle => simp [hplace] at hmoved
  | ok target =>
    simp only [hplace] at hmoved
    split at hmoved
    · cases hmoved
    next htarget =>
    split at hmoved
    · cases hmoved
      have hnil : target ≠ [] := by
        rintro rfl
        exact htarget rfl
      exact ⟨target, hkeeps.locate hplace, node?_put_self hnil,
        fun other hother => node?_put_of_ne hother⟩
    · cases hmoved

end FileTree

end Typeface
