import Typeface.FileTree
import Typeface.Proofs.Entries

/-!
# What operations leave in a file tree

Each operation changes a tree at one location, or along one path.  Elsewhere a
look finds what it found before.  A path that led somewhere leads there still
while no directory goes away, and making directories only adds directories, each
on the path that was asked for.
-/

namespace Typeface.FileTree

open Typeface.Entries

variable {tree before middle after : FileTree} {location other : Location} {node : Node}

/-! ## One location -/

@[simp]
theorem node?_nil (tree : FileTree) : tree.node? [] = some .directory := rfl

theorem ne_nil_of_node?_eq_none (hvacant : tree.node? location = none) : location ≠ [] := by
  rintro rfl
  simp at hvacant

theorem node?_eq_lookup (hlocation : location ≠ []) :
    tree.node? location = tree.nodes.lookup location := by
  simp [node?, hlocation]

theorem node?_put_self (hlocation : location ≠ []) :
    (tree.put location node).node? location = some node := by
  rw [node?_eq_lookup hlocation]
  simp [put, List.lookup_append, lookup_without_self]

theorem node?_put_of_ne (hother : other ≠ location) :
    (tree.put location node).node? other = tree.node? other := by
  by_cases hnil : other = []
  · rw [hnil, node?_nil, node?_nil]
  · have hskip : (other == location) = false := beq_false_of_ne hother
    rw [node?_eq_lookup hnil, node?_eq_lookup hnil]
    simp [put, List.lookup_append, lookup_without_of_ne _ hother, List.lookup_cons, hskip]

theorem node?_remove_of_ne (hother : other ≠ location) :
    (tree.remove location).node? other = tree.node? other := by
  by_cases hnil : other = []
  · rw [hnil, node?_nil, node?_nil]
  · rw [node?_eq_lookup hnil, node?_eq_lookup hnil]
    exact lookup_without_of_ne _ hother

@[simp]
theorem put_put (first second : Node) :
    (tree.put location first).put location second = tree.put location second := by
  simp [put, List.filter_append]

/-- What was put where nothing was leaves no trace when it is removed. -/
theorem remove_put (hvacant : tree.node? location = none) :
    (tree.put location node).remove location = tree := by
  have hnil := ne_nil_of_node?_eq_none hvacant
  rw [node?_eq_lookup hnil] at hvacant
  simp [put, remove, List.filter_append, filter_eq_self_of_lookup_eq_none hvacant]

theorem append_put {content bytes : Text.Bytes} (hlocation : location ≠ []) :
    (tree.put location (.file content)).append location bytes =
      tree.put location (.file (content ++ bytes)) := by
  simp [append, node?_put_self hlocation]

/-! ## Paths -/

/-- Every directory of one tree is one of the other, and both have the same working directory and
the same denials. -/
structure KeepsDirectories (before after : FileTree) : Prop where
  working : after.working = before.working
  denied : after.denied = before.denied
  directory : ∀ location, before.node? location = some .directory →
    after.node? location = some .directory

theorem KeepsDirectories.allows (hkeeps : KeepsDirectories before after) (access : Access)
    (location : Location) : after.allows access location = before.allows access location := by
  rw [FileTree.allows, FileTree.allows, hkeeps.denied]

theorem KeepsDirectories.walk (hkeeps : KeepsDirectories before after) {here place : Location}
    {names : List Name} (hwalk : before.walk here names = .ok place) :
    after.walk here names = .ok place := by
  induction names generalizing here with
  | nil => exact hwalk
  | cons name rest ih =>
    simp only [FileTree.walk] at hwalk ⊢
    cases hnode : before.node? here with
    | none => simp [hnode] at hwalk
    | some found =>
      cases found with
      | file content => simp [hnode] at hwalk
      | directory =>
        rw [hkeeps.directory here hnode]
        simp only [hnode, hkeeps.allows] at hwalk ⊢
        by_cases hclosed : (!before.allows .search here) = true
        · rw [if_pos hclosed] at hwalk
          cases hwalk
        rw [if_neg hclosed] at hwalk ⊢
        by_cases hup : name = ".."
        · rw [if_pos hup] at hwalk ⊢
          exact ih hwalk
        rw [if_neg hup] at hwalk ⊢
        by_cases hdot : name = "."
        · rw [if_pos hdot] at hwalk ⊢
          exact ih hwalk
        rw [if_neg hdot] at hwalk ⊢
        by_cases hlong : nameLimit < name.bytes.length
        · rw [if_pos hlong] at hwalk
          cases hwalk
        rw [if_neg hlong] at hwalk ⊢
        exact ih hwalk

theorem KeepsDirectories.start (hkeeps : KeepsDirectories before after) (path : Path) :
    after.start path = before.start path := by
  rw [FileTree.start, FileTree.start, here, here, hkeeps.working]

/-- A path leads somewhere exactly if its names can be spelled, it is not too long, and the walk
along the names comes to an end. -/
theorem locate_eq_ok_iff {path : Path} :
    tree.locate path = .ok location ↔ ∃ names, namesOf? path = some names ∧
      (names.any fun name => name.bytes.contains 0) = false ∧ lengthOf path < pathLimit ∧
      tree.walk (tree.start path) names = .ok location := by
  unfold locate
  cases namesOf? path with
  | none => simp
  | some names =>
    simp only [Option.some.injEq, exists_eq_left']
    split
    · next hzero => simp only [hzero, reduceCtorEq, false_and]
    · next hzero =>
      rw [Bool.not_eq_true] at hzero
      split
      · next hlong => simp [Nat.not_lt.mpr hlong]
      · next hshort => simp only [hzero, Nat.not_le.mp hshort, true_and]

theorem KeepsDirectories.locate (hkeeps : KeepsDirectories before after) {path : Path}
    (hlocate : before.locate path = .ok location) : after.locate path = .ok location := by
  obtain ⟨names, hnames, hzero, hshort, hwalk⟩ := locate_eq_ok_iff.mp hlocate
  rw [← hkeeps.start] at hwalk
  exact locate_eq_ok_iff.mpr ⟨names, hnames, hzero, hshort, hkeeps.walk hwalk⟩

theorem keepsDirectories_put (hnode : tree.node? location ≠ some .directory) :
    KeepsDirectories tree (tree.put location node) where
  working := rfl
  denied := rfl
  directory other hother := by
    have hne : other ≠ location := by
      rintro rfl
      exact hnode hother
    rw [node?_put_of_ne hne, hother]

theorem keepsDirectories_put_vacant (hvacant : tree.node? location = none) :
    KeepsDirectories tree (tree.put location node) :=
  keepsDirectories_put (by simp [hvacant])

/-! ## Making directories -/

/-- The locations to which the beginnings of a path lead. -/
def OnPath (tree : FileTree) (path : Path) (location : Location) : Prop :=
  ∃ count, tree.locate { path with parts := path.parts.take count } = .ok location

theorem OnPath.keep (hkeeps : KeepsDirectories before after) {path : Path}
    (hon : before.OnPath path location) : after.OnPath path location := by
  obtain ⟨count, hcount⟩ := hon
  exact ⟨count, hkeeps.locate hcount⟩

/-- A longer path has the beginnings of a shorter one. -/
theorem OnPath.extend {root : String} {parts : List HostText} (more : List HostText)
    (hon : tree.OnPath { root, parts } location) :
    tree.OnPath { root, parts := parts ++ more } location := by
  obtain ⟨count, hcount⟩ := hon
  refine ⟨min count parts.length, ?_⟩
  have htake : (parts ++ more).take (min count parts.length) = parts.take count := by
    rw [List.take_append_of_le_length (Nat.min_le_right _ _), ← List.take_take,
      List.take_length]
  simpa only [htake] using hcount

/-- What making the directories of a path can do: each location has what it had, or a new
directory that is on the path. -/
structure GrownAlong (path : Path) (before after : FileTree) : Prop where
  working : after.working = before.working
  denied : after.denied = before.denied
  node : ∀ location, after.node? location = before.node? location ∨
    before.node? location = none ∧ after.node? location = some .directory ∧
      after.OnPath path location

theorem GrownAlong.refl (path : Path) (tree : FileTree) : GrownAlong path tree tree where
  working := rfl
  denied := rfl
  node _ := .inl rfl

theorem GrownAlong.keepsDirectories {path : Path} (hgrown : GrownAlong path before after) :
    KeepsDirectories before after where
  working := hgrown.working
  denied := hgrown.denied
  directory location hlocation := by
    rcases hgrown.node location with hsame | ⟨hvacant, _, _⟩
    · rw [hsame, hlocation]
    · rw [hvacant] at hlocation
      cases hlocation

theorem GrownAlong.trans {path : Path} (hfirst : GrownAlong path before middle)
    (hsecond : GrownAlong path middle after) : GrownAlong path before after where
  working := hsecond.working.trans hfirst.working
  denied := hsecond.denied.trans hfirst.denied
  node location := by
    rcases hsecond.node location with hsame | ⟨hvacant, hmade, hon⟩
    · rcases hfirst.node location with hkept | ⟨hvacant, hmade, hon⟩
      · exact .inl (hsame.trans hkept)
      · exact .inr ⟨hvacant, hsame.trans hmade, hon.keep hsecond.keepsDirectories⟩
    · rcases hfirst.node location with hkept | ⟨_, hfound, _⟩
      · exact .inr ⟨hkept ▸ hvacant, hmade, hon⟩
      · rw [hfound] at hvacant
        cases hvacant

theorem GrownAlong.extend {root : String} {parts : List HostText} (more : List HostText)
    (hgrown : GrownAlong { root, parts } before after) :
    GrownAlong { root, parts := parts ++ more } before after where
  working := hgrown.working
  denied := hgrown.denied
  node location := by
    rcases hgrown.node location with hsame | ⟨hvacant, hmade, hon⟩
    · exact .inl hsame
    · exact .inr ⟨hvacant, hmade, hon.extend more⟩

/-- No file comes, goes or changes where only directories are made. -/
theorem GrownAlong.file_iff {path : Path} (hgrown : GrownAlong path before after)
    (location : Location) (content : Text.Bytes) :
    after.node? location = some (.file content) ↔ before.node? location = some (.file content) := by
  rcases hgrown.node location with hsame | ⟨hvacant, hmade, _⟩
  · rw [hsame]
  · simp [hvacant, hmade]

theorem makeDirectory_grown {path : Path} (hmade : tree.makeDirectory path = .ok after) :
    GrownAlong path tree after := by
  simp only [makeDirectory] at hmade
  split at hmade
  · cases hmade
  next place hplace =>
  split at hmade
  · cases hmade
  next hvacant =>
  split at hmade
  case isFalse => cases hmade
  cases hmade
  have hkeeps : KeepsDirectories tree (tree.put place .directory) :=
    keepsDirectories_put_vacant hvacant
  refine ⟨rfl, rfl, fun location => ?_⟩
  by_cases hlocation : location = place
  · subst hlocation
    refine .inr ⟨hvacant, node?_put_self (ne_nil_of_node?_eq_none hvacant), path.parts.length, ?_⟩
    rw [List.take_length]
    exact hkeeps.locate hplace
  · exact .inl (node?_put_of_ne hlocation)

/-- The directories made on the way up stay where a later one is refused, and are on the path. -/
theorem makeUpward_grown (tree : FileTree) (root : String) (reversed : List HostText) :
    GrownAlong { root, parts := reversed.reverse } tree (tree.makeUpward root reversed).2 := by
  induction reversed with
  | nil => exact .refl _ _
  | cons last above ih =>
    have habove := ih.extend [last]
    rw [← List.reverse_cons] at habove
    simp only [makeUpward]
    split
    · next made hmade => exact makeDirectory_grown hmade
    · split
      · next hupward => simpa only [hupward] using habove
      · next changed hupward =>
        simp only [hupward] at habove
        split
        · next final hfinal => exact habove.trans (makeDirectory_grown hfinal)
        · exact habove
    · exact .refl _ _

theorem makeDirectories_grown (tree : FileTree) (path : Path) :
    GrownAlong path tree (tree.makeDirectories path).2 := by
  have hgrown := makeUpward_grown tree path.root path.parts.reverse
  rwa [List.reverse_reverse] at hgrown

end Typeface.FileTree
