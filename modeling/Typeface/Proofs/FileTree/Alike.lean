import Typeface.FileTree

/-!
# Trees that differ at one place

Two trees may differ in one file, which is in one of them only or has another
content there.  No path leads through it, so every path that does not lead to it
finds the same in both trees.
-/

namespace Typeface.FileTree

/-- Both trees have the same nodes but at one place, where neither has a directory. -/
structure AlikeBut (place : Location) (left right : FileTree) : Prop where
  working : left.working = right.working
  denied : left.denied = right.denied
  node : ∀ location, location ≠ place → left.node? location = right.node? location
  leftFile : left.node? place ≠ some .directory
  rightFile : right.node? place ≠ some .directory

/-- A walk that goes on from where there is no directory. -/
inductive Blocked : Except Obstacle Location → Prop
  | missing : Blocked (.error .missing)
  | occupied : Blocked (.error .occupied)

variable {place here : Location} {tree left right : FileTree} {path : Path}

theorem blocked_walk (hnode : tree.node? here ≠ some .directory) (name : Name)
    (rest : List Name) : Blocked (tree.walk here (name :: rest)) := by
  rw [walk]
  split
  · exact .missing
  · exact .occupied
  · next hdirectory => exact absurd hdirectory hnode

theorem probe_of_blocked (hblocked : Blocked (tree.locate path)) : tree.probe path = .ok none := by
  unfold probe
  generalize tree.locate path = outcome at hblocked
  cases hblocked <;> rfl

theorem read_of_blocked (hblocked : Blocked (tree.locate path)) :
    ∃ obstacle, tree.read path = .error obstacle := by
  unfold read
  generalize tree.locate path = outcome at hblocked
  cases hblocked with
  | missing => exact ⟨_, rfl⟩
  | occupied => exact ⟨_, rfl⟩

namespace AlikeBut

theorem allows (halike : AlikeBut place left right) (access : Access) (location : Location) :
    left.allows access location = right.allows access location := by
  rw [FileTree.allows, FileTree.allows, halike.denied]

/-- A walk ends alike in both trees, unless it is blocked in both. -/
theorem walk (halike : AlikeBut place left right) (here : Location) (names : List Name) :
    left.walk here names = right.walk here names ∨
      Blocked (left.walk here names) ∧ Blocked (right.walk here names) := by
  induction names generalizing here with
  | nil => exact .inl rfl
  | cons name rest ih =>
    by_cases hplace : here = place
    · subst hplace
      exact .inr ⟨blocked_walk halike.leftFile name rest, blocked_walk halike.rightFile name rest⟩
    rw [FileTree.walk, FileTree.walk, halike.node here hplace, halike.allows]
    split
    · exact .inl rfl
    · exact .inl rfl
    split
    · exact .inl rfl
    split
    · exact ih here.dropLast
    split
    · exact ih here
    split
    · exact .inl rfl
    · exact ih (here ++ [name])

theorem start (halike : AlikeBut place left right) (path : Path) :
    left.start path = right.start path := by
  rw [FileTree.start, FileTree.start, FileTree.here, FileTree.here, halike.working]

theorem locate (halike : AlikeBut place left right) (path : Path) :
    left.locate path = right.locate path ∨
      Blocked (left.locate path) ∧ Blocked (right.locate path) := by
  unfold FileTree.locate
  split
  · exact .inl rfl
  split
  · exact .inl rfl
  split
  · exact .inl rfl
  · rw [halike.start]
    exact halike.walk _ _

theorem probe (halike : AlikeBut place left right) (hpath : left.locate path ≠ .ok place) :
    left.probe path = right.probe path := by
  rcases halike.locate path with hsame | ⟨hleft, hright⟩
  · unfold FileTree.probe
    rw [← hsame]
    cases hlocate : left.locate path with
    | error obstacle => cases obstacle <;> rfl
    | ok location =>
      have hother : location ≠ place := by
        rintro rfl
        exact hpath hlocate
      exact congrArg Except.ok (halike.node location hother)
  · rw [probe_of_blocked hleft, probe_of_blocked hright]

/-- A file is read alike in both trees, unless something is in the way in both. -/
theorem read (halike : AlikeBut place left right) (hpath : left.locate path ≠ .ok place) :
    left.read path = right.read path ∨
      (∃ obstacle, left.read path = .error obstacle) ∧
        ∃ obstacle, right.read path = .error obstacle := by
  rcases halike.locate path with hsame | ⟨hleft, hright⟩
  · left
    unfold FileTree.read
    rw [← hsame]
    cases hlocate : left.locate path with
    | error obstacle => rfl
    | ok location =>
      have hother : location ≠ place := by
        rintro rfl
        exact hpath hlocate
      simp only [halike.node location hother, halike.allows]
  · exact .inr ⟨read_of_blocked hleft, read_of_blocked hright⟩

end AlikeBut

end Typeface.FileTree
