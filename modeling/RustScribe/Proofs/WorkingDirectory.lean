import RustScribe.Proofs.Trees
import RustScribe.Release.Run

namespace RustScribe.Release

open Project (Path Tree)

/-- A place that a tree has: a directory of it, or one that no tree has to hold. -/
def Place.IsIn (tree : Tree) : Place → Prop
  | .outside => True
  | .inside path => path = [] ∨ tree.isDirectory path = true

/-- Why a place is gone: a file stands at it or above it, or nothing does. -/
inductive Lost (tree : Tree) : Place → Fault → Prop
  | missing {path : Path} (clear : ∀ above ∈ path :: path.ancestors, tree.isFile above = false) :
      Lost tree (.inside path) (.missing path)
  | notDirectory {path above : Path} (onTheWay : above ∈ path :: path.ancestors)
      (file : tree.isFile above = true) : Lost tree (.inside path) (.notDirectory path)

namespace Task

theorem goTo_of_isIn {place : Place} {workspace : Workspace} (there : place.IsIn workspace.tree) :
    goTo place workspace = ({ workspace with place }, none) := by
  cases place with
  | outside => rfl
  | inside path =>
      have found : (path.isEmpty || workspace.tree.isDirectory path) = true := by
        simpa [Place.IsIn] using there
      simp only [goTo, found, if_true]

/-- A place that is gone is not gone back to. -/
theorem goTo_of_not_isIn {place : Place} {workspace : Workspace}
    (gone : ¬ place.IsIn workspace.tree) :
    ∃ fault, Lost workspace.tree place fault ∧ goTo place workspace = (workspace, some fault) := by
  cases place with
  | outside => exact absurd trivial gone
  | inside path =>
      have missing : (path.isEmpty || workspace.tree.isDirectory path) = false := by
        simpa [Place.IsIn] using gone
      by_cases blocked : (path :: path.ancestors).any workspace.tree.isFile = true
      · obtain ⟨above, onTheWay, file⟩ := List.any_eq_true.mp blocked
        refine ⟨.notDirectory path, .notDirectory onTheWay file, ?_⟩
        simp only [goTo, missing, blocked, Bool.false_eq_true, if_false, if_true]
      · refine ⟨.missing path, .missing ?_, ?_⟩
        · simpa only [Bool.not_eq_true, List.any_eq_false] using blocked
        · simp only [goTo, missing, blocked, Bool.false_eq_true, if_false]

/-- Going somewhere changes the place and nothing else. -/
theorem goTo_fst (place : Place) (workspace : Workspace) :
    ∃ reached, (goTo place workspace).1 = { workspace with place := reached } := by
  unfold goTo
  split
  · exact ⟨.outside, rfl⟩
  · next path =>
      split
      · exact ⟨.inside path, rfl⟩
      · split <;> exact ⟨workspace.place, rfl⟩

/-- Wherever a run ends, all else that it leaves is left by its work. -/
theorem inProject_fst (task : Task) (workspace : Workspace) :
    ∃ reached, (inProject task workspace).1 =
      { (task { workspace with place := .project }).1 with place := reached } := by
  obtain ⟨reached, same⟩ := goTo_fst workspace.place (task { workspace with place := .project }).1
  refine ⟨reached, ?_⟩
  rw [← same]
  simp only [inProject]
  split <;> next gone => rw [gone]

/-- Work that leaves the place it was begun in is all that a run does. -/
theorem inProject_of_isIn (task : Task) (workspace : Workspace)
    (there : workspace.place.IsIn (task { workspace with place := .project }).1.tree) :
    inProject task workspace =
      ({ (task { workspace with place := .project }).1 with place := workspace.place },
        (task { workspace with place := .project }).2) := by
  simp only [inProject, goTo_of_isIn there]

theorem inProject_of_not_isIn (task : Task) (workspace : Workspace)
    (gone : ¬ workspace.place.IsIn (task { workspace with place := .project }).1.tree) :
    ∃ lost, Lost (task { workspace with place := .project }).1.tree workspace.place lost ∧
      inProject task workspace = ((task { workspace with place := .project }).1, some lost) := by
  obtain ⟨lost, why, stuck⟩ := goTo_of_not_isIn gone
  exact ⟨lost, why, by simp only [inProject, stuck]⟩

/-- Work that stays in the project ends where it began just if that place is still there. -/
theorem inProject_place_iff (task : Task) (workspace : Workspace)
    (stays : (task { workspace with place := .project }).1.place = .project) :
    (inProject task workspace).1.place = workspace.place ↔
      workspace.place.IsIn (task { workspace with place := .project }).1.tree := by
  constructor
  · intro back
    by_contra gone
    obtain ⟨lost, -, ended⟩ := inProject_of_not_isIn task workspace gone
    rw [ended, stays] at back
    rw [← back] at gone
    exact gone (.inl rfl)
  · intro there
    rw [inProject_of_isIn task workspace there]

end Task

namespace Invocation

variable (invocation : Invocation) (tree : Tree)

@[simp] theorem workspace_calls : (invocation.workspace tree).calls = [] := rfl

@[simp] theorem workspace_printed : (invocation.workspace tree).printed = "" := rfl

theorem start_isIn :
    (invocation.workspace tree).place.IsIn (invocation.workspace tree).tree := by
  unfold workspace
  cases invocation.start with
  | outside => trivial
  | inside path =>
      cases path with
      | nil => exact .inl rfl
      | cons name names =>
          refine .inr ?_
          simp only
          split
          · next found => exact found
          · rw [Tree.isDirectory_iff, Tree.get?_add, if_pos rfl]

/-- A project that has the place where a run begins is found as it is. -/
theorem workspace_tree_of_isIn {tree : Tree} (there : invocation.start.IsIn tree) :
    (invocation.workspace tree).tree = tree := by
  unfold workspace
  cases start : invocation.start with
  | outside => rfl
  | inside path =>
      rw [start] at there
      cases path with
      | nil => rfl
      | cons name names =>
          have found : tree.isDirectory (name :: names) = true := by
            simpa [Place.IsIn] using there
          simp only [found, if_true]

end Invocation

end RustScribe.Release
