import RustScribe.Project.Path

namespace RustScribe.Project

/-! The files and directories below a project directory. `get?` is what a tree
says about a path, and all that tells two trees apart; the order of the entries
means nothing. -/

inductive Entry where
  | directory
  | file (bytes : List UInt8)
  deriving Repr, DecidableEq

structure Tree where
  entries : List (Path × Entry) := []
  distinct : (entries.map Prod.fst).Nodup := by simp
  deriving Repr, DecidableEq

namespace Tree

instance : Inhabited Tree := ⟨{}⟩

def get? (tree : Tree) (path : Path) : Option Entry :=
  (tree.entries.find? fun entry => entry.1 == path).map Prod.snd

def isDirectory (tree : Tree) (path : Path) : Bool :=
  tree.get? path == some .directory

def isFile (tree : Tree) (path : Path) : Bool :=
  match tree.get? path with
  | some (.file _) => true
  | _ => false

def filter (tree : Tree) (keep : Path → Bool) : Tree where
  entries := tree.entries.filter fun entry => keep entry.1
  distinct := tree.distinct.sublist (List.filter_sublist.map Prod.fst)

def put (tree : Tree) (path : Path) (entry : Entry) : Tree where
  entries := (path, entry) :: (tree.filter fun other => other != path).entries
  distinct := by
    simp only [List.map_cons, List.nodup_cons]
    exact ⟨by simp [filter], (tree.filter fun other => other != path).distinct⟩

/-- Sets one entry and makes the directories it lies in. -/
def add (tree : Tree) (path : Path) (entry : Entry) : Tree :=
  (path.ancestors.foldl (fun made ancestor => made.put ancestor .directory) tree).put path entry

def addAll (tree : Tree) (files : List (Path × Entry)) : Tree :=
  files.foldl (fun made file => made.add file.1 file.2) tree

def ofFiles (files : List (Path × Entry)) : Tree :=
  addAll {} files

/-- Removes a directory with all below it; a file or nothing is left as it is. -/
def removeDirectory (tree : Tree) (path : Path) : Tree :=
  if tree.isDirectory path then tree.filter fun other => !path.isPrefixOf other else tree

def removeDirectories (tree : Tree) (paths : List Path) : Tree :=
  paths.foldl removeDirectory tree

def directories (tree : Tree) : List Path :=
  (tree.entries.filter fun entry => entry.2 == .directory).map Prod.fst

def renderEntry : Path × Entry → String
  | (path, .directory) => path.render ++ "/"
  | (path, .file _) => path.render

def listing (tree : Tree) : List String :=
  (tree.entries.map renderEntry).mergeSort fun left right => decide (left ≤ right)

theorem get?_eq_some_iff {tree : Tree} {path : Path} {entry : Entry} :
    tree.get? path = some entry ↔ (path, entry) ∈ tree.entries := by
  obtain ⟨entries, distinct⟩ := tree
  simp only [get?]
  induction entries with
  | nil => simp
  | cons first rest ih =>
      simp only [List.map_cons, List.nodup_cons] at distinct
      by_cases same : first.1 = path
      · subst same
        simp only [List.find?_cons, beq_self_eq_true, Option.map_some, Option.some.injEq,
          List.mem_cons]
        constructor
        · rintro rfl
          exact .inl rfl
        · rintro (found | later)
          · exact (congrArg Prod.snd found).symm
          · exact absurd (List.mem_map_of_mem (f := Prod.fst) later) distinct.1
      · rw [List.find?_cons_of_neg (by simpa using same), ih distinct.2, List.mem_cons]
        constructor
        · exact .inr
        · rintro (rfl | later)
          · exact absurd rfl same
          · exact later

theorem get?_filter (tree : Tree) (keep : Path → Bool) (path : Path) :
    (tree.filter keep).get? path = if keep path then tree.get? path else none := by
  refine Option.ext fun entry => ?_
  rw [get?_eq_some_iff]
  simp only [filter, List.mem_filter]
  by_cases kept : keep path = true
  · simp [kept, get?_eq_some_iff]
  · simp [kept]

@[simp] theorem get?_empty (path : Path) : ({} : Tree).get? path = none := rfl

theorem get?_put (tree : Tree) (path : Path) (entry : Entry) (asked : Path) :
    (tree.put path entry).get? asked = if path = asked then some entry else tree.get? asked := by
  by_cases same : path = asked
  · simp [put, get?, same]
  · have others := tree.get?_filter (fun other => other != path) asked
    simp only [bne_iff_ne, ne_eq, Ne.symm same, not_false_eq_true, if_true] at others
    rw [if_neg same, ← others]
    simp [put, get?, same]

theorem get?_removeDirectory (tree : Tree) (path asked : Path) :
    (tree.removeDirectory path).get? asked =
      if tree.isDirectory path && path.isPrefixOf asked then none else tree.get? asked := by
  unfold removeDirectory
  by_cases directory : tree.isDirectory path = true
  · by_cases below : path.isPrefixOf asked = true <;>
      simp [directory, below, get?_filter]
  · simp [directory]

end Tree

end RustScribe.Project
