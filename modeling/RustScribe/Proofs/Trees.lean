import Mathlib.Data.List.Infix
import RustScribe.Project.Tree

namespace RustScribe.Project.Tree

/-! A tree is known by what it says of each path. Directories are removed together, in whatever
order they are named; files that are added change their own paths and those they lie below. -/

variable {tree : Tree} {path asked : Path} {entry : Entry}

theorem isDirectory_iff : tree.isDirectory path = true ↔ tree.get? path = some .directory :=
  beq_iff_eq

theorem mem_directories_iff : path ∈ tree.directories ↔ tree.isDirectory path = true := by
  rw [isDirectory_iff, get?_eq_some_iff]
  simp [directories]

theorem nodup_directories (tree : Tree) : tree.directories.Nodup :=
  tree.distinct.sublist (List.filter_sublist.map Prod.fst)

section without

variable (gone : Path → Prop) [DecidablePred gone]

/-- A tree without its directories of some kind and without all that lies in them. -/
def without (tree : Tree) : Tree :=
  tree.filter fun path =>
    decide (∀ above ∈ path.inits, tree.isDirectory above = true → ¬ gone above)

variable {gone}

theorem get?_without_eq_some_iff :
    (tree.without gone).get? path = some entry ↔
      tree.get? path = some entry ∧
        ∀ above, above <+: path → tree.isDirectory above = true → ¬ gone above := by
  simp only [without, get?_filter, List.mem_inits, Option.ite_none_right_eq_some,
    decide_eq_true_eq]
  exact and_comm

theorem get?_without_of_clear (clear : ∀ above, above <+: path → ¬ gone above) :
    (tree.without gone).get? path = tree.get? path := by
  refine Option.ext fun entry => ?_
  rw [get?_without_eq_some_iff]
  exact and_iff_left fun above inside _ => clear above inside

theorem isDirectory_without_of_clear (clear : ∀ above, above <+: path → ¬ gone above)
    (found : tree.isDirectory path = true) : (tree.without gone).isDirectory path = true := by
  rw [isDirectory_iff, get?_without_of_clear clear, ← isDirectory_iff]
  exact found

theorem without_congr {others : Path → Prop} [DecidablePred others]
    (same : ∀ path, tree.isDirectory path = true → (gone path ↔ others path)) :
    tree.without gone = tree.without others := by
  unfold without
  congr
  funext path
  rw [decide_eq_decide]
  refine forall₂_congr fun above _ => ?_
  exact imp_congr_right fun directory => not_congr (same above directory)

theorem without_of_not_directory
    (missing : ∀ path, gone path → tree.isDirectory path = false) : tree.without gone = tree := by
  have kept (other : Path × Entry) (_ : other ∈ tree.entries) :
      (decide (∀ above ∈ other.1.inits, tree.isDirectory above = true → ¬ gone above)) = true := by
    rw [decide_eq_true_eq]
    intro above _ directory removed
    simp [missing above removed] at directory
  obtain ⟨entries, distinct⟩ := tree
  simpa [without, filter] using kept

end without

theorem isDirectory_removeDirectory :
    (tree.removeDirectory path).isDirectory asked = true ↔
      tree.isDirectory asked = true ∧ ¬ (tree.isDirectory path = true ∧ path <+: asked) := by
  rw [isDirectory_iff, get?_removeDirectory]
  simp only [Bool.and_eq_true, List.isPrefixOf_iff_prefix]
  split
  · next removed => simp [removed]
  · next kept =>
      rw [← isDirectory_iff]
      exact (and_iff_left kept).symm

theorem removeDirectory_eq_filter (tree : Tree) (path : Path) :
    tree.removeDirectory path =
      tree.filter fun other => !(tree.isDirectory path && path.isPrefixOf other) := by
  unfold removeDirectory
  split
  · next directory => simp [directory]
  · next other =>
      obtain ⟨entries, distinct⟩ := tree
      simp [other, filter]

theorem filter_filter (tree : Tree) (first second : Path → Bool) :
    (tree.filter first).filter second = tree.filter fun path => first path && second path := by
  obtain ⟨entries, distinct⟩ := tree
  simp [filter, List.filter_filter, Bool.and_comm]

/-- Directories removed in turn are all removed, those that lie in others as well. -/
theorem removeDirectories_eq_without (tree : Tree) (paths : List Path) :
    tree.removeDirectories paths = tree.without (· ∈ paths) := by
  induction paths generalizing tree with
  | nil => exact (without_of_not_directory (by simp)).symm
  | cons path paths ih =>
      have step : tree.removeDirectories (path :: paths) =
          (tree.removeDirectory path).removeDirectories paths := rfl
      rw [step, ih, without, without]
      simp only [isDirectory_removeDirectory]
      rw [removeDirectory_eq_filter, filter_filter]
      congr
      funext other
      rw [Bool.eq_iff_iff]
      simp only [Bool.and_eq_true, Bool.not_eq_true', Bool.eq_false_iff, ne_eq, not_and,
        List.isPrefixOf_iff_prefix, decide_eq_true_eq, List.mem_inits, List.mem_cons, not_or]
      constructor
      · rintro ⟨outside, kept⟩ above inside directory
        refine ⟨?_, fun removed => ?_⟩
        · rintro rfl
          exact outside directory inside
        · exact kept above inside
            ⟨directory, fun isDirectory below => outside isDirectory (below.trans inside)⟩ removed
      · intro kept
        exact ⟨fun directory inside => (kept path inside directory).1 rfl,
          fun above inside now => (kept above inside now.1).2⟩

theorem addAll_cons (tree : Tree) (file : Path × Entry) (files : List (Path × Entry)) :
    tree.addAll (file :: files) = (tree.add file.1 file.2).addAll files := rfl

theorem addAll_append (tree : Tree) (files more : List (Path × Entry)) :
    tree.addAll (files ++ more) = (tree.addAll files).addAll more :=
  List.foldl_append

theorem get?_putDirectories (tree : Tree) (paths : List Path) (asked : Path) :
    (paths.foldl (fun made path => made.put path .directory) tree).get? asked =
      if asked ∈ paths then some .directory else tree.get? asked := by
  induction paths generalizing tree with
  | nil => simp
  | cons path paths ih =>
      rw [List.foldl_cons, ih, get?_put]
      by_cases later : asked ∈ paths <;> by_cases here : path = asked <;>
        simp [later, here, Ne.symm]

theorem get?_add (tree : Tree) (path : Path) (entry : Entry) (asked : Path) :
    (tree.add path entry).get? asked =
      if path = asked then some entry
      else if asked ∈ path.ancestors then some .directory
      else tree.get? asked := by
  rw [add, get?_put, get?_putDirectories]

/-- What is added changes only its own path and the paths it lies below. -/
theorem get?_addAll_of_untouched {files : List (Path × Entry)}
    (untouched : ∀ file ∈ files, file.1 ≠ asked ∧ asked ∉ file.1.ancestors) :
    (tree.addAll files).get? asked = tree.get? asked := by
  induction files generalizing tree with
  | nil => rfl
  | cons file files ih =>
      obtain ⟨other, outside⟩ := untouched file List.mem_cons_self
      rw [addAll_cons, ih fun later member => untouched later (List.mem_cons_of_mem _ member),
        get?_add, if_neg other, if_neg outside]

theorem get?_addAll_of_apart {files : List (Path × Entry)}
    (apart : ∀ file ∈ files, ¬ asked <+: file.1) :
    (tree.addAll files).get? asked = tree.get? asked := by
  refine get?_addAll_of_untouched fun file member => ⟨?_, ?_⟩
  · rintro rfl
    exact apart file member List.prefix_rfl
  · rw [Path.mem_ancestors_iff]
    rintro ⟨_, name, rest, same⟩
    exact apart file member ⟨name :: rest, same.symm⟩

/-- Entries that can stand in one tree: one at each path, and none below a file. -/
def Fits (files : List (Path × Entry)) : Prop :=
  ∀ file ∈ files, ∀ other ∈ files,
    (file.1 = other.1 → file.2 = other.2) ∧ (file.1 ∈ other.1.ancestors → file.2 = .directory)

instance (files : List (Path × Entry)) : Decidable (Fits files) :=
  inferInstanceAs (Decidable (∀ file ∈ files, ∀ other ∈ files, _))

/-- One tree is another with some entries more, which take the place of those at their paths. -/
structure Gains (before : Tree) (files : List (Path × Entry)) (after : Tree) : Prop where
  present : ∀ file ∈ files, after.get? file.1 = some file.2
  parents : ∀ file ∈ files, ∀ ancestor ∈ file.1.ancestors, after.isDirectory ancestor = true
  others : ∀ path, (∀ file ∈ files, ¬ path <+: file.1) → after.get? path = before.get? path

/-- An entry stays as long as nothing that is added says otherwise. -/
theorem get?_addAll_of_settled {files : List (Path × Entry)} (found : tree.get? path = some entry)
    (settled : ∀ file ∈ files,
      (file.1 = path → file.2 = entry) ∧ (path ∈ file.1.ancestors → entry = .directory)) :
    (tree.addAll files).get? path = some entry := by
  induction files generalizing tree with
  | nil => exact found
  | cons file files ih =>
      obtain ⟨same, below⟩ := settled file List.mem_cons_self
      rw [addAll_cons]
      refine ih ?_ fun other member => settled other (List.mem_cons_of_mem _ member)
      rw [get?_add]
      by_cases here : file.1 = path
      · rw [if_pos here, same here]
      · rw [if_neg here]
        by_cases above : path ∈ file.1.ancestors
        · rw [if_pos above, below above]
        · rw [if_neg above, found]

/-- No file among some entries is to take the place of a directory. -/
def HasRoom (tree : Tree) (files : List (Path × Entry)) : Prop :=
  ∀ file ∈ files, tree.isDirectory file.1 = true → file.2 = .directory

instance (files : List (Path × Entry)) : Decidable (tree.HasRoom files) :=
  inferInstanceAs (Decidable (∀ file ∈ files, _))

theorem isDirectory_addAll {files : List (Path × Entry)} (found : tree.isDirectory path = true)
    (room : tree.HasRoom files) : (tree.addAll files).isDirectory path = true := by
  rw [isDirectory_iff] at found ⊢
  refine get?_addAll_of_settled found fun file member => ⟨fun same => ?_, fun _ => rfl⟩
  exact room file member (by rw [same, isDirectory_iff, found])

theorem gains_addAll (tree : Tree) {files : List (Path × Entry)} (fits : Fits files) :
    tree.Gains files (tree.addAll files) where
  present file member := by
    obtain ⟨earlier, later, rfl⟩ := List.append_of_mem member
    rw [addAll_append, addAll_cons]
    refine get?_addAll_of_settled (by rw [get?_add, if_pos rfl]) fun other isLater => ?_
    have isOther : other ∈ earlier ++ file :: later := by simp [isLater]
    exact ⟨(fits other isOther file member).1, (fits file member other isOther).2⟩
  parents file member ancestor above := by
    obtain ⟨earlier, later, rfl⟩ := List.append_of_mem member
    have apart : file.1 ≠ ancestor := by
      obtain ⟨-, name, rest, longer⟩ := Path.mem_ancestors_iff.mp above
      intro same
      simp [same] at longer
    rw [isDirectory_iff, addAll_append, addAll_cons]
    refine get?_addAll_of_settled (by rw [get?_add, if_neg apart, if_pos above]) ?_
    intro other isLater
    have isOther : other ∈ earlier ++ file :: later := by simp [isLater]
    exact ⟨fun same => (fits other isOther file member).2 (same ▸ above), fun _ => rfl⟩
  others _ apart := get?_addAll_of_apart apart

/-- A tree of files has what is given, and the directories that the files lie in. -/
theorem get?_ofFiles_eq_some_iff {files : List (Path × Entry)} (fits : Fits files) :
    (ofFiles files).get? path = some entry ↔
      (path, entry) ∈ files ∨ entry = .directory ∧ ∃ file ∈ files, path ∈ file.1.ancestors := by
  have gains := gains_addAll {} fits
  constructor
  · intro found
    by_cases given : ∃ file ∈ files, file.1 = path
    · obtain ⟨file, member, rfl⟩ := given
      have same := Option.some.inj ((gains.present file member).symm.trans found)
      exact .inl (same ▸ member)
    by_cases above : ∃ file ∈ files, path ∈ file.1.ancestors
    · obtain ⟨file, member, inside⟩ := above
      have directory := isDirectory_iff.mp (gains.parents file member path inside)
      exact .inr ⟨Option.some.inj (found.symm.trans directory), file, member, inside⟩
    · have empty : (ofFiles files).get? path = none := get?_addAll_of_untouched fun file member =>
        ⟨fun same => given ⟨file, member, same⟩, fun inside => above ⟨file, member, inside⟩⟩
      rw [empty] at found
      contradiction
  · rintro (member | ⟨rfl, file, member, above⟩)
    · exact gains.present (path, entry) member
    · exact isDirectory_iff.mp (gains.parents file member path above)

/-- In which order files are given does not matter to their tree. -/
theorem get?_ofFiles_of_perm {files others : List (Path × Entry)} (fits : Fits files)
    (perm : files.Perm others) (path : Path) :
    (ofFiles files).get? path = (ofFiles others).get? path := by
  have fitsOthers : Fits others := fun file member other isOther =>
    fits file (perm.mem_iff.mpr member) other (perm.mem_iff.mpr isOther)
  refine Option.ext fun entry => ?_
  simp only [get?_ofFiles_eq_some_iff fits, get?_ofFiles_eq_some_iff fitsOthers, perm.mem_iff]

/-- A file after some were added is one of them, or was there before. -/
theorem file_of_addAll {files : List (Path × Entry)} {bytes : List UInt8}
    (found : (tree.addAll files).get? asked = some (.file bytes)) :
    (asked, .file bytes) ∈ files ∨ tree.get? asked = some (.file bytes) := by
  induction files generalizing tree with
  | nil => exact .inr found
  | cons file files ih =>
      rw [addAll_cons] at found
      rcases ih found with later | before
      · exact .inl (List.mem_cons_of_mem _ later)
      · rw [get?_add] at before
        split at before
        · next same =>
            rw [Option.some.injEq] at before
            exact .inl (List.mem_cons.mpr (.inl (Prod.ext same.symm before.symm)))
        · split at before
          · simp at before
          · exact .inr before

def Rooted (tree : Tree) : Prop :=
  ∀ entry ∈ tree.entries, ∀ ancestor ∈ entry.1.ancestors, tree.isDirectory ancestor = true

instance : Decidable tree.Rooted :=
  inferInstanceAs (Decidable (∀ entry ∈ tree.entries, _))

theorem Rooted.isDirectory_of_ancestor (rooted : tree.Rooted)
    (found : tree.get? path = some entry) {ancestor : Path} (above : ancestor ∈ path.ancestors) :
    tree.isDirectory ancestor = true :=
  rooted (path, entry) (get?_eq_some_iff.mp found) ancestor above

end RustScribe.Project.Tree
