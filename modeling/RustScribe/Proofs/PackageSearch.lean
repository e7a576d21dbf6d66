import Mathlib.Data.List.Nodup
import RustScribe.Proofs.Trees
import RustScribe.Release.Packages

namespace RustScribe.Release

open Project (Path Tree)

variable {tree : Tree} {directory path : Path} {names : List String} {depth : Nat}

/-- A directory that holds the marker of a package, as a file. -/
def IsMarked (tree : Tree) (directory : Path) : Prop :=
  tree.isDirectory directory = true ∧ tree.isFile (directory ++ [packageMarker]) = true

instance : Decidable (IsMarked tree directory) :=
  inferInstanceAs (Decidable (_ ∧ _))

/-- Only the directories that trees have need a look, to see that the same are marked. -/
theorem isMarked_iff_of_directories {first second : Tree}
    (kept : ∀ directory ∈ first.directories, IsMarked first directory → IsMarked second directory)
    (known : ∀ directory ∈ second.directories, IsMarked second directory → IsMarked first directory)
    (directory : Path) : IsMarked first directory ↔ IsMarked second directory :=
  ⟨fun marked => kept directory (Tree.mem_directories_iff.mpr marked.1) marked,
    fun marked => known directory (Tree.mem_directories_iff.mpr marked.1) marked⟩

/-- A marked directory whose own name has no dot. -/
def IsPackage (tree : Tree) (directory : Path) : Prop :=
  IsMarked tree directory ∧ ∃ name ∈ directory.getLast?, '.' ∉ name.toList

theorem isPackage_iff :
    IsPackage tree directory ↔
      tree.isDirectory directory = true ∧ isPackageDirectory tree directory = true := by
  unfold IsPackage IsMarked isPackageDirectory
  cases directory.getLast? with
  | none => simp
  | some name => simp [and_left_comm, and_comm]

/-- All the directories on the way down from a directory are packages. -/
def LeadsDown (tree : Tree) (directory : Path) (names : List String) : Prop :=
  ∀ part, part <+: names → part ≠ [] → IsPackage tree (directory ++ part)

theorem leadsDown_cons {name : String} :
    LeadsDown tree directory (name :: names) ↔
      IsPackage tree (directory ++ [name]) ∧ LeadsDown tree (directory ++ [name]) names := by
  constructor
  · intro down
    refine ⟨down [name] (List.prefix_append [name] names) (List.cons_ne_nil _ _), ?_⟩
    intro part inside _
    rw [List.append_assoc, List.singleton_append]
    exact down (name :: part) ((List.prefix_cons_inj name).mpr inside) (List.cons_ne_nil _ _)
  · rintro ⟨first, down⟩ part inside nonempty
    cases part with
    | nil => exact absurd rfl nonempty
    | cons head part =>
        obtain ⟨rfl, below⟩ := List.cons_prefix_cons.mp inside
        by_cases last : part = []
        · rw [last]
          exact first
        · simpa using down part below last

theorem mem_subdirectories_iff :
    path ∈ subdirectories tree directory ↔
      tree.isDirectory path = true ∧ ∃ name, path = directory ++ [name] := by
  simp only [subdirectories, List.mem_filter, Tree.mem_directories_iff, Bool.and_eq_true,
    bne_iff_ne, beq_iff_eq]
  refine and_congr_right fun _ => ?_
  constructor
  · rintro ⟨nonempty, rfl⟩
    exact ⟨path.getLast nonempty, (List.dropLast_append_getLast nonempty).symm⟩
  · rintro ⟨name, rfl⟩
    simp

/-- The search below a directory goes down as far as packages lead, and as deep as it may. -/
theorem mem_packagesBelow_iff :
    path ∈ packagesBelow tree depth directory ↔
      ∃ names, path = directory ++ names ∧ names ≠ [] ∧ names.length ≤ depth ∧
        LeadsDown tree directory names := by
  induction depth generalizing directory with
  | zero => simp [packagesBelow]
  | succ depth ih =>
      simp only [packagesBelow, List.mem_flatMap, List.mem_filter, mem_subdirectories_iff,
        List.mem_cons, ih]
      constructor
      · rintro ⟨_, ⟨⟨isDirectory, name, rfl⟩, package⟩, found⟩
        have first := isPackage_iff.mpr ⟨isDirectory, package⟩
        rcases found with rfl | ⟨names, rfl, _, short, down⟩
        · refine ⟨[name], rfl, List.cons_ne_nil _ _, by simp, leadsDown_cons.mpr ⟨first, ?_⟩⟩
          exact fun part inside nonempty => absurd (List.prefix_nil.mp inside) nonempty
        · exact ⟨name :: names, by simp, List.cons_ne_nil _ _, Nat.succ_le_succ short,
            leadsDown_cons.mpr ⟨first, down⟩⟩
      · rintro ⟨names, rfl, nonempty, short, down⟩
        cases names with
        | nil => exact absurd rfl nonempty
        | cons name names =>
            obtain ⟨first, down⟩ := leadsDown_cons.mp down
            obtain ⟨isDirectory, package⟩ := isPackage_iff.mp first
            refine ⟨directory ++ [name], ⟨⟨isDirectory, name, rfl⟩, package⟩, ?_⟩
            by_cases last : names = []
            · exact .inl (by rw [last])
            · exact .inr ⟨names, by simp, last, Nat.le_of_succ_le_succ short, down⟩

theorem le_foldl_max {number initial : Nat} {numbers : List Nat}
    (found : number ≤ initial ∨ number ∈ numbers) : number ≤ numbers.foldl max initial := by
  induction numbers generalizing initial with
  | nil => simpa using found
  | cons head tail ih =>
      refine ih ?_
      rcases found with small | member
      · exact .inl (Nat.le_trans small (Nat.le_max_left _ _))
      · rcases List.mem_cons.mp member with rfl | later
        · exact .inl (Nat.le_max_right _ _)
        · exact .inr later

theorem length_le_height (found : tree.isDirectory path = true) : path.length ≤ height tree := by
  have member := Tree.get?_eq_some_iff.mp (Tree.isDirectory_iff.mp found)
  exact le_foldl_max (.inr (List.mem_map.mpr ⟨_, member, rfl⟩))

/-- The search of a whole project misses no package for its depth. -/
theorem mem_projectPackages_iff :
    path ∈ packagesBelow tree (height tree) [] ↔ path ≠ [] ∧ LeadsDown tree [] path := by
  rw [mem_packagesBelow_iff]
  constructor
  · rintro ⟨names, rfl, nonempty, _, down⟩
    exact ⟨nonempty, down⟩
  · rintro ⟨nonempty, down⟩
    have package := down path List.prefix_rfl nonempty
    exact ⟨path, rfl, nonempty, length_le_height package.1.1, down⟩

theorem prefix_of_mem_packages {found : Path}
    (member : path ∈ found :: packagesBelow tree depth found) : found <+: path := by
  rcases List.mem_cons.mp member with rfl | below
  · exact List.prefix_rfl
  · obtain ⟨names, rfl, _⟩ := mem_packagesBelow_iff.mp below
    exact List.prefix_append found names

theorem nodup_packagesBelow (tree : Tree) (depth : Nat) (directory : Path) :
    (packagesBelow tree depth directory).Nodup := by
  induction depth generalizing directory with
  | zero => exact List.nodup_nil
  | succ depth ih =>
      rw [packagesBelow, List.nodup_flatMap]
      constructor
      · intro found _
        refine List.nodup_cons.mpr ⟨fun again => ?_, ih found⟩
        obtain ⟨names, same, nonempty, _⟩ := mem_packagesBelow_iff.mp again
        exact nonempty (List.append_cancel_left (same.symm.trans (List.append_nil found).symm))
      · have once : ((subdirectories tree directory).filter (isPackageDirectory tree)).Nodup :=
          ((Tree.nodup_directories tree).filter _).filter _
        refine once.imp_of_mem ?_
        intro first second isFirst isSecond apart
        simp only [Function.onFun, List.disjoint_left]
        intro path belowFirst belowSecond
        obtain ⟨_, _, rfl⟩ := mem_subdirectories_iff.mp (List.mem_of_mem_filter isFirst)
        obtain ⟨_, _, rfl⟩ := mem_subdirectories_iff.mp (List.mem_of_mem_filter isSecond)
        have level := List.prefix_of_prefix_length_le (prefix_of_mem_packages belowFirst)
          (prefix_of_mem_packages belowSecond) (by simp)
        exact apart (level.eq_of_length (by simp))

/-- Trees with the same marked directories have the same packages. -/
theorem packages_congr {first second : Tree}
    (same : ∀ directory, IsMarked first directory ↔ IsMarked second directory) :
    packages first = packages second := by
  have found : (packagesBelow first (height first) []).Perm
      (packagesBelow second (height second) []) := by
    refine (List.perm_ext_iff_of_nodup (nodup_packagesBelow ..) (nodup_packagesBelow ..)).mpr ?_
    intro path
    simp only [mem_projectPackages_iff, LeadsDown, IsPackage, same]
  have named := (found.map dottedName).filter isShipped
  have sorted (names : List String) :
      (names.mergeSort fun left right => decide (left ≤ right)).Pairwise (· ≤ ·) := by
    refine (List.pairwise_mergeSort ?_ ?_ names).imp of_decide_eq_true
    · simpa using fun _ _ _ => String.le_trans
    · simpa using String.le_total
  refine List.Perm.eq_of_pairwise (fun _ _ _ _ => String.le_antisymm) (sorted _) (sorted _) ?_
  exact (List.mergeSort_perm _ _).trans (named.trans (List.mergeSort_perm _ _).symm)

end RustScribe.Release
