import RustScribe.Proofs.WaysOut

namespace RustScribe.Release

open Project (Path Entry Tree)

variable {tree : Tree} {directory path : Path} {names : List String} {package : String}

/-- A directory below the project that is a package, together with all that it lies in. -/
def IsRegular (tree : Tree) (directory : Path) : Prop :=
  directory ≠ [] ∧ LeadsDown tree [] directory

instance : Decidable (IsPackage tree directory) :=
  decidable_of_iff _ isPackage_iff.symm

instance : Decidable (LeadsDown tree directory names) :=
  decidable_of_iff (∀ part ∈ names.inits, part ≠ [] → IsPackage tree (directory ++ part))
    (by simp only [List.mem_inits, LeadsDown])

instance : Decidable (IsRegular tree directory) :=
  inferInstanceAs (Decidable (_ ∧ _))

theorem LeadsDown.part (down : LeadsDown tree directory names) (inside : path <+: names) :
    LeadsDown tree directory path :=
  fun part within => down part (within.trans inside)

theorem LeadsDown.undotted (down : LeadsDown tree directory names) :
    ∀ name ∈ names, '.' ∉ name.toList := by
  induction names generalizing directory with
  | nil => exact fun _ member => absurd member List.not_mem_nil
  | cons name names ih =>
      obtain ⟨⟨-, last, found, undotted⟩, below⟩ := leadsDown_cons.mp down
      have same : name = last := by simpa using found
      exact List.forall_mem_cons.mpr ⟨same ▸ undotted, ih below⟩

theorem toList_dottedName (directory : Path) :
    (dottedName directory).toList = ['.'].intercalate (directory.map String.toList) := by
  rw [dottedName, String.toList_intercalate]
  rfl

/-- The names between the dots of a package's name. -/
def namesIn (package : String) : Path :=
  (package.toList.splitOn '.').map String.ofList

theorem namesIn_dottedName (nonempty : directory ≠ [])
    (undotted : ∀ name ∈ directory, '.' ∉ name.toList) :
    namesIn (dottedName directory) = directory := by
  have split : (dottedName directory).toList.splitOn '.' = directory.map String.toList := by
    rw [toList_dottedName]
    refine List.splitOn_intercalate '.' ?_ (by simpa using nonempty)
    simpa using undotted
  simp [namesIn, split, Function.comp_def]

theorem IsRegular.eq_namesIn (regular : IsRegular tree directory)
    (named : dottedName directory = package) : directory = namesIn package := by
  rw [← named, namesIn_dottedName regular.1 regular.2.undotted]

theorem dottedName_append_singleton (nonempty : directory ≠ []) (name : String) :
    dottedName (directory ++ [name]) = dottedName directory ++ "." ++ name := by
  rw [dottedName, String.intercalate_append_of_ne_nil nonempty (List.cons_ne_nil _ _),
    String.intercalate_singleton]
  rfl

theorem prefix_dottedName (top : String) (rest : Path) :
    top.toList <+: (dottedName (top :: rest)).toList := by
  rw [toList_dottedName]
  cases rest with
  | nil => simp
  | cons name rest =>
      rw [List.map_cons, List.map_cons, List.intercalate_cons_cons, List.append_assoc]
      exact List.prefix_append _ _

/-- What is shipped: not the tests at the top, nor what setting up or running leaves behind. -/
structure IsKept (package : String) : Prop where
  untested : ¬ "tests".toList <+: package.toList
  notSetup : package ≠ "ez_setup"
  notCache : ¬ "__pycache__".toList <:+ package.toList

theorem isShipped_iff : isShipped package = true ↔ IsKept package := by
  unfold isShipped
  simp only [Bool.and_eq_true, Bool.not_eq_true', bne_iff_ne, ← Bool.not_eq_true,
    List.isPrefixOf_iff_prefix, List.isSuffixOf_iff_suffix]
  exact ⟨fun ⟨⟨untested, notSetup⟩, notCache⟩ => ⟨untested, notSetup, notCache⟩,
    fun ⟨untested, notSetup, notCache⟩ => ⟨⟨untested, notSetup⟩, notCache⟩⟩

instance : Decidable (IsKept package) :=
  decidable_of_iff (isShipped package = true) isShipped_iff

theorem mem_packages_iff :
    package ∈ packages tree ↔
      IsKept package ∧ ∃ directory, IsRegular tree directory ∧ dottedName directory = package := by
  simp only [packages, List.mem_mergeSort, List.mem_filter, List.mem_map, mem_projectPackages_iff,
    isShipped_iff, IsRegular, and_comm]

theorem nodup_packages (tree : Tree) : (packages tree).Nodup := by
  have named : ((packagesBelow tree (height tree) []).map dottedName).Nodup := by
    refine (List.nodup_map_iff_inj_on (nodup_packagesBelow ..)).mpr ?_
    intro first isFirst second isSecond same
    have regular {path : Path} (member : path ∈ packagesBelow tree (height tree) []) :
        IsRegular tree path := mem_projectPackages_iff.mp member
    rw [(regular isFirst).eq_namesIn same, ← (regular isSecond).eq_namesIn rfl]
  exact (List.mergeSort_perm _ _).nodup_iff.mpr (named.filter _)

theorem IsKept.outer_untested {name : String} (kept : IsKept (dottedName (directory ++ [name])))
    (nonempty : directory ≠ []) : ¬ "tests".toList <+: (dottedName directory).toList := by
  intro tested
  refine kept.untested (tested.trans ?_)
  rw [dottedName_append_singleton nonempty, String.append_assoc, String.toList_append]
  exact List.prefix_append _ _

theorem IsRegular.outer {name : String} (regular : IsRegular tree (directory ++ [name]))
    (nonempty : directory ≠ []) : IsRegular tree directory :=
  ⟨nonempty, regular.2.part (List.prefix_append _ _)⟩

/-- Files that mark no package do not count, as long as the directories are the same. -/
theorem packages_eq_of_markers {first second : Tree}
    (directories : ∀ path, first.isDirectory path = second.isDirectory path)
    (markers : ∀ directory, first.isFile (directory ++ [packageMarker]) =
      second.isFile (directory ++ [packageMarker])) : packages first = packages second :=
  packages_congr fun directory => by rw [IsMarked, directories, markers, IsMarked]

namespace Invocation

variable (invocation : Invocation)

/-- Where a run begins does not depend on how the project is told. -/
theorem workspace_get?_congr {first second : Tree}
    (same : ∀ path, first.get? path = second.get? path) (path : Path) :
    (invocation.workspace first).tree.get? path = (invocation.workspace second).tree.get? path := by
  unfold workspace
  cases invocation.start with
  | outside => exact same path
  | inside place =>
      cases place with
      | nil => exact same path
      | cons name names =>
          have there : first.isDirectory (name :: names) = second.isDirectory (name :: names) := by
            rw [Tree.isDirectory, Tree.isDirectory, same]
          simp only [there]
          split
          · exact same path
          · rw [Tree.get?_add, Tree.get?_add, same]

/-- The packages that are handed over are those of the project as it is found. -/
theorem packages_of_handed {invocation : Invocation} {metadata : Metadata} {place : Place}
    (handed : .setup metadata place ∈ (invocation.run tree).1.calls) :
    metadata.packages = packages (invocation.workspace tree).tree := by
  obtain ⟨reached, worked⟩ :=
    Task.inProject_fst invocation.work (invocation.workspace tree)
  rw [run_eq_inProject, worked] at handed
  have works := work_works invocation { invocation.workspace tree with place := .project }
  generalize invocation.work { invocation.workspace tree with place := .project } = outcome
    at handed works
  cases works with
  | published =>
      rw [publish_eq] at handed
      simp at handed
  | @handedOver other _ _ described =>
      obtain ⟨rfl, -⟩ : metadata = other ∧ place = .project := by simpa using handed
      cases described with
      | intro read versioned assigns carries => exact carries.packages
  | _ => simp at handed

/-- A complete project is handed over with its regular packages that are shipped, each once and by
its dotted name. Nothing counts but the directories and which of them hold the marker. -/
theorem hands_over_regular_packages (tree : Tree) :
    let found := (invocation.workspace tree).tree
    let calls := (invocation.run tree).1.calls
    (invocation.asProgram = true → invocation.arguments[1]? ≠ some "pypi" → Complete found →
      ∃ metadata, calls = [.setup metadata .project]) ∧
    ∀ metadata place, .setup metadata place ∈ calls →
      metadata.packages.Nodup ∧
      (∀ package, package ∈ metadata.packages ↔
        IsKept package ∧ ∃ directory, IsRegular found directory ∧ dottedName directory = package) ∧
      (∀ top rest, IsRegular found (top :: rest) →
        dottedName (top :: rest) ∈ metadata.packages → ¬ "tests".toList <+: top.toList) ∧
      (∀ outer name, outer ≠ [] → IsRegular found (outer ++ [name]) →
        dottedName (outer ++ [name]) ∈ metadata.packages →
        dottedName outer ∈ metadata.packages ∨ dottedName outer = "ez_setup" ∨
          "__pycache__".toList <:+ (dottedName outer).toList) ∧
      (∀ (other : Invocation) (otherTree : Tree) (given : Metadata) (givenPlace : Place),
        .setup given givenPlace ∈ (other.run otherTree).1.calls →
        (∀ path, found.isDirectory path = (other.workspace otherTree).tree.isDirectory path) →
        (∀ directory, found.isFile (directory ++ [packageMarker]) =
          (other.workspace otherTree).tree.isFile (directory ++ [packageMarker])) →
        given.packages = metadata.packages) ∧
      ∀ files others : List (Path × Entry), tree = Tree.ofFiles files → Tree.Fits files →
        files.Perm others → ∀ given givenPlace,
        .setup given givenPlace ∈ (invocation.run (Tree.ofFiles others)).1.calls →
        given.packages = metadata.packages := by
  intro found calls
  refine ⟨fun program quiet complete => ?_, fun metadata place handed => ?_⟩
  · cases read : readMetadata found with
    | ok metadata =>
        refine ⟨metadata, ?_⟩
        rw [show calls = _ from congrArg (fun outcome => outcome.1.calls)
          (run_of_not_publishing invocation tree program quiet), read]
    | error fault => exact absurd (readMetadata_eq_error_iff.mp read) complete.not_incomplete
  · have listed := packages_of_handed handed
    have regular {directory : Path} (isRegular : IsRegular found directory) :
        dottedName directory ∈ metadata.packages ↔ IsKept (dottedName directory) := by
      rw [listed, mem_packages_iff]
      exact and_iff_left ⟨directory, isRegular, rfl⟩
    refine ⟨listed ▸ nodup_packages found, fun package => listed ▸ mem_packages_iff, ?_, ?_, ?_, ?_⟩
    · intro top rest isRegular member tested
      exact ((regular isRegular).mp member).untested (tested.trans (prefix_dottedName top rest))
    · intro outer name nonempty isRegular member
      have kept := (regular isRegular).mp member
      rw [regular (isRegular.outer nonempty)]
      by_contra left
      simp only [not_or] at left
      exact left.1 ⟨kept.outer_untested nonempty, left.2.1, left.2.2⟩
    · intro other otherTree given givenPlace alsoHanded directories markers
      rw [packages_of_handed alsoHanded, listed, packages_eq_of_markers directories markers]
    · rintro files others rfl fits perm given givenPlace alsoHanded
      have same := invocation.workspace_get?_congr (Tree.get?_ofFiles_of_perm fits perm)
      rw [packages_of_handed alsoHanded, listed]
      refine (packages_eq_of_markers (fun path => ?_) fun directory => ?_).symm
      · rw [Tree.isDirectory, Tree.isDirectory, same]
      · rw [Tree.isFile, Tree.isFile, same]

/-- A project with tests at the top and in a package, with set-up leftovers around a package, a
name with a dot, a marker that is a directory, and a package in no package; its files in two
orders. -/
theorem hands_over_regular_packages_of_odd_project :
    let files : List (Path × Entry) := [(["ez_setup", "sub", packageMarker], .file []),
      ([libraryDirectory, packageMarker], .file []), (["ez_setup", packageMarker], .file []),
      ([libraryDirectory, "tests", packageMarker], .file []), (["tests", packageMarker], .file []),
      (["a.b", packageMarker], .file []), (["plain", "inner", packageMarker], .file []),
      (["odd", packageMarker], .directory), (readmePath, .file (Text.Utf8.encode "Scribe")),
      (versionPath, .file (Text.Utf8.encode "__version__ = '1'"))]
    let project := Tree.ofFiles files
    let invocation : Invocation := { arguments := [], start := .inside ["plain"] }
    ∃ metadata, (invocation.run project).1.calls = [.setup metadata .project] ∧
      (∀ package ∈ ["ez_setup.sub", "protobuf_codegen", "protobuf_codegen.tests"],
        package ∈ metadata.packages) ∧
      (∀ package ∈ ["ez_setup", "tests", "a.b", "plain.inner", "odd"],
        package ∉ metadata.packages) ∧
      ∀ given place,
        .setup given place ∈ (invocation.run (Tree.ofFiles files.reverse)).1.calls →
        given.packages = metadata.packages := by
  intro files project invocation
  have found : (invocation.workspace project).tree = project :=
    invocation.workspace_tree_of_isIn (.inr (by decide +kernel))
  obtain ⟨called, listed⟩ := hands_over_regular_packages invocation project
  rw [found] at called listed
  have blank : ∀ char ∈ [' '], Text.isBlank char = true :=
    List.forall_mem_singleton.mpr (by decide)
  have readable : Holds project readmePath "Scribe" := by
    unfold Holds
    decide +kernel
  have versioned : Holds project versionPath "__version__ = '1'" := by
    unfold Holds
    decide +kernel
  have complete : Complete project := by
    refine ⟨⟨"Scribe", readable⟩, "__version__ = '1'", ⟨[' '], [' '], '\x27', ['1'], '\x27', []⟩,
      versioned, ⟨[], [], by decide, by simp, by simp⟩, ?_⟩
    exact ⟨blank, blank, by decide, by decide, by decide, by decide⟩
  obtain ⟨metadata, calls⟩ := called rfl (by decide) complete
  obtain ⟨-, members, -, -, -, orders⟩ :=
    listed metadata .project (by rw [calls]; exact List.mem_singleton_self _)
  refine ⟨metadata, calls, ?_, ?_, orders files files.reverse rfl (by decide +kernel)
    (List.reverse_perm files).symm⟩
  · intro package member
    have kept : ∀ package ∈ ["ez_setup.sub", "protobuf_codegen", "protobuf_codegen.tests"],
        IsKept package ∧ IsRegular project (namesIn package) ∧
          dottedName (namesIn package) = package := by decide +kernel
    obtain ⟨isKept, regular, named⟩ := kept package member
    exact (members package).mpr ⟨isKept, namesIn package, regular, named⟩
  · intro package member inside
    have left : ∀ package ∈ ["ez_setup", "tests", "a.b", "plain.inner", "odd"],
        ¬ (IsKept package ∧ IsRegular project (namesIn package)) := by decide +kernel
    obtain ⟨isKept, directory, regular, named⟩ := (members package).mp inside
    exact left package member ⟨isKept, regular.eq_namesIn named ▸ regular⟩

end Invocation

end RustScribe.Release
