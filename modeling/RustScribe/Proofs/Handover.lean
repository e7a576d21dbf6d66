import RustScribe.Proofs.Assignment
import RustScribe.Proofs.PackageSearch
import RustScribe.Proofs.Reading
import RustScribe.Proofs.WorkingDirectory

namespace RustScribe.Release

open Project (Path Tree)

variable {tree : Tree} {fault : Fault} {metadata : Metadata}

/-- A project whose readme can be read, and whose version module assigns a version. -/
def Complete (tree : Tree) : Prop :=
  (∃ readme, Holds tree readmePath readme) ∧
    ∃ source assignment, Holds tree versionPath source ∧
      Assigns (Text.unifyNewlines source.toList) assignment

/-- What is wrong with the version module. -/
inductive Versionless (tree : Tree) : Fault → Prop
  | unreadable {fault : Fault} (unreadable : Unreadable tree versionPath fault) :
      Versionless tree fault
  | unassigned {source : String} (read : Holds tree versionPath source)
      (unassigned : ∀ assignment, ¬ Assigns (Text.unifyNewlines source.toList) assignment) :
      Versionless tree .unversioned

/-- What is wrong with a project: with its readme, or else with its version module. -/
inductive Incomplete (tree : Tree) : Fault → Prop
  | readme {fault : Fault} (unreadable : Unreadable tree readmePath fault) : Incomplete tree fault
  | version {fault : Fault} {readme : String} (read : Holds tree readmePath readme)
      (versionless : Versionless tree fault) : Incomplete tree fault

/-- A version and a description, the packages of a project, and what is the same for all. -/
structure Metadata.Carries (tree : Tree) (version description : List Char)
    (metadata : Metadata) : Prop where
  version : metadata.version = String.ofList version
  longDescription : metadata.longDescription = String.ofList description
  packages : metadata.packages = Release.packages tree
  others : metadata = .ofProject metadata.version metadata.longDescription metadata.packages

/-- The metadata that a project gives, with the value of an assignment of its version. -/
inductive Describes (tree : Tree) (metadata : Metadata) : Prop
  | intro {readme source : String} {assignment : Assignment}
      (read : Holds tree readmePath readme) (versioned : Holds tree versionPath source)
      (assigns : Assigns (Text.unifyNewlines source.toList) assignment)
      (carries : metadata.Carries tree assignment.value (Text.unifyNewlines readme.toList))

theorem readVersion_eq_error_iff : readVersion tree = .error fault ↔ Versionless tree fault := by
  constructor
  · intro failed
    unfold readVersion at failed
    split at failed
    · next unread =>
        cases failed
        exact .unreadable (readText_eq_error_iff.mp unread)
    · next chars read =>
        obtain ⟨source, holds, rfl⟩ := readText_eq_ok_iff.mp read
        split at failed
        · next unfound =>
            cases failed
            exact .unassigned holds (findVersion_eq_none_iff.mp unfound)
        · contradiction
  · rintro (unreadable | ⟨holds, unassigned⟩)
    · simp only [readVersion, readText_eq_error_iff.mpr unreadable]
    · simp only [readVersion, holds.readText,
        findVersion_eq_none_iff.mpr unassigned]

theorem assigns_of_readVersion {version : String} (read : readVersion tree = .ok version) :
    ∃ source assignment, Holds tree versionPath source ∧
      Assigns (Text.unifyNewlines source.toList) assignment ∧
      version = String.ofList assignment.value := by
  unfold readVersion at read
  split at read
  · contradiction
  · next chars readable =>
      obtain ⟨source, holds, rfl⟩ := readText_eq_ok_iff.mp readable
      split at read
      · contradiction
      · next value found =>
          cases read
          obtain ⟨assignment, rfl, assigns⟩ := assigns_of_findVersion found
          exact ⟨source, assignment, holds, assigns, rfl⟩

theorem readMetadata_eq_error_iff : readMetadata tree = .error fault ↔ Incomplete tree fault := by
  constructor
  · intro failed
    unfold readMetadata at failed
    split at failed
    · next unread =>
        cases failed
        exact .readme (readText_eq_error_iff.mp unread)
    · next read =>
        obtain ⟨readme, holds, -⟩ := readText_eq_ok_iff.mp read
        split at failed
        · next versionless =>
            cases failed
            exact .version holds (readVersion_eq_error_iff.mp versionless)
        · contradiction
  · rintro (unreadable | ⟨holds, versionless⟩)
    · simp only [readMetadata, readText_eq_error_iff.mpr unreadable]
    · simp only [readMetadata, holds.readText,
        readVersion_eq_error_iff.mpr versionless]

theorem ofProject_carries (tree : Tree) (version description : List Char) :
    Metadata.Carries tree version description
      (.ofProject (String.ofList version) (String.ofList description) (packages tree)) where
  version := rfl
  longDescription := rfl
  packages := rfl
  others := rfl

theorem readMetadata_of_version {readme source : String} {value : List Char}
    (read : Holds tree readmePath readme) (versioned : Holds tree versionPath source)
    (found : findVersion (Text.unifyNewlines source.toList) = some value) :
    readMetadata tree = .ok (.ofProject (String.ofList value)
      (String.ofList (Text.unifyNewlines readme.toList)) (packages tree)) := by
  simp only [readMetadata, readVersion, read.readText, versioned.readText, found]

theorem describes_of_readMetadata (read : readMetadata tree = .ok metadata) :
    Describes tree metadata := by
  unfold readMetadata at read
  split at read
  · contradiction
  · next readable =>
      obtain ⟨readme, holds, rfl⟩ := readText_eq_ok_iff.mp readable
      split at read
      · contradiction
      · next versioned =>
          cases read
          obtain ⟨source, assignment, found, assigns, rfl⟩ := assigns_of_readVersion versioned
          exact .intro holds found assigns (ofProject_carries tree _ _)

/-- A complete project is in no way incomplete. -/
theorem Complete.not_incomplete (complete : Complete tree) : ¬ Incomplete tree fault := by
  obtain ⟨⟨readme, holds⟩, source, assignment, versioned, assigns⟩ := complete
  have readable {path : Path} {text : String} (holds : Holds tree path text) :
      ¬ Unreadable tree path fault := by
    intro unreadable
    have read := holds.readText
    rw [readText_eq_error_iff.mpr unreadable] at read
    contradiction
  rintro (unreadable | ⟨_, unreadable | ⟨other, unassigned⟩⟩)
  · exact readable holds unreadable
  · exact readable versioned unreadable
  · have same := Except.ok.inj (versioned.readText.symm.trans other.readText)
    exact unassigned assignment (same ▸ assigns)

theorem readMetadata_congr {first second : Tree} (readme : SameFile first second readmePath)
    (version : SameFile first second versionPath)
    (marked : ∀ directory, IsMarked first directory ↔ IsMarked second directory) :
    readMetadata first = readMetadata second := by
  simp only [readMetadata, readVersion, readText_congr readme, readText_congr version,
    packages_congr marked]

theorem Describes.complete (described : Describes tree metadata) : Complete tree := by
  obtain ⟨read, versioned, assigns, -⟩ := described
  exact ⟨⟨_, read⟩, _, _, versioned, assigns⟩

theorem setupTask_of_ok (workspace : Workspace)
    (read : readMetadata workspace.tree = .ok metadata) :
    setupTask workspace =
      ({ workspace with calls := workspace.calls ++ [.setup metadata workspace.place] }, none) := by
  simp only [setupTask, read, Task.setup]

theorem setupTask_of_error (workspace : Workspace)
    (failed : readMetadata workspace.tree = .error fault) :
    setupTask workspace = (workspace, some fault) := by
  simp only [setupTask, failed, Task.fail]

namespace Invocation

variable (invocation : Invocation)

/-- A run that does not publish is the reading of the metadata, made in the project. -/
theorem run_of_not_publishing (tree : Tree) (program : invocation.asProgram = true)
    (quiet : invocation.arguments[1]? ≠ some "pypi") :
    invocation.run tree =
      match readMetadata (invocation.workspace tree).tree with
      | .ok metadata =>
          ({ invocation.workspace tree with calls := [.setup metadata .project] }, none)
      | .error fault => (invocation.workspace tree, some fault) := by
  have task : invocation.task = setupTask := by
    have silent : invocation.publishes = false := by simpa [publishes] using quiet
    simp only [Invocation.task, silent, Bool.false_eq_true, if_false]
  have there := invocation.start_isIn tree
  simp only [run, program, if_true, task]
  cases read : readMetadata (invocation.workspace tree).tree with
  | ok metadata =>
      have made := setupTask_of_ok { invocation.workspace tree with place := .project } read
      rw [Task.inProject_of_isIn _ _ (by rw [made]; exact there), made]
      rfl
  | error fault =>
      have failed := setupTask_of_error { invocation.workspace tree with place := .project } read
      rw [Task.inProject_of_isIn _ _ (by rw [failed]; exact there), failed]

theorem run_of_version (tree : Tree) (program : invocation.asProgram = true)
    (quiet : invocation.arguments[1]? ≠ some "pypi") {readme source : String} {value : List Char}
    (read : Holds (invocation.workspace tree).tree readmePath readme)
    (versioned : Holds (invocation.workspace tree).tree versionPath source)
    (found : findVersion (Text.unifyNewlines source.toList) = some value) :
    ∃ metadata, (invocation.run tree).1.calls = [.setup metadata .project] ∧
      (invocation.run tree).2 = none ∧
      metadata.Carries (invocation.workspace tree).tree value
        (Text.unifyNewlines readme.toList) := by
  rw [run_of_not_publishing invocation tree program quiet,
    readMetadata_of_version read versioned found]
  exact ⟨_, rfl, rfl, ofProject_carries _ _ _⟩

theorem run_of_incomplete (tree : Tree) (program : invocation.asProgram = true)
    (quiet : invocation.arguments[1]? ≠ some "pypi")
    (incomplete : Incomplete (invocation.workspace tree).tree fault) :
    (invocation.run tree).1.calls = [] ∧ (invocation.run tree).2 = some fault := by
  rw [run_of_not_publishing invocation tree program quiet,
    readMetadata_eq_error_iff.mpr incomplete]
  exact ⟨rfl, rfl⟩

/-- Where the same metadata is read, the same is called and the same fault met. -/
theorem run_congr (tree : Tree) (other : Invocation) (otherTree : Tree)
    (program : invocation.asProgram = true) (quiet : invocation.arguments[1]? ≠ some "pypi")
    (otherProgram : other.asProgram = true) (otherQuiet : other.arguments[1]? ≠ some "pypi")
    (read : readMetadata (invocation.workspace tree).tree =
      readMetadata (other.workspace otherTree).tree) :
    (invocation.run tree).1.calls = (other.run otherTree).1.calls ∧
      (invocation.run tree).2 = (other.run otherTree).2 := by
  rw [run_of_not_publishing invocation tree program quiet,
    run_of_not_publishing other otherTree otherProgram otherQuiet, read]
  cases readMetadata (other.workspace otherTree).tree <;> exact ⟨rfl, rfl⟩

/-- A run that does not publish hands over exactly the complete projects, once, and leaves all else
alone. Projects that agree on the two files and on the marked directories are treated the same. -/
theorem hands_over_complete_projects (tree : Tree) (program : invocation.asProgram = true)
    (quiet : invocation.arguments[1]? ≠ some "pypi") :
    let found := (invocation.workspace tree).tree
    let after := (invocation.run tree).1
    let fault := (invocation.run tree).2
    after.tree = found ∧ after.printed = "" ∧ after.calls.length ≤ 1 ∧
      (∀ call ∈ after.calls, ∃ metadata, call = .setup metadata .project ∧
        Describes found metadata) ∧
      (after.calls ≠ [] ↔ Complete found) ∧ (fault = none ↔ Complete found) ∧
      (∀ cause, fault = some cause ↔ Incomplete found cause) ∧
      ∀ (other : Invocation) (otherTree : Tree), other.asProgram = true →
        other.arguments[1]? ≠ some "pypi" →
        SameFile found (other.workspace otherTree).tree readmePath →
        SameFile found (other.workspace otherTree).tree versionPath →
        (∀ directory, IsMarked found directory ↔
          IsMarked (other.workspace otherTree).tree directory) →
        (other.run otherTree).1.calls = after.calls ∧ (other.run otherTree).2 = fault := by
  intro found after fault
  have ran := run_of_not_publishing invocation tree program quiet
  have alike (other : Invocation) (otherTree : Tree) isProgram isQuiet readme version marked :=
    run_congr other otherTree invocation tree isProgram isQuiet program quiet
      (readMetadata_congr readme version marked).symm
  cases read : readMetadata found with
  | ok metadata =>
      have outcome : invocation.run tree =
          ({ invocation.workspace tree with calls := [.setup metadata .project] }, none) := by
        rw [ran, show readMetadata (invocation.workspace tree).tree = _ from read]
      have worked : after = _ := congrArg Prod.fst outcome
      have passed : fault = none := congrArg Prod.snd outcome
      have described := describes_of_readMetadata read
      have complete := described.complete
      refine ⟨by rw [worked], by rw [worked]; rfl, by simp [worked], ?_, by simp [worked, complete],
        by simp [passed, complete], by simp [passed, complete.not_incomplete], alike⟩
      intro call made
      rw [worked, List.mem_singleton] at made
      exact ⟨metadata, made, described⟩
  | error cause =>
      have outcome : invocation.run tree = (invocation.workspace tree, some cause) := by
        rw [ran, show readMetadata (invocation.workspace tree).tree = _ from read]
      have idle : after = invocation.workspace tree := congrArg Prod.fst outcome
      have failed : fault = some cause := congrArg Prod.snd outcome
      have incomplete := readMetadata_eq_error_iff.mp read
      have notComplete : ¬ Complete found := fun complete => complete.not_incomplete incomplete
      refine ⟨by rw [idle], by rw [idle]; rfl, by simp [idle], by simp [idle],
        by simp [idle, notComplete], by simp [failed, notComplete], ?_, alike⟩
      intro other
      rw [failed, ← readMetadata_eq_error_iff, read, Option.some.injEq, Except.error.injEq]

/-- A project and one with a module more, that no argument and a later one of publishing read
alike, also from within the library and when it cannot be imported. -/
theorem hands_over_equal_projects :
    let readme := "Scribe\r\n"
    let source := "__version__ = '0.1'\n"
    let project := Tree.ofFiles [(readmePath, .file (Text.Utf8.encode readme)),
      (versionPath, .file (Text.Utf8.encode source)),
      ([libraryDirectory, packageMarker], .file [])]
    let larger := project.add [libraryDirectory, "writer.py"] (.file [0xFF])
    let bare : Invocation := { arguments := [] }
    let other : Invocation := {
      arguments := ["setup.py", "sdist", "pypi"], importable := false
      start := .inside [libraryDirectory] }
    (bare.run project).1.calls ≠ [] ∧
      (other.run larger).1.calls = (bare.run project).1.calls ∧
      (other.run larger).2 = none := by
  intro readme source project larger bare other
  have foundBare : (bare.workspace project).tree = project := rfl
  have foundOther : (other.workspace larger).tree = larger :=
    workspace_tree_of_isIn other (.inr (by decide +kernel))
  obtain ⟨-, -, -, -, called, passed, -, alike⟩ :=
    hands_over_complete_projects bare project rfl (by decide)
  rw [foundBare] at called passed alike
  have complete : Complete project := by
    refine ⟨⟨readme, show project.get? readmePath = _ from rfl⟩, source,
      ⟨[' '], [' '], '\x27', "0.1".toList, '\x27', []⟩,
      show project.get? versionPath = _ from rfl, ⟨[], ['\n'], by decide, by simp, by simp⟩, ?_⟩
    have blank : ∀ char ∈ [' '], Text.isBlank char = true :=
      List.forall_mem_singleton.mpr (by decide)
    exact ⟨blank, blank, by decide, by decide, by decide, by decide⟩
  have same := alike other larger rfl (by decide)
  rw [foundOther] at same
  have sameReadme : SameFile project larger readmePath :=
    .inl ⟨Text.Utf8.encode readme, by decide +kernel, by decide +kernel⟩
  have sameVersion : SameFile project larger versionPath :=
    .inl ⟨Text.Utf8.encode source, by decide +kernel, by decide +kernel⟩
  obtain ⟨calls, fault⟩ := same sameReadme sameVersion
    (isMarked_iff_of_directories (by decide +kernel) (by decide +kernel))
  exact ⟨called.mpr complete, calls, fault.trans (passed.mpr complete)⟩

end Invocation

end RustScribe.Release
