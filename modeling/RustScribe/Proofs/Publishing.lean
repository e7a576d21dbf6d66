import RustScribe.Proofs.WorkingDirectory

namespace RustScribe.Release

open Project (Path Entry Tree)

variable {tree : Tree} {path : Path}

/-- The directories that are cleared away before anything is built: the cache at the top, the
artefacts, and the caches anywhere below the library directory. -/
def IsStale (path : Path) : Prop :=
  path = [cacheName] ∨ path ∈ artefacts ∨
    ∃ inner, path = libraryDirectory :: (inner ++ [cacheName])

theorem isLibraryCache_iff :
    (path.head? == some libraryDirectory && path.tail.getLast? == some cacheName) = true ↔
      ∃ inner, path = libraryDirectory :: (inner ++ [cacheName]) := by
  rw [Bool.and_eq_true, beq_iff_eq, beq_iff_eq]
  constructor
  · rintro ⟨top, last⟩
    obtain ⟨names, rfl⟩ := List.head?_eq_some_iff.mp top
    obtain ⟨inner, same⟩ := List.getLast?_eq_some_iff.mp last
    exact ⟨inner, congrArg (libraryDirectory :: ·) same⟩
  · rintro ⟨inner, rfl⟩
    simp

instance : DecidablePred IsStale := fun _ =>
  decidable_of_iff _ (or_congr Iff.rfl (or_congr Iff.rfl isLibraryCache_iff))

theorem mem_staleDirectories_iff (isDirectory : tree.isDirectory path = true) :
    path ∈ staleDirectories tree ↔ IsStale path := by
  simp only [staleDirectories, libraryCaches, List.cons_append, List.mem_cons, List.mem_append,
    List.mem_filter, Tree.mem_directories_iff, isDirectory, true_and, isLibraryCache_iff, IsStale]

theorem removeDirectories_stale (tree : Tree) :
    tree.removeDirectories (staleDirectories tree) = tree.without IsStale := by
  rw [Tree.removeDirectories_eq_without]
  exact Tree.without_congr fun _ => mem_staleDirectories_iff

namespace Invocation

/-- What publishing does, command by command. -/
theorem publish_eq (invocation : Invocation) (workspace : Workspace) :
    let source := workspace.tree.without IsStale
    let packed := source.addAll (invocation.made "python3 setup.py sdist")
    let built := packed.addAll (invocation.made "python3 setup.py bdist_wheel")
    let uploaded := built.addAll (invocation.made "twine upload dist/*")
    invocation.publish workspace =
      ({ workspace with
          tree := uploaded.without (· ∈ artefacts)
          calls := workspace.calls ++ [
            .command "python3 setup.py sdist" workspace.place source,
            .command "python3 setup.py bdist_wheel" workspace.place packed,
            .command "twine upload dist/*" workspace.place built] }, none) := by
  intro source packed built uploaded
  rw [← Tree.removeDirectories_eq_without]
  simp only [uploaded, built, packed, source, ← removeDirectories_stale]
  simp [publish, publishCommands, Task.sequence, Task.andThen, Task.done, Task.command,
    Task.removeDirectories]

/-- A file below an artefact directory, when all is built, is one that was built: whatever lay
there before was cleared away. -/
theorem built_of_artefact {found : Tree} (rooted : found.Rooted)
    {artefact : Path} (isArtefact : artefact ∈ artefacts) (below : artefact <+: path)
    (inside : path ≠ artefact) {first second : List (Path × Entry)} {bytes : List UInt8}
    (present : (((found.without IsStale).addAll first).addAll second).get? path =
      some (.file bytes)) :
    (path, .file bytes) ∈ first ++ second := by
  rw [List.mem_append]
  rcases Tree.file_of_addAll present with made | earlier
  · exact .inr made
  rcases Tree.file_of_addAll earlier with made | old
  · exact .inl made
  obtain ⟨kept, clear⟩ := Tree.get?_without_eq_some_iff.mp old
  have nonempty : artefact ≠ [] := by
    rintro rfl
    simp [artefacts] at isArtefact
  have above : artefact ∈ path.ancestors := by
    obtain ⟨names, rfl⟩ := below
    cases names with
    | nil => simp at inside
    | cons name names => exact Path.mem_ancestors_iff.mpr ⟨nonempty, name, names, rfl⟩
  exact absurd (.inr (.inl isArtefact))
    (clear artefact below (rooted.isDirectory_of_ancestor kept above))

/-- Each of the three commands works on what the one before it left, the first on the project
without what is stale, so the upload finds only artefacts that this run built. All else is left as
it was. -/
theorem publishes_fresh_artefacts (invocation : Invocation) (tree : Tree)
    (program : invocation.asProgram = true)
    (asked : invocation.arguments[1]? = some "pypi") :
    let found := (invocation.workspace tree).tree
    let after := (invocation.run tree).1
    (invocation.importable = false →
      after.calls = [] ∧ after.tree = found ∧ (invocation.run tree).2 = none ∧
        after.printed = "Packaging for PyPi aborted, importing the module failed.\n") ∧
    (invocation.importable = true →
      let source := found.without IsStale
      let packed := source.addAll (invocation.made "python3 setup.py sdist")
      let built := packed.addAll (invocation.made "python3 setup.py bdist_wheel")
      let uploaded := built.addAll (invocation.made "twine upload dist/*")
      after.calls = [.command "python3 setup.py sdist" .project source,
        .command "python3 setup.py bdist_wheel" .project packed,
        .command "twine upload dist/*" .project built] ∧
      after.tree = uploaded.without (· ∈ artefacts) ∧ after.printed = "" ∧
      ((∀ command ∈ publishCommands, Tree.Fits (invocation.made command)) →
        source.Gains (invocation.made "python3 setup.py sdist") packed ∧
        packed.Gains (invocation.made "python3 setup.py bdist_wheel") built ∧
        built.Gains (invocation.made "twine upload dist/*") uploaded) ∧
      (found.Rooted → ∀ artefact ∈ artefacts, ∀ path bytes, artefact <+: path → path ≠ artefact →
        built.get? path = some (.file bytes) →
        (path, .file bytes) ∈ invocation.made "python3 setup.py sdist" ++
          invocation.made "python3 setup.py bdist_wheel") ∧
      ∀ path, (∀ above, above <+: path → ¬ IsStale above) →
        (∀ command ∈ publishCommands, ∀ file ∈ invocation.made command, ¬ path <+: file.1) →
        after.tree.get? path = found.get? path) := by
  intro found after
  have publishing : invocation.publishes = true := by simpa [publishes] using asked
  have ran : invocation.run tree = Task.inProject invocation.task (invocation.workspace tree) := by
    simp only [run, program, if_true]
  constructor
  · intro broken
    have task : invocation.task =
        Task.print "Packaging for PyPi aborted, importing the module failed.\n" := by
      simp [Invocation.task, publishing, broken]
    have outcome := Task.inProject_of_isIn invocation.task (invocation.workspace tree)
      (by rw [task]; exact invocation.start_isIn tree)
    rw [← ran, task] at outcome
    simp only [after, outcome]
    exact ⟨rfl, rfl, rfl, rfl⟩
  · intro importable source packed built uploaded
    have task : invocation.task = invocation.publish := by
      simp [Invocation.task, publishing, importable]
    obtain ⟨reached, worked⟩ := Task.inProject_fst invocation.task (invocation.workspace tree)
    rw [← ran, task, publish_eq] at worked
    have left : after.tree = uploaded.without (· ∈ artefacts) := congrArg Workspace.tree worked
    refine ⟨congrArg Workspace.calls worked, left, congrArg Workspace.printed worked, ?_, ?_, ?_⟩
    · intro fits
      exact ⟨Tree.gains_addAll source (fits _ (by decide)),
        Tree.gains_addAll packed (fits _ (by decide)), Tree.gains_addAll built (fits _ (by decide))⟩
    · intro rooted artefact isArtefact path bytes below inside present
      exact built_of_artefact rooted isArtefact below inside present
    · intro path clear apart
      have unmade {command : String} (run : command ∈ publishCommands) (made : Tree) :
          (made.addAll (invocation.made command)).get? path = made.get? path :=
        Tree.get?_addAll_of_apart (apart command run)
      calc after.tree.get? path = uploaded.get? path := by
            rw [left]
            exact Tree.get?_without_of_clear fun above inside isArtefact =>
              clear above inside (.inr (.inl isArtefact))
        _ = source.get? path := by
            rw [unmade (by decide), unmade (by decide), unmade (by decide)]
        _ = found.get? path := Tree.get?_without_of_clear clear

/-- A project with an old artefact and with caches in each other, published and not: the upload
finds the two new artefacts only. -/
theorem publishes_fresh_artefacts_over_old :
    let project := Tree.ofFiles [(["README.rst"], .file [1]), (["dist", "old.whl"], .file [2]),
      ([libraryDirectory, "writer.py"], .file [3]),
      ([libraryDirectory, "deep", cacheName, cacheName, "old.pyc"], .file [4])]
    let invocation : Invocation := {
      arguments := ["setup.py", "pypi", "now"]
      makes := [("python3 setup.py sdist", [(["dist", "new.tar.gz"], .file [5])]),
        ("python3 setup.py bdist_wheel", [(["dist", "new.whl"], .file [6])])] }
    let broken := { invocation with importable := false }
    let built := ((project.without IsStale).addAll
      (invocation.made "python3 setup.py sdist")).addAll
      (invocation.made "python3 setup.py bdist_wheel")
    project.Rooted ∧ (∀ command ∈ publishCommands, Tree.Fits (invocation.made command)) ∧
      (invocation.run project).1.calls.getLast? =
        some (.command "twine upload dist/*" .project built) ∧
      built.entries.map Tree.renderEntry = ["dist/new.whl", "dist/", "dist/new.tar.gz",
        "protobuf_codegen/deep/", "protobuf_codegen/", "protobuf_codegen/writer.py",
        "README.rst"] ∧
      (invocation.run project).1.tree.get? ["README.rst"] = some (.file [1]) ∧
      (broken.run project).1.tree = project := by
  intro project invocation broken built
  obtain ⟨-, published⟩ := publishes_fresh_artefacts invocation project rfl rfl
  obtain ⟨aborted, -⟩ := publishes_fresh_artefacts broken project rfl rfl
  obtain ⟨calls, -, -, -, -, untouched⟩ := published rfl
  refine ⟨by decide +kernel, by decide +kernel, by rw [calls]; rfl, by decide +kernel, ?_,
    (aborted rfl).2.1⟩
  refine (untouched ["README.rst"] ?_ (by decide +kernel)).trans (by decide +kernel)
  intro above inside
  rw [← List.mem_inits] at inside
  revert above
  decide +kernel

end Invocation

end RustScribe.Release
