import RustScribe.Proofs.Handover
import RustScribe.Proofs.Publishing

namespace RustScribe.Release

open Project (Path Entry Tree)

def Call.place : Call → Place
  | .setup _ place => place
  | .command _ place _ => place

/-- A command makes no file where it finds a directory. -/
def Call.HasRoom (invocation : Invocation) : Call → Prop
  | .setup _ _ => True
  | .command text _ before => before.HasRoom (invocation.made text)

instance (invocation : Invocation) : DecidablePred (Call.HasRoom invocation)
  | .setup _ _ => .isTrue trivial
  | .command text _ before => inferInstanceAs (Decidable (before.HasRoom (invocation.made text)))

/-- What work comes to in a workspace, one case for each way out. -/
inductive Invocation.Works (invocation : Invocation) (workspace : Workspace) :
    Workspace × Option Fault → Prop
  | idle (imported : invocation.asProgram = false) : Works invocation workspace (workspace, none)
  | published (program : invocation.asProgram = true) (asked : invocation.publishes = true)
      (importable : invocation.importable = true) :
      Works invocation workspace (invocation.publish workspace)
  | givenUp {printed : String} (program : invocation.asProgram = true)
      (asked : invocation.publishes = true) (broken : invocation.importable = false) :
      Works invocation workspace ({ workspace with printed }, none)
  | handedOver {metadata : Metadata} (program : invocation.asProgram = true)
      (quiet : invocation.publishes = false) (described : Describes workspace.tree metadata) :
      Works invocation workspace
        ({ workspace with calls := workspace.calls ++ [.setup metadata workspace.place] }, none)
  | brokenOff {fault : Fault} (program : invocation.asProgram = true)
      (quiet : invocation.publishes = false) (incomplete : Incomplete workspace.tree fault) :
      Works invocation workspace (workspace, some fault)

namespace Invocation

/-- What a run does while it is in the project. -/
def work (invocation : Invocation) : Task :=
  if invocation.asProgram then invocation.task else Task.done

variable {invocation : Invocation} {workspace : Workspace} {outcome : Workspace × Option Fault}

theorem work_works (invocation : Invocation) (workspace : Workspace) :
    invocation.Works workspace (invocation.work workspace) := by
  cases program : invocation.asProgram with
  | false =>
      simp only [work, program, Bool.false_eq_true, if_false]
      exact .idle program
  | true =>
      simp only [work, program, if_true, task]
      cases asked : invocation.publishes with
      | true =>
          cases importable : invocation.importable with
          | true => exact .published program asked importable
          | false => exact .givenUp program asked importable
      | false =>
          simp only [Bool.false_eq_true, if_false]
          cases read : readMetadata workspace.tree with
          | ok metadata =>
              rw [setupTask_of_ok workspace read]
              exact .handedOver program asked (describes_of_readMetadata read)
          | error fault =>
              rw [setupTask_of_error workspace read]
              exact .brokenOff program asked (readMetadata_eq_error_iff.mp read)

theorem run_eq_inProject (invocation : Invocation) (tree : Tree) :
    invocation.run tree = Task.inProject invocation.work (invocation.workspace tree) := by
  cases program : invocation.asProgram with
  | true =>
      have working : invocation.work = invocation.task := by simp only [work, program, if_true]
      simp only [run, program, if_true, working]
  | false =>
      have idle : invocation.work = Task.done := by
        simp only [work, program, Bool.false_eq_true, if_false]
      rw [idle, Task.inProject_of_isIn _ _ (invocation.start_isIn tree)]
      simp only [run, program, Bool.false_eq_true, if_false, Task.done]

theorem Works.place (works : invocation.Works workspace outcome) :
    outcome.1.place = workspace.place := by
  cases works with
  | published => rw [publish_eq]
  | _ => rfl

/-- Calls are made where the work is done. -/
theorem Works.calls_placed (works : invocation.Works workspace outcome)
    (fresh : workspace.calls = []) : ∀ call ∈ outcome.1.calls, call.place = workspace.place := by
  cases works with
  | idle => simp [fresh]
  | published =>
      rw [publish_eq]
      simp [fresh, Call.place]
  | givenUp => simp [fresh]
  | handedOver => simp [fresh, Call.place]
  | brokenOff => simp [fresh]

/-- Only an incomplete project breaks the work off, with what is wrong with it. -/
theorem Works.fault_eq_some_iff (works : invocation.Works workspace outcome) (cause : Fault) :
    outcome.2 = some cause ↔
      invocation.asProgram = true ∧ invocation.publishes = false ∧
        Incomplete workspace.tree cause := by
  cases works with
  | idle imported => simp [imported]
  | published program asked =>
      rw [publish_eq]
      simp [asked]
  | givenUp program asked => simp [asked]
  | handedOver program quiet described =>
      simp [described.complete.not_incomplete]
  | @brokenOff fault program quiet incomplete =>
      have found (other : Fault) : Incomplete workspace.tree other ↔ other = fault := by
        rw [← readMetadata_eq_error_iff, readMetadata_eq_error_iff.mpr incomplete]
        simp [eq_comm]
      simp [program, quiet, found, eq_comm]

/-- Only publishing takes directories away, and only those in what is stale. -/
theorem Works.isDirectory_of_spared (works : invocation.Works workspace outcome)
    (roomy : ∀ call ∈ outcome.1.calls, call.HasRoom invocation) {path : Path}
    (spared : invocation.asProgram = true → invocation.publishes = true →
      invocation.importable = true → ∀ above, above <+: path → ¬ IsStale above)
    (found : workspace.tree.isDirectory path = true) :
    outcome.1.tree.isDirectory path = true := by
  cases works with
  | idle => exact found
  | published program asked importable =>
      rw [publish_eq] at roomy ⊢
      have clear := spared program asked importable
      have source : (workspace.tree.without IsStale).isDirectory path = true :=
        Tree.isDirectory_without_of_clear clear found
      simp only [List.forall_mem_append, List.forall_mem_cons] at roomy
      obtain ⟨-, packs, builds, uploads, -⟩ := roomy
      have uploaded := Tree.isDirectory_addAll
        (Tree.isDirectory_addAll (Tree.isDirectory_addAll source packs) builds) uploads
      exact Tree.isDirectory_without_of_clear
        (fun above inside isArtefact => clear above inside (.inr (.inl isArtefact))) uploaded
  | givenUp => exact found
  | handedOver => exact found
  | brokenOff => exact found

/-- A run makes its calls in the project and ends where it began, with the fault of its work, as
long as that place is there. It is lost only in publishing, at or below what is cleared away, as
long as no command makes a file where a directory stands. -/
theorem comes_back_to_start (invocation : Invocation) (tree : Tree) :
    let found := (invocation.workspace tree).tree
    let after := (invocation.run tree).1
    let fault := (invocation.run tree).2
    (∀ call ∈ after.calls, call.place = .project) ∧
      (after.place = invocation.start ↔ invocation.start.IsIn after.tree) ∧
      (invocation.start.IsIn after.tree → ∀ cause, fault = some cause ↔
        invocation.asProgram = true ∧ invocation.publishes = false ∧ Incomplete found cause) ∧
      (¬ invocation.start.IsIn after.tree →
        ∃ lost, Lost after.tree invocation.start lost ∧ fault = some lost) ∧
      ((∀ call ∈ after.calls, call.HasRoom invocation) → ¬ invocation.start.IsIn after.tree →
        invocation.asProgram = true ∧ invocation.publishes = true ∧
          invocation.importable = true ∧
          ∃ path above, invocation.start = .inside path ∧ above <+: path ∧ IsStale above) := by
  intro found after fault
  let start := invocation.workspace tree
  let worked := invocation.work { start with place := .project }
  have works : invocation.Works { start with place := .project } worked :=
    invocation.work_works _
  have ran : invocation.run tree = Task.inProject invocation.work start :=
    invocation.run_eq_inProject tree
  obtain ⟨reached, left⟩ := Task.inProject_fst invocation.work start
  rw [← ran] at left
  have sameTree : after.tree = worked.1.tree := (congrArg Workspace.tree left :)
  have sameCalls : after.calls = worked.1.calls := (congrArg Workspace.calls left :)
  refine ⟨?_, ?_, ?_, ?_, ?_⟩
  · rw [sameCalls]
    exact works.calls_placed rfl
  · rw [sameTree]
    simp only [after, ran]
    exact Task.inProject_place_iff invocation.work start works.place
  · intro there cause
    rw [sameTree] at there
    have reported : fault = worked.2 := by
      simp only [fault, ran, Task.inProject_of_isIn invocation.work start there, worked]
    rw [reported]
    exact works.fault_eq_some_iff cause
  · intro gone
    rw [sameTree] at gone ⊢
    obtain ⟨lost, why, ended⟩ := Task.inProject_of_not_isIn invocation.work start gone
    exact ⟨lost, why, by simp only [fault, ran, ended]⟩
  · intro roomy gone
    by_contra spared
    refine gone ?_
    rw [sameCalls] at roomy
    have began : invocation.start.IsIn found := invocation.start_isIn tree
    cases home : invocation.start with
    | outside => trivial
    | inside path =>
        rw [home] at began
        refine began.imp_right fun directory => ?_
        rw [sameTree]
        refine works.isDirectory_of_spared roomy ?_ directory
        intro program asked importable above inside stale
        exact spared ⟨program, asked, importable, path, above, home, inside, stale⟩

/-- Three runs that begin in the project: in a cache that is cleared away and made again, in an
artefact directory that is lost, and in a library without a version module. -/
theorem comes_back_to_start_unless_cleared :
    let project := Tree.ofFiles [(readmePath, .file (Text.Utf8.encode "Scribe")),
      ([libraryDirectory, "writer.py"], .file []), (["dist", "old.whl"], .file [])]
    let remade : Invocation := {
      arguments := ["setup.py", "pypi"], start := .inside [libraryDirectory, cacheName, "deep"]
      makes := [("python3 setup.py sdist",
        [([libraryDirectory, cacheName, "deep", "writer.pyc"], .file [1])])] }
    let lost := { remade with start := .inside ["dist"] }
    let broken : Invocation := { arguments := [], start := .inside [libraryDirectory] }
    (remade.run project).1.place = remade.start ∧
      (∃ path above, lost.start = .inside path ∧ above <+: path ∧ IsStale above) ∧
      (lost.run project).1.place ≠ lost.start ∧
      (lost.run project).2 = some (.missing ["dist"]) ∧
      (broken.run project).1.place = broken.start ∧
      (broken.run project).2 = some (.missing versionPath) := by
  intro project remade lost broken
  obtain ⟨-, back, -, -, -⟩ := comes_back_to_start remade project
  obtain ⟨-, away, -, reported, cleared⟩ := comes_back_to_start lost project
  obtain ⟨-, home, faults, -, -⟩ := comes_back_to_start broken project
  have gone : ¬ lost.start.IsIn (lost.run project).1.tree := by
    rintro (top | directory)
    · contradiction
    · revert directory
      decide +kernel
  have there : broken.start.IsIn (broken.run project).1.tree := .inr (by decide +kernel)
  obtain ⟨fault, why, ended⟩ := reported gone
  refine ⟨back.mpr (.inr (by decide +kernel)), ?_, fun same => gone (away.mp same), ?_,
    home.mpr there, ?_⟩
  · obtain ⟨-, -, -, below⟩ := cleared (by decide +kernel) gone
    exact below
  · rw [ended]
    cases (why : Lost _ (.inside ["dist"]) fault) with
    | missing => rfl
    | notDirectory onTheWay file =>
        cases List.mem_singleton.mp onTheWay
        revert file
        decide +kernel
  · have read : Holds (broken.workspace project).tree readmePath "Scribe" := by
      unfold Holds
      decide +kernel
    have absent : Unreadable (broken.workspace project).tree versionPath (.missing versionPath) :=
      .missing (by decide +kernel) (by decide +kernel)
    exact (faults there _).mpr ⟨rfl, rfl, .version read (.unreadable absent)⟩

end Invocation

end RustScribe.Release
