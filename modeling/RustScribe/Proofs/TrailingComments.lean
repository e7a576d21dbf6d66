import RustScribe.Proofs.PrevailingVersion
import RustScribe.Proofs.TextLines

namespace RustScribe.Release

open Project (Path Tree)
open Text (isBlank)

/-- Nothing but white space up to the end of the line, or up to a comment. -/
def IsTrailing (rest : List Char) : Prop :=
  '\n' ∉ rest ∧ ∀ char ∈ (rest.dropWhile isBlank).head?, char = '#'

/-- A version module with one line that assigns the version between two equal quotes. -/
structure VersionModule where
  before : List Char
  mark : Char
  value : List Char
  rest : List Char
  further : List Char
  isMark : isQuote mark = true
  plain : ∀ char ∈ value, isQuote char = false ∧ char ≠ '\n'
  lineStart : ∀ char ∈ before.getLast?, char = '\n'
  unassigned : ∀ line ∈ Text.cutLines before, ¬ versionName <+: line
  trailing : IsTrailing rest
  lineEnd : ∀ char ∈ further.head?, char = '\n'

namespace VersionModule

variable (source : VersionModule)

def text : List Char :=
  source.before ++ (versionName ++ ' ' :: '=' :: ' ' :: source.mark :: (source.value ++
    source.mark :: (source.rest ++ source.further)))

/-- The reading of the line that takes the value as it stands. -/
def assignment : Assignment where
  beforeSign := [' ']
  afterSign := [' ']
  opening := source.mark
  value := source.value
  closing := source.mark
  remainder := source.rest

theorem assignment_wellFormed : source.assignment.WellFormed where
  beforeSign := by simp [assignment, Text.isBlank]
  afterSign := by simp [assignment, Text.isBlank]
  opening := source.isMark
  closing := source.isMark
  value := fun member => (source.plain _ member).2 rfl
  remainder := source.trailing.1

theorem assignsBehind : AssignsBehind source.text source.before source.assignment where
  cut := by
    refine ⟨source.further, ?_, source.lineEnd⟩
    simp [text, assignment, Assignment.text]
  lineStart := source.lineStart
  wellFormed := source.assignment_wellFormed

/-- No assignment begins before the line. -/
theorem length_le_of_assignsBehind {place : List Char} {other : Assignment}
    (behind : AssignsBehind source.text place other) : source.before.length ≤ place.length := by
  by_contra shorter
  obtain ⟨after, cut, -⟩ := behind.cut
  have within : place <+: source.before := by
    refine List.prefix_of_prefix_length_le ⟨_, cut.symm⟩ ⟨_, rfl⟩ ?_
    exact Nat.le_of_lt (Nat.lt_of_not_le shorter)
  obtain ⟨tail, whole⟩ := within
  have nonempty : tail ≠ [] := by
    rintro rfl
    rw [← whole, List.append_nil] at shorter
    exact shorter (Nat.le_refl _)
  -- What is left of the lines before ends in a line feed, so the name cannot reach beyond it.
  have ended : '\n' ∈ tail := by
    have last := List.getLast_mem nonempty
    have lastOfAll : source.before.getLast? = some (tail.getLast nonempty) := by
      rw [← whole, List.getLast?_append_of_ne_nil _ nonempty, List.getLast?_eq_some_getLast]
    rwa [source.lineStart _ lastOfAll] at last
  have unbroken : '\n' ∉ versionName := by decide
  have inTail : versionName <+: tail := by
    have left : versionName <+: other.text ++ after := by
      rw [Assignment.text, List.append_assoc]
      exact List.prefix_append _ _
    have right : tail <+: other.text ++ after := by
      rw [text, ← whole, List.append_assoc] at cut
      exact ⟨_, List.append_cancel_left cut⟩
    rcases List.prefix_or_prefix_of_prefix left right with inside | beyond
    · exact inside
    · exact absurd (beyond.subset ended) unbroken
  obtain ⟨later, rfl⟩ := inTail
  obtain ⟨line, isLine, named⟩ :=
    Text.exists_line_of_lineStart later behind.lineStart (by decide) unbroken
  rw [whole] at isLine
  exact source.unassigned line isLine named

/-- The version that is found is read off the line of the assignment. -/
theorem findVersion_text : findVersion source.text = beforeLastQuote source.assignment.line := by
  obtain ⟨place, other, prevails⟩ := exists_prevails source.assignsBehind
  have same : place = source.before := by
    obtain ⟨after, cut, -⟩ := prevails.assigns.cut
    have lengths : place.length = source.before.length :=
      Nat.le_antisymm (prevails.first _ _ source.assignsBehind)
        (source.length_le_of_assignsBehind prevails.assigns)
    exact (List.append_inj cut.symm lengths).1
  subst same
  obtain ⟨-, -, -, line⟩ := prevails.assigns.parts_eq source.assignsBehind
  rw [prevails.findVersion, ← line, Assignment.line, beforeLastQuote_append_cons _
    prevails.assigns.wellFormed.closing prevails.remainder_unquoted]

theorem findVersion_of_unquoted (unquoted : ∀ char ∈ source.rest, isQuote char = false) :
    findVersion source.text = some source.value := by
  rw [findVersion_text]
  exact beforeLastQuote_append_cons source.value source.isMark unquoted

theorem findVersion_of_quoted {overrun remainder : List Char} {closing : Char}
    (cut : source.rest = overrun ++ closing :: remainder) (isClosing : isQuote closing = true)
    (last : ∀ char ∈ remainder, isQuote char = false) :
    findVersion source.text = some (source.value ++ source.mark :: overrun) := by
  have line : source.assignment.line =
      (source.value ++ source.mark :: overrun) ++ closing :: remainder := by
    simp [Assignment.line, assignment, cut]
  rw [findVersion_text, line]
  exact beforeLastQuote_append_cons _ isClosing last

/-- What follows the value has no quote, or a last one. -/
theorem unquoted_or_last (rest : List Char) :
    (∀ char ∈ rest, isQuote char = false) ∨
      ∃ overrun closing remainder, rest = overrun ++ closing :: remainder ∧
        isQuote closing = true ∧ ∀ char ∈ remainder, isQuote char = false := by
  cases found : beforeLastQuote rest with
  | none => exact .inl (beforeLastQuote_eq_none_iff.mp found)
  | some overrun =>
      obtain ⟨closing, remainder, cut, isClosing, last⟩ := beforeLastQuote_eq_some_iff.mp found
      exact .inr ⟨overrun, closing, remainder, cut, isClosing, last⟩

end VersionModule

namespace Invocation

/-- The value of an ordinary version module is handed over as it stands just if what follows it on
its line has no quote; otherwise it runs on over the quote that ends it, up to the last one. -/
theorem keeps_value_iff_unquoted (invocation : Invocation) (tree : Tree)
    (program : invocation.asProgram = true) (quiet : invocation.arguments[1]? ≠ some "pypi")
    (source : VersionModule) (feeds : '\r' ∉ source.text) {readme : String}
    (read : Holds (invocation.workspace tree).tree readmePath readme)
    (versioned : Holds (invocation.workspace tree).tree versionPath
      (String.ofList source.text)) :
    ∃ metadata,
      (invocation.run tree).1.calls = [.setup metadata .project] ∧
      (invocation.run tree).2 = none ∧
      (metadata.version = String.ofList source.value ↔
        ∀ char ∈ source.rest, isQuote char = false) ∧
      ∀ overrun closing remainder, source.rest = overrun ++ closing :: remainder →
        isQuote closing = true → (∀ char ∈ remainder, isQuote char = false) →
        metadata.version = String.ofList (source.value ++ source.mark :: overrun) := by
  have reading : Text.unifyNewlines (String.ofList source.text).toList = source.text := by
    rw [String.toList_ofList, Text.unifyNewlines_eq_self feeds]
  have handed {value : List Char} (found : findVersion source.text = some value) :=
    invocation.run_of_version tree program quiet read versioned (reading.symm ▸ found)
  rcases VersionModule.unquoted_or_last source.rest with
    unquoted | ⟨overrun, closing, remainder, cut, isClosing, last⟩
  · obtain ⟨metadata, called, passed, carries⟩ := handed (source.findVersion_of_unquoted unquoted)
    refine ⟨metadata, called, passed, iff_of_true carries.version unquoted, ?_⟩
    intro overrun closing remainder cut isClosing
    rw [cut] at unquoted
    exact absurd unquoted (not_unquoted isClosing)
  · have found := source.findVersion_of_quoted cut isClosing last
    obtain ⟨metadata, called, passed, carries⟩ := handed found
    refine ⟨metadata, called, passed, ?_, ?_⟩
    · have longer : String.ofList (source.value ++ source.mark :: overrun) ≠
          String.ofList source.value := by
        intro same
        have lengths := congrArg String.length same
        simp at lengths
      rw [carries.version, cut]
      exact iff_of_false longer (not_unquoted isClosing)
    · intro others other rest otherCut isOther otherLast
      have alsoFound := source.findVersion_of_quoted otherCut isOther otherLast
      rw [found, Option.some.injEq] at alsoFound
      rw [carries.version, alsoFound]

/-- A module with a harmless comment, and one whose comment quotes the other way. -/
theorem keeps_value_iff_unquoted_in_modules :
    let harmless := "# Versions\n__version__ = \"0.1.0\"  # the first\n__version__ = '2'\n"
    let quoting := "# Versions\n__version__ = \"0.1.0\"\t# not '0.2' yet\n"
    let project (text : String) : Tree :=
      Tree.ofFiles [(readmePath, .file (Text.Utf8.encode "Scribe")),
        (versionPath, .file (Text.Utf8.encode text))]
    let invocation : Invocation := { arguments := [] }
    (∃ source : VersionModule, String.ofList source.text = harmless) ∧
      (∃ metadata, (invocation.run (project harmless)).1.calls = [.setup metadata .project] ∧
        metadata.version = "0.1.0") ∧
      (∃ source : VersionModule, String.ofList source.text = quoting) ∧
      ∃ metadata, (invocation.run (project quoting)).1.calls = [.setup metadata .project] ∧
        metadata.version = "0.1.0\"\t# not '0.2" := by
  intro harmless quoting project invocation
  let plain : VersionModule := {
    before := "# Versions\n".toList, mark := '\x22', value := "0.1.0".toList
    rest := "  # the first".toList, further := "\n__version__ = '2'\n".toList
    isMark := by decide, plain := by simp [isQuote], lineStart := by simp
    unassigned := by decide, trailing := by simp [IsTrailing, isBlank], lineEnd := by simp }
  let commented : VersionModule := {
    plain with
    rest := "\t# not '0.2' yet".toList, further := ['\n']
    trailing := by simp [IsTrailing, isBlank], lineEnd := by simp }
  have read (text : String) :
      Holds (invocation.workspace (project text)).tree readmePath "Scribe" := by
    unfold Holds
    rfl
  have versioned (text : String) :
      Holds (invocation.workspace (project text)).tree versionPath text := by
    unfold Holds
    rfl
  obtain ⟨metadata, called, -, kept, -⟩ :=
    keeps_value_iff_unquoted invocation (project harmless) rfl (by decide) plain
      (by decide +kernel) (read harmless) (versioned harmless)
  obtain ⟨other, otherCalled, -, -, overrun⟩ :=
    keeps_value_iff_unquoted invocation (project quoting) rfl (by decide) commented
      (by decide +kernel) (read quoting) (versioned quoting)
  have unquoted : metadata.version = "0.1.0" := kept.mpr (by simp [plain, isQuote])
  have overran : other.version = "0.1.0\"\t# not '0.2" :=
    overrun "\t# not '0.2".toList '\x27' " yet".toList (by decide) (by decide) (by simp [isQuote])
  exact ⟨⟨plain, by decide⟩, ⟨metadata, called, unquoted⟩, ⟨commented, by decide⟩, other,
    otherCalled, overran⟩

/-- A comment with an apostrophe in it, behind a value between apostrophes. -/
theorem comment_overruns_value :
    let text := "__version__ = '1' # it's"
    let project := Tree.ofFiles [(readmePath, .file (Text.Utf8.encode "Title\n")),
      (versionPath, .file (Text.Utf8.encode text))]
    let invocation : Invocation := { arguments := ["setup.py", "install"] }
    ∃ source : VersionModule, String.ofList source.text = text ∧
      ∃ metadata, (invocation.run project).1.calls = [.setup metadata .project] ∧
        metadata.version = "1' # it" ∧ metadata.version ≠ String.ofList source.value := by
  intro text project invocation
  let source : VersionModule := {
    before := [], mark := '\x27', value := ['1'], rest := " # it's".toList, further := []
    isMark := by decide, plain := by simp [isQuote], lineStart := by simp
    unassigned := by decide, trailing := by simp [IsTrailing, isBlank], lineEnd := by simp }
  exact ⟨source, by decide, .ofProject "1' # it" "Title\n" [], by decide +kernel, rfl, by decide⟩

end Invocation

end RustScribe.Release
