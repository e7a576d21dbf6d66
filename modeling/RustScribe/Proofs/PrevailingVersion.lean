import RustScribe.Proofs.Handover

namespace RustScribe.Release

open Project (Path Tree)
open Text (isBlank)

variable {chars before value : List Char} {assignment first second : Assignment}

/-- An assignment behind some part of a text, from the start of a line to the end of a line. -/
structure AssignsBehind (chars before : List Char) (assignment : Assignment) : Prop where
  cut : ∃ after, chars = before ++ (assignment.text ++ after) ∧ ∀ char ∈ after.head?, char = '\n'
  lineStart : ∀ char ∈ before.getLast?, char = '\n'
  wellFormed : assignment.WellFormed

/-- The assignment that counts: none begins before it, and none that begins where it does has a
longer value. -/
structure Prevails (chars before : List Char) (assignment : Assignment) : Prop where
  assigns : AssignsBehind chars before assignment
  first : ∀ earlier other, AssignsBehind chars earlier other → before.length ≤ earlier.length
  longest : ∀ other, AssignsBehind chars before other →
    other.value.length ≤ assignment.value.length

/-- A text is cut in one way at the end of a run of characters of some kind. -/
theorem cut_unique {holds : Char → Bool} {left other rest others : List Char}
    (inside : ∀ char ∈ left, holds char = true) (stop : ∀ char ∈ rest.head?, holds char = false)
    (otherInside : ∀ char ∈ other, holds char = true)
    (otherStop : ∀ char ∈ others.head?, holds char = false)
    (same : left ++ rest = other ++ others) : left = other ∧ rest = others := by
  have runs : left = other := by
    rw [← takeWhile_append_eq_left inside stop, same,
      takeWhile_append_eq_left otherInside otherStop]
  subst runs
  exact ⟨rfl, List.append_cancel_left same⟩

/-- All readings of a place agree up to the first quote, and on the line from there on. -/
theorem AssignsBehind.parts_eq (left : AssignsBehind chars before first)
    (right : AssignsBehind chars before second) :
    first.beforeSign = second.beforeSign ∧ first.afterSign = second.afterSign ∧
      first.opening = second.opening ∧ first.line = second.line := by
  obtain ⟨after, cut, lineEnd⟩ := left.cut
  obtain ⟨others, otherCut, otherLineEnd⟩ := right.cut
  have same : first.beforeSign ++ '=' :: (first.afterSign ++ first.opening ::
      (first.line ++ after)) = second.beforeSign ++ '=' :: (second.afterSign ++
        second.opening :: (second.line ++ others)) := by
    have texts := List.append_cancel_left (cut.symm.trans otherCut)
    simpa [Assignment.text, Assignment.line] using texts
  have signStops {rest : List Char} : ∀ char ∈ ('=' :: rest).head?, isBlank char = false := by
    simp only [List.head?_cons, Option.mem_some_iff, forall_eq']
    decide
  have quoteStops {quote : Char} {rest : List Char} (isQuoted : isQuote quote = true) :
      ∀ char ∈ (quote :: rest).head?, isBlank char = false := by
    simpa using not_isBlank_of_isQuote isQuoted
  obtain ⟨beforeSign, fromSign⟩ :=
    cut_unique left.wellFormed.beforeSign signStops right.wellFormed.beforeSign signStops same
  obtain ⟨afterSign, fromQuote⟩ :=
    cut_unique left.wellFormed.afterSign (quoteStops left.wellFormed.opening)
      right.wellFormed.afterSign (quoteStops right.wellFormed.opening) (List.cons.inj fromSign).2
  obtain ⟨opening, fromValue⟩ := List.cons.inj fromQuote
  have onLine {assignment : Assignment} (wellFormed : assignment.WellFormed) :
      ∀ char ∈ assignment.line, (char != '\n') = true := by
    intro char member
    rw [bne_iff_ne]
    rintro rfl
    exact wellFormed.line_unbroken member
  have lineStops {rest : List Char} (lineEnd : ∀ char ∈ rest.head?, char = '\n') :
      ∀ char ∈ rest.head?, (char != '\n') = false := by
    intro char head
    simp [lineEnd char head]
  obtain ⟨line, -⟩ := cut_unique (onLine left.wellFormed) (lineStops lineEnd)
    (onLine right.wellFormed) (lineStops otherLineEnd) fromValue
  exact ⟨beforeSign, afterSign, opening, line⟩

/-- The same place, with a value that another quote on its line ends. -/
theorem AssignsBehind.read_again (assigns : AssignsBehind chars before assignment)
    {closing : Char} {remainder : List Char}
    (line : assignment.line = value ++ closing :: remainder) (isClosing : isQuote closing = true) :
    AssignsBehind chars before { assignment with value, closing, remainder } := by
  obtain ⟨after, cut, lineEnd⟩ := assigns.cut
  have unbroken := assigns.wellFormed.line_unbroken
  rw [line, List.mem_append, List.mem_cons, not_or, not_or] at unbroken
  refine ⟨⟨after, ?_, lineEnd⟩, assigns.lineStart, ?_⟩
  · have sameText : ({ assignment with value, closing, remainder } : Assignment).text =
        assignment.text := by
      unfold Assignment.line at line
      simp only [Assignment.text, line]
    rw [sameText]
    exact cut
  · exact { assigns.wellFormed with
      closing := isClosing, value := unbroken.1, remainder := unbroken.2.2 }

/-- The value that counts reaches to the last quote on its line. -/
theorem Prevails.remainder_unquoted (prevails : Prevails chars before assignment) :
    ∀ char ∈ assignment.remainder, isQuote char = false := by
  intro char member
  rw [← Bool.not_eq_true]
  intro quote
  obtain ⟨between, remainder, cut⟩ := List.append_of_mem member
  have line : assignment.line =
      (assignment.value ++ assignment.closing :: between) ++ char :: remainder := by
    simp [Assignment.line, cut]
  have longer := prevails.longest _ (prevails.assigns.read_again line quote)
  simp only [List.length_append, List.length_cons] at longer
  omega

theorem AssignsBehind.assigned? (assigns : AssignsBehind chars before assignment) :
    ∃ rest, chars = before ++ rest ∧ assigned? rest = beforeLastQuote assignment.line ∧
      lineStartAfter true before = true := by
  obtain ⟨after, cut, lineEnd⟩ := assigns.cut
  exact ⟨assignment.text ++ after, cut, assigned?_text assigns.wellFormed lineEnd,
    (lineStartAfter_iff true before).mpr ⟨fun _ => rfl, assigns.lineStart⟩⟩

theorem AssignsBehind.assigns (behind : AssignsBehind chars before assignment) :
    Assigns chars assignment := by
  obtain ⟨after, cut, lineEnd⟩ := behind.cut
  exact ⟨⟨before, after, cut, behind.lineStart, lineEnd⟩, behind.wellFormed⟩

theorem exists_behind_of_assigns (assigns : Assigns chars assignment) :
    ∃ before, AssignsBehind chars before assignment := by
  obtain ⟨before, after, cut, lineStart, lineEnd⟩ := assigns.cut
  exact ⟨before, ⟨after, cut, lineEnd⟩, lineStart, assigns.wellFormed⟩

/-- No value on a line is longer than the one before its last quote. -/
theorem length_le_of_beforeLastQuote {quote : Char} {other rest : List Char}
    (found : beforeLastQuote (other ++ quote :: rest) = some value)
    (isQuoted : isQuote quote = true) : other.length ≤ value.length := by
  induction other generalizing value with
  | nil => exact Nat.zero_le _
  | cons char other ih =>
      cases later : beforeLastQuote (other ++ quote :: rest) with
      | none => exact absurd (beforeLastQuote_eq_none_iff.mp later) (not_unquoted isQuoted)
      | some inner =>
          simp only [List.cons_append, beforeLastQuote, later, Option.some.injEq] at found
          rw [← found]
          exact Nat.succ_le_succ (ih later)

/-- What is found is the value of the assignment that counts. -/
theorem prevails_of_findVersion (found : findVersion chars = some value) :
    ∃ before assignment, assignment.value = value ∧ Prevails chars before assignment := by
  obtain ⟨before, rest, rfl, start, assigned, first⟩ := findVersionFrom_eq_some found
  obtain ⟨assignment, valued, wellFormed, after, rfl, lineEnd⟩ := exists_assignment assigned
  refine ⟨before, assignment, valued,
    ⟨⟨after, rfl, lineEnd⟩, ((lineStartAfter_iff _ _).mp start).2, wellFormed⟩, ?_, ?_⟩
  · intro earlier other behind
    by_contra shorter
    obtain ⟨later, cut, assignedLater, startLater⟩ := behind.assigned?
    have unassigned := first earlier later cut startLater (Nat.lt_of_not_le shorter)
    rw [assignedLater, beforeLastQuote_eq_none_iff] at unassigned
    exact not_unquoted behind.wellFormed.closing unassigned
  · intro other behind
    obtain ⟨rest, cut, assignedHere, -⟩ := behind.assigned?
    rw [← List.append_cancel_left cut, assigned] at assignedHere
    rw [valued]
    exact length_le_of_beforeLastQuote assignedHere.symm behind.wellFormed.closing

/-- The places of two assignments that count are one place, and their values one value. -/
theorem Prevails.value_unique {other : List Char} (left : Prevails chars before first)
    (right : Prevails chars other second) : first.value = second.value := by
  obtain ⟨rest, cut, -⟩ := left.assigns.assigned?
  obtain ⟨others, otherCut, -⟩ := right.assigns.assigned?
  have places : before = other := by
    have lengths : before.length = other.length :=
      Nat.le_antisymm (left.first _ _ right.assigns) (right.first _ _ left.assigns)
    exact (List.append_inj (cut.symm.trans otherCut) lengths).1
  subst places
  obtain ⟨-, -, -, line⟩ := left.assigns.parts_eq right.assigns
  have values : first.value.length = second.value.length :=
    Nat.le_antisymm (right.longest _ left.assigns) (left.longest _ right.assigns)
  exact (List.append_inj line values).1

theorem Prevails.findVersion (prevails : Prevails chars before assignment) :
    findVersion chars = some assignment.value := by
  cases found : Release.findVersion chars with
  | none => exact absurd prevails.assigns.assigns (findVersion_eq_none_iff.mp found assignment)
  | some value =>
      obtain ⟨place, other, rfl, counts⟩ := prevails_of_findVersion found
      rw [counts.value_unique prevails]

theorem exists_prevails (behind : AssignsBehind chars before assignment) :
    ∃ place other, Prevails chars place other := by
  cases found : findVersion chars with
  | none => exact absurd behind.assigns (findVersion_eq_none_iff.mp found assignment)
  | some value =>
      obtain ⟨place, other, -, prevails⟩ := prevails_of_findVersion found
      exact ⟨place, other, prevails⟩

namespace Invocation

/-- A project that can be read is handed over with the value of the assignment that counts, up to
the last quote on its line, and without an assignment not at all. All readings of a place agree on
what comes before the value. -/
theorem hands_over_prevailing_version (invocation : Invocation) (tree : Tree)
    (program : invocation.asProgram = true) (quiet : invocation.arguments[1]? ≠ some "pypi")
    {readme source : String} (read : Holds (invocation.workspace tree).tree readmePath readme)
    (versioned : Holds (invocation.workspace tree).tree versionPath source) :
    let chars := Text.unifyNewlines source.toList
    let calls := (invocation.run tree).1.calls
    let fault := (invocation.run tree).2
    (∀ before assignment, Prevails chars before assignment →
      (∃ metadata, calls = [.setup metadata .project] ∧
        metadata.version = String.ofList assignment.value) ∧
      fault = none ∧ ∀ char ∈ assignment.remainder, isQuote char = false) ∧
    ((∃ before assignment, AssignsBehind chars before assignment) →
      ∃ before assignment, Prevails chars before assignment) ∧
    ((∀ before assignment, ¬ AssignsBehind chars before assignment) →
      calls = [] ∧ fault = some .unversioned) ∧
    (∀ before first second, AssignsBehind chars before first → AssignsBehind chars before second →
      first.beforeSign = second.beforeSign ∧ first.afterSign = second.afterSign ∧
        first.opening = second.opening) := by
  intro chars calls fault
  refine ⟨?_, ?_, ?_, ?_⟩
  · intro before assignment prevails
    obtain ⟨metadata, handed, passed, carries⟩ :=
      invocation.run_of_version tree program quiet read versioned prevails.findVersion
    exact ⟨⟨metadata, handed, carries.version⟩, passed, prevails.remainder_unquoted⟩
  · rintro ⟨before, assignment, behind⟩
    exact exists_prevails behind
  · intro unassigned
    have versionless : ∀ assignment, ¬ Assigns chars assignment := by
      intro assignment assigns
      obtain ⟨before, behind⟩ := exists_behind_of_assigns assigns
      exact unassigned before assignment behind
    exact invocation.run_of_incomplete tree program quiet
      (.version read (.unassigned versioned versionless))
  · intro before first second left right
    obtain ⟨beforeSign, afterSign, opening, -⟩ := left.parts_eq right
    exact ⟨beforeSign, afterSign, opening⟩

/-- A version module with three candidates, of which the first has no value and the second has
its sign on the next line and a second quote behind its value; and one without any. -/
theorem hands_over_prevailing_version_of_three :
    let source := "__version__ = 1\r\n__version__\r\n = '0.1\" # or 'x\r__version__ = '2'\n"
    let project := Tree.ofFiles [(readmePath, .file (Text.Utf8.encode "Scribe\r\n")),
      (versionPath, .file (Text.Utf8.encode source))]
    let bare := project.put versionPath (.file (Text.Utf8.encode " __version__ = '1'\n"))
    let invocation : Invocation := { arguments := ["setup.py"] }
    (∃ metadata, (invocation.run project).1.calls = [.setup metadata .project] ∧
        metadata.version = "0.1\" # or ") ∧
      (invocation.run bare).1.calls = [] ∧ (invocation.run bare).2 = some .unversioned := by
  intro source project bare invocation
  have read : Holds (invocation.workspace project).tree readmePath "Scribe\r\n" := by
    unfold Holds
    decide +kernel
  have versioned : Holds (invocation.workspace project).tree versionPath source := by
    unfold Holds
    decide +kernel
  have bareRead : Holds (invocation.workspace bare).tree readmePath "Scribe\r\n" := by
    unfold Holds
    decide +kernel
  have bareVersioned : Holds (invocation.workspace bare).tree versionPath
      " __version__ = '1'\n" := by
    unfold Holds
    decide +kernel
  obtain ⟨counted, -, -, -⟩ :=
    hands_over_prevailing_version invocation project rfl (by decide) read versioned
  obtain ⟨-, -, missed, -⟩ :=
    hands_over_prevailing_version invocation bare rfl (by decide) bareRead bareVersioned
  have found : findVersion (Text.unifyNewlines source.toList) = some "0.1\" # or ".toList := by
    decide +kernel
  obtain ⟨before, assignment, valued, prevails⟩ := prevails_of_findVersion found
  have unfound : findVersion (Text.unifyNewlines " __version__ = '1'\n".toList) = none := by
    decide +kernel
  refine ⟨?_, missed fun before assignment behind => ?_⟩
  · obtain ⟨⟨metadata, calls, version⟩, -⟩ := counted before assignment prevails
    exact ⟨metadata, calls, version.trans (by rw [valued]; rfl)⟩
  · exact findVersion_eq_none_iff.mp unfound assignment behind.assigns

end Invocation

end RustScribe.Release
