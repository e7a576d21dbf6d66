import RustScribe.Proofs.Lineage
import RustScribe.Proofs.Listing

namespace RustScribe

namespace Text

/-- How many comment markers a text starts with, and what follows them. -/
def cutMarkers : List Char → Nat × List Char
  | '/' :: '/' :: ' ' :: rest => ((cutMarkers rest).1 + 1, (cutMarkers rest).2)
  | chars => (0, chars)

def leadingSpaces (chars : List Char) : Nat :=
  (chars.takeWhile (· == ' ')).length

theorem cutMarkers_marker (rest : List Char) :
    cutMarkers (commentMarker.toList ++ rest) = ((cutMarkers rest).1 + 1, (cutMarkers rest).2) :=
  rfl

theorem cutMarkers_of_unmarked {chars : List Char} (unmarked : ¬ commentMarker.toList <+: chars) :
    cutMarkers chars = (0, chars) := by
  unfold cutMarkers
  split
  · next rest => exact absurd ⟨rest, rfl⟩ unmarked
  · rfl

theorem cutMarkers_repeated (count : Nat) {rest : List Char}
    (unmarked : ¬ commentMarker.toList <+: rest) :
    cutMarkers ((repeated commentMarker count).toList ++ rest) = (count, rest) := by
  induction count with
  | zero => simpa [repeated] using cutMarkers_of_unmarked unmarked
  | succ count ih =>
      rw [repeated, String.toList_append, List.append_assoc, cutMarkers_marker, ih]

theorem leadingSpaces_repeated (units : Nat) (rest : List Char) :
    leadingSpaces ((repeated indentUnit units).toList ++ rest) =
      units * indentUnit.length + leadingSpaces rest := by
  have unit (chars : List Char) : leadingSpaces (indentUnit.toList ++ chars) =
      indentUnit.length + leadingSpaces chars := by
    have spaces : ∀ char ∈ indentUnit.toList, (char == ' ') = true :=
      List.all_eq_true.mp (by decide)
    rw [leadingSpaces, List.takeWhile_append_of_pos spaces, List.length_append,
      String.length_toList, leadingSpaces]
  induction units with
  | zero => simp [repeated]
  | succ units ih =>
      rw [repeated, String.toList_append, List.append_assoc, unit, ih, Nat.succ_mul]
      omega

end Text

open Text

/-- A line with fewer spaces at its start than a unit of indentation has, and no comment
marker there. -/
structure Legible (line : String) : Prop where
  written : line ≠ ""
  shallow : leadingSpaces line.toList < indentUnit.length
  unmarked : ¬ commentMarker.toList <+: line.toList

/-- Indentation keeps what follows it from being taken for a comment marker. -/
theorem Legible.unmarked_indented {line : String} (legible : Legible line) (units : Nat) :
    ¬ commentMarker.toList <+: (repeated indentUnit units).toList ++ line.toList := by
  cases units with
  | zero => simpa [repeated] using legible.unmarked
  | succ units =>
      rintro ⟨rest, same⟩
      have slash := congrArg List.head? same
      simp [repeated, commentMarker, indentUnit] at slash

namespace Placed

/-- What the text of a line tells of it, its writer taken to descend from a bare one. -/
def ofText (text : String) : Placed :=
  let (comments, indented) := cutMarkers text.toList.dropLast
  let units := leadingSpaces indented / indentUnit.length
  { place := { origin := "", comments, units }
    line := String.ofList (indented.drop (units * indentUnit.length)) }

theorem toList_text {placed : Placed} (bare : placed.place.origin = "")
    (written : placed.line ≠ "") :
    placed.text.toList = (repeated commentMarker placed.place.comments).toList ++
      ((repeated indentUnit placed.place.units).toList ++ placed.line.toList) ++ ['\n'] := by
  rw [text, Margin.render_of_ne written, margin, Place.margin, bare]
  simp

theorem ofText_text {placed : Placed} (bare : placed.place.origin = "")
    (legible : Legible placed.line) : ofText placed.text = placed := by
  obtain ⟨⟨origin, comments, units⟩, line⟩ := placed
  obtain rfl : origin = "" := bare
  have cut := cutMarkers_repeated comments (legible.unmarked_indented units)
  have counted : leadingSpaces ((repeated indentUnit units).toList ++ line.toList) /
      indentUnit.length = units := by
    rw [leadingSpaces_repeated, Nat.add_comm, Nat.add_mul_div_right _ _ (by decide),
      Nat.div_eq_of_lt legible.shallow, Nat.zero_add]
  have rest : ((repeated indentUnit units).toList ++ line.toList).drop
      (units * indentUnit.length) = line.toList := by
    rw [← length_repeated, ← String.length_toList, List.drop_left]
  rw [ofText, toList_text rfl legible.written, List.dropLast_concat, cut]
  simp only [counted, rest, String.ofList_toList]

end Placed

namespace Lineage

/-- A line that a writer with a lineage is asked for. -/
def placed (writer : Lineage) (line : String) : Placed where
  place := writer.place
  line := line

theorem text_placed (writer : Lineage) (line : String) :
    (writer.placed line).text = writer.margin.render line :=
  congrArg (Margin.render · line) writer.margin_eq_place.symm

theorem ofText_render {writer : Lineage} (bare : writer.origin = "") {line : String}
    (legible : Legible line) :
    Placed.ofText (writer.margin.render line) = writer.placed line := by
  rw [← text_placed]
  exact Placed.ofText_text bare legible

end Lineage

/-- The text of a legible line gives back the line, and how many comments and units its writer is
in, if that descends from a bare one; and in every run each text is that of a writer with its own
lineage. -/
theorem texts_tell_depth :
    (∀ (path : List Scope) (line : String), Legible line →
      Placed.ofText ((Lineage.descend "" path).render line) =
        { place := {
            origin := "", comments := path.count .commented, units := Scope.unitsAlong path }
          line }) ∧
    (∀ (path other : List Scope) (line otherLine : String), Legible line → Legible otherLine →
      (Lineage.descend "" path).render line = (Lineage.descend "" other).render otherLine →
      path.count .commented = other.count .commented ∧
        Scope.unitsAlong path = Scope.unitsAlong other ∧ line = otherLine) ∧
    ∀ (script : Script) (nest : Nest Lineage) (sink : Sink),
      let outcome := script.run (nest.map Lineage.margin) sink
      outcome.offered = (outcome.asked.map fun (margin, line) => margin.render line) ∧
      ∀ margin line, (margin, line) ∈ outcome.asked →
        ∃ writer, ⟨writer, some line⟩ ∈ script.uses nest ∧ writer.margin = margin ∧
          (writer.origin = "" → Legible line →
            Placed.ofText (margin.render line) = { place := writer.place, line }) := by
  have read (path : List Scope) {line : String} (legible : Legible line) :
      Placed.ofText ((Lineage.descend "" path).render line) = Lineage.placed ⟨"", path⟩ line :=
    @Lineage.ofText_render ⟨"", path⟩ rfl line legible
  refine ⟨fun path line legible => read path legible, ?_, ?_⟩
  · intro path other line otherLine legible otherLegible same
    have both : Lineage.placed ⟨"", path⟩ line = Lineage.placed ⟨"", other⟩ otherLine := by
      rw [← read path legible, same, read other otherLegible]
    simp only [Lineage.placed, Lineage.place, Placed.mk.injEq, Place.mk.injEq, true_and] at both
    exact ⟨both.1.1, both.1.2, both.2⟩
  · intro script nest sink outcome
    refine ⟨(script.run_accountable _ sink).offered_eq, fun margin line asked => ?_⟩
    obtain ⟨writer, used, rfl⟩ := Script.exists_use asked
    exact ⟨writer, used, rfl, fun bare legible => Lineage.ofText_render bare legible⟩

/-- Behind a closure and two comments stands a line with three spaces and a marker of its own;
two plain scopes in place of the closure make no difference. A line that is a bare marker is
told from the markers before it. -/
theorem texts_tell_depth_of_inner_comment :
    let path : List Scope := [.commented, .lazyStaticWith "x" "T", .commented]
    let other : List Scope := [.pubMod "m", .commented, .commented, .indented]
    let script := Script.within 0 .commented (.within 0 .indented (.emit 0 (.comment "")))
    let memory : Sink := { policy := .memory }
    let inner : Placed :=
      { place := { origin := "", comments := 2, units := 2 }, line := "   // x" }
    (Lineage.descend "" path).render "   // x" = "// //            // x\n" ∧
      (Lineage.descend "" other).render "   // x" = "// //            // x\n" ∧
      Placed.ofText "// //            // x\n" = inner ∧
      Scope.unitsAlong path = Scope.unitsAlong other ∧
      (script.run (.root "") memory).offered = ["//     //\n"] ∧
      Placed.ofText "//     //\n" =
        { place := { origin := "", comments := 1, units := 1 }, line := "//" } := by
  intro path other script memory inner
  have legible : Legible "   // x" := ⟨by decide, by decide, by decide⟩
  have bare : Legible "//" := ⟨by decide, by decide, by decide⟩
  have sent : (Lineage.descend "" path).render "   // x" = "// //            // x\n" := by decide
  have otherSent : (Lineage.descend "" other).render "   // x" = "// //            // x\n" := by
    decide
  obtain ⟨reads, tells, runs⟩ := texts_tell_depth
  have read := reads path _ legible
  rw [sent] at read
  obtain ⟨-, writers⟩ := runs script (.root { origin := "" }) memory
  obtain ⟨writer, used, -, readBare⟩ := writers "//     " "//" (by decide +kernel)
  cases List.mem_singleton.mp used
  have same := sent.trans otherSent.symm
  exact ⟨sent, otherSent, read, (tells path other _ _ legible legible same).2.1,
    by decide +kernel, readBare rfl bare⟩

end RustScribe
