import RustScribe.Proofs.Commenting
import RustScribe.Proofs.LineEnds

namespace RustScribe

namespace Text

def AllBlank (text : String) : Prop :=
  ∀ char ∈ text.toList, isBlank char = true

instance (text : String) : Decidable (AllBlank text) :=
  decidable_of_iff (text.toList.all isBlank) List.all_eq_true

variable {kept padding : String}

theorem trimEnd_eq_empty_iff {text : String} : trimEnd text = "" ↔ AllBlank text := by
  rw [← String.toList_eq_nil_iff, toList_trimEnd, trimEndChars_eq_nil_iff, AllBlank]

theorem trimEnd_append (first second : String) :
    trimEnd (first ++ second) =
      if trimEnd second = "" then trimEnd first else first ++ trimEnd second := by
  apply String.toList_injective
  simp only [toList_trimEnd, String.toList_append, trimEndChars_append,
    ← String.toList_eq_nil_iff]
  split <;> simp [toList_trimEnd]

theorem trimEnd_append_blank (kept : String) (blank : AllBlank padding) :
    trimEnd (kept ++ padding) = trimEnd kept := by
  rw [trimEnd_append, if_pos (trimEnd_eq_empty_iff.mpr blank)]

/-- Trimming takes away nothing but white space. -/
theorem exists_trimEnd_append (text : String) :
    ∃ padding, text = trimEnd text ++ padding ∧ AllBlank padding := by
  suffices cut : ∃ padding : List Char, text.toList = trimEndChars text.toList ++ padding ∧
      ∀ char ∈ padding, isBlank char = true by
    obtain ⟨padding, cut, blank⟩ := cut
    refine ⟨String.ofList padding, String.toList_injective ?_, by simpa [AllBlank] using blank⟩
    simpa [toList_trimEnd] using cut
  induction text.toList with
  | nil => exact ⟨[], rfl, by simp⟩
  | cons char rest ih =>
      obtain ⟨padding, cut, blank⟩ := ih
      by_cases gone : trimEndChars (char :: rest) = []
      · exact ⟨char :: rest, by rw [gone]; rfl, trimEndChars_eq_nil_iff.mp gone⟩
      · have kept : trimEndChars (char :: rest) = char :: trimEndChars rest := by
          simp only [trimEndChars] at gone ⊢
          split
          · next lost => simp [lost] at gone
          · rfl
        exact ⟨padding, by rw [kept, List.cons_append, ← cut], blank⟩

end Text

open Text

/-- Comment markers joined by single spaces. -/
def markers (count : Nat) : String :=
  " ".intercalate (List.replicate count "//")

theorem markers_succ_succ (count : Nat) :
    markers (count + 2) = commentMarker ++ markers (count + 1) := by
  simp only [markers, List.replicate_succ, String.intercalate_cons_cons]
  rfl

theorem markers_succ_ne_empty (count : Nat) : markers (count + 1) ≠ "" := by
  cases count with
  | zero => decide
  | succ count =>
      rw [markers_succ_succ]
      simp [commentMarker]

namespace Place

theorem allBlank_units (units : Nat) : AllBlank (repeated indentUnit units) := by
  induction units with
  | zero => simp [AllBlank, repeated]
  | succ units ih =>
      intro char member
      rw [repeated, String.toList_append, List.mem_append] at member
      rcases member with here | later
      · exact (by decide : AllBlank indentUnit) char here
      · exact ih char later

theorem trimEnd_margin (place : Place) :
    trimEnd place.margin = trimEnd (repeated commentMarker place.comments ++ place.origin) :=
  trimEnd_append_blank _ (allBlank_units place.units)

/-- Before a blank margin each comment leaves its marker. -/
theorem trimEnd_of_allBlank (comments : Nat) {origin : Margin} (blank : AllBlank origin) :
    trimEnd (repeated commentMarker comments ++ origin) = markers comments := by
  induction comments with
  | zero => exact trimEnd_eq_empty_iff.mpr (by simpa [repeated] using blank)
  | succ comments ih =>
      have step := Margin.trimEnd_comment (repeated commentMarker comments ++ origin)
      rw [Margin.comment, ← String.append_assoc, ih] at step
      rw [repeated, step]
      cases comments with
      | zero => rfl
      | succ comments => rw [if_neg (markers_succ_ne_empty comments), markers_succ_succ]

/-- A visible margin is kept behind all markers. -/
theorem trimEnd_of_visible (comments : Nat) {origin : Margin} (visible : ¬ AllBlank origin) :
    trimEnd (repeated commentMarker comments ++ origin) =
      repeated commentMarker comments ++ trimEnd origin := by
  rw [trimEnd_append, if_neg (mt trimEnd_eq_empty_iff.mp visible)]

theorem render_of_allBlank (place : Place) (blank : AllBlank place.origin) :
    place.margin.render "" = markers place.comments ++ "\n" := by
  rw [Margin.render_empty, trimEnd_margin, trimEnd_of_allBlank _ blank]

theorem render_of_visible (place : Place) (visible : ¬ AllBlank place.origin) :
    ∃ kept padding, place.origin = kept ++ padding ∧ EndsVisibly kept ∧ AllBlank padding ∧
      place.margin.render "" = repeated commentMarker place.comments ++ kept ++ "\n" := by
  obtain ⟨padding, cut, blank⟩ := exists_trimEnd_append place.origin
  have ends := (tidy_trimEnd place.origin).resolve_left (mt trimEnd_eq_empty_iff.mp visible)
  refine ⟨trimEnd place.origin, padding, cut, ends, blank, ?_⟩
  rw [Margin.render_empty, trimEnd_margin, trimEnd_of_visible _ visible]

end Place

/-- A construct without a body writes an empty line only if it is one, or the header. -/
theorem Item.exists_empty_iff (item : Item) :
    (∃ line ∈ item.lines, line.text = "") ↔ item = .line "" ∨ item = .header := by
  constructor
  · rintro ⟨line, member, empty⟩
    have ends := item.lines_end member
    rw [empty] at ends
    generalize same : "" = text at ends
    cases ends with
    | visibly visible => exact absurd same.symm visible.ne_empty
    | marked given written isMark =>
        have nothing := congrArg String.toList same
        simp only [String.toList_empty, String.toList_append, List.nil_eq,
          List.append_eq_nil_iff, String.toList_eq_nil_iff] at nothing
        exact absurd nothing.2 written
    | bare => exact .inl rfl
    | blank => exact .inr rfl
  · rintro (rfl | rfl)
    · exact ⟨{ text := "" }, List.mem_singleton_self _, rfl⟩
    · exact ⟨{ text := "" }, by decide +kernel, rfl⟩

/-- Around a body only plain blocks write empty lines, and just those that they are given. -/
theorem Scope.exists_empty_iff (scope : Scope) :
    (∃ line ∈ scope.frame.opening ++ scope.frame.closing, line.text = "") ↔
      ∃ first last, scope = .block first last ∧ (first = "" ∨ last = "") := by
  constructor
  · rintro ⟨line, member, empty⟩
    rcases scope.frame_ends (List.mem_append.mp member) with visible | given
    · exact absurd empty visible.ne_empty
    · rw [empty] at given
      cases scope with
      | block first last =>
          simp only [handedOn, List.mem_cons, List.not_mem_nil, or_false] at given
          exact ⟨first, last, rfl, given.imp Eq.symm Eq.symm⟩
      | _ => exact absurd given List.not_mem_nil
  · rintro ⟨first, last, rfl, rfl | rfl⟩
    · exact ⟨{ text := "" }, by simp [frame], rfl⟩
    · exact ⟨{ text := "" }, by simp [frame], rfl⟩

/-- No empty line is handed on, and no header written. -/
def Script.LeavesNoBlank (script : Script) : Prop :=
  script.Throughout fun
    | .emit _ item => item ≠ .line "" ∧ item ≠ .header
    | .within _ (.block first last) _ => first ≠ "" ∧ last ≠ ""
    | _ => True

theorem Script.LeavesNoBlank.writes {script : Script} (dense : script.LeavesNoBlank) :
    script.Writes (· ≠ "") := by
  refine dense.mono fun step condition => ?_
  cases step with
  | emit up item =>
      intro line member empty
      rcases item.exists_empty_iff.mp ⟨line, member, empty⟩ with same | same
      · exact condition.1 same
      · exact condition.2 same
  | within up scope body =>
      intro line member empty
      obtain ⟨first, last, rfl, blank⟩ :=
        scope.exists_empty_iff.mp ⟨line, List.mem_append.mpr member, empty⟩
      exact blank.elim condition.1 condition.2
  | _ => trivial

/-- An empty line is sent as the comment markers of its writer, or behind a visible margin up to its
last visible character, however deep the writer stands. Only headers and texts that are given as
empty make empty lines. -/
theorem blank_lines_keep_markers :
    (∀ (origin : Margin) (path : List Scope),
      let blank := (Lineage.descend origin path).render ""
      let comments := path.count .commented
      (AllBlank origin → comments = 0 → blank = "\n") ∧
      (AllBlank origin → blank = markers comments ++ "\n") ∧
      (¬ AllBlank origin → ∃ kept padding, origin = kept ++ padding ∧ EndsVisibly kept ∧
        AllBlank padding ∧ blank = repeated commentMarker comments ++ kept ++ "\n")) ∧
    (∀ (origin : Margin) (path other : List Scope),
      path.count .commented = other.count .commented →
      (Lineage.descend origin path).render "" = (Lineage.descend origin other).render "") ∧
    (∀ item : Item, (∃ line ∈ item.lines, line.text = "") ↔ item = .line "" ∨ item = .header) ∧
    (∀ scope : Scope, (∃ line ∈ scope.frame.opening ++ scope.frame.closing, line.text = "") ↔
      ∃ first last, scope = .block first last ∧ (first = "" ∨ last = "")) ∧
    ∀ (script : Script) (nest : Nest Lineage) (sink : Sink),
      let outcome := script.run (nest.map Lineage.margin) sink
      outcome.offered = (outcome.asked.map fun (margin, line) => margin.render line) ∧
      (∀ margin, (margin, "") ∈ outcome.asked →
        ∃ writer, ⟨writer, some ""⟩ ∈ script.uses nest ∧
          margin = Lineage.descend writer.origin writer.path) ∧
      (script.LeavesNoBlank → ∀ request ∈ outcome.asked, request.2 ≠ "") := by
  have standing (origin : Margin) (path : List Scope) :
      Lineage.descend origin path = (Lineage.place ⟨origin, path⟩).margin :=
    Lineage.margin_eq_place ⟨origin, path⟩
  refine ⟨?_, ?_, Item.exists_empty_iff, Scope.exists_empty_iff, ?_⟩
  · intro origin path blank comments
    have sent (allBlank : AllBlank origin) : blank = markers comments ++ "\n" := by
      rw [show blank = _ from congrArg (Margin.render · "") (standing origin path)]
      exact Place.render_of_allBlank _ allBlank
    refine ⟨fun allBlank none => ?_, sent, fun visible => ?_⟩
    · rw [sent allBlank, none]
      rfl
    · rw [show blank = _ from congrArg (Margin.render · "") (standing origin path)]
      exact Place.render_of_visible (Lineage.place ⟨origin, path⟩) visible
  · intro origin path other same
    rw [Margin.render_empty, Margin.render_empty, standing, standing, Place.trimEnd_margin,
      Place.trimEnd_margin, show (Lineage.place ⟨origin, path⟩).comments = _ from same]
    rfl
  · intro script nest sink outcome
    refine ⟨(script.run_accountable _ sink).offered_eq, ?_, ?_⟩
    · intro margin asked
      obtain ⟨writer, used, same⟩ := Script.exists_use asked
      exact ⟨writer, used, same.symm⟩
    · exact fun dense => Script.asked_of_writes dense.writes _ sink

/-- Two comments around an indented and a plain block, the margins of the root writer blank and
visible; a mark and a name of blanks are no empty lines. -/
theorem blank_lines_keep_markers_around_blocks :
    let path : List Scope := [.commented, .block "" "", .indented, .commented]
    let script := Script.within 0 .commented (.within 0 .indented (.within 0 (.block "" "x")
      (.within 0 .commented (.emit 0 (.line "")))))
    let memory : Sink := { policy := .memory }
    let dense := Script.seq (.emit 0 (.comment "")) (.within 0 (.exprBlock " ") .skip)
    (Lineage.descend "\u2003\t" path).render "" = "// //" ++ "\n" ∧
      (∃ kept padding, "x \t" = kept ++ padding ∧ EndsVisibly kept ∧ AllBlank padding ∧
        (Lineage.descend "x \t" path).render "" = repeated commentMarker 2 ++ kept ++ "\n") ∧
      (script.run (.root " ") memory).offered = ["//\n", "// //\n", "//      x\n"] ∧
      ("// //          ", "") ∈ (script.run (.root " ") memory).asked ∧
      (∃ writer, ⟨writer, some ""⟩ ∈ script.uses (.root { origin := " " }) ∧
        "// //          " = Lineage.descend writer.origin writer.path) ∧
      ∀ request ∈ (dense.run (.root "") memory).asked, request.2 ≠ "" := by
  intro path script memory dense
  obtain ⟨sent, -, -, -, runs⟩ := blank_lines_keep_markers
  have asked : ("// //          ", "") ∈ (script.run (.root " ") memory).asked := by
    decide +kernel
  obtain ⟨-, writers, -⟩ := runs script (.root { origin := " " }) memory
  obtain ⟨-, -, never⟩ := runs dense (.root { origin := "" }) memory
  have isDense : dense.LeavesNoBlank := by
    simp [dense, Script.LeavesNoBlank, Script.Throughout]
  exact ⟨(sent _ path).2.1 (by decide), (sent _ path).2.2 (by decide), by decide +kernel, asked,
    writers _ asked, never isDense⟩

end RustScribe
