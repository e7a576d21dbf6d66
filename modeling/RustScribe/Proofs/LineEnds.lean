import RustScribe.Proofs.Sessions
import RustScribe.Proofs.TextLines

namespace RustScribe

namespace Text

/-- Nothing, or a text with a visible end. -/
def Tidy (text : String) : Prop :=
  text = "" ∨ EndsVisibly text

instance (text : String) : Decidable (Tidy text) :=
  inferInstanceAs (Decidable (_ ∨ _))

theorem tidy_trimEnd (text : String) : Tidy (trimEnd text) := by
  suffices tidy : trimEndChars text.toList = [] ∨
      ∃ char ∈ (trimEndChars text.toList).getLast?, isBlank char = false by
    simpa only [Tidy, EndsVisibly, ← String.toList_eq_nil_iff, toList_trimEnd] using tidy
  induction text.toList with
  | nil => exact .inl rfl
  | cons char rest ih =>
      by_cases gone : trimEndChars rest = []
      · by_cases blank : isBlank char = true
        · exact .inl (by simp [trimEndChars, gone, blank])
        · exact .inr ⟨char, by simp [trimEndChars, gone, blank], by simpa using blank⟩
      · obtain ⟨last, found, visible⟩ := ih.resolve_left gone
        refine .inr ⟨last, ?_, visible⟩
        have kept : trimEndChars (char :: rest) = char :: trimEndChars rest := by
          simp [trimEndChars, gone]
        rw [kept, List.getLast?_cons, Option.mem_def.mp found]
        rfl

end Text

open Text

theorem Line.opening_ends (depth : Nat) (head : String) :
    EndsVisibly (Line.opening depth head).text :=
  .after (by decide) _

theorem Layout.ended {holds ends : String → Prop} {depth : Nat} {lines : List Line}
    (layout : Layout holds ends depth lines)
    (visibly : ∀ {text : String}, EndsVisibly text → ends text) :
    ∀ line ∈ lines, ends line.text := by
  have brackets : ∀ last ∈ ["\x7d", "\x7d;"], EndsVisibly last := by decide
  exact layout.forall_mem (fun _ ended => ended) (fun _ => visibly (.after (by decide) _))
    fun last closes => visibly (brackets last closes)

theorem Item.lines_end (item : Item) {line : Line} (member : line ∈ item.lines) :
    item.Ends line.text :=
  (item.lines_layout .anything fun _ _ => trivial).ended .visibly line member

theorem Frame.MadeOf.ends {holds : String → Prop} {frame : Frame} (made : frame.MadeOf holds)
    {line : Line} (member : line ∈ frame.opening ∨ line ∈ frame.closing) :
    EndsVisibly line.text := by
  cases made with
  | commented => simp at member
  | @enclosed head last _ closes =>
      have brackets : ∀ last ∈ ["\x7d", "\x7d;", "\x7d,"], EndsVisibly last := by decide
      simp only [Frame.enclosed, List.mem_singleton] at member
      rcases member with rfl | rfl
      · exact Line.opening_ends 0 head
      · exact brackets last closes
  | elseBranch =>
      simp only [Frame.elseBranch, List.mem_cons, List.not_mem_nil, or_false] at member
      rcases member with (rfl | rfl) | rfl
      · exact Line.opening_ends 0 _
      · exact Line.opening_ends 0 _
      · decide
  | @closure name type _ _ =>
      have entries : ∀ line ∈ Item.lazyStaticLines name type, EndsVisibly line.text :=
        (Item.lazyStaticLines_layout .anything trivial trivial).ended id
      simp only [Frame.closure, List.mem_append, List.mem_cons, List.not_mem_nil,
        or_false] at member
      rcases member with (entry | rfl | rfl) | rfl | rfl
      · exact entries line entry
      · exact Line.opening_ends 0 _
      · exact Line.opening_ends 1 _
      · decide
      · decide

namespace Scope

/-- The texts that a construct hands on as whole lines around its body. -/
def handedOn : Scope → List String
  | .block first last => [first, last]
  | _ => []

/-- A line around a body ends visibly, or it is one that the construct hands on. -/
theorem frame_ends (scope : Scope) {line : Line}
    (member : line ∈ scope.frame.opening ∨ line ∈ scope.frame.closing) :
    EndsVisibly line.text ∨ line.text ∈ scope.handedOn := by
  have shape : scope.IsConstruct → scope.frame.MadeOf fun _ => True := frame_shape
  cases scope with
  | indented => simp [frame] at member
  | block first last =>
      simp only [frame, List.mem_singleton] at member
      rcases member with rfl | rfl <;> exact .inr (by simp [handedOn])
  | _ => exact .inl ((shape trivial).ends member)

end Scope

theorem Line.exists_of_use {writer : Lineage} {lines : List Line} {use : Use Lineage}
    (used : use ∈ Line.uses writer lines) : ∃ line ∈ lines, use.line = some line.text := by
  obtain ⟨line, member, rfl⟩ := List.mem_map.mp used
  exact ⟨line, member, rfl⟩

namespace Script

/-- A condition on the lines of all constructs of a script. -/
def Writes (holds : String → Prop) (script : Script) : Prop :=
  script.Throughout fun
    | .emit _ item => ∀ line ∈ item.lines, holds line.text
    | .within _ scope _ =>
        ∀ line, line ∈ scope.frame.opening ∨ line ∈ scope.frame.closing → holds line.text
    | _ => True

/-- A condition on the texts that are handed on up to the end of a line. -/
def HandsOn (holds : String → Prop) (script : Script) : Prop :=
  script.Throughout fun
    | .emit _ item => ∀ text ∈ item.handedOn, holds text
    | .within _ scope _ => ∀ text ∈ scope.handedOn, holds text
    | _ => True

variable {holds : String → Prop} {script : Script}

theorem uses_of_writes (writes : script.Writes holds) (nest : Nest Lineage) :
    ∀ use ∈ script.uses nest, ∀ line ∈ use.line, holds line := by
  have framed {writer : Lineage} {lines : List Line} {use : Use Lineage}
      (each : ∀ line ∈ lines, holds line.text) (used : use ∈ Line.uses writer lines) :
      ∀ line ∈ use.line, holds line := by
    obtain ⟨line, member, same⟩ := Line.exists_of_use used
    rw [same]
    rintro _ ⟨⟩
    exact each line member
  induction script generalizing nest with
  | skip | raise fault | close => exact fun _ used => absurd used List.not_mem_nil
  | seq first second firstIH secondIH =>
      intro use used
      exact (List.mem_append.mp used).elim (firstIH writes.1 nest use) (secondIH writes.2 nest use)
  | emit up item => exact fun _ used => framed writes used
  | within up scope body ih =>
      intro use used
      rcases List.mem_append.mp used with opening | later
      · exact framed (fun line member => writes.1 line (.inl member)) opening
      rcases List.mem_append.mp later with inside | closing
      · exact ih writes.2 _ use inside
      · exact framed (fun line member => writes.1 line (.inr member)) closing
  | showMargin up =>
      intro use used
      cases List.mem_singleton.mp used
      exact fun _ shown => nomatch shown
  | attempt body ih => exact ih writes.2 nest
  | afresh margin body ih => exact ih writes.2 _

/-- In every run a sink is asked for no other lines than those of the constructs. -/
theorem asked_of_writes (writes : script.Writes holds) (nest : Nest Margin) (sink : Sink) :
    ∀ request ∈ (script.run nest sink).asked, holds request.2 := by
  rintro ⟨margin, line⟩ asked
  rw [← nest.lineages_margin] at asked
  obtain ⟨writer, used, -⟩ := exists_use asked
  exact uses_of_writes writes _ _ used line rfl

theorem writes_tidy (tidy : script.HandsOn Tidy) : script.Writes Tidy := by
  refine tidy.mono fun step handedOn => ?_
  cases step with
  | emit up item =>
      intro line member
      have ends := item.lines_end member
      generalize line.text = shown at ends ⊢
      cases ends with
      | visibly visible => exact .inr visible
      | marked given written _ =>
          exact .inr (((handedOn _ given).resolve_left written).after _)
      | bare => exact handedOn _ (List.mem_singleton_self _)
      | blank => exact .inl rfl
  | within up scope body =>
      intro line member
      rcases scope.frame_ends member with visible | given
      · exact .inr visible
      · exact handedOn _ given
  | _ => trivial

end Script

/-- A tidy line is tidy behind every margin. -/
theorem Margin.render_tidy (margin : Margin) {line : String} (tidy : Tidy line) :
    ∃ text, margin.render line = text ++ "\n" ∧ Tidy text := by
  rcases tidy with rfl | ends
  · exact ⟨trimEnd margin, margin.render_empty, tidy_trimEnd margin⟩
  · exact ⟨margin ++ line, margin.render_of_ne ends.ne_empty, .inr (ends.after margin)⟩

namespace Session

/-- No text that a session writes ends in white space before its line end, on any sink and with
any margins, if the lines that are given to be written as they are, the texts of comments and
the lines around plain blocks do not; the other arguments may be empty or end in white space. -/
theorem written_texts_are_tidy (margin : Margin) (sink : Sink) (scripts : List Script)
    (tidy : ∀ script ∈ scripts, script.HandsOn Tidy) :
    ∀ text ∈ (outcomes margin sink scripts).flatMap Outcome.written,
      ∃ line, text = line ++ "\n" ∧ Tidy line := by
  intro text written
  obtain ⟨outcome, member, written⟩ := List.mem_flatMap.mp written
  obtain ⟨earlier, script, later, rfl, rfl⟩ := exists_run member
  have offered := Outcome.offered_of_written written
  rw [Outcome.offered, (script.run_accountable _ _).offered_eq] at offered
  obtain ⟨⟨margin, line⟩, asked, rfl⟩ := List.mem_map.mp offered
  have writes := Script.writes_tidy (tidy script (by simp))
  exact margin.render_tidy (Script.asked_of_writes writes _ _ _ asked)

/-- Blank names and values behind a margin of blanks, in a commented scope, on a sink that is
full before the last line. -/
theorem written_texts_are_tidy_of_blank_names :
    let sink : Sink := { policy := .limited 65 }
    let scripts := [
      Script.within 0 .commented (.within 0 (.pubMod " ") (.seq
        (.emit 0 (.line "")) (.emit 0 (.fieldValue "" "\t")))),
      .seq (.emit 0 (.blockComment ["", "x"])) (.afresh "" (.emit 0 (.comment "")))]
    let written := (outcomes "  " sink scripts).flatMap Outcome.written
    (∀ script ∈ scripts, script.HandsOn Tidy) ∧
      written = ["//   pub mod   \x7b\n", "//\n", "//       : \t,\n", "//   \x7d\n", "  /*\n",
        "   *\n", "   * x\n", "   */\n"] ∧
      ∀ text ∈ written, ∃ line, text = line ++ "\n" ∧ Tidy line := by
  intro sink scripts written
  have tidy : ∀ script ∈ scripts, script.HandsOn Tidy := by
    simp [scripts, Script.HandsOn, Script.Throughout, Item.handedOn, Scope.handedOn,
      show Tidy "" by decide, show Tidy "x" by decide]
  exact ⟨tidy, by decide +kernel, written_texts_are_tidy "  " sink scripts tidy⟩

end Session

end RustScribe
