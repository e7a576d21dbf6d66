import RustScribe.Proofs.Account
import RustScribe.Proofs.Balance

namespace RustScribe

def Outcome.text (outcome : Outcome) : String :=
  String.join outcome.written

namespace Action

variable {first second : Action} {sink : Sink}

theorem text_andThen_of_calm (accountable : first.Accountable)
    (calm : (first.andThen second sink).arisen = []) :
    (first.andThen second sink).text =
      (first sink).text ++ (second (first sink).sink).text := by
  obtain ⟨-, -, both⟩ := accountable.andThen_of_calm calm
  simp only [both, Outcome.text, Outcome.written, List.filterMap_append, String.join_append]

end Action

open RustScribe.Action

theorem text_writeLine_of_calm {margin : Margin} {line : String} {sink : Sink}
    (calm : (writeLine margin line sink).arisen = []) :
    (writeLine margin line sink).text = margin.render line := by
  have unfailed := (Accountable.writeLine margin line).failure_eq_none calm
  cases answer : sink.refusal? (margin.render line) with
  | none =>
      rw [writeLine_of_accepted answer]
      simp [Outcome.text, Outcome.written, Moment.written?, List.filterMap_cons]
  | some fault =>
      cases kind : fault.isRefusal with
      | true => simp [writeLine_of_refused answer kind] at unfailed
      | false => simp [writeLine_of_defect answer kind] at unfailed

theorem text_writeLines_of_calm {margin : Margin} {lines : List Line} {sink : Sink}
    (calm : (writeLines margin lines sink).arisen = []) :
    (writeLines margin lines sink).text = String.join (Line.rendered margin lines) := by
  induction lines generalizing sink with
  | nil => rfl
  | cons line rest ih =>
      have accountable : (line.write margin).Accountable := .writeLine _ _
      rw [writeLines_cons] at calm ⊢
      obtain ⟨first, others, -⟩ := accountable.andThen_of_calm calm
      rw [text_andThen_of_calm accountable calm, ih others, Line.write,
        text_writeLine_of_calm first]
      simp [Line.rendered]

theorem Item.text_write_of_calm {margin : Margin} {item : Item} {sink : Sink}
    (calm : (item.write margin sink).arisen = []) :
    (item.write margin sink).text = String.join (Line.rendered margin item.lines) := by
  unfold Item.write at calm ⊢
  cases notice : item.notice with
  | none =>
      simp only [notice] at calm
      exact text_writeLines_of_calm calm
  | some message =>
      simp only [notice] at calm
      have note : (record (.logged .debug message)).Accountable :=
        fun sink => .of_quiet (.noted sink message)
      obtain ⟨-, written, -⟩ := note.andThen_of_calm calm
      simp only [text_andThen_of_calm note calm, text_writeLines_of_calm written]
      exact String.empty_append

theorem Frame.text_write_of_calm {margin : Margin} {frame : Frame} {body : Margin → Action}
    (accountable : (body (margin.descend frame.descent)).Accountable) {sink : Sink}
    (calm : (frame.write margin body sink).arisen = []) :
    ∃ inside : Sink, (body (margin.descend frame.descent) inside).arisen = [] ∧
      (frame.write margin body sink).text =
        String.join (Line.rendered margin frame.opening) ++
          ((body (margin.descend frame.descent) inside).text ++
            String.join (Line.rendered margin frame.closing)) := by
  have opening := Accountable.writeLines margin frame.opening
  obtain ⟨opened, rest, -⟩ := opening.andThen_of_calm calm
  obtain ⟨within, closed, -⟩ := accountable.andThen_of_calm rest
  refine ⟨_, within, ?_⟩
  rw [Frame.write, text_andThen_of_calm opening calm, text_andThen_of_calm accountable rest,
    text_writeLines_of_calm opened, text_writeLines_of_calm closed]

theorem Frame.Closes.around {margin : Margin} {frame : Frame} (closes : frame.Closes)
    (balanced : Balanced margin) {text : String} (inside : Balanced text) :
    Balanced (String.join (Line.rendered margin frame.opening) ++
      (text ++ String.join (Line.rendered margin frame.closing))) := by
  unfold Frame.Closes Balanced at closes
  unfold Balanced
  rw [wellNested_iff_scan, String.toList_append, scan_append] at closes
  rw [wellNested_iff_scan]
  simp only [String.toList_append, scan_append, Line.scan_rendered balanced,
    WellNested.scan inside, Option.bind_some]
  exact closes

namespace Script

/-- The texts of all constructs and the margins of all new writers are balanced. -/
def BalancedTexts (script : Script) : Prop :=
  script.Throughout fun
    | .emit _ item => ∀ text ∈ item.arguments, Balanced text
    | .within _ scope _ => scope.BalancedTexts
    | .afresh margin _ => Balanced margin
    | _ => True

theorem text_balanced {script : Script} (given : script.BalancedTexts) {nest : Nest Margin}
    (margins : ∀ up, Balanced (nest.writer up)) {sink : Sink}
    (calm : (script.run nest sink).arisen = []) : Balanced (script.run nest sink).text := by
  have inner {nest : Nest Margin} (margins : ∀ up, Balanced (nest.writer up)) {margin : Margin}
      (balanced : Balanced margin) (up : Nat) : Balanced ((Nest.inner margin nest).writer up) := by
    cases up with
    | zero => exact balanced
    | succ up => exact margins up
  induction script generalizing nest sink with
  | skip | showMargin up | close | raise fault => exact WellNested.nil
  | seq first second firstIH secondIH =>
      have accountable := first.run_accountable nest
      obtain ⟨before, after, -⟩ := accountable.andThen_of_calm calm
      rw [run, text_andThen_of_calm accountable calm]
      exact (firstIH given.1 margins before).append (secondIH given.2 margins after)
  | emit up item =>
      rw [run, Item.text_write_of_calm calm]
      unfold Balanced
      rw [wellNested_iff_scan, Line.scan_rendered (margins up)]
      exact (item.content_balanced given).scan []
  | within up scope body ih =>
      have balanced := (margins up).descend scope.frame.descent
      obtain ⟨inside, within, text⟩ :=
        Frame.text_write_of_calm (body.run_accountable (.inner _ nest)) calm
      rw [run, text]
      exact (scope.frame_closes given.1).around (margins up)
        (ih given.2 (inner margins balanced) within)
  | attempt body ih =>
      obtain ⟨inside, same⟩ := (body.run_accountable nest).attempt_of_calm calm
      rw [run, same]
      exact ih given.2 margins inside
  | afresh margin body ih => exact ih given.2 (inner margins given.1) calm

end Script

namespace Session

/-- A session that is given balanced texts and margins, and in which nothing is raised,
writes balanced text. -/
theorem session_text_balanced {margin : Margin} (root : Balanced margin) {scripts : List Script}
    (given : ∀ script ∈ scripts, script.BalancedTexts) {sink : Sink}
    (calm : (outcomes margin sink scripts).flatMap Outcome.arisen = []) :
    Balanced (String.join ((outcomes margin sink scripts).flatMap Outcome.written)) := by
  induction scripts generalizing sink with
  | nil => exact WellNested.nil
  | cons script rest ih =>
      simp only [outcomes, List.flatMap_cons, List.append_eq_nil_iff] at calm
      have margins (up : Nat) : Balanced ((Nest.root margin).writer up) := root
      have first := Script.text_balanced (given script List.mem_cons_self) margins calm.1
      have others := ih (fun other member => given other (List.mem_cons_of_mem _ member)) calm.2
      simp only [outcomes, List.flatMap_cons, String.join_append]
      exact first.append others

/-- A closure whose brackets close only after what its body writes, in part through the
writer around it. -/
theorem session_text_balanced_closure :
    let script := Script.within 0 (.block "run(|| \x7b" "\x7d)")
      (.seq (.within 0 .commented (.emit 1 (.derive ["A", "B"])))
        (.afresh "[0] " (.within 1 (.lazyStaticWith "x" "T") .skip)))
    let memory : Sink := { policy := .memory }
    Balanced "" ∧ script.BalancedTexts ∧
      (outcomes "" memory [script]).flatMap Outcome.arisen = [] ∧
      Balanced (String.join ((outcomes "" memory [script]).flatMap Outcome.written)) := by
  intro script memory
  have given : script.BalancedTexts := by
    simp only [script, Script.BalancedTexts, Script.Throughout, Scope.BalancedTexts,
      Scope.arguments, Item.arguments]
    decide
  have calm : (outcomes "" memory [script]).flatMap Outcome.arisen = [] := by decide +kernel
  exact ⟨.nothing, given, calm, session_text_balanced .nothing (by simpa using given) calm⟩

end Session

end RustScribe
