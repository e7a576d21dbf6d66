import RustScribe.Proofs.Sessions
import RustScribe.Proofs.TextLines

namespace RustScribe

namespace Text

theorem cutLines_join_ended {texts : List String}
    (ended : ∀ text ∈ texts, ∃ line : String, text = line ++ "\n") :
    cutLines (String.join texts).toList = texts.flatMap fun text => cutLines text.toList := by
  induction texts with
  | nil => rfl
  | cons text rest ih =>
      obtain ⟨line, rfl⟩ := ended text List.mem_cons_self
      have later := ih fun other member => ended other (List.mem_cons_of_mem _ member)
      have cut := cutLines_append_ended line.toList (String.join rest).toList
      rw [List.flatMap_cons, ← later]
      simpa using cut

theorem count_join_whole {texts : List String} (whole : ∀ text ∈ texts, IsWholeLine text) :
    (String.join texts).toList.count '\n' = texts.length := by
  induction texts with
  | nil => rfl
  | cons text rest ih =>
      obtain ⟨line, unbroken, rfl⟩ := whole text List.mem_cons_self
      have later := ih fun other member => whole other (List.mem_cons_of_mem _ member)
      have inside : line.toList.count '\n' = 0 := List.count_eq_zero.mpr unbroken
      simp only [String.join_cons, String.toList_append, List.count_append, inside, later,
        List.length_cons]
      exact Nat.add_comm 1 rest.length

end Text

theorem Outcome.written_sublist_offered (outcome : Outcome) :
    outcome.written.Sublist outcome.offered := by
  unfold Outcome.written Outcome.offered
  induction outcome.moments with
  | nil => exact .slnil
  | cons moment rest ih =>
      cases moment with
      | event told =>
          cases told with
          | written text => exact ih.cons_cons text
          | refused text fault => exact ih.cons text
          | logged | shownMargin | caught => exact ih
      | asked | raised | failed => exact ih

theorem Episode.silent {sink after : Sink} {moments : List Moment} {ending : Option Failure}
    (episode : Episode sink moments ending after) (closed : sink.closed = true) :
    moments.filterMap Moment.written? = [] := by
  cases episode with
  | accepted accepted =>
      obtain ⟨fault, refused⟩ := Sink.exists_refusal_of_closed closed _
      rw [accepted] at refused
      contradiction
  | _ => rfl

theorem Account.silent {sink after : Sink} {moments : List Moment} {ending : Option Failure}
    (account : Account sink moments ending after) (closed : sink.closed = true) :
    moments.filterMap Moment.written? = [] := by
  -- The sink stays closed, so what was silent so far goes on silently.
  refine (account.adds_up
    (motive := fun sink moments after => sink.closed = true →
      after.closed = true ∧ moments.filterMap Moment.written? = [])
    (fun _ closed => ⟨closed, rfl⟩) (fun _ _ closed => ⟨closed, rfl⟩)
    (fun episode closed => ⟨episode.stays_closed closed, episode.silent closed⟩) ?_ closed).2
  intro sink middle after moments later first second closed
  obtain ⟨still, before⟩ := first closed
  obtain ⟨ending, afterwards⟩ := second still
  exact ⟨ending, by rw [List.filterMap_append, before, afterwards]; rfl⟩

/-- A run that at some moment leaves a sink as `current`, and closed for good. -/
structure Outcome.Seals (outcome : Outcome) (sink current : Sink) : Prop where
  split : ∃ before after, outcome.moments = before ++ after ∧
    current.content = sink.content ++ String.join (before.filterMap Moment.written?) ∧
    after.filterMap Moment.written? = []
  closed : outcome.sink.closed = true

namespace Outcome.Seals

open RustScribe.Action

variable {first later : Action} {sink current : Sink}

theorem andThen (seals : (first sink).Seals sink current) (accountable : later.Accountable) :
    (first.andThen later sink).Seals sink current := by
  cases ended : (first sink).failure with
  | some failure => rwa [andThen_of_failed ended]
  | none =>
      obtain ⟨⟨before, after, moments, content, silent⟩, closed⟩ := seals
      have account := accountable (first sink).sink
      rw [andThen_of_succeeded ended]
      refine ⟨⟨before, after ++ (later (first sink).sink).moments, ?_, content, ?_⟩,
        account.closed_of_closed closed⟩
      · simp only [moments, List.append_assoc]
      · rw [List.filterMap_append, silent, account.silent closed, List.append_nil]

theorem after (accountable : later.Accountable) (succeeded : (later sink).failure = none)
    (seals : (first (later sink).sink).Seals (later sink).sink current) :
    (later.andThen first sink).Seals sink current := by
  obtain ⟨⟨before, after, moments, content, silent⟩, closed⟩ := seals
  rw [andThen_of_succeeded succeeded]
  refine ⟨⟨(later sink).moments ++ before, after, ?_, ?_, silent⟩, closed⟩
  · simp only [moments, List.append_assoc]
  · rw [content, (accountable sink).content_eq, List.filterMap_append, String.join_append,
      String.append_assoc]

theorem attempt (seals : (first sink).Seals sink current) :
    (first.attempt sink).Seals sink current := by
  cases ended : (first sink).failure with
  | none => rwa [attempt_of_succeeded ended]
  | some failure =>
      obtain ⟨⟨before, after, moments, content, silent⟩, closed⟩ := seals
      rw [attempt_of_failed ended]
      refine ⟨⟨before, after ++ [.event (.caught failure)], ?_, content, ?_⟩, closed⟩
      · simp only [moments, List.append_assoc]
      · rw [List.filterMap_append, silent]
        rfl

end Outcome.Seals

/-- However deep a sink is closed, nothing more is written to it. -/
theorem Context.close_seals (context : Context) {nest place : Nest Margin} {sink current : Sink}
    (reached : context.reach nest sink = some (place, current)) :
    ((context.fill .close).run nest sink).Seals sink current := by
  induction context generalizing nest sink with
  | here =>
      cases reached
      exact ⟨⟨[], [], rfl, String.append_empty.symm, rfl⟩, rfl⟩
  | before context later ih => exact (ih reached).andThen (later.run_accountable nest)
  | after earlier context ih =>
      simp only [reach] at reached
      split at reached
      · next succeeded => exact .after (earlier.run_accountable nest) succeeded (ih reached)
      · contradiction
  | within up scope context ih =>
      simp only [reach] at reached
      split at reached
      · next succeeded =>
          exact .after (.writeLines _ _) succeeded ((ih reached).andThen (.writeLines _ _))
      · contradiction
  | attempt context ih => exact (ih reached).attempt
  | afresh margin context ih => exact ih reached

namespace Session

variable {margin : Margin} {sink : Sink} {scripts : List Script}

theorem offered_eq (margin : Margin) (sink : Sink) (scripts : List Script) :
    (outcomes margin sink scripts).flatMap Outcome.offered =
      ((outcomes margin sink scripts).flatMap Outcome.asked).map
        fun (margin, line) => margin.render line := by
  induction scripts generalizing sink with
  | nil => rfl
  | cons script rest ih =>
      have first := (script.run_accountable (.root margin) sink).offered_eq
      simp only [outcomes, List.flatMap_cons, List.map_append, ih]
      exact congrArg (· ++ _) first

theorem written_of_closed (closed : sink.closed = true) (scripts : List Script) :
    (outcomes margin sink scripts).flatMap Outcome.written = [] := by
  induction scripts generalizing sink with
  | nil => rfl
  | cons script rest ih =>
      have account := script.run_accountable (.root margin) sink
      have silent : (script.run (.root margin) sink).written = [] := account.silent closed
      rw [outcomes, List.flatMap_cons, silent, ih (account.closed_of_closed closed)]
      rfl

theorem written_sublist_offered (outcomes : List Outcome) :
    (outcomes.flatMap Outcome.written).Sublist (outcomes.flatMap Outcome.offered) := by
  induction outcomes with
  | nil => exact .slnil
  | cons outcome rest ih => exact outcome.written_sublist_offered.append ih

theorem offered_ends : ∀ text ∈ (outcomes margin sink scripts).flatMap Outcome.offered,
    ∃ line : String, text = line ++ "\n" := by
  intro text offered
  obtain ⟨outcome, member, offered⟩ := List.mem_flatMap.mp offered
  obtain ⟨earlier, script, later, rfl, rfl⟩ := exists_run member
  exact Script.offered_ends offered

theorem written_isWholeLine (given : Given Text.Unbroken margin scripts) :
    ∀ text ∈ (outcomes margin sink scripts).flatMap Outcome.written, Text.IsWholeLine text := by
  intro text written
  obtain ⟨outcome, member, written⟩ := List.mem_flatMap.mp written
  obtain ⟨earlier, script, later, rfl, rfl⟩ := exists_run member
  have margins (up : Nat) : Text.Unbroken ((Nest.root margin).writer up) := given.1
  exact Script.offered_isWholeLine (given.2 script (by simp)) margins
    (Outcome.offered_of_written written)

/-- The content of a sink that was empty is cut into the texts that it accepted. -/
theorem cutLines_finalSink (empty : sink.content = "")
    (given : Given Text.Unbroken margin scripts) :
    Text.cutLines (finalSink margin sink scripts).content.toList =
      ((outcomes margin sink scripts).flatMap Outcome.written).map String.toList := by
  rw [finalSink_content, empty, String.empty_append]
  exact Text.cutLines_join (written_isWholeLine given)

theorem finalSink_append (margin : Margin) (sink : Sink) (earlier later : List Script) :
    finalSink margin sink (earlier ++ later) =
      finalSink margin (finalSink margin sink earlier) later :=
  List.foldl_append

/-- What a session does after it has closed its sink, at whatever depth that was. -/
theorem finalSink_of_close {context : Context} {earlier later : List Script}
    {place : Nest Margin} {current : Sink} (reached :
      context.reach (.root margin) (finalSink margin sink earlier) = some (place, current)) :
    let before := finalSink margin sink earlier
    let closing := (context.fill .close).run (.root margin) before
    let final := finalSink margin sink (earlier ++ context.fill .close :: later)
    closing.Seals before current ∧
      (outcomes margin closing.sink later).flatMap Outcome.written = [] ∧
      final.content = current.content := by
  intro before closing final
  have seals : closing.Seals before current := context.close_seals reached
  have silent : (outcomes margin closing.sink later).flatMap Outcome.written = [] :=
    written_of_closed seals.closed later
  refine ⟨seals, silent, ?_⟩
  have account := (context.fill .close).run_accountable (.root margin) before
  obtain ⟨⟨first, rest, moments, content, nothing⟩, -⟩ := seals
  have same : closing.sink.content = current.content := by
    rw [account.content_eq, show ((context.fill .close).run (.root margin) before).moments =
      first ++ rest from moments, List.filterMap_append, nothing, List.append_nil, content]
  rw [show final = finalSink margin closing.sink later from finalSink_append margin sink earlier _,
    finalSink_content, silent, same]
  exact String.append_empty

/-- A sink holds the texts that it accepted, one whole line for each request, and is cut into them
unless one brings a line feed of its own. Once it is closed, no text is accepted. -/
theorem sink_holds_whole_lines (margin : Margin) (sink : Sink) (scripts : List Script) :
    let outcomes := outcomes margin sink scripts
    let offered := outcomes.flatMap Outcome.offered
    let written := outcomes.flatMap Outcome.written
    let final := finalSink margin sink scripts
    (∀ text ∈ offered, ∃ line : String, text = line ++ "\n") ∧
    offered = (outcomes.flatMap Outcome.asked).map (fun (margin, line) => margin.render line) ∧
    written.Sublist offered ∧
    final.content = sink.content ++ String.join written ∧
    Text.cutLines (String.join written).toList =
      written.flatMap (fun text => Text.cutLines text.toList) ∧
    (sink.content = "" → Given Text.Unbroken margin scripts →
      Text.cutLines final.content.toList = written.map String.toList ∧
      written.length = final.content.toList.count '\n' ∧
      ∀ (root : Margin) (other : Sink) (others : List Script),
        other.content = "" → Given Text.Unbroken root others →
        (finalSink root other others).content = final.content →
        (Session.outcomes root other others).flatMap Outcome.written = written) ∧
    ∀ (earlier later : List Script) (context : Context) (place : Nest Margin) (current : Sink),
      let before := finalSink margin sink earlier
      let closing := (context.fill .close).run (.root margin) before
      scripts = earlier ++ context.fill .close :: later →
      context.reach (.root margin) before = some (place, current) →
      closing.Seals before current ∧
        (Session.outcomes margin closing.sink later).flatMap Outcome.written = [] ∧
        final.content = current.content := by
  intro outcomes offered written final
  have order : written.Sublist offered := written_sublist_offered outcomes
  have ends : ∀ text ∈ offered, ∃ line : String, text = line ++ "\n" := offered_ends
  refine ⟨ends, offered_eq margin sink scripts, order, finalSink_content margin sink scripts,
    Text.cutLines_join_ended fun text accepted => ends text (order.subset accepted), ?_, ?_⟩
  · intro empty given
    have cut := cutLines_finalSink empty given
    refine ⟨cut, ?_, fun root other others vacant told same => ?_⟩
    · rw [show final.content = _ from finalSink_content margin sink scripts, empty,
        String.empty_append, Text.count_join_whole (written_isWholeLine given)]
    · have mirrored := cutLines_finalSink vacant told
      rw [same] at mirrored
      exact (List.map_inj_right fun _ _ alike => String.toList_injective alike).mp
        (mirrored.symm.trans cut)
  · rintro earlier later context place current before closing rfl reached
    exact finalSink_of_close reached

/-- A sink for twenty characters refuses a line and takes a shorter one, and is closed inside
a scope, before a blank line that it would have room for. -/
theorem sink_holds_whole_lines_in_full :
    let sink : Sink := { policy := .limited 20 }
    let earlier := [Script.attempt (.emit 0 (.line "a line that is too long")),
      .emit 0 (.comment "x")]
    let context := Context.within 0 (.pubMod "m") (.before .here (.emit 0 (.line "")))
    let scripts := earlier ++ context.fill .close :: [.emit 0 (.line "")]
    let written := (outcomes "" sink scripts).flatMap Outcome.written
    let final := finalSink "" sink scripts
    written = ["// x\n", "pub mod m \x7b\n"] ∧ Given Text.Unbroken "" scripts ∧
      Text.cutLines final.content.toList = written.map String.toList ∧
      ∃ place current,
        context.reach (.root "") (finalSink "" sink earlier) = some (place, current) ∧
          final.content = current.content := by
  intro sink earlier context scripts written final
  have given : Given Text.Unbroken "" scripts := by
    refine ⟨by decide, fun script member => ?_⟩
    simp only [scripts, earlier, context, Context.fill, List.cons_append, List.nil_append,
      List.mem_cons, List.not_mem_nil, or_false] at member
    rcases member with rfl | rfl | rfl | rfl <;>
      simp only [Script.Given, Script.Throughout, Scope.arguments, Item.arguments] <;> decide
  obtain ⟨-, -, -, -, -, lines, closings⟩ := sink_holds_whole_lines "" sink scripts
  have opened : (writeLines "" (Scope.pubMod "m").frame.opening
      (finalSink "" sink earlier)).failure = none := by decide +kernel
  have reached : context.reach (.root "") (finalSink "" sink earlier) =
      some (.inner "    " (.root ""), (writeLines "" (Scope.pubMod "m").frame.opening
        (finalSink "" sink earlier)).sink) := by
    simp only [context, Context.reach, Nest.writer, opened, if_true]
    decide +kernel
  exact ⟨by decide +kernel, given, (lines rfl given).1, _, _, reached,
    (closings earlier _ context _ _ rfl reached).2.2⟩

end Session

end RustScribe
