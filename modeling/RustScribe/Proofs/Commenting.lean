import RustScribe.Proofs.Retelling
import RustScribe.Proofs.SessionBalance
import RustScribe.Proofs.Templates
import RustScribe.Proofs.TextLines

namespace RustScribe

/-! What a commented scope writes is what it would write otherwise, each text commented on its own.
A margin that begins with the marker is not blank, so blank lines are no exception. -/

/-- A written text as a comment. -/
def commentedText (text : String) : String :=
  if text = "\n" then "//\n" else commentMarker ++ text

theorem commentedText_newline (text : String) :
    commentedText (text ++ "\n") = if text = "" then "//\n" else commentMarker ++ text ++ "\n" := by
  have blank : text ++ "\n" = "\n" ↔ text = "" := by
    simp
  simp only [commentedText, blank, String.append_assoc]

namespace Margin

theorem indentBy_comment (margin : Margin) (depth : Nat) :
    margin.comment.indentBy depth = (margin.indentBy depth).comment := by
  induction depth generalizing margin with
  | zero => rfl
  | succ depth ih =>
      have step : margin.comment.indent = margin.indent.comment := by
        simp only [comment, indent, String.append_assoc]
      rw [indentBy, step, ih, indentBy]

theorem descend_comment (margin : Margin) (descent : Descent) :
    margin.comment.descend descent = (margin.descend descent).comment := by
  cases descent with
  | indented depth => exact margin.indentBy_comment depth
  | commented => rfl

/-- The marker ends in a space, which is trimmed only if nothing but white space follows. -/
theorem trimEnd_comment (margin : Margin) :
    Text.trimEnd margin.comment =
      if Text.trimEnd margin = "" then "//" else commentMarker ++ Text.trimEnd margin := by
  have marker : Text.trimEndChars commentMarker.toList = ['/', '/'] := by decide
  apply String.toList_injective
  simp only [comment, Text.toList_trimEnd, String.toList_append, Text.trimEndChars_append, marker]
  by_cases blank : Text.trimEndChars margin.toList = []
  · simp [Text.trimEnd, blank]
  · simp [Text.trimEnd, blank]

theorem render_comment (margin : Margin) (line : String) :
    margin.comment.render line = commentedText (margin.render line) := by
  by_cases empty : line = ""
  · subst empty
    rw [render_empty, render_empty, commentedText_newline, trimEnd_comment]
    split <;> rfl
  · have written : margin ++ line ≠ "" := by simp [empty]
    rw [render_of_ne empty, render_of_ne empty, commentedText_newline, if_neg written]
    simp only [comment, String.append_assoc]

end Margin

def Event.commented : Event → Event
  | .written text => .written (commentedText text)
  | .refused text fault => .refused (commentedText text) fault
  | .logged level message => .logged level message
  | .shownMargin margin => .shownMargin (Margin.comment margin)
  | .caught failure => .caught failure

def Moment.commented : Moment → Moment
  | .asked margin line => .asked margin.comment line
  | .event told => .event told.commented
  | .raised fault => .raised fault
  | .failed failure => .failed failure

theorem Moment.commented_plain : Plain commented where
  logged _ _ := rfl
  caught _ := rfl
  raised _ := rfl
  failed _ := rfl

/-- Sinks in memory, both open or both closed; what they hold may differ. -/
structure Sink.Twin (first second : Sink) : Prop where
  memory : first.policy = .memory
  policy : second.policy = .memory
  closed : second.closed = first.closed

theorem Sink.Twin.answers {first second : Sink} (twin : first.Twin second) (text other : String) :
    second.refusal? other = first.refusal? text ∧ (first.offer text).Twin (second.offer other) := by
  obtain ⟨memory, policy, closed⟩ := twin
  refine ⟨by simp only [refusal?, memory, policy, closed], ?_⟩
  exact ⟨by simpa using memory, by simpa using policy, by simpa using closed⟩

theorem Line.write_commented (margin : Margin) (line : Line) :
    Action.Retold Sink.Twin Moment.commented (line.write margin) (line.write margin.comment) := by
  have text := Margin.render_comment (margin.indentBy line.depth) line.text
  rw [write, write, Margin.indentBy_comment]
  refine .writeLine Moment.commented_plain rfl ?written (fun fault => ?refused) fun twin =>
    twin.answers _ _
  case written | refused =>
    rw [text]
    rfl

namespace Script

/-- A script that uses no writer more than so many levels further out, and no new one. -/
def Inward : Script → Nat → Prop
  | .seq first second, reach => first.Inward reach ∧ second.Inward reach
  | .emit up _, reach | .showMargin up, reach => up ≤ reach
  | .within up _ body, reach => up ≤ reach ∧ body.Inward (reach + 1)
  | .attempt body, reach => body.Inward reach
  | .afresh _ _, _ => False
  | .skip, _ | .raise _, _ | .close, _ => True

/-- A script whose writers all have a marker more comments all that it does. -/
theorem run_commented {script : Script} {reach : Nat} (inward : script.Inward reach)
    {plain marked : Nest Margin}
    (nests : ∀ up ≤ reach, marked.writer up = (plain.writer up).comment) :
    Action.Retold Sink.Twin Moment.commented (script.run plain) (script.run marked) := by
  have kept := Moment.commented_plain
  induction script generalizing reach plain marked with
  | skip => exact .done
  | seq first second firstIH secondIH =>
      exact (firstIH inward.1 nests).andThen (secondIH inward.2 nests)
  | emit up item =>
      rw [run, run, nests up inward]
      exact .item kept item (Line.write_commented _)
  | within up scope body ih =>
      -- The body may reach one level further out, as the new writer is one level further in.
      have deeper : ∀ level ≤ reach + 1,
          (Nest.inner ((marked.writer up).descend scope.frame.descent) marked).writer level =
            ((Nest.inner ((plain.writer up).descend scope.frame.descent) plain).writer
              level).comment := by
        intro level reached
        cases level with
        | zero =>
            rw [nests up inward.1]
            exact Margin.descend_comment _ _
        | succ level => exact nests level (Nat.le_of_succ_le_succ reached)
      have inside := ih inward.2 deeper
      rw [nests up inward.1] at inside
      rw [run, run, nests up inward.1]
      exact .frame (Line.write_commented _) inside
  | showMargin up =>
      rw [run, run, nests up inward]
      exact .record rfl
  | raise fault => exact .raise kept fault
  | attempt body ih => exact (ih inward nests).attempt kept
  | afresh margin body ih => exact absurd inward id
  | close => exact fun _ _ twin => ⟨rfl, rfl, ⟨twin.memory, twin.policy, rfl⟩⟩

variable {body : Script} {sink : Sink} {calling : Nest Margin} {up : Nat}

theorem within_commented (inward : body.Inward 0) (memory : sink.policy = .memory)
    {direct : Nest Margin} (writer : direct.writer 0 = calling.writer up) :
    (body.run direct sink).Retold Sink.Twin Moment.commented
      ((Script.within up .commented body).run calling sink) := by
  have marked : ∀ level ≤ 0, (Nest.inner (calling.writer up).comment calling).writer level =
      (direct.writer level).comment := by
    intro level reached
    cases Nat.le_zero.mp reached
    rw [writer]
    rfl
  have alone : (Script.within up .commented body).run calling =
      body.run (.inner (calling.writer up).comment calling) := by
    simp only [run, Frame.write, Scope.frame, writeLines_nil, Action.done_andThen,
      Action.andThen_done, Margin.descend]
  rw [alone]
  exact run_commented inward marked _ _ ⟨memory, memory, rfl⟩

end Script

namespace Outcome.Retold

variable {sinks : Sink → Sink → Prop} {plain commented : Outcome}

theorem events_commented (retold : plain.Retold sinks Moment.commented commented) :
    commented.events = plain.events.map Event.commented :=
  retold.observed fun moment => by cases moment <;> rfl

theorem written_commented (retold : plain.Retold sinks Moment.commented commented) :
    commented.written = plain.written.map commentedText := by
  refine retold.observed fun moment => ?_
  cases moment with
  | event told => cases told <;> rfl
  | _ => rfl

end Outcome.Retold

theorem commentedText_isWholeLine {text : String} (whole : Text.IsWholeLine text) :
    Text.IsWholeLine (commentedText text) ∧ ['/', '/'] <+: (commentedText text).toList := by
  obtain ⟨line, unbroken, rfl⟩ := whole
  rw [commentedText_newline]
  split
  · exact ⟨⟨"//", by decide, rfl⟩, by decide⟩
  · have marker : Text.Unbroken commentMarker := by decide
    refine ⟨⟨_, marker.append unbroken, rfl⟩, ?_⟩
    simp only [commentMarker, String.toList_append]
    exact ⟨[' '] ++ line.toList ++ "\n".toList, by simp⟩

namespace Script

variable {body : Script} {sink : Sink} {calling : Nest Margin} {up : Nat}

theorem commented_lines (inward : body.Inward 0) (memory : sink.policy = .memory)
    (given : body.Given Text.Unbroken) (unbroken : Text.Unbroken (calling.writer up)) :
    ∀ text ∈ ((Script.within up .commented body).run calling sink).written,
      Text.IsWholeLine text ∧ ['/', '/'] <+: text.toList := by
  -- The body reaches no other writer, so it may be run as if there were none.
  have retold := within_commented inward memory
    (show (Nest.root (calling.writer up)).writer 0 = calling.writer up from rfl)
  intro text written
  rw [retold.written_commented] at written
  obtain ⟨plain, alone, rfl⟩ := List.mem_map.mp written
  exact commentedText_isWholeLine
    (offered_isWholeLine given (fun _ => unbroken) (Outcome.offered_of_written alone))

theorem comment_written (line : String) :
    ((Script.emit 0 (.comment line)).run (.root "") { policy := .memory }).written =
      [commentedText (line ++ "\n")] := by
  have rendered : Margin.render "" (Line.comment line).text = commentedText (line ++ "\n") := by
    rw [commentedText_newline]
    by_cases empty : line = ""
    · subst empty
      decide
    · simp [Line.comment, empty, Margin.render, commentMarker]
  rw [← rendered]
  rfl

/-- Commenting a scope is commenting what its body writes, whatever the margin and the body. Unless
these bring a line feed of their own, all lines added to the sink start with a marker. -/
theorem commenting_comments_output (inward : body.Inward 0) (memory : sink.policy = .memory)
    {direct : Nest Margin} (writer : direct.writer 0 = calling.writer up) :
    let plain := body.run direct sink
    let commented := (Script.within up .commented body).run calling sink
    commented.events = plain.events.map Event.commented ∧
    commented.failure = plain.failure ∧
    commented.sink.closed = plain.sink.closed ∧
    (∀ text ∈ plain.offered, ∃ line : String, text = line ++ "\n") ∧
    (∀ line : String,
      commentedText (line ++ "\n") = (if line = "" then "//\n" else "// " ++ line ++ "\n") ∧
      ((Script.emit 0 (.comment line)).run (.root "") { policy := .memory }).written =
        [commentedText (line ++ "\n")]) ∧
    (body.Given Text.Unbroken → Text.Unbroken (calling.writer up) →
      commented.sink.content = sink.content ++ commented.text ∧
      ∀ line ∈ Text.cutLines commented.text.toList, ['/', '/'] <+: line) := by
  intro plain commented
  have retold : plain.Retold Sink.Twin Moment.commented commented :=
    within_commented inward memory writer
  refine ⟨retold.events_commented, retold.failure, retold.sink.closed, fun text => offered_ends,
    fun line => ⟨commentedText_newline line, comment_written line⟩, ?_⟩
  intro given unbroken
  have lines := commented_lines inward memory given unbroken
  refine ⟨(run_accountable _ _ _).content_eq, ?_⟩
  intro line cut
  rw [Outcome.text, Text.cutLines_join fun text written => (lines text written).1] at cut
  obtain ⟨text, written, rfl⟩ := List.mem_map.mp cut
  exact (lines text written).2

/-- A margin of a tab, an empty line, an inner comment and a fault that is caught. -/
theorem commenting_comments_output_in_function :
    let body := Script.within 0 (.pubFn "f()") (.ofList
      [.emit 1 (.line ""), .within 1 .commented (.emit 1 (.line "x")), .showMargin 0,
        .attempt (.raise .closedBuffer)])
    let calling : Nest Margin := .inner "n\n" (.root "\t")
    let memory : Sink := { policy := .memory }
    let commented := (Script.within 1 .commented body).run calling memory
    body.Inward 0 ∧ commented.events = (body.run (.root "\t") memory).events.map Event.commented ∧
      commented.text = "// \tpub fn f() \x7b\n//\n// \t    x\n// \t\x7d\n" ∧
      ∀ line ∈ Text.cutLines commented.text.toList, ['/', '/'] <+: line := by
  intro body calling memory commented
  have inward : body.Inward 0 := by simp [body, Inward, ofList]
  have given : body.Given Text.Unbroken := by
    simp only [body, Given, Throughout, ofList, Scope.arguments, Item.arguments]
    decide
  obtain ⟨events, -, -, -, -, lines⟩ := commenting_comments_output inward
    (show memory.policy = .memory from rfl)
    (show (Nest.root "\t").writer 0 = calling.writer 1 from rfl)
  exact ⟨inward, events, by decide +kernel, (lines given (by decide)).2⟩

end Script

end RustScribe
