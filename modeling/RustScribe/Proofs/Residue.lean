import RustScribe.Proofs.Account
import RustScribe.Proofs.Retelling

namespace RustScribe

/-! All that a run leaves behind is its sink. Runs that start from sinks which cannot be told apart
are the same, moment by moment. -/

/-- Sinks that answer alike from now on. Of its past, a sink in memory shows whether it
was closed; any other may also show how often it was offered a text and how much it holds. -/
structure Sink.Alike (first second : Sink) : Prop where
  policy : second.policy = first.policy
  closed : second.closed = first.closed
  past : first.policy = .memory ∨
    second.offers = first.offers ∧ second.content.length = first.content.length

namespace Sink.Alike

variable {first second : Sink}

theorem of_memory (memory : first.policy = .memory) (policy : second.policy = first.policy)
    (closed : second.closed = first.closed) : first.Alike second :=
  ⟨policy, closed, .inl memory⟩

theorem refusal?_eq (alike : first.Alike second) (text : String) :
    second.refusal? text = first.refusal? text := by
  obtain ⟨policy, closed, past⟩ := alike
  rcases past with memory | ⟨offers, size⟩
  · simp only [refusal?, policy, closed, memory]
  · simp only [refusal?, policy, closed, offers, size]

theorem offer (alike : first.Alike second) (text : String) :
    (first.offer text).Alike (second.offer text) where
  policy := by simpa using alike.policy
  closed := by simpa using alike.closed
  past := by
    refine alike.past.imp (by simp) fun ⟨offers, size⟩ => ?_
    have same := alike.refusal?_eq text
    cases answer : first.refusal? text with
    | none =>
        rw [answer] at same
        simp [offer_of_accepted answer, offer_of_accepted same, offers, size]
    | some fault =>
        rw [answer] at same
        simp [offer_of_refused answer, offer_of_refused same, offers, size]

theorem close (alike : first.Alike second) : first.close.Alike second.close :=
  ⟨alike.policy, rfl, alike.past⟩

end Sink.Alike

theorem Line.write_retold (margin : Margin) (line : Line) :
    Action.Retold Sink.Alike id (line.write margin) (line.write margin) :=
  .writeLine .id rfl rfl (fun _ => rfl) fun alike => ⟨alike.refusal?_eq _, alike.offer _⟩

namespace Script

theorem run_retold (script : Script) (nest : Nest Margin) :
    Action.Retold Sink.Alike id (script.run nest) (script.run nest) := by
  induction script generalizing nest with
  | skip => exact .done
  | seq first second firstIH secondIH => exact (firstIH nest).andThen (secondIH nest)
  | emit up item => exact .item .id item (Line.write_retold _)
  | within up scope body ih => exact .frame (Line.write_retold _) (ih _)
  | showMargin up => exact .record rfl
  | raise fault => exact .raise .id fault
  | attempt body ih => exact (ih nest).attempt .id
  | afresh margin body ih => exact ih _
  | close => exact fun _ _ alike => ⟨rfl, rfl, alike.close⟩

theorem run_alike (script : Script) (nest : Nest Margin) {first second : Sink}
    (alike : first.Alike second) :
    (script.run nest second).moments = (script.run nest first).moments ∧
      (script.run nest second).failure = (script.run nest first).failure ∧
      (script.run nest first).sink.Alike (script.run nest second).sink := by
  obtain ⟨moments, failure, left⟩ := script.run_retold nest _ _ alike
  exact ⟨by rw [moments, List.map_id], failure, left⟩

theorem run_policy (script : Script) (nest : Nest Margin) (sink : Sink) :
    (script.run nest sink).sink.policy = sink.policy :=
  (script.run_accountable nest sink).policy_eq

theorem isOpen_of_run (script : Script) (nest : Nest Margin) {sink : Sink}
    (isOpen : (script.run nest sink).sink.closed = false) : sink.closed = false := by
  cases closed : sink.closed with
  | false => rfl
  | true =>
      have still := (script.run_accountable nest sink).closed_of_closed closed
      rw [isOpen] at still
      contradiction

end Script

/-- The second outcome is the first with moments of its own at one point. -/
structure Outcome.Inserts (added : List Moment) (outcome other : Outcome) : Prop where
  moments : ∃ before after, outcome.moments = before ++ after ∧
    other.moments = before ++ added ++ after
  failure : other.failure = outcome.failure
  sink : outcome.sink.Alike other.sink

namespace Outcome.Inserts

open RustScribe.Action

variable {added : List Moment} {first second later : Action} {sink : Sink}

theorem andThen (inserts : (first sink).Inserts added (second sink))
    (same : Action.Retold Sink.Alike id later later) :
    (first.andThen later sink).Inserts added (second.andThen later sink) := by
  obtain ⟨⟨before, after, plain, full⟩, failure, left⟩ := inserts
  cases ended : (first sink).failure with
  | some cause =>
      rw [ended] at failure
      rw [andThen_of_failed ended, andThen_of_failed failure]
      exact ⟨⟨before, after, plain, full⟩, failure.trans ended.symm, left⟩
  | none =>
      rw [ended] at failure
      obtain ⟨moments, ending, final⟩ := same _ _ left
      rw [andThen_of_succeeded ended, andThen_of_succeeded failure]
      refine ⟨⟨before, after ++ (later (first sink).sink).moments, ?_, ?_⟩, ending, final⟩
      · simp only [plain, List.append_assoc]
      · simp only [full, moments, List.map_id, List.append_assoc]

theorem after (succeeded : (later sink).failure = none)
    (inserts : (first (later sink).sink).Inserts added (second (later sink).sink)) :
    (later.andThen first sink).Inserts added (later.andThen second sink) := by
  obtain ⟨⟨before, after, plain, full⟩, failure, left⟩ := inserts
  rw [andThen_of_succeeded succeeded, andThen_of_succeeded succeeded]
  refine ⟨⟨(later sink).moments ++ before, after, ?_, ?_⟩, failure, left⟩
  · simp only [plain, List.append_assoc]
  · simp only [full, List.append_assoc]

theorem attempt (inserts : (first sink).Inserts added (second sink)) :
    (first.attempt sink).Inserts added (second.attempt sink) := by
  obtain ⟨⟨before, after, plain, full⟩, failure, left⟩ := inserts
  cases ended : (first sink).failure with
  | none =>
      rw [ended] at failure
      rw [attempt_of_succeeded ended, attempt_of_succeeded failure]
      exact ⟨⟨before, after, plain, full⟩, failure.trans ended.symm, left⟩
  | some cause =>
      rw [ended] at failure
      rw [attempt_of_failed ended, attempt_of_failed failure]
      refine ⟨⟨before, after ++ [.event (.caught cause)], ?_, ?_⟩, rfl, left⟩
      · simp only [plain, List.append_assoc]
      · simp only [full, List.append_assoc]

end Outcome.Inserts

/-- A script with one step left open, at any depth. -/
inductive Context where
  | here
  | before (context : Context) (later : Script)
  | after (earlier : Script) (context : Context)
  | within (up : Nat) (scope : Scope) (context : Context)
  | attempt (context : Context)
  | afresh (margin : Margin) (context : Context)

namespace Context

def fill : Context → Script → Script
  | .here, step => step
  | .before context later, step => .seq (context.fill step) later
  | .after earlier context, step => .seq earlier (context.fill step)
  | .within up scope context, step => .within up scope (context.fill step)
  | .attempt context, step => .attempt (context.fill step)
  | .afresh margin context, step => .afresh margin (context.fill step)

/-- The writers and the sink that the open step is run with, unless a failure ends the run
before it. -/
def reach : Context → Nest Margin → Sink → Option (Nest Margin × Sink)
  | .here, nest, sink => some (nest, sink)
  | .before context _, nest, sink => context.reach nest sink
  | .after earlier context, nest, sink =>
      let outcome := earlier.run nest sink
      if outcome.failure = none then context.reach nest outcome.sink else none
  | .within up scope context, nest, sink =>
      let outcome := writeLines (nest.writer up) scope.frame.opening sink
      if outcome.failure = none then
        context.reach (.inner ((nest.writer up).descend scope.frame.descent) nest) outcome.sink
      else none
  | .attempt context, nest, sink => context.reach nest sink
  | .afresh margin context, nest, sink => context.reach (.inner margin nest) sink

/-- In memory, an attempt that does not close the sink adds what it does, and changes
nothing of what is done after it, in the same body or around it. -/
theorem run_inserts_attempt (context : Context) (tried : Script) {nest place : Nest Margin}
    {sink current : Sink} (memory : sink.policy = .memory)
    (reached : context.reach nest sink = some (place, current))
    (isOpen : ((Script.attempt tried).run place current).sink.closed = false) :
    ((context.fill .skip).run nest sink).Inserts
      ((Script.attempt tried).run place current).moments
      ((context.fill (.attempt tried)).run nest sink) := by
  induction context generalizing nest sink with
  | here =>
      cases reached
      -- Memory that is open after the attempt was open before it, so nothing tells them apart.
      have left : current.Alike ((Script.attempt tried).run place current).sink :=
        .of_memory memory (Script.run_policy _ place current)
          (isOpen.trans (Script.isOpen_of_run _ place isOpen).symm)
      exact ⟨⟨[], [], rfl, (List.append_nil _).symm⟩,
        (Action.attempt_catches (tried.run place) current).1, left⟩
  | before context later ih => exact (ih memory reached).andThen (later.run_retold nest)
  | after earlier context ih =>
      simp only [reach] at reached
      split at reached
      · next succeeded =>
          exact .after succeeded (ih ((earlier.run_policy nest sink).trans memory) reached)
      · contradiction
  | within up scope context ih =>
      simp only [reach] at reached
      split at reached
      · next succeeded =>
          -- The closing lines come after the step, so they only need to be the same lines.
          have policy := (Action.Accountable.writeLines (nest.writer up) scope.frame.opening
            sink).policy_eq
          exact .after succeeded
            ((ih (policy.trans memory) reached).andThen (.writeLines (Line.write_retold _)))
      · contradiction
  | attempt context ih => exact (ih memory reached).attempt
  | afresh margin context ih => exact ih memory reached

theorem run_unreached (context : Context) (step other : Script) {nest : Nest Margin} {sink : Sink}
    (unreached : context.reach nest sink = none) :
    (context.fill step).run nest sink = (context.fill other).run nest sink := by
  induction context generalizing nest sink with
  | here => contradiction
  | before context later ih =>
      simp only [fill, Script.run, Action.andThen, ih unreached]
  | after earlier context ih =>
      simp only [reach] at unreached
      cases ended : (earlier.run nest sink).failure with
      | some cause =>
          simp only [fill, Script.run, Action.andThen_of_failed ended]
      | none =>
          rw [if_pos ended] at unreached
          simp only [fill, Script.run, Action.andThen_of_succeeded ended, ih unreached]
  | within up scope context ih =>
      simp only [reach] at unreached
      cases ended : (writeLines (nest.writer up) scope.frame.opening sink).failure with
      | some cause =>
          simp only [fill, Script.run, Frame.write, Action.andThen_of_failed ended]
      | none =>
          rw [if_pos ended] at unreached
          simp only [fill, Script.run, Frame.write, Action.andThen_of_succeeded ended]
          simp only [Action.andThen, ih unreached]
  | attempt context ih => simp only [fill, Script.run, Action.attempt, ih unreached]
  | afresh margin context ih => exact ih unreached

end Context

namespace Session

theorem finalSink_cons (margin : Margin) (sink : Sink) (script : Script) (rest : List Script) :
    finalSink margin sink (script :: rest) =
      finalSink margin (script.run (.root margin) sink).sink rest := rfl

theorem length_outcomes (margin : Margin) (sink : Sink) (scripts : List Script) :
    (outcomes margin sink scripts).length = scripts.length := by
  induction scripts generalizing sink with
  | nil => rfl
  | cons script rest ih => simp only [outcomes, List.length_cons, ih]

theorem finalSink_policy (margin : Margin) (sink : Sink) (scripts : List Script) :
    (finalSink margin sink scripts).policy = sink.policy := by
  induction scripts generalizing sink with
  | nil => rfl
  | cons script rest ih => rw [finalSink_cons, ih, script.run_policy]

theorem isOpen_of_finalSink (margin : Margin) {sink : Sink} (scripts : List Script)
    (isOpen : (finalSink margin sink scripts).closed = false) : sink.closed = false := by
  induction scripts generalizing sink with
  | nil => exact isOpen
  | cons script rest ih => exact script.isOpen_of_run (.root margin) (ih isOpen)

theorem reports_drop (margin : Margin) (sink : Sink) (earlier later : List Script) :
    (reports sink margin (earlier ++ later)).drop earlier.length =
      reports (finalSink margin sink earlier) margin later := by
  rw [reports, outcomes_append, List.map_append]
  exact List.drop_left' ((List.length_map _).trans (length_outcomes margin sink earlier))

theorem reports_alike (margin : Margin) {first second : Sink} (alike : first.Alike second)
    (scripts : List Script) : reports second margin scripts = reports first margin scripts := by
  induction scripts generalizing first second with
  | nil => rfl
  | cons script rest ih =>
      obtain ⟨moments, failure, left⟩ := script.run_alike (.root margin) alike
      have later := ih left
      simp only [reports] at later
      simp only [reports, outcomes, List.map_cons, later, Outcome.report, Outcome.events, moments,
        failure]

theorem reports_memory (margin : Margin) {sink : Sink} (memory : sink.policy = .memory)
    (scripts : List Script) (isOpen : (finalSink margin sink scripts).closed = false) :
    reports sink margin scripts =
      scripts.flatMap fun script => reports { policy := .memory } margin [script] := by
  induction scripts generalizing sink with
  | nil => rfl
  | cons script rest ih =>
      have alike : sink.Alike { policy := .memory } :=
        .of_memory memory memory.symm (isOpen_of_finalSink margin (script :: rest) isOpen).symm
      have later := ih ((script.run_policy _ sink).trans memory) isOpen
      rw [List.flatMap_cons, ← later, reports_alike margin alike]
      rfl

/-- Nothing outlasts a script but the sink: sessions that left it in like states report the same of
whatever follows, and an attempt that leaves memory open can be left out at any depth. -/
theorem scripts_leave_only_the_sink :
    (∀ (margin : Margin) (first second : Sink) (earlier other later : List Script),
      let left := finalSink margin first earlier
      let right := finalSink margin second other
      second.policy = first.policy → right.closed = left.closed → right.offers = left.offers →
      right.content.length = left.content.length →
      (reports second margin (other ++ later)).drop other.length =
        (reports first margin (earlier ++ later)).drop earlier.length) ∧
    (∀ (margin : Margin) (sink : Sink) (scripts : List Script),
      sink.policy = .memory → (finalSink margin sink scripts).closed = false →
      reports sink margin scripts =
        scripts.flatMap fun script => reports { policy := .memory } margin [script]) ∧
    ∀ (context : Context) (tried : Script) (nest : Nest Margin) (sink : Sink),
      sink.policy = .memory →
      let bare := (context.fill .skip).run nest sink
      let full := (context.fill (.attempt tried)).run nest sink
      (context.reach nest sink = none → full = bare) ∧
      ∀ place current, context.reach nest sink = some (place, current) →
        let step := (Script.attempt tried).run place current
        step.sink.closed = false → bare.Inserts step.moments full := by
  refine ⟨?_, fun margin sink scripts memory isOpen => reports_memory margin memory scripts isOpen,
    ?_⟩
  · intro margin first second earlier other later left right policy closed offers size
    have alike : left.Alike right := by
      refine ⟨?_, closed, .inr ⟨offers, size⟩⟩
      rw [finalSink_policy, finalSink_policy, policy]
    rw [reports_drop, reports_drop]
    exact reports_alike margin alike later
  · intro context tried nest sink memory bare full
    exact ⟨context.run_unreached _ _, fun place current reached =>
      context.run_inserts_attempt tried memory reached⟩

/-- A function that is given up inside and two plain lines leave a pipe in one state, so the
pipe breaks at the same later line; and a closure goes on after what it failed to write. -/
theorem scripts_leave_only_the_sink_in_closure :
    let defect := Fault.raised .runtime none "no"
    let pipe : Sink := { policy := .failing [3] none (.raised .brokenPipe none "gone") }
    let given := [Script.within 0 (.pubFn "f()") (.seq (.emit 0 (.line "x")) (.raise defect))]
    let plain := [.emit 0 (.line "pub fn f() \x7b"), .within 0 .commented (.emit 0 (.line "xx"))]
    let later := [Script.within 0 .indented (.emit 0 (.comment "")), .emit 0 .unimplemented]
    let context := Context.within 0 (.lazyStaticWith "x" "T") (.before .here (.emit 1 (.line "b")))
    let memory : Sink := { policy := .memory }
    (reports pipe "" (plain ++ later)).drop 2 = (reports pipe "" (given ++ later)).drop 1 ∧
      reports memory "" (given ++ plain) =
        (given ++ plain).flatMap (fun script => reports { policy := .memory } "" [script]) ∧
      ∃ place current, context.reach (.root "") memory = some (place, current) ∧
        ((context.fill .skip).run (.root "") memory).Inserts
          ((Script.attempt (.ofList given)).run place current).moments
          ((context.fill (.attempt (.ofList given))).run (.root "") memory) := by
  intro defect pipe given plain later context memory
  obtain ⟨sessions, alone, attempts⟩ := scripts_leave_only_the_sink
  refine ⟨?_, ?_, ?_⟩
  · exact sessions "" pipe pipe given plain later rfl (by decide +kernel) (by decide +kernel)
      (by decide +kernel)
  · exact alone "" memory (given ++ plain) rfl (by decide +kernel)
  · have opened : (writeLines "" (Scope.lazyStaticWith "x" "T").frame.opening memory).failure =
        none := by decide +kernel
    have reached : context.reach (.root "") memory = some (.inner "        " (.root ""),
        (writeLines "" (Scope.lazyStaticWith "x" "T").frame.opening memory).sink) := by
      simp only [context, Context.reach, Nest.writer, opened, if_true]
      decide +kernel
    exact ⟨_, _, reached, (attempts context _ _ memory rfl).2 _ _ reached (by decide +kernel)⟩

end Session

end RustScribe
