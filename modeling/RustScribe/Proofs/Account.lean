import RustScribe.Proofs.Moments
import RustScribe.Session

namespace RustScribe

/-! A run is recorded as a succession of episodes. An episode that fails is told at once: the next
moment catches its failure, or the run ends with it. -/

/-- One thing that happens at a sink: its record, its failure, the sink afterwards. -/
inductive Episode : Sink → List Moment → Option Failure → Sink → Prop where
  | noted (sink : Sink) (message : String) :
      Episode sink [.event (.logged .debug message)] none sink
  | shown (sink : Sink) (margin : Margin) :
      Episode sink [.event (.shownMargin margin)] none sink
  | closed (sink : Sink) : Episode sink [] none sink.close
  | accepted {sink : Sink} {margin : Margin} {line : String}
      (accepted : sink.refusal? (margin.render line) = none) :
      Episode sink [.asked margin line, .event (.written (margin.render line))] none
        (sink.offer (margin.render line))
  /-- One record in the log, and a failure that names the line and the sink's fault. -/
  | refused {sink : Sink} {margin : Margin} {line : String} {fault : Fault}
      (refused : sink.refusal? (margin.render line) = some fault)
      (refusal : fault.isRefusal = true) :
      Episode sink
        [.asked margin line, .event (.refused (margin.render line) fault),
          .event (.logged .error (Action.refusalNotice fault)), .failed (.refusedLine line fault)]
        (some (.refusedLine line fault)) (sink.offer (margin.render line))
  /-- Any other fault of the sink passes as it is, without a record. -/
  | defect {sink : Sink} {margin : Margin} {line : String} {fault : Fault}
      (refused : sink.refusal? (margin.render line) = some fault)
      (defect : fault.isRefusal = false) :
      Episode sink
        [.asked margin line, .event (.refused (margin.render line) fault),
          .failed (.fault fault)]
        (some (.fault fault)) (sink.offer (margin.render line))
  | raised (sink : Sink) (fault : Fault) :
      Episode sink [.raised fault] (some (.fault fault)) sink

/-- A record accounted for from the first moment to the last, with the failure that
the run ends with and the sink that it leaves. -/
inductive Account : Sink → List Moment → Option Failure → Sink → Prop where
  | blank (sink : Sink) : Account sink [] none sink
  | quiet {sink middle after : Sink} {moments later : List Moment} {ending : Option Failure}
      (episode : Episode sink moments none middle) (rest : Account middle later ending after) :
      Account sink (moments ++ later) ending after
  | caught {sink middle after : Sink} {moments later : List Moment} {failure : Failure}
      {ending : Option Failure}
      (episode : Episode sink moments (some failure) middle)
      (rest : Account middle later ending after) :
      Account sink (moments ++ .event (.caught failure) :: later) ending after
  | ended {sink after : Sink} {moments : List Moment} {failure : Failure}
      (episode : Episode sink moments (some failure) after) :
      Account sink moments (some failure) after

variable {sink middle after : Sink} {moments later : List Moment}

/-- The log keeps a record of every refused line, and of no other failure. -/
def Failure.record? : Failure → Option String
  | .refusedLine _ cause => some (Action.refusalNotice cause)
  | .fault _ => none

namespace Episode

variable {ending : Option Failure}

theorem arisen (episode : Episode sink moments ending after) :
    moments.filterMap Moment.arisen? = ending.toList := by
  cases episode <;> rfl

theorem uncaught (episode : Episode sink moments ending after) :
    moments.filterMap Moment.caught? = [] := by
  cases episode <;> rfl

theorem records (episode : Episode sink moments ending after) :
    moments.filterMap Moment.errorRecord? = ending.toList.filterMap Failure.record? := by
  cases episode <;> rfl

theorem offers (episode : Episode sink moments ending after) :
    after.offers = sink.offers + (moments.filterMap Moment.asked?).length := by
  cases episode <;> first | rfl | exact Sink.offer_offers _ _

theorem policy (episode : Episode sink moments ending after) : after.policy = sink.policy := by
  cases episode <;> first | rfl | exact Sink.offer_policy _ _

theorem stays_closed (episode : Episode sink moments ending after)
    (closed : sink.closed = true) : after.closed = true := by
  cases episode <;> first | exact closed | rfl | exact (Sink.offer_closed _ _).trans closed

theorem content (episode : Episode sink moments ending after) :
    after.content = sink.content ++ String.join (moments.filterMap Moment.written?) := by
  cases episode with
  | accepted accepted =>
      simp [Sink.offer_of_accepted accepted, List.filterMap_cons, Moment.written?]
  | refused refused _ | defect refused _ =>
      simp [Sink.offer_of_refused refused, List.filterMap_cons, Moment.written?]
  | noted | shown | closed | raised => exact String.append_empty.symm

theorem offered (episode : Episode sink moments ending after) :
    moments.filterMap Moment.offered? =
      (moments.filterMap Moment.asked?).map fun request => request.1.render request.2 := by
  cases episode <;> rfl

/-- The cause of a failure at a line is what the sink answered to that very line. -/
theorem cause {line : String} {fault : Fault}
    (episode : Episode sink moments (some (.refusedLine line fault)) after) :
    fault.isRefusal = true ∧
      ∃ margin : Margin, .event (.refused (margin.render line) fault) ∈ moments := by
  cases episode with
  | @refused margin _ _ refused refusal => exact ⟨refusal, margin, by simp⟩

end Episode

namespace Account

theorem of_quiet (episode : Episode sink moments none after) :
    Account sink moments none after := by
  simpa using Account.quiet episode (.blank after)

/-- What follows an account without a failure continues it. -/
theorem append {ending : Option Failure} (first : Account sink moments none middle)
    (second : Account middle later ending after) :
    Account sink (moments ++ later) ending after := by
  generalize unfailed : (none : Option Failure) = failure at first
  induction first with
  | blank sink => simpa using second
  | quiet episode rest ih =>
      rw [List.append_assoc]
      exact .quiet episode (ih second unfailed)
  | caught episode rest ih =>
      rw [List.append_assoc, List.cons_append]
      exact .caught episode (ih second unfailed)
  | ended episode => contradiction

/-- A failure that is caught ends an account no more. -/
theorem settle {failure : Failure} (account : Account sink moments (some failure) after) :
    Account sink (moments ++ [.event (.caught failure)]) none after := by
  generalize failed : some failure = ending at account
  induction account with
  | blank sink => contradiction
  | quiet episode rest ih =>
      rw [List.append_assoc]
      exact .quiet episode (ih failed)
  | caught episode rest ih =>
      rw [List.append_assoc, List.cons_append]
      exact .caught episode (ih failed)
  | ended episode =>
      cases failed
      exact .caught episode (.blank _)

variable {ending : Option Failure}

theorem arisen_eq_reported (account : Account sink moments ending after) :
    moments.filterMap Moment.arisen? =
      moments.filterMap Moment.caught? ++ ending.toList := by
  induction account with
  | blank sink => rfl
  | quiet episode rest ih =>
      simp only [List.filterMap_append, episode.arisen, episode.uncaught, ih,
        Option.toList_none, List.nil_append]
  | caught episode rest ih =>
      simp only [List.filterMap_append, List.filterMap_cons, Moment.arisen?, Moment.caught?,
        episode.arisen, episode.uncaught, ih, Option.toList_some, List.nil_append,
        List.cons_append]
  | ended episode => rw [episode.arisen, episode.uncaught, List.nil_append]

theorem records_eq (account : Account sink moments ending after) :
    moments.filterMap Moment.errorRecord? =
      (moments.filterMap Moment.arisen?).filterMap Failure.record? := by
  induction account with
  | blank sink => rfl
  | quiet episode rest ih =>
      simp only [List.filterMap_append, episode.arisen, episode.records, ih]
  | caught episode rest ih =>
      simp only [List.filterMap_append, List.filterMap_cons, Moment.arisen?,
        Moment.errorRecord?, episode.arisen, episode.records, ih]
  | ended episode => rw [episode.arisen, episode.records]

theorem cause {line : String} {fault : Fault} (account : Account sink moments ending after)
    (arose : .refusedLine line fault ∈ moments.filterMap Moment.arisen?) :
    fault.isRefusal = true ∧
      ∃ margin : Margin, .event (.refused (margin.render line) fault) ∈ moments := by
  induction account with
  | blank sink => exact absurd arose List.not_mem_nil
  | quiet episode rest ih =>
      rw [List.filterMap_append, episode.arisen] at arose
      obtain ⟨refusal, margin, later⟩ := ih arose
      exact ⟨refusal, margin, List.mem_append_right _ later⟩
  | caught episode rest ih =>
      rw [List.filterMap_append, episode.arisen, List.mem_append] at arose
      cases arose with
      | inl here =>
          cases List.mem_singleton.mp here
          obtain ⟨refusal, margin, answered⟩ := episode.cause
          exact ⟨refusal, margin, List.mem_append_left _ answered⟩
      | inr there =>
          obtain ⟨refusal, margin, later⟩ := ih there
          exact ⟨refusal, margin, List.mem_append_right _ (List.mem_cons_of_mem _ later)⟩
  | ended episode =>
      rw [episode.arisen] at arose
      cases List.mem_singleton.mp arose
      exact episode.cause

theorem offers_eq (account : Account sink moments ending after) :
    after.offers = sink.offers + (moments.filterMap Moment.asked?).length := by
  induction account with
  | blank sink => rfl
  | quiet episode rest ih =>
      rw [ih, episode.offers, List.filterMap_append, List.length_append, Nat.add_assoc]
  | caught episode rest ih =>
      rw [ih, episode.offers, List.filterMap_append, List.length_append, Nat.add_assoc]
      rfl
  | ended episode => exact episode.offers

/-- What every episode does, and what adds up over records, holds of whole accounts. -/
theorem adds_up {motive : Sink → List Moment → Sink → Prop}
    (nothing : ∀ sink, motive sink [] sink)
    (report : ∀ sink failure, motive sink [.event (.caught failure)] sink)
    (episode : ∀ {sink moments ending after}, Episode sink moments ending after →
      motive sink moments after)
    (append : ∀ {sink middle after moments later}, motive sink moments middle →
      motive middle later after → motive sink (moments ++ later) after)
    (account : Account sink moments ending after) : motive sink moments after := by
  induction account with
  | blank sink => exact nothing sink
  | quiet first rest ih => exact append (episode first) ih
  | @caught _ _ _ _ _ failure _ first rest ih =>
      exact append (episode first) (append (report _ failure) ih)
  | ended last => exact episode last

theorem policy_eq (account : Account sink moments ending after) : after.policy = sink.policy :=
  account.adds_up (motive := fun sink _ after => after.policy = sink.policy) (fun _ => rfl)
    (fun _ _ => rfl) Episode.policy (fun first second => second.trans first)

theorem closed_of_closed (account : Account sink moments ending after)
    (closed : sink.closed = true) : after.closed = true :=
  account.adds_up (motive := fun sink _ after => sink.closed = true → after.closed = true)
    (fun _ => id) (fun _ _ => id) Episode.stays_closed (fun first second => second ∘ first) closed

/-- A sink holds what it held and what the record says was written, in order. -/
theorem content_eq (account : Account sink moments ending after) :
    after.content = sink.content ++ String.join (moments.filterMap Moment.written?) := by
  refine account.adds_up
    (motive := fun sink moments after =>
      after.content = sink.content ++ String.join (moments.filterMap Moment.written?))
    (fun _ => String.append_empty.symm) (fun _ _ => String.append_empty.symm) Episode.content ?_
  intro sink middle after moments later first second
  rw [second, first, List.filterMap_append, String.join_append, String.append_assoc]

/-- Each line that a writer is asked for is offered to the sink, in one piece. -/
theorem offered_eq (account : Account sink moments ending after) :
    moments.filterMap Moment.offered? =
      (moments.filterMap Moment.asked?).map fun request => request.1.render request.2 := by
  refine account.adds_up
    (motive := fun _ moments _ => moments.filterMap Moment.offered? =
      (moments.filterMap Moment.asked?).map fun request => request.1.render request.2)
    (fun _ => rfl) (fun _ _ => rfl) Episode.offered ?_
  intro sink middle after moments later first second
  rw [List.filterMap_append, List.filterMap_append, List.map_append, first, second]

end Account

def Action.Accountable (action : Action) : Prop :=
  ∀ sink, Account sink (action sink).moments (action sink).failure (action sink).sink

namespace Action

variable {first second action : Action}

theorem Accountable.done : Accountable done :=
  fun sink => .blank sink

theorem Accountable.andThen (before : first.Accountable) (after : second.Accountable) :
    (first.andThen second).Accountable := by
  intro sink
  have account := before sink
  cases failed : (first sink).failure with
  | some failure => rwa [andThen_of_failed failed]
  | none =>
      rw [failed] at account
      rw [andThen_of_succeeded failed]
      exact account.append (after _)

theorem Accountable.attempt (inside : action.Accountable) : action.attempt.Accountable := by
  intro sink
  have account := inside sink
  cases failed : (action sink).failure with
  | none => rwa [attempt_of_succeeded failed]
  | some failure =>
      rw [failed] at account
      rw [attempt_of_failed failed]
      exact account.settle

theorem Accountable.writeLine (margin : Margin) (line : String) :
    (writeLine margin line).Accountable := by
  intro sink
  cases answer : sink.refusal? (margin.render line) with
  | none =>
      rw [writeLine_of_accepted answer]
      exact .of_quiet (.accepted answer)
  | some fault =>
      cases kind : fault.isRefusal with
      | true =>
          rw [writeLine_of_refused answer kind]
          exact .ended (.refused answer kind)
      | false =>
          rw [writeLine_of_defect answer kind]
          exact .ended (.defect answer kind)

theorem Accountable.writeLines (margin : Margin) (lines : List Line) :
    (writeLines margin lines).Accountable := by
  induction lines with
  | nil => exact .done
  | cons line rest ih =>
      rw [writeLines_cons]
      exact .andThen (.writeLine _ _) ih

theorem Accountable.failure_eq_none (accountable : action.Accountable) {sink : Sink}
    (calm : (action sink).arisen = []) : (action sink).failure = none := by
  have reported := (accountable sink).arisen_eq_reported
  rw [show (action sink).moments.filterMap Moment.arisen? = [] from calm] at reported
  have nothing := (List.append_eq_nil_iff.mp reported.symm).2
  exact Option.toList_eq_nil_iff.mp nothing

/-- Where nothing arises in two actions, both run to their end. -/
theorem Accountable.andThen_of_calm (accountable : first.Accountable) {sink : Sink}
    (calm : (first.andThen second sink).arisen = []) :
    (first sink).arisen = [] ∧ (second (first sink).sink).arisen = [] ∧
      first.andThen second sink =
        { second (first sink).sink with
          moments := (first sink).moments ++ (second (first sink).sink).moments } := by
  cases failed : (first sink).failure with
  | some failure =>
      rw [andThen_of_failed failed] at calm
      rw [accountable.failure_eq_none calm] at failed
      contradiction
  | none =>
      rw [andThen_of_succeeded failed] at calm
      have parts : (first sink).arisen ++ (second (first sink).sink).arisen = [] := by
        simpa only [Outcome.arisen, List.filterMap_append] using calm
      obtain ⟨before, after⟩ := List.append_eq_nil_iff.mp parts
      exact ⟨before, after, andThen_of_succeeded failed second⟩

theorem Accountable.attempt_of_calm (accountable : action.Accountable) {sink : Sink}
    (calm : (action.attempt sink).arisen = []) :
    (action sink).arisen = [] ∧ action.attempt sink = action sink := by
  have inside : (action sink).arisen = [] := by
    cases failed : (action sink).failure with
    | none => rwa [attempt_of_succeeded failed] at calm
    | some failure =>
        rw [attempt_of_failed failed] at calm
        have parts : (action sink).arisen ++ [] = [] := by
          simpa [Outcome.arisen, Moment.arisen?, List.filterMap_append, List.filterMap_cons]
            using calm
        simpa using parts
  exact ⟨inside, attempt_of_succeeded (accountable.failure_eq_none inside)⟩

end Action

open RustScribe.Action

theorem Item.write_accountable (margin : Margin) (item : Item) :
    (item.write margin).Accountable := by
  unfold Item.write
  cases item.notice with
  | none => exact .writeLines margin _
  | some message =>
      have note : (record (.logged .debug message)).Accountable :=
        fun sink => .of_quiet (.noted sink message)
      exact note.andThen (.writeLines margin _)

theorem Frame.write_accountable (margin : Margin) (frame : Frame) {body : Margin → Action}
    (inside : (body (margin.descend frame.descent)).Accountable) :
    (frame.write margin body).Accountable :=
  .andThen (.writeLines margin _) (inside.andThen (.writeLines margin _))

theorem Script.run_accountable (script : Script) (nest : Nest Margin) :
    (script.run nest).Accountable := by
  induction script generalizing nest with
  | skip => exact .done
  | seq first second firstIH secondIH => exact (firstIH nest).andThen (secondIH nest)
  | emit up item => exact item.write_accountable _
  | within up scope body ih => exact scope.frame.write_accountable _ (ih _)
  | showMargin up => exact fun sink => .of_quiet (.shown sink _)
  | raise fault => exact fun sink => .ended (.raised sink fault)
  | attempt body ih => exact (ih nest).attempt
  | afresh margin body ih => exact ih _
  | close => exact fun sink => .of_quiet (.closed sink)

theorem Action.attempt_catches (body : Action) (sink : Sink) :
    (body.attempt sink).failure = none ∧
      (body.attempt sink).moments =
        (body sink).moments ++ (body sink).failure.toList.map (.event ∘ .caught) := by
  cases failed : (body sink).failure with
  | none => simp [attempt_of_succeeded failed, failed]
  | some failure => simp [attempt_of_failed failed]

namespace Session

def Accounted : Sink → List Outcome → Prop
  | _, [] => True
  | sink, outcome :: rest =>
      Account sink outcome.moments outcome.failure outcome.sink ∧ Accounted outcome.sink rest

theorem outcomes_accounted (sink : Sink) (margin : Margin) (scripts : List Script) :
    Accounted sink (outcomes margin sink scripts) := by
  induction scripts generalizing sink with
  | nil => trivial
  | cons script rest ih => exact ⟨script.run_accountable _ sink, ih _⟩

namespace Accounted

variable {sink : Sink} {outcomes : List Outcome}

theorem arisen_eq_reported (accounted : Accounted sink outcomes) :
    outcomes.flatMap Outcome.arisen = outcomes.flatMap Outcome.reported := by
  induction outcomes generalizing sink with
  | nil => rfl
  | cons outcome rest ih =>
      have told : outcome.arisen = outcome.reported := accounted.1.arisen_eq_reported
      rw [List.flatMap_cons, List.flatMap_cons, told, ih accounted.2]

theorem of_mem (accounted : Accounted sink outcomes) {outcome : Outcome}
    (member : outcome ∈ outcomes) :
    ∃ before, Account before outcome.moments outcome.failure outcome.sink := by
  induction outcomes generalizing sink with
  | nil => exact absurd member List.not_mem_nil
  | cons first rest ih =>
      cases List.mem_cons.mp member with
      | inl same =>
          subst same
          exact ⟨sink, accounted.1⟩
      | inr later => exact ih accounted.2 later

theorem records_eq (accounted : Accounted sink outcomes) :
    outcomes.flatMap Outcome.errorRecords =
      (outcomes.flatMap Outcome.arisen).filterMap Failure.record? := by
  induction outcomes generalizing sink with
  | nil => rfl
  | cons outcome rest ih =>
      have records : outcome.errorRecords = outcome.arisen.filterMap Failure.record? :=
        accounted.1.records_eq
      rw [List.flatMap_cons, List.flatMap_cons, List.filterMap_append, records, ih accounted.2]

end Accounted

theorem finalSink_offers (sink : Sink) (margin : Margin) (scripts : List Script) :
    (finalSink margin sink scripts).offers =
      sink.offers + ((outcomes margin sink scripts).flatMap Outcome.asked).length := by
  induction scripts generalizing sink with
  | nil => rfl
  | cons script rest ih =>
      have first := (script.run_accountable (.root margin) sink).offers_eq
      have later := ih (script.run (.root margin) sink).sink
      simp only [finalSink, List.foldl_cons] at later ⊢
      rw [later, first]
      simp only [outcomes, List.flatMap_cons, List.length_append, Outcome.asked, Nat.add_assoc]

/-- Every call of the sink is recorded with one of three results; faults of scripts pass unchanged
and unlogged; and nothing happens between a failure and its report, by the attempt around it or else
by the script. -/
theorem session_errors_accounted (sink : Sink) (margin : Margin) (scripts : List Script) :
    let outcomes := outcomes margin sink scripts
    Accounted sink outcomes ∧
      (finalSink margin sink scripts).offers =
        sink.offers + (outcomes.flatMap Outcome.asked).length ∧
      outcomes.flatMap Outcome.errorRecords =
        (outcomes.flatMap Outcome.arisen).filterMap Failure.record? ∧
      outcomes.flatMap Outcome.arisen = outcomes.flatMap Outcome.reported ∧
      (∀ outcome ∈ outcomes, ∀ line fault, .refusedLine line fault ∈ outcome.arisen →
        fault.isRefusal = true ∧
          ∃ margin : Margin, .event (.refused (margin.render line) fault) ∈ outcome.moments) ∧
      (∀ (fault : Fault) (nest : Nest Margin) (current : Sink),
        let outcome := (Script.raise fault).run nest current
        outcome.failure = some (.fault fault) ∧ outcome.arisen = [.fault fault] ∧
          (∀ event, .event event ∉ outcome.moments) ∧ outcome.sink = current) ∧
      ∀ (body : Script) (nest : Nest Margin) (current : Sink),
        let tried := body.run nest current
        let outcome := (Script.attempt body).run nest current
        outcome.failure = none ∧
          outcome.moments = tried.moments ++ tried.failure.toList.map (.event ∘ .caught) := by
  intro outcomes
  have accounted := outcomes_accounted sink margin scripts
  refine ⟨accounted, finalSink_offers sink margin scripts, accounted.records_eq,
    accounted.arisen_eq_reported, ?_, ?_, ?_⟩
  · intro outcome member line fault arose
    obtain ⟨before, account⟩ := accounted.of_mem member
    exact account.cause arose
  · intro fault nest current outcome
    exact ⟨rfl, rfl, by simp [outcome, Script.run, Action.raise], rfl⟩
  · intro body nest current tried outcome
    exact Action.attempt_catches (body.run nest) current

end Session

end RustScribe
