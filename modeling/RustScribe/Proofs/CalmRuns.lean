import RustScribe.Proofs.Sessions

namespace RustScribe

/-! A run is calm if no fault arises in it. Calm runs of one script are the same, moment by moment,
whatever sinks they write to. -/

namespace Action

/-- A property of actions that the actions of writers have, and that composition keeps. -/
structure Pervasive (holds : Action → Prop) : Prop where
  done : holds done
  note : ∀ message, holds (record (.logged .debug message))
  showMargin : ∀ margin, holds (record (.shownMargin margin))
  writeLine : ∀ margin line, holds (writeLine margin line)
  andThen : ∀ {first second}, holds first → holds second → holds (first.andThen second)
  attempt : ∀ {body}, holds body → holds body.attempt

variable {holds : Action → Prop}

theorem Pervasive.writeLines (pervasive : Pervasive holds) (margin : Margin) (lines : List Line) :
    holds (writeLines margin lines) := by
  induction lines with
  | nil => exact pervasive.done
  | cons line rest ih => exact pervasive.andThen (pervasive.writeLine _ _) ih

theorem Pervasive.item (pervasive : Pervasive holds) (margin : Margin) (item : Item) :
    holds (item.write margin) := by
  unfold Item.write
  cases item.notice with
  | none => exact pervasive.writeLines _ _
  | some message => exact pervasive.andThen (pervasive.note _) (pervasive.writeLines _ _)

end Action

namespace Script

/-- What every step of a script does, raising and closing included, its run does. -/
theorem run_of_pervasive {holds : Action → Prop} (pervasive : Action.Pervasive holds)
    {script : Script} (others : script.Throughout fun
      | .raise fault => holds (Action.raise fault)
      | .close => holds Action.close
      | _ => True) (nest : Nest Margin) : holds (script.run nest) := by
  induction script generalizing nest with
  | skip => exact pervasive.done
  | seq first second firstIH secondIH =>
      exact pervasive.andThen (firstIH others.1 nest) (secondIH others.2 nest)
  | emit up item => exact pervasive.item _ item
  | within up scope body ih =>
      exact pervasive.andThen (pervasive.writeLines _ _)
        (pervasive.andThen (ih others.2 _) (pervasive.writeLines _ _))
  | showMargin up => exact pervasive.showMargin _
  | raise fault => exact others
  | attempt body ih => exact pervasive.attempt (ih others.2 nest)
  | afresh margin body ih => exact ih others.2 _
  | close => exact others

def RaisesNothing (script : Script) : Prop :=
  script.Throughout fun
    | .raise _ => False
    | _ => True

def ClosesNothing (script : Script) : Prop :=
  script.Throughout fun
    | .close => False
    | _ => True

end Script

/-- A fault that a script raised by itself. -/
def Moment.raised? : Moment → Option Fault
  | .raised fault => some fault
  | _ => none

/-- What a writer failed with at a line. -/
def Moment.failed? : Moment → Option Failure
  | .failed failure => some failure
  | _ => none

def Outcome.failed (outcome : Outcome) : List Failure :=
  outcome.moments.filterMap Moment.failed?

namespace Action

variable {first second body : Action}

/-- Where nothing arises, it does not matter which sink an action writes to. -/
def Steady (action : Action) : Prop :=
  ∀ sink other, (action sink).arisen = [] → (action other).arisen = [] →
    (action other).moments = (action sink).moments

theorem writeLine_sink (margin : Margin) (line : String) (sink : Sink) :
    (writeLine margin line sink).sink = sink.offer (margin.render line) := by
  simp only [writeLine]
  split
  · rfl
  · split <;> rfl

theorem Steady.writeLine (margin : Margin) (line : String) : (writeLine margin line).Steady := by
  have told (sink : Sink) (calm : (Action.writeLine margin line sink).arisen = []) :
      (Action.writeLine margin line sink).moments =
        [.asked margin line, .event (.written (margin.render line))] := by
    have unfailed := (Accountable.writeLine margin line).failure_eq_none calm
    cases answer : sink.refusal? (margin.render line) with
    | none => rw [writeLine_of_accepted answer]
    | some fault =>
        cases kind : fault.isRefusal with
        | true => simp [writeLine_of_refused answer kind] at unfailed
        | false => simp [writeLine_of_defect answer kind] at unfailed
  intro sink other calm otherCalm
  rw [told sink calm, told other otherCalm]

theorem steady_pervasive :
    Pervasive fun action => action.Accountable ∧ action.Steady where
  done := ⟨.done, fun _ _ _ _ => rfl⟩
  note message := ⟨fun sink => .of_quiet (.noted sink message), fun _ _ _ _ => rfl⟩
  showMargin margin := ⟨fun sink => .of_quiet (.shown sink margin), fun _ _ _ _ => rfl⟩
  writeLine margin line := ⟨.writeLine margin line, .writeLine margin line⟩
  andThen := by
    rintro first second ⟨accountable, steady⟩ ⟨later, steadyLater⟩
    refine ⟨accountable.andThen later, fun sink other calm otherCalm => ?_⟩
    obtain ⟨before, after, both⟩ := accountable.andThen_of_calm calm
    obtain ⟨otherBefore, otherAfter, otherBoth⟩ := accountable.andThen_of_calm otherCalm
    simp only [both, otherBoth, steady sink other before otherBefore,
      steadyLater _ _ after otherAfter]
  attempt := by
    rintro body ⟨accountable, steady⟩
    refine ⟨accountable.attempt, fun sink other calm otherCalm => ?_⟩
    obtain ⟨inside, same⟩ := accountable.attempt_of_calm calm
    obtain ⟨otherInside, otherSame⟩ := accountable.attempt_of_calm otherCalm
    rw [same, otherSame, steady sink other inside otherInside]

/-- A sink is closed by nothing but a step that closes it. -/
theorem stays_open_pervasive :
    Pervasive fun action => ∀ sink, (action sink).sink.closed = sink.closed where
  done _ := rfl
  note _ _ := rfl
  showMargin _ _ := rfl
  writeLine margin line sink := by rw [writeLine_sink, Sink.offer_closed]
  andThen := by
    intro first second before after sink
    cases ended : (first sink).failure with
    | some failure => rw [andThen_of_failed ended, before]
    | none => rw [andThen_of_succeeded ended, after, before]
  attempt := by
    intro body inside sink
    cases ended : (body sink).failure with
    | none => rw [attempt_of_succeeded ended, inside]
    | some failure => rw [attempt_of_failed ended, inside]

theorem unraised_pervasive :
    Pervasive fun action => ∀ sink, (action sink).moments.filterMap Moment.raised? = [] where
  done _ := rfl
  note _ _ := rfl
  showMargin _ _ := rfl
  writeLine margin line sink := by
    simp only [writeLine]
    split
    · rfl
    · split <;> rfl
  andThen := by
    intro first second before after sink
    cases ended : (first sink).failure with
    | some failure => rw [andThen_of_failed ended, before]
    | none => rw [andThen_of_succeeded ended, List.filterMap_append, before, after, List.append_nil]
  attempt := by
    intro body inside sink
    cases ended : (body sink).failure with
    | none => rw [attempt_of_succeeded ended, inside]
    | some failure =>
        rw [attempt_of_failed ended, List.filterMap_append, inside]
        rfl

end Action

namespace Script

theorem throughout_of_forall {holds : Script → Prop} (always : ∀ script, holds script)
    (script : Script) : script.Throughout holds := by
  induction script with
  | seq first second firstIH secondIH => exact ⟨firstIH, secondIH⟩
  | within up scope body ih => exact ⟨always _, ih⟩
  | attempt body ih => exact ⟨always _, ih⟩
  | afresh margin body ih => exact ⟨always _, ih⟩
  | skip | emit up item | showMargin up | raise fault | close => exact always _

variable {script : Script}

theorem run_steady (script : Script) (nest : Nest Margin) : (script.run nest).Steady := by
  refine (run_of_pervasive Action.steady_pervasive (throughout_of_forall (fun step => ?_) script)
    nest).2
  cases step with
  | raise fault => exact ⟨fun sink => .ended (.raised sink fault), fun _ _ _ _ => rfl⟩
  | close => exact ⟨fun sink => .of_quiet (.closed sink), fun _ _ _ _ => rfl⟩
  | _ => trivial

theorem ClosesNothing.run_closed (closesNothing : script.ClosesNothing) (nest : Nest Margin)
    (sink : Sink) : (script.run nest sink).sink.closed = sink.closed := by
  refine run_of_pervasive Action.stays_open_pervasive (closesNothing.mono fun step allowed => ?_)
    nest sink
  cases step with
  | raise fault => exact fun _ => rfl
  | close => exact absurd allowed id
  | _ => trivial

theorem RaisesNothing.run_raised (raisesNothing : script.RaisesNothing) (nest : Nest Margin)
    (sink : Sink) : (script.run nest sink).moments.filterMap Moment.raised? = [] := by
  refine run_of_pervasive Action.unraised_pervasive (raisesNothing.mono fun step allowed => ?_)
    nest sink
  cases step with
  | raise fault => exact absurd allowed id
  | close => exact fun _ => rfl
  | _ => trivial

/-- A script that raises nothing is calm where no writer fails. -/
theorem RaisesNothing.run_calm (raisesNothing : script.RaisesNothing) {nest : Nest Margin}
    {sink : Sink} (unfailed : (script.run nest sink).failed = []) :
    (script.run nest sink).arisen = [] := by
  have unraised := List.filterMap_eq_nil_iff.mp (raisesNothing.run_raised nest sink)
  have unfailed := List.filterMap_eq_nil_iff.mp unfailed
  refine List.filterMap_eq_nil_iff.mpr fun moment happened => ?_
  cases moment with
  | raised fault => exact absurd (unraised _ happened) (Option.some_ne_none fault)
  | failed failure => exact absurd (unfailed _ happened) (Option.some_ne_none failure)
  | asked | event => rfl

end Script

namespace Session

variable {margin : Margin} {scripts : List Script}

theorem finalSink_closed (closesNothing : ∀ script ∈ scripts, script.ClosesNothing)
    (margin : Margin) (sink : Sink) : (finalSink margin sink scripts).closed = sink.closed := by
  induction scripts generalizing sink with
  | nil => rfl
  | cons script rest ih =>
      have others : ∀ script ∈ rest, script.ClosesNothing := fun other member =>
        closesNothing other (List.mem_cons_of_mem _ member)
      rw [finalSink_cons, ih others, (closesNothing script List.mem_cons_self).run_closed]

/-- Sessions in which nothing arises report the same, whatever their sinks. -/
theorem reports_of_calm {sink other : Sink}
    (calm : ∀ outcome ∈ outcomes margin sink scripts, outcome.arisen = [])
    (otherCalm : ∀ outcome ∈ outcomes margin other scripts, outcome.arisen = []) :
    reports sink margin scripts = reports other margin scripts := by
  induction scripts generalizing sink other with
  | nil => rfl
  | cons script rest ih =>
      simp only [outcomes, List.mem_cons, forall_eq_or_imp] at calm otherCalm
      have accountable := script.run_accountable (.root margin)
      have moments := script.run_steady (.root margin) other sink otherCalm.1 calm.1
      have later := ih calm.2 otherCalm.2
      simp only [reports] at later
      simp only [reports, outcomes, List.map_cons, later, Outcome.report, Outcome.events, moments,
        accountable.failure_eq_none calm.1, accountable.failure_eq_none otherCalm.1]

end Session

end RustScribe
