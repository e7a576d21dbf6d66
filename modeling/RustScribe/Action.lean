import RustScribe.Margin
import RustScribe.Sink

namespace RustScribe

/-! Effects on a sink. An action takes the sink to an outcome: what happened, in
order, the sink afterwards, and the failure that ended it, if one did. The record
of what happened holds more than the events that are told of it. -/

inductive LogLevel where
  | debug
  | error
  deriving Repr, DecidableEq

inductive Event where
  | written (text : String)
  /-- The sink answered a text with a fault. -/
  | refused (text : String) (fault : Fault)
  | logged (level : LogLevel) (message : String)
  | shownMargin (margin : String)
  | caught (failure : Failure)
  deriving Repr, DecidableEq

/-- A refusal is reported through its log record and the failure it leads to. -/
def Event.isReported : Event → Bool
  | .refused _ _ => false
  | _ => true

/-- All that happens in a run: its events, and between them what no event tells. -/
inductive Moment where
  | asked (margin : Margin) (line : String)
  | event (event : Event)
  /-- A script raised a fault of its own. -/
  | raised (fault : Fault)
  /-- A writer failed at a line. -/
  | failed (failure : Failure)
  deriving Repr, DecidableEq

def Moment.event? : Moment → Option Event
  | .event told => some told
  | _ => none

structure Outcome where
  moments : List Moment := []
  sink : Sink
  failure : Option Failure := none
  deriving Repr, DecidableEq

def Outcome.events (outcome : Outcome) : List Event :=
  outcome.moments.filterMap Moment.event?

abbrev Action := Sink → Outcome

namespace Action

def done : Action :=
  fun sink => { sink }

def andThen (first second : Action) : Action := fun sink =>
  let before := first sink
  match before.failure with
  | some _ => before
  | none =>
      let after := second before.sink
      { after with moments := before.moments ++ after.moments }

def raise (fault : Fault) : Action :=
  fun sink => { sink, moments := [.raised fault], failure := some (.fault fault) }

def record (event : Event) : Action :=
  fun sink => { sink, moments := [.event event] }

def close : Action :=
  fun sink => { sink := sink.close }

def sequence (actions : List Action) : Action :=
  actions.foldr andThen done

/-- A failure inside is noted as caught and goes no further. -/
def attempt (body : Action) : Action := fun sink =>
  let tried := body sink
  match tried.failure with
  | none => tried
  | some failure =>
      { sink := tried.sink, moments := tried.moments ++ [.event (.caught failure)] }

def refusalNotice (fault : Fault) : String :=
  "Writing generated code failed: " ++ fault.message

/-- Offers a line at a margin to the sink. A refusal is logged and reported with
the line, without its margin; any other fault passes through as it is. -/
def writeLine (margin : Margin) (line : String) : Action := fun sink =>
  let text := margin.render line
  match sink.refusal? text with
  | none => { sink := sink.offer text, moments := [.asked margin line, .event (.written text)] }
  | some fault =>
      if fault.isRefusal then
        { sink := sink.offer text
          moments := [.asked margin line, .event (.refused text fault),
            .event (.logged .error (refusalNotice fault)), .failed (.refusedLine line fault)]
          failure := some (.refusedLine line fault) }
      else
        { sink := sink.offer text
          moments := [.asked margin line, .event (.refused text fault), .failed (.fault fault)]
          failure := some (.fault fault) }

section writeLine

variable {sink : Sink} {margin : Margin} {line : String} {fault : Fault}

theorem writeLine_of_accepted (accepted : sink.refusal? (margin.render line) = none) :
    writeLine margin line sink =
      { sink := sink.offer (margin.render line)
        moments := [.asked margin line, .event (.written (margin.render line))] } := by
  simp only [writeLine, accepted]

theorem writeLine_of_refused (refused : sink.refusal? (margin.render line) = some fault)
    (refusal : fault.isRefusal = true) :
    writeLine margin line sink =
      { sink := sink.offer (margin.render line)
        moments := [.asked margin line, .event (.refused (margin.render line) fault),
          .event (.logged .error (refusalNotice fault)), .failed (.refusedLine line fault)]
        failure := some (.refusedLine line fault) } := by
  simp only [writeLine, refused, refusal, if_true]

theorem writeLine_of_defect (refused : sink.refusal? (margin.render line) = some fault)
    (defect : fault.isRefusal = false) :
    writeLine margin line sink =
      { sink := sink.offer (margin.render line)
        moments := [.asked margin line, .event (.refused (margin.render line) fault),
          .failed (.fault fault)]
        failure := some (.fault fault) } := by
  simp [writeLine, refused, defect]

end writeLine

@[simp] theorem done_andThen (action : Action) : done.andThen action = action := by
  funext sink
  simp [andThen, done]

@[simp] theorem andThen_done (action : Action) : action.andThen done = action := by
  funext sink
  simp only [andThen, done]
  split
  · rfl
  · next finished => simp [← finished]

theorem andThen_assoc (first second third : Action) :
    (first.andThen second).andThen third = first.andThen (second.andThen third) := by
  funext sink
  cases stopped : (first sink).failure with
  | some failure => simp [andThen, stopped]
  | none =>
      cases halted : (second (first sink).sink).failure with
      | some failure => simp [andThen, stopped, halted]
      | none => simp [andThen, stopped, halted, List.append_assoc]

theorem andThen_of_failed {first : Action} {sink : Sink} {failure : Failure}
    (failed : (first sink).failure = some failure) (second : Action) :
    first.andThen second sink = first sink := by
  simp [andThen, failed]

theorem andThen_of_succeeded {first : Action} {sink : Sink}
    (succeeded : (first sink).failure = none) (second : Action) :
    first.andThen second sink =
      { second (first sink).sink with
        moments := (first sink).moments ++ (second (first sink).sink).moments } := by
  simp [andThen, succeeded]

theorem attempt_of_succeeded {body : Action} {sink : Sink}
    (succeeded : (body sink).failure = none) : body.attempt sink = body sink := by
  simp [attempt, succeeded]

theorem attempt_of_failed {body : Action} {sink : Sink} {failure : Failure}
    (failed : (body sink).failure = some failure) :
    body.attempt sink =
      { sink := (body sink).sink
        moments := (body sink).moments ++ [.event (.caught failure)] } := by
  simp [attempt, failed]

@[simp] theorem sequence_nil : sequence [] = done := rfl

@[simp] theorem sequence_cons (action : Action) (rest : List Action) :
    sequence (action :: rest) = action.andThen (sequence rest) := rfl

theorem sequence_append (left right : List Action) :
    sequence (left ++ right) = (sequence left).andThen (sequence right) := by
  induction left with
  | nil => simp
  | cons action rest ih => simp [ih, andThen_assoc]

end Action

end RustScribe
