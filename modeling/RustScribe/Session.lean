import RustScribe.Script

namespace RustScribe

/-! A session runs scripts one after the other on one root writer and one sink. A
failure ends its own script only; the sink lives on. -/

structure Report where
  events : List Event
  failure : Option Failure
  deriving Repr, DecidableEq

def Outcome.report (outcome : Outcome) : Report where
  events := outcome.events.filter Event.isReported
  failure := outcome.failure

namespace Session

/-- The outcome of each script, run at a root margin on what the scripts before it
left of the sink. -/
def outcomes (margin : Margin) : Sink → List Script → List Outcome
  | _, [] => []
  | sink, script :: rest =>
      let outcome := script.run (.root margin) sink
      outcome :: outcomes margin outcome.sink rest

def finalSink (margin : Margin) (sink : Sink) (scripts : List Script) : Sink :=
  scripts.foldl (fun current script => (script.run (.root margin) current).sink) sink

def reports (sink : Sink) (margin : Margin) (scripts : List Script) : List Report :=
  (outcomes margin sink scripts).map Outcome.report

theorem outcomes_append (margin : Margin) (sink : Sink) (earlier later : List Script) :
    outcomes margin sink (earlier ++ later) =
      outcomes margin sink earlier ++ outcomes margin (finalSink margin sink earlier) later := by
  induction earlier generalizing sink with
  | nil => rfl
  | cons script rest ih => simp [outcomes, finalSink, ih]

end Session

end RustScribe
