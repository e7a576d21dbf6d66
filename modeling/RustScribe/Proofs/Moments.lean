import RustScribe.Action

namespace RustScribe

/-! What the record of a run tells about writers and the sink. -/

namespace Moment

def asked? : Moment → Option (Margin × String)
  | .asked margin line => some (margin, line)
  | _ => none

/-- The text that was passed to the sink, whatever the answer. -/
def offered? : Moment → Option String
  | .event (.written text) | .event (.refused text _) => some text
  | _ => none

def written? : Moment → Option String
  | .event (.written text) => some text
  | _ => none

def arisen? : Moment → Option Failure
  | .raised fault => some (.fault fault)
  | .failed failure => some failure
  | _ => none

def caught? : Moment → Option Failure
  | .event (.caught failure) => some failure
  | _ => none

def errorRecord? : Moment → Option String
  | .event (.logged .error message) => some message
  | _ => none

end Moment

namespace Outcome

def asked (outcome : Outcome) : List (Margin × String) :=
  outcome.moments.filterMap Moment.asked?

def offered (outcome : Outcome) : List String :=
  outcome.moments.filterMap Moment.offered?

def written (outcome : Outcome) : List String :=
  outcome.moments.filterMap Moment.written?

def arisen (outcome : Outcome) : List Failure :=
  outcome.moments.filterMap Moment.arisen?

/-- The failures that are told: the caught ones, and the one that ends the run. -/
def reported (outcome : Outcome) : List Failure :=
  outcome.moments.filterMap Moment.caught? ++ outcome.failure.toList

def errorRecords (outcome : Outcome) : List String :=
  outcome.moments.filterMap Moment.errorRecord?

end Outcome

end RustScribe
