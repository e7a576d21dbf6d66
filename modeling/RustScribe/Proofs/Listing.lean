import RustScribe.Proofs.Arguments
import RustScribe.Proofs.Moments
import RustScribe.Proofs.Place

namespace RustScribe

/-! A script without attempts is one flat list of steps, found by recursion on the script alone. -/

/-- A line and the place of the writer that is asked for it. -/
structure Placed where
  place : Place
  line : String
  deriving Repr, DecidableEq

namespace Placed

def margin (placed : Placed) : Margin :=
  placed.place.margin

def request (placed : Placed) : Margin × String :=
  (placed.margin, placed.line)

def text (placed : Placed) : String :=
  placed.margin.render placed.line

/-- What a writer reports when a sink answers the line with a fault. -/
def failure (placed : Placed) (fault : Fault) : Failure :=
  if fault.isRefusal then .refusedLine placed.line fault else .fault fault

end Placed

/-- An effect of a script without attempts. -/
inductive Step where
  | line (placed : Placed)
  | note (message : String)
  | showMargin (place : Place)
  | raise (fault : Fault)
  | close
  deriving Repr, DecidableEq

def Step.perform : Step → Action
  | .line placed => Action.writeLine placed.margin placed.line
  | .note message => Action.record (.logged .debug message)
  | .showMargin place => Action.record (.shownMargin place.margin)
  | .raise fault => Action.raise fault
  | .close => Action.close

def Line.placed (place : Place) (line : Line) : Placed where
  place := place.deeper line.depth
  line := line.text

def Line.steps (place : Place) (lines : List Line) : List Step :=
  lines.map fun line => .line (line.placed place)

def Item.steps (place : Place) (item : Item) : List Step :=
  item.notice.toList.map Step.note ++ Line.steps place item.lines

namespace Script

/-- The steps of a script, lines after a `raise` and inside an attempt included. -/
def steps : Script → Nest Place → List Step
  | .skip, _ => []
  | .seq first second, nest => first.steps nest ++ second.steps nest
  | .emit up item, nest => item.steps (nest.writer up)
  | .within up scope body, nest =>
      Line.steps (nest.writer up) scope.frame.opening ++
        (body.steps (.inner ((nest.writer up).enter scope) nest) ++
          Line.steps (nest.writer up) scope.frame.closing)
  | .showMargin up, nest => [.showMargin (nest.writer up)]
  | .raise fault, _ => [.raise fault]
  | .attempt body, nest => body.steps nest
  | .afresh margin body, nest => body.steps (.inner { origin := margin } nest)
  | .close, _ => [.close]

/-- No attempt: a failure ends the whole script. -/
def Unguarded (script : Script) : Prop :=
  script.Throughout fun
    | .attempt _ => False
    | _ => True

/-- No attempt, and the sink is left open. -/
def Straight (script : Script) : Prop :=
  script.Throughout fun
    | .attempt _ | .close => False
    | _ => True

end Script

def performAll (steps : List Step) : Action :=
  Action.sequence (steps.map Step.perform)

theorem performAll_cons (step : Step) (rest : List Step) :
    performAll (step :: rest) = step.perform.andThen (performAll rest) := rfl

theorem performAll_append (left right : List Step) :
    performAll (left ++ right) = (performAll left).andThen (performAll right) := by
  simp only [performAll, List.map_append, Action.sequence_append]

theorem performAll_singleton (step : Step) : performAll [step] = step.perform := by
  simp only [performAll, List.map_cons, List.map_nil, Action.sequence_cons, Action.sequence_nil,
    Action.andThen_done]

theorem performAll_lines (place : Place) (lines : List Line) :
    performAll (Line.steps place lines) = writeLines place.margin lines := by
  simp only [performAll, Line.steps, writeLines, List.map_map]
  congr 2
  funext line
  simp only [Function.comp, Step.perform, Placed.margin, Line.placed, Place.margin_deeper,
    Line.write]

theorem performAll_item (place : Place) (item : Item) :
    performAll (item.steps place) = item.write place.margin := by
  unfold Item.steps Item.write
  cases item.notice with
  | none => exact performAll_lines place item.lines
  | some message =>
      simp only [Option.toList_some, List.map_cons, List.map_nil, performAll_append,
        performAll_singleton, performAll_lines, Step.perform]

namespace Script

theorem run_eq_performAll {script : Script} (unguarded : script.Unguarded) (nest : Nest Place) :
    script.run (nest.map Place.margin) = performAll (script.steps nest) := by
  induction script generalizing nest with
  | skip => rfl
  | seq first second firstIH secondIH =>
      obtain ⟨left, right⟩ := unguarded
      simp only [run, steps, performAll_append, firstIH left, secondIH right]
  | emit up item =>
      simp only [run, steps, Nest.writer_map, performAll_item]
  | within up scope body ih =>
      have inside := ih unguarded.2 (.inner ((nest.writer up).enter scope) nest)
      simp only [Nest.map, Place.margin_enter] at inside
      simp only [run, steps, Frame.write, Nest.writer_map, performAll_append, performAll_lines,
        inside]
  | showMargin up => simp only [run, steps, Nest.writer_map, performAll_singleton, Step.perform]
  | raise fault => simp only [run, steps, performAll_singleton, Step.perform]
  | attempt body ih => exact absurd unguarded.1 id
  | afresh margin body ih =>
      have inside := ih unguarded.2 (.inner { origin := margin } nest)
      simp only [Nest.map, Place.margin_origin] at inside
      simp only [run, steps, inside]
  | close => simp only [run, steps, performAll_singleton, Step.perform]

theorem run_root_eq_performAll {script : Script} (unguarded : script.Unguarded)
    (margin : Margin) :
    script.run (.root margin) = performAll (script.steps (.root { origin := margin })) := by
  have performed := run_eq_performAll unguarded (.root { origin := margin })
  simpa only [Nest.map, Place.margin_origin] using performed

end Script

end RustScribe
