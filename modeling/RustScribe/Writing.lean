import RustScribe.Action
import RustScribe.Construct.Scope

namespace RustScribe

namespace Line

def write (margin : Margin) (line : Line) : Action :=
  Action.writeLine (margin.indentBy line.depth) line.text

end Line

def writeLines (margin : Margin) (lines : List Line) : Action :=
  Action.sequence (lines.map (Line.write margin))

def Item.write (margin : Margin) (item : Item) : Action :=
  match item.notice with
  | none => writeLines margin item.lines
  | some message => (Action.record (.logged .debug message)).andThen (writeLines margin item.lines)

/-- Writes the frame around a body, which is given its own margin. The body runs
only after all opening lines, the closing lines follow only if it succeeds. -/
def Frame.write (margin : Margin) (frame : Frame) (body : Margin → Action) : Action :=
  (writeLines margin frame.opening).andThen
    ((body (margin.descend frame.descent)).andThen (writeLines margin frame.closing))

@[simp] theorem writeLines_nil (margin : Margin) : writeLines margin [] = Action.done := rfl

theorem writeLines_cons (margin : Margin) (line : Line) (rest : List Line) :
    writeLines margin (line :: rest) = (line.write margin).andThen (writeLines margin rest) := rfl

end RustScribe
