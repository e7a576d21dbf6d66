import RustScribe.Text.Blank

namespace RustScribe

/-! The text before every line of a writer, and how scopes change it: indenting
grows a margin at its end, commenting at its start. -/

def indentUnit : String := "    "

def commentMarker : String := "// "

abbrev Margin := String

namespace Margin

def indent (margin : Margin) : Margin :=
  margin ++ indentUnit

def comment (margin : Margin) : Margin :=
  commentMarker ++ margin

/-- The margin of a line `depth` units further in. -/
def indentBy (margin : Margin) : Nat → Margin
  | 0 => margin
  | depth + 1 => (margin.indent).indentBy depth

/-- A line as it is written. An empty line keeps its margin without the white
space at the end, so that only a comment marker remains of it. -/
def render (margin : Margin) (line : String) : String :=
  if line.isEmpty then Text.trimEnd margin ++ "\n" else margin ++ line ++ "\n"

theorem render_empty (margin : Margin) : margin.render "" = Text.trimEnd margin ++ "\n" := by
  simp [render]

theorem render_of_ne {line : String} (written : line ≠ "") (margin : Margin) :
    margin.render line = margin ++ line ++ "\n" := by
  simp [render, written]

inductive Descent where
  | indented (depth : Nat)
  | commented
  deriving Repr, DecidableEq

def descend (margin : Margin) : Descent → Margin
  | .indented depth => margin.indentBy depth
  | .commented => margin.comment

end Margin

end RustScribe
