import RustScribe.Writing

namespace RustScribe

/-! Programs that drive writers. A script runs with the writers of all enclosing
scopes at hand, and names the one it means by how many levels further out it is. -/

/-- The writers in scope, innermost first, each by its margin or by whatever else
tells it; there is always one. -/
inductive Nest (Writer : Type) where
  | root (writer : Writer)
  | inner (writer : Writer) (outer : Nest Writer)
  deriving Repr, DecidableEq

namespace Nest

variable {Writer Other : Type}

/-- The writer `up` levels further out, at most the outermost. -/
def writer : Nest Writer → Nat → Writer
  | .root writer, _ => writer
  | .inner writer _, 0 => writer
  | .inner _ outer, up + 1 => outer.writer up

def map (tell : Writer → Other) : Nest Writer → Nest Other
  | .root writer => .root (tell writer)
  | .inner writer outer => .inner (tell writer) (outer.map tell)

@[simp] theorem writer_map (tell : Writer → Other) (nest : Nest Writer) (up : Nat) :
    (nest.map tell).writer up = tell (nest.writer up) := by
  induction nest generalizing up with
  | root writer => rfl
  | inner writer outer ih =>
      cases up with
      | zero => rfl
      | succ up => exact ih up

end Nest

inductive Script where
  | skip
  | seq (first second : Script)
  | emit (up : Nat) (item : Item)
  /-- A construct around a body, which is run by a writer of its own. -/
  | within (up : Nat) (scope : Scope) (body : Script)
  | showMargin (up : Nat)
  | raise (fault : Fault)
  | attempt (body : Script)
  /-- A body run by a new writer on the same sink. -/
  | afresh (margin : Margin) (body : Script)
  | close
  deriving Repr, DecidableEq

namespace Script

def ofList : List Script → Script
  | [] => .skip
  | step :: rest => .seq step (ofList rest)

def run : Script → Nest Margin → Action
  | .skip, _ => Action.done
  | .seq first second, nest => (first.run nest).andThen (second.run nest)
  | .emit up item, nest => item.write (nest.writer up)
  | .within up scope body, nest =>
      scope.frame.write (nest.writer up) fun margin => body.run (.inner margin nest)
  | .showMargin up, nest => Action.record (.shownMargin (nest.writer up))
  | .raise fault, _ => Action.raise fault
  | .attempt body, nest => Action.attempt (body.run nest)
  | .afresh margin body, nest => body.run (.inner margin nest)
  | .close, _ => Action.close

theorem run_ofList (steps : List Script) (nest : Nest Margin) :
    (ofList steps).run nest = Action.sequence (steps.map fun step => step.run nest) := by
  induction steps with
  | nil => rfl
  | cons step rest ih => simp [ofList, run, ih]

end Script

end RustScribe
