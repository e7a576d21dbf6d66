import RustScribe.Construct.Scope

namespace RustScribe

/-! Margins by counting: a margin grows at its start with every commented scope and at its end with
every indented one. -/

/-- A text written so many times in a row. -/
def repeated (text : String) : Nat → String
  | 0 => ""
  | count + 1 => text ++ repeated text count

theorem repeated_append (text : String) (count : Nat) :
    repeated text count ++ text = text ++ repeated text count := by
  induction count with
  | zero => simp [repeated]
  | succ count ih => simp only [repeated, String.append_assoc, ih]

theorem length_repeated (text : String) (count : Nat) :
    (repeated text count).length = count * text.length := by
  induction count with
  | zero => simp [repeated]
  | succ count ih => rw [repeated, String.length_append, ih, Nat.succ_mul, Nat.add_comm]

/-- Where a writer stands: the margin of the writer it descends from, and how many
comment markers and indentation units were added on the way. -/
structure Place where
  origin : Margin
  comments : Nat := 0
  units : Nat := 0
  deriving Repr, DecidableEq

namespace Place

def margin (place : Place) : Margin :=
  repeated commentMarker place.comments ++ place.origin ++ repeated indentUnit place.units

def deeper (place : Place) (units : Nat) : Place :=
  { place with units := place.units + units }

def commented (place : Place) : Place :=
  { place with comments := place.comments + 1 }

/-- The place of the writer that a scope hands to its body. -/
def enter (place : Place) : Scope → Place
  | .commented => place.commented
  | .lazyStaticWith _ _ => place.deeper 2
  | _ => place.deeper 1

@[simp] theorem margin_origin (margin : Margin) : Place.margin { origin := margin } = margin := by
  simp [Place.margin, repeated]

theorem margin_deeper (place : Place) (units : Nat) :
    (place.deeper units).margin = place.margin.indentBy units := by
  induction units generalizing place with
  | zero => rfl
  | succ units ih =>
      have step : (place.deeper 1).margin = place.margin.indent := by
        simp only [Place.margin, deeper, Margin.indent, repeated, String.append_assoc,
          repeated_append]
      have split : place.deeper (units + 1) = (place.deeper 1).deeper units := by
        simp only [deeper, Place.mk.injEq, true_and]
        omega
      rw [split, ih, step]
      rfl

theorem margin_commented (place : Place) : place.commented.margin = place.margin.comment := by
  simp only [Place.margin, commented, Margin.comment, repeated, String.append_assoc]

theorem margin_enter (place : Place) (scope : Scope) :
    (place.enter scope).margin = place.margin.descend scope.frame.descent := by
  cases scope with
  | commented => exact place.margin_commented
  | lazyStaticWith name type => exact place.margin_deeper 2
  | fnBlock exported signature => cases exported <;> exact place.margin_deeper 1
  | _ => exact place.margin_deeper 1

end Place

end RustScribe
