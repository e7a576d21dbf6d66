import RustScribe.Proofs.BraceDepth
import RustScribe.Proofs.Listing

namespace RustScribe

/-! Where a writer stands and how many curly brackets are open are two separate counts; in runs of
constructs they agree at every line. -/

namespace Placed

/-- The line, as far in as the place it stands at. -/
def inset (placed : Placed) : Line where
  depth := placed.place.units
  text := placed.line

theorem text_insets (lines : List Placed) :
    (lines.map inset).map Line.text = (lines.map request).map Prod.snd := by
  rw [List.map_map, List.map_map]
  rfl

end Placed

/-- Lines at places that descend from one margin, with so many comment markers each, and
as far in as their brackets say from one depth to another. -/
structure Aligned (origin : Margin) (levels : List Nat) (start : Nat) (lines : List Placed)
    (finish : Nat) : Prop where
  origins : ∀ placed ∈ lines, placed.place.origin = origin
  comments : lines.map (fun placed => placed.place.comments) = levels
  units : Tracks start (lines.map Placed.inset) finish

namespace Aligned

variable {origin : Margin} {levels further : List Nat} {start next finish : Nat}

theorem nil : Aligned origin [] start [] start where
  origins := by simp
  comments := rfl
  units := .nil

theorem append {before after : List Placed} (first : Aligned origin levels start before next)
    (second : Aligned origin further next after finish) :
    Aligned origin (levels ++ further) start (before ++ after) finish where
  origins := by
    intro placed member
    rcases List.mem_append.mp member with earlier | later
    · exact first.origins placed earlier
    · exact second.origins placed later
  comments := by rw [List.map_append, first.comments, second.comments]
  units := by
    rw [List.map_append]
    exact first.units.append second.units

theorem placed {lines : List Line} (tracks : Tracks start lines finish) (place : Place) :
    Aligned place.origin (lines.map fun _ => place.comments) (place.units + start)
      (lines.map (Line.placed place)) (place.units + finish) where
  origins := by
    intro placed member
    obtain ⟨line, -, rfl⟩ := List.mem_map.mp member
    rfl
  comments := by
    rw [List.map_map]
    rfl
  units := by
    rw [List.map_map]
    exact tracks.deeper place.units

theorem depth_eq {lines : List Placed} (aligned : Aligned origin levels start lines finish) :
    start + linesDepth ((lines.map Placed.request).map Prod.snd) = finish := by
  rw [← Placed.text_insets]
  exact aligned.units.depth_eq

/-- What aligned lines say of each request, by the requests before it. -/
theorem request_eq {lines : List Placed} (aligned : Aligned origin levels start lines finish)
    {before after : List (Margin × String)} {indent : Margin} {line : String}
    (split : lines.map Placed.request = before ++ (indent, line) :: after) :
    ∃ comments units : Nat, levels[before.length]? = some comments ∧
      indent = repeated commentMarker comments ++ origin ++ repeated indentUnit units ∧
      (units : Int) = start + linesDepth (before.map Prod.snd) - closingLead line := by
  obtain ⟨earlier, remaining, rfl, rfl, others⟩ := List.map_eq_append_iff.mp split
  obtain ⟨placed, later, rfl, requested, -⟩ := List.map_eq_cons_iff.mp others
  cases requested
  obtain ⟨origins, comments, units⟩ := aligned
  have descends : placed.place.origin = origin := origins placed (by simp)
  refine ⟨placed.place.comments, placed.place.units, ?_, ?_, ?_⟩
  · rw [← comments]
    simp
  · rw [← descends]
    rfl
  · rw [List.map_append, List.map_cons] at units
    obtain ⟨depth, passed, remaining⟩ := units.split
    have opened := passed.depth_eq
    rw [Placed.text_insets] at opened
    cases remaining with
    | cons moves others =>
        have standing : placed.place.units + closingLead placed.line = depth := moves.aligned
        omega

end Aligned

def Step.line? : Step → Option Placed
  | .line placed => some placed
  | _ => none

theorem Step.perform_asked (step : Step) (sink : Sink) :
    (step.perform sink).asked = step.line?.toList.map Placed.request := by
  cases step with
  | line placed =>
      simp only [perform, Action.writeLine]
      split
      · rfl
      · split <;> rfl
  | note message => rfl
  | showMargin place => rfl
  | raise fault => rfl
  | close => rfl

theorem Action.asked_prefix_andThen (first second : Action) (sink : Sink) :
    (first sink).asked <+: (first.andThen second sink).asked := by
  cases ended : (first sink).failure with
  | some failure =>
      simp only [andThen_of_failed ended, List.prefix_rfl]
  | none =>
      rw [andThen_of_succeeded ended]
      simp only [Outcome.asked, List.filterMap_append]
      exact List.prefix_append _ _

/-- What writers are asked for while steps are performed is a beginning of the lines of the
steps, and all of them if nothing fails. -/
theorem performAll_asked (steps : List Step) (sink : Sink) :
    ∃ unasked : List Placed,
      (performAll steps sink).asked ++ unasked.map Placed.request =
        (steps.filterMap Step.line?).map Placed.request ∧
      ((performAll steps sink).failure = none → unasked = []) := by
  induction steps generalizing sink with
  | nil => exact ⟨[], rfl, fun _ => rfl⟩
  | cons step rest ih =>
      have lines : (step :: rest).filterMap Step.line? =
          step.line?.toList ++ rest.filterMap Step.line? := by
        rw [List.filterMap_cons]
        cases step.line? <;> rfl
      rw [performAll_cons, lines, List.map_append]
      cases ended : (step.perform sink).failure with
      | some failure =>
          rw [Action.andThen_of_failed ended, step.perform_asked]
          refine ⟨rest.filterMap Step.line?, rfl, ?_⟩
          intro unfailed
          rw [ended] at unfailed
          contradiction
      | none =>
          obtain ⟨unasked, asked, whole⟩ := ih (step.perform sink).sink
          have joined : (step.perform.andThen (performAll rest) sink).asked =
              step.line?.toList.map Placed.request ++
                (performAll rest (step.perform sink).sink).asked := by
            rw [Action.andThen_of_succeeded ended, ← step.perform_asked sink]
            exact List.filterMap_append
          refine ⟨unasked, ?_, ?_⟩
          · rw [joined, List.append_assoc, asked]
          · rw [Action.andThen_of_succeeded ended]
            exact whole

namespace Script

/-- Scripts of constructs, each called on the innermost writer with texts that close the
curly brackets they open, in the order in which they open them. -/
def Nested (script : Script) : Prop :=
  script.Throughout fun
    | .emit up item => up = 0 ∧ ∀ text ∈ item.arguments, BraceBalanced text
    | .within up scope _ =>
        up = 0 ∧ scope.IsConstruct ∧ ∀ text ∈ scope.arguments, BraceBalanced text
    | .showMargin up => up = 0
    | .attempt _ | .afresh _ _ => False
    | _ => True

/-- For each line of a script, in order, how many commented scopes are around it. -/
def commentLevels : Script → Nat → List Nat
  | .seq first second, level => first.commentLevels level ++ second.commentLevels level
  | .emit _ item, level => item.lines.map fun _ => level
  | .within _ scope body, level =>
      let inside := if scope = .commented then level + 1 else level
      (scope.frame.opening.map fun _ => level) ++
        (body.commentLevels inside ++ scope.frame.closing.map fun _ => level)
  | .attempt body, level | .afresh _ body, level => body.commentLevels level
  | .skip, _ | .showMargin _, _ | .raise _, _ | .close, _ => []

/-- All lines of a script, those after a fault included. -/
def lines (script : Script) (nest : Nest Place) : List Placed :=
  (script.steps nest).filterMap Step.line?

section lines

variable {nest : Nest Place} {place : Place}

theorem filterMap_steps (lines : List Line) :
    (Line.steps place lines).filterMap Step.line? = lines.map (Line.placed place) := by
  simp only [Line.steps, List.filterMap_map]
  exact congrFun List.filterMap_eq_map lines

theorem lines_emit (up : Nat) (item : Item) :
    (emit up item).lines nest = item.lines.map (Line.placed (nest.writer up)) := by
  simp only [lines, steps, Item.steps, List.filterMap_append, filterMap_steps]
  cases item.notice <;> rfl

theorem lines_within (up : Nat) (scope : Scope) (body : Script) :
    (within up scope body).lines nest =
      scope.frame.opening.map (Line.placed (nest.writer up)) ++
        (body.lines (.inner ((nest.writer up).enter scope) nest) ++
          scope.frame.closing.map (Line.placed (nest.writer up))) := by
  simp only [lines, steps, List.filterMap_append, filterMap_steps]

theorem lines_seq (first second : Script) :
    (seq first second).lines nest = first.lines nest ++ second.lines nest := by
  simp only [lines, steps, List.filterMap_append]

end lines

theorem enter_units (place : Place) (scope : Scope) :
    (place.enter scope).units = place.units + scope.frame.inset := by
  cases scope with
  | fnBlock exported signature => cases exported <;> rfl
  | _ => rfl

theorem enter_comments (place : Place) (scope : Scope) :
    (place.enter scope).comments =
      if scope = .commented then place.comments + 1 else place.comments := by
  cases scope <;> rfl

theorem enter_origin (place : Place) (scope : Scope) :
    (place.enter scope).origin = place.origin := by
  cases scope <;> rfl

section Nested

variable {script : Script}

theorem Nested.unguarded (nested : script.Nested) : script.Unguarded := by
  refine nested.mono fun step allowed => ?_
  cases step with
  | attempt body => exact allowed
  | _ => trivial

theorem Nested.ofList {program : List Script} (nested : ∀ call ∈ program, call.Nested) :
    (ofList program).Nested :=
  (throughout_ofList trivial program).mpr nested

theorem Nested.aligned (nested : script.Nested) (nest : Nest Place) :
    Aligned (nest.writer 0).origin (script.commentLevels (nest.writer 0).comments)
      (nest.writer 0).units (script.lines nest) (nest.writer 0).units := by
  induction script generalizing nest with
  | seq first second firstIH secondIH =>
      rw [lines_seq]
      exact (firstIH nested.1 nest).append (secondIH nested.2 nest)
  | emit up item =>
      obtain ⟨rfl, balanced⟩ := nested
      have track := item.lines_track fun text member => (balanced text member).level
      rw [lines_emit]
      exact .placed track (nest.writer 0)
  | within up scope body ih =>
      obtain ⟨⟨rfl, construct, balanced⟩, inside⟩ := nested
      have made := scope.frame_madeOf Level.compositional construct
        fun text member => (balanced text member).level
      obtain ⟨opening, closing⟩ := made.surrounds
      have within := ih inside (.inner ((nest.writer 0).enter scope) nest)
      simp only [Nest.writer, enter_origin, enter_comments, enter_units] at within
      rw [lines_within]
      exact (Aligned.placed opening (nest.writer 0)).append <|
        within.append (.placed closing (nest.writer 0))
  | attempt body ih => exact absurd nested.1 id
  | afresh margin body ih => exact absurd nested.1 id
  | skip | showMargin up | raise fault | close => exact .nil

/-- What a run of constructs asks for, on any sink, is the beginning of lines that are
aligned; and it is all of them if nothing fails. -/
theorem Nested.run_asked (nested : script.Nested) (margin : Margin) (sink : Sink) :
    let lines := script.lines (.root { origin := margin })
    let outcome := script.run (.root margin) sink
    Aligned margin (script.commentLevels 0) 0 lines 0 ∧
      ∃ unasked : List Placed,
        outcome.asked ++ unasked.map Placed.request = lines.map Placed.request ∧
        (outcome.failure = none → unasked = []) := by
  intro lines outcome
  refine ⟨nested.aligned (.root { origin := margin }), ?_⟩
  simp only [outcome, run_root_eq_performAll nested.unguarded]
  exact performAll_asked _ sink

end Nested

/-- At every line that constructs are asked for, on any sink, the units of the margin are as many as
curly brackets are open, not counting one that the line begins by closing. -/
theorem indent_tracks_brackets {program : List Script}
    (nested : ∀ call ∈ program, call.Nested) (margin : Margin) (sink : Sink) :
    let asked := ((ofList program).run (.root margin) sink).asked
    (∀ before indent line after, asked = before ++ (indent, line) :: after →
      ∃ comments units : Nat,
        ((ofList program).commentLevels 0)[before.length]? = some comments ∧
        indent = repeated commentMarker comments ++ margin ++ repeated indentUnit units ∧
        (units : Int) = linesDepth (before.map Prod.snd) - closingLead line) ∧
    ∀ earlier later, program = earlier ++ later →
      let part := (ofList earlier).run (.root margin) sink
      part.asked <+: asked ∧
        (part.failure = none → linesDepth (part.asked.map Prod.snd) = 0) := by
  intro asked
  constructor
  · intro before indent line after split
    obtain ⟨aligned, unasked, whole, -⟩ := (Nested.ofList nested).run_asked margin sink
    have found : asked ++ unasked.map Placed.request =
        before ++ (indent, line) :: (after ++ unasked.map Placed.request) := by
      rw [split, List.append_assoc, List.cons_append]
    obtain ⟨comments, units, level, margins, counted⟩ := aligned.request_eq (whole.symm.trans found)
    exact ⟨comments, units, level, margins, by omega⟩
  · intro earlier later split part
    have complete : ∀ call ∈ earlier, call.Nested := by
      intro call member
      rw [split] at nested
      exact nested call (List.mem_append_left later member)
    obtain ⟨aligned, unasked, whole, all⟩ := (Nested.ofList complete).run_asked margin sink
    constructor
    · simp only [asked, part, split, run_ofList, List.map_append, Action.sequence_append]
      exact Action.asked_prefix_andThen _ _ sink
    · intro unfailed
      have depth := aligned.depth_eq
      rw [all unfailed, List.map_nil, List.append_nil] at whole
      rw [← whole] at depth
      simp only [part]
      omega

/-- The second branch of a conditional, in a comment in a closure, until the pipe breaks. -/
theorem indent_tracks_brackets_in_closure :
    let branches := Script.within 0 (.ifElse "a") (.emit 0 (.line "b(\x7b\x7d)"))
    let program :=
      [.emit 0 .unimplemented, .within 0 (.lazyStaticWith "x" "T") (.within 0 .commented branches)]
    let broken := Fault.raised .brokenPipe (some 32) "Broken pipe"
    let sink : Sink := { policy := .failing [11] none broken }
    let asked := ((ofList program).run (.root "[0] ") sink).asked
    (∀ call ∈ program, call.Nested) ∧
      asked = asked.take 8 ++ ("// [0]         ", "\x7d else \x7b") :: asked.drop 9 ∧
      ∃ units : Nat, "// [0]         " = "// [0] " ++ repeated indentUnit units ∧
        (units : Int) = linesDepth ((asked.take 8).map Prod.snd) - 1 := by
  intro branches program broken sink asked
  have nested : ∀ call ∈ program, call.Nested := by
    simp only [program, branches, Nested, Throughout, Item.arguments, Scope.arguments,
      Scope.IsConstruct, List.forall_mem_cons, List.not_mem_nil, false_implies, implies_true]
    decide
  have split : asked =
      asked.take 8 ++ ("// [0]         ", "\x7d else \x7b") :: asked.drop 9 := by decide +kernel
  obtain ⟨comments, units, level, margins, counted⟩ :=
    (indent_tracks_brackets nested "[0] " sink).1 _ _ _ _ split
  have known : ((ofList program).commentLevels 0)[(asked.take 8).length]? = some 1 := by
    decide +kernel
  have one : comments = 1 := Option.some.inj (level.symm.trans known)
  subst one
  exact ⟨nested, split, units, margins, counted⟩

end Script

end RustScribe
