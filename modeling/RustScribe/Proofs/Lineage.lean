import RustScribe.Proofs.Account
import RustScribe.Proofs.Place

namespace RustScribe

/-! A writer descends from a root writer through scopes. Its margin depends on nothing but how often
each kind of scope was entered on the way. -/

structure Lineage where
  origin : Margin
  /-- The scopes entered since, the last one first. -/
  path : List Scope := []
  deriving Repr, DecidableEq

/-- How many units a scope indents its body. -/
def Scope.units : Scope → Nat
  | .commented => 0
  | .lazyStaticWith _ _ => 2
  | _ => 1

/-- How many units the scopes of a path indent altogether. -/
def Scope.unitsAlong : List Scope → Nat
  | [] => 0
  | scope :: path => scope.units + unitsAlong path

theorem Scope.unitsAlong_replicate (depth : Nat) (path : List Scope) :
    unitsAlong (List.replicate depth .indented ++ path) = depth + unitsAlong path := by
  induction depth with
  | zero => exact (Nat.zero_add _).symm
  | succ depth ih =>
      simp only [List.replicate_succ, List.cons_append, unitsAlong, ih, units]
      omega

namespace Lineage

/-- The margin that each scope in turn makes of the one before. -/
def descend (origin : Margin) : List Scope → Margin
  | [] => origin
  | scope :: outer => (descend origin outer).descend scope.frame.descent

def margin (lineage : Lineage) : Margin :=
  descend lineage.origin lineage.path

def enter (lineage : Lineage) (scope : Scope) : Lineage :=
  { lineage with path := scope :: lineage.path }

def deeper (lineage : Lineage) (depth : Nat) : Lineage :=
  { lineage with path := List.replicate depth .indented ++ lineage.path }

def place (lineage : Lineage) : Place where
  origin := lineage.origin
  comments := lineage.path.count .commented
  units := Scope.unitsAlong lineage.path

theorem place_enter (lineage : Lineage) (scope : Scope) :
    (lineage.enter scope).place = lineage.place.enter scope := by
  cases scope <;>
    simp [place, enter, Place.enter, Place.deeper, Place.commented, Scope.unitsAlong, Scope.units,
      Nat.add_comm]

theorem margin_eq_place (lineage : Lineage) : lineage.margin = lineage.place.margin := by
  obtain ⟨origin, path⟩ := lineage
  induction path with
  | nil => exact (Place.margin_origin origin).symm
  | cons scope outer ih =>
      have entered := place_enter ⟨origin, outer⟩ scope
      rw [enter] at entered
      rw [entered, Place.margin_enter, ← ih]
      rfl

theorem margin_enter (lineage : Lineage) (scope : Scope) :
    (lineage.enter scope).margin = lineage.margin.descend scope.frame.descent := rfl

theorem margin_deeper (lineage : Lineage) (depth : Nat) :
    (lineage.deeper depth).margin = lineage.margin.indentBy depth := by
  have place : (lineage.deeper depth).place = lineage.place.deeper depth := by
    -- Plain scopes on a path add units and no comments, wherever they stand.
    simp [Lineage.place, deeper, Place.deeper, Scope.unitsAlong_replicate, List.count_replicate,
      Nat.add_comm]
  rw [margin_eq_place, margin_eq_place, place, Place.margin_deeper]

end Lineage

/-- Writers without ancestors. -/
def Nest.lineages (nest : Nest Margin) : Nest Lineage :=
  nest.map fun margin => { origin := margin }

theorem Nest.lineages_margin (nest : Nest Margin) :
    nest.lineages.map Lineage.margin = nest := by
  induction nest with
  | root margin => rfl
  | inner margin outer ih => exact congrArg (Nest.inner margin) ih

/-- A writer in use: it is asked for a line, or else for its margin. -/
structure Use (Writer : Type) where
  writer : Writer
  line : Option String
  deriving Repr, DecidableEq

def Use.map {Writer Other : Type} (tell : Writer → Other) (use : Use Writer) : Use Other where
  writer := tell use.writer
  line := use.line

def Moment.use? : Moment → Option (Use Margin)
  | .asked margin line => some ⟨margin, some line⟩
  | .event (.shownMargin margin) => some ⟨margin, none⟩
  | _ => none

/-- The margins of all writers that are used, when they are. -/
def Outcome.uses (outcome : Outcome) : List (Use Margin) :=
  outcome.moments.filterMap Moment.use?

def Line.uses (writer : Lineage) (lines : List Line) : List (Use Lineage) :=
  lines.map fun line => ⟨writer.deeper line.depth, some line.text⟩

/-- The writers that a script uses, each by its lineage, if nothing keeps it from them. -/
def Script.uses : Script → Nest Lineage → List (Use Lineage)
  | .skip, _ | .raise _, _ | .close, _ => []
  | .seq first second, nest => first.uses nest ++ second.uses nest
  | .emit up item, nest => Line.uses (nest.writer up) item.lines
  | .within up scope body, nest =>
      Line.uses (nest.writer up) scope.frame.opening ++
        (body.uses (.inner ((nest.writer up).enter scope) nest) ++
          Line.uses (nest.writer up) scope.frame.closing)
  | .showMargin up, nest => [⟨nest.writer up, none⟩]
  | .attempt body, nest => body.uses nest
  | .afresh margin body, nest => body.uses (.inner { origin := margin } nest)

/-- An action uses the writers of a list in order: some of them whatever happens, and all of
them if nothing goes wrong. -/
structure Action.Draws (action : Action) (uses : List (Use Margin)) : Prop where
  part : ∀ sink, (action sink).uses.Sublist uses
  whole : ∀ sink, (action sink).arisen = [] → (action sink).uses = uses

namespace Action.Draws

variable {first second action : Action} {uses later : List (Use Margin)}

theorem done : Action.done.Draws [] :=
  ⟨fun _ => .slnil, fun _ _ => rfl⟩

theorem andThen (accountable : first.Accountable) (before : first.Draws uses)
    (after : second.Draws later) : (first.andThen second).Draws (uses ++ later) where
  part := by
    intro sink
    cases ended : (first sink).failure with
    | some failure =>
        rw [andThen_of_failed ended]
        exact (before.part sink).trans (List.sublist_append_left _ _)
    | none =>
        rw [andThen_of_succeeded ended, Outcome.uses, List.filterMap_append]
        exact (before.part sink).append (after.part _)
  whole := by
    intro sink calm
    obtain ⟨beforehand, afterwards, both⟩ := accountable.andThen_of_calm calm
    have start := before.whole sink beforehand
    have rest := after.whole _ afterwards
    rw [both, Outcome.uses, List.filterMap_append]
    simp only [Outcome.uses] at start rest
    rw [start, rest]

theorem attempt (accountable : action.Accountable) (draws : action.Draws uses) :
    action.attempt.Draws uses where
  part := by
    intro sink
    have same : (action.attempt sink).uses = (action sink).uses := by
      cases ended : (action sink).failure with
      | none => rw [attempt_of_succeeded ended]
      | some failure =>
          rw [attempt_of_failed ended, Outcome.uses, List.filterMap_append]
          exact List.append_nil _
    rw [same]
    exact draws.part sink
  whole := by
    intro sink calm
    obtain ⟨inside, same⟩ := accountable.attempt_of_calm calm
    rw [same]
    exact draws.whole sink inside

/-- A writer is used for a line whether or not the sink takes it. -/
theorem writeLine (margin : Margin) (line : String) :
    (writeLine margin line).Draws [⟨margin, some line⟩] := by
  have used (sink : Sink) : (Action.writeLine margin line sink).uses = [⟨margin, some line⟩] := by
    cases answer : sink.refusal? (margin.render line) with
    | none =>
        rw [writeLine_of_accepted answer]
        rfl
    | some fault =>
        cases kind : fault.isRefusal with
        | true =>
            rw [writeLine_of_refused answer kind]
            rfl
        | false =>
            rw [writeLine_of_defect answer kind]
            rfl
  exact ⟨fun sink => by simp [used], fun sink _ => used sink⟩

theorem writeLines (writer : Lineage) (lines : List Line) :
    (writeLines writer.margin lines).Draws
      ((Line.uses writer lines).map (Use.map Lineage.margin)) := by
  induction lines with
  | nil => exact .done
  | cons line rest ih =>
      have first := writeLine (writer.margin.indentBy line.depth) line.text
      rw [← writer.margin_deeper] at first
      rw [writeLines_cons, Line.write, ← writer.margin_deeper]
      exact first.andThen (.writeLine _ _) ih

end Action.Draws

open RustScribe.Action

theorem Item.write_draws (writer : Lineage) (item : Item) :
    (item.write writer.margin).Draws
      ((Line.uses writer item.lines).map (Use.map Lineage.margin)) := by
  unfold Item.write
  cases item.notice with
  | none => exact .writeLines writer _
  | some message =>
      have note : (record (.logged .debug message)).Draws [] :=
        ⟨fun _ => .slnil, fun _ _ => rfl⟩
      exact note.andThen (fun sink => .of_quiet (.noted sink message)) (.writeLines writer _)

theorem Script.run_draws (script : Script) (nest : Nest Lineage) :
    (script.run (nest.map Lineage.margin)).Draws
      ((script.uses nest).map (Use.map Lineage.margin)) := by
  induction script generalizing nest with
  | skip | raise fault | close => exact ⟨fun _ => .slnil, fun _ _ => rfl⟩
  | seq first second firstIH secondIH =>
      simp only [uses, List.map_append]
      exact (firstIH nest).andThen (first.run_accountable _) (secondIH nest)
  | emit up item =>
      simp only [run, uses, Nest.writer_map]
      exact item.write_draws _
  | within up scope body ih =>
      have inside := ih (.inner ((nest.writer up).enter scope) nest)
      simp only [run, uses, Frame.write, Nest.writer_map, List.map_append]
      exact (Draws.writeLines _ _).andThen (.writeLines _ _) <|
        inside.andThen (body.run_accountable _) (.writeLines _ _)
  | showMargin up =>
      simp only [run, uses, Nest.writer_map]
      exact ⟨fun _ => .refl _, fun _ _ => rfl⟩
  | attempt body ih => exact (ih nest).attempt (body.run_accountable _)
  | afresh margin body ih => exact ih (.inner { origin := margin } nest)

/-- A line is asked of a writer that the script uses for it. -/
theorem Script.exists_use {script : Script} {nest : Nest Lineage} {sink : Sink} {margin : Margin}
    {line : String} (asked : (margin, line) ∈ (script.run (nest.map Lineage.margin) sink).asked) :
    ∃ writer, ⟨writer, some line⟩ ∈ script.uses nest ∧ writer.margin = margin := by
  have used : (⟨margin, some line⟩ : Use Margin) ∈
      (script.run (nest.map Lineage.margin) sink).uses := by
    obtain ⟨moment, happened, request⟩ := List.mem_filterMap.mp asked
    cases moment with
    | asked =>
        cases request
        exact List.mem_filterMap.mpr ⟨_, happened, rfl⟩
    | _ => cases request
  have listed := ((script.run_draws nest).part sink).subset used
  obtain ⟨⟨writer, shown⟩, member, same⟩ := List.mem_map.mp listed
  cases same
  exact ⟨writer, member, rfl⟩

/-- The margin of a writer tells how many commented and how many indented scopes it is in, whatever
their order. In every run the writers are used in the order of the script, each with the margin of
its own lineage, and each line is offered in one piece. -/
theorem margins_count_scopes :
    (∀ (origin : Margin) (path : List Scope),
      Lineage.descend origin path =
        repeated commentMarker (path.count .commented) ++ origin ++
          repeated indentUnit (Scope.unitsAlong path)) ∧
    (∀ (origin : Margin) (path other : List Scope),
      path.count .commented = other.count .commented →
      Scope.unitsAlong path = Scope.unitsAlong other →
      Lineage.descend origin path = Lineage.descend origin other) ∧
    ∀ (script : Script) (nest : Nest Lineage) (sink : Sink),
      let outcome := script.run (nest.map Lineage.margin) sink
      let uses := (script.uses nest).map (Use.map Lineage.margin)
      outcome.uses.Sublist uses ∧
      (outcome.arisen = [] → outcome.uses = uses) ∧
      outcome.offered = (outcome.asked.map fun (margin, line) => margin.render line) ∧
      ∀ margin line, (margin, line) ∈ outcome.asked → line ≠ "" →
        margin.render line = margin ++ line ++ "\n" := by
  have counted (origin : Margin) (path : List Scope) :
      Lineage.descend origin path =
        repeated commentMarker (path.count .commented) ++ origin ++
          repeated indentUnit (Scope.unitsAlong path) :=
    Lineage.margin_eq_place ⟨origin, path⟩
  refine ⟨counted, ?_, ?_⟩
  · intro origin path other comments units
    rw [counted, counted, comments, units]
  · intro script nest sink outcome uses
    have draws := script.run_draws nest
    have account := script.run_accountable (nest.map Lineage.margin) sink
    exact ⟨draws.part sink, draws.whole sink, account.offered_eq,
      fun margin line _ written => Margin.render_of_ne written margin⟩

/-- A writer outside a closure is used in the middle of it, after a fault two scopes further
in was caught. -/
theorem margins_count_scopes_in_closure :
    let inner := Script.within 0 .commented (.within 0 (.pubMod "m") (.raise .closedBuffer))
    let script := Script.within 0 (.lazyStaticWith "x" "T")
      (.seq (.attempt inner) (.within 1 .commented (.emit 0 (.line "b"))))
    let memory : Sink := { policy := .memory }
    let outcome := script.run (.root "\t") memory
    Lineage.descend "\t" [.commented, .pubMod "m", .lazyStaticWith "x" "T"] =
        Lineage.descend "\t" [.indented, .lazyStaticWith "y" "U", .commented] ∧
      outcome.uses.Sublist ((script.uses (.root { origin := "\t" })).map (Use.map Lineage.margin)) ∧
      (⟨"// \t", some "b"⟩ : Use Margin) ∈ outcome.uses ∧
      Margin.render "// \t" "b" = "// \t" ++ "b" ++ "\n" := by
  intro inner script memory outcome
  obtain ⟨-, counts, runs⟩ := margins_count_scopes
  obtain ⟨order, -, -, pieces⟩ := runs script (.root { origin := "\t" }) memory
  refine ⟨counts "\t" _ _ (by decide) (by decide), order, by decide +kernel, ?_⟩
  exact pieces "// \t" "b" (by decide +kernel) (by decide)

end RustScribe
