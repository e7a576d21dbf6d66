import Mathlib.Data.List.Forall2
import RustScribe.Proofs.Reception
import RustScribe.Proofs.Shape

namespace RustScribe

namespace Placed

/-- What is recorded of a line that the sink accepts. -/
def acceptance (placed : Placed) : List Moment :=
  [.asked placed.margin placed.line, .event (.written placed.text)]

/-- What is recorded of a line that the sink answers with a fault. -/
def refusal (placed : Placed) (fault : Fault) : List Moment :=
  [.asked placed.margin placed.line, .event (.refused placed.text fault)] ++
    (if fault.isRefusal then [.event (.logged .error (Action.refusalNotice fault))] else []) ++
    [.failed (placed.failure fault)]

theorem asked_acceptance (placed : Placed) :
    placed.acceptance.filterMap Moment.asked? = [placed.request] := rfl

theorem asked_refusal (placed : Placed) (fault : Fault) :
    (placed.refusal fault).filterMap Moment.asked? = [placed.request] := by
  unfold refusal
  split <;> rfl

end Placed

namespace Reception

def moments (reception : Reception) : List Moment :=
  reception.accepted.flatMap Placed.acceptance ++
    reception.refused.toList.flatMap fun (placed, fault) => placed.refusal fault

/-- What is seen of lines that are written one after the other. -/
def outcome (reception : Reception) : Outcome where
  moments := reception.moments
  sink := reception.sink
  failure := reception.failure none

/-- What one accepted line tells once, accepted lines tell in order. -/
theorem filterMap_acceptances {Told : Type} {tell : Moment → Option Told} {of : Placed → Told}
    (told : ∀ placed, (Placed.acceptance placed).filterMap tell = [of placed])
    (accepted : List Placed) :
    (accepted.flatMap Placed.acceptance).filterMap tell = accepted.map of := by
  induction accepted with
  | nil => rfl
  | cons placed rest ih =>
      rw [List.flatMap_cons, List.filterMap_append, told, ih]
      rfl

theorem asked_moments (reception : Reception) :
    reception.moments.filterMap Moment.asked? = reception.offered.map Placed.request := by
  obtain ⟨accepted, refused, untried, sink⟩ := reception
  have start := filterMap_acceptances Placed.asked_acceptance accepted
  simp only [moments, offered, List.filterMap_append, List.map_append, start]
  cases refused with
  | none => rfl
  | some answer => simp [Placed.asked_refusal]

end Reception

namespace Sink

theorem accepted_eq_iff (sink : Sink) (lines : List Placed) :
    (sink.receive lines).accepted = lines ↔ (sink.receive lines).refused = none := by
  have split := sink.offered_append_untried lines
  constructor
  · intro all
    rw [Reception.offered, all, List.append_assoc, List.append_right_eq_self,
      List.append_eq_nil_iff] at split
    simpa using split.1
  · intro unrefused
    simpa [Reception.offered, unrefused, sink.untried_of_unrefused lines unrefused] using split

theorem succeeds_iff (sink : Sink) (lines : List Placed) :
    (sink.receive lines).outcome.failure = none ↔ (sink.receive lines).accepted = lines := by
  rw [accepted_eq_iff, Reception.outcome, Reception.failure]
  cases (sink.receive lines).refused <;> simp

/-- A line is offered if and only if all lines before it were accepted. -/
theorem offered_eq_take (sink : Sink) (lines : List Placed) :
    (sink.receive lines).offered = lines.take ((sink.receive lines).accepted.length + 1) := by
  induction lines generalizing sink with
  | nil => rfl
  | cons placed rest ih =>
      cases answer : sink.refusal? placed.text with
      | some fault =>
          rw [receive_of_refused rest answer]
          rfl
      | none =>
          have later := ih (sink.offer placed.text)
          rw [Reception.offered] at later
          simp only [receive_of_accepted rest answer, Reception.offered, List.cons_append, later,
            List.length_cons, List.take_succ_cons]

end Sink

theorem writeLine_placed_of_accepted {sink : Sink} {placed : Placed}
    (accepted : sink.refusal? placed.text = none) :
    Action.writeLine placed.margin placed.line sink =
      { moments := placed.acceptance, sink := sink.offer placed.text } :=
  Action.writeLine_of_accepted accepted

theorem writeLine_placed_of_refused {sink : Sink} {placed : Placed} {fault : Fault}
    (refused : sink.refusal? placed.text = some fault) :
    Action.writeLine placed.margin placed.line sink =
      { moments := placed.refusal fault, sink := sink.offer placed.text,
        failure := some (placed.failure fault) } := by
  cases kind : fault.isRefusal with
  | true =>
      rw [Action.writeLine_of_refused refused kind]
      simp [Placed.refusal, Placed.failure, kind, Placed.text]
  | false =>
      rw [Action.writeLine_of_defect refused kind]
      simp [Placed.refusal, Placed.failure, kind, Placed.text]

theorem Line.placed_margin (margin : Margin) (line : Line) :
    (line.placed { origin := margin }).margin = margin.indentBy line.depth := by
  rw [Placed.margin, Line.placed, Place.margin_deeper, Place.margin_origin]

theorem Line.placed_request (margin : Margin) (line : Line) :
    (line.placed { origin := margin }).request = (margin.indentBy line.depth, line.text) := by
  rw [Placed.request, Line.placed_margin]
  rfl

theorem writeLines_eq_receive (margin : Margin) (lines : List Line) (sink : Sink) :
    writeLines margin lines sink =
      (sink.receive (lines.map (Line.placed { origin := margin }))).outcome := by
  induction lines generalizing sink with
  | nil => rfl
  | cons line rest ih =>
      let placed := line.placed { origin := margin }
      have written : line.write margin = Action.writeLine placed.margin placed.line := by
        rw [Line.write, ← line.placed_margin margin]
        rfl
      rw [writeLines_cons, written, List.map_cons]
      cases answer : sink.refusal? placed.text with
      | some fault =>
          have wrote := writeLine_placed_of_refused answer
          rw [Sink.receive_of_refused _ answer, Action.andThen_of_failed (by rw [wrote]), wrote]
          simp [Reception.outcome, Reception.moments, Reception.failure]
      | none =>
          have wrote := writeLine_placed_of_accepted answer
          rw [Sink.receive_of_accepted _ answer, Action.andThen_of_succeeded (by rw [wrote]), wrote,
            ih]
          simp [Reception.outcome, Reception.moments, Reception.failure]

/-- A line with a brace that another line, as deep as it, closes. -/
structure Line.ClosedBy (opening closing : Line) : Prop where
  depth : closing.depth = opening.depth
  opens : ∃ head, opening.text = head ++ "\x7b"
  closes : ∃ rest, closing.text = "\x7d" ++ rest

theorem Line.opening_closedBy (depth : Nat) (head rest : String) :
    (Line.opening depth head).ClosedBy { depth, text := "\x7d" ++ rest } where
  depth := rfl
  opens := ⟨head ++ " ", by rw [String.append_assoc]; rfl⟩
  closes := ⟨rest, rfl⟩

/-- The lines after a body close the last lines before it, the innermost first. -/
theorem Frame.MadeOf.closedBy {holds : String → Prop} {frame : Frame} (made : frame.MadeOf holds) :
    List.Forall₂ Line.ClosedBy (frame.opening.reverse.take frame.closing.length)
      frame.closing := by
  cases made with
  | commented => exact .nil
  | @enclosed head last given closes =>
      simp only [List.mem_cons, List.not_mem_nil, or_false] at closes
      rcases closes with rfl | rfl | rfl
      · exact .cons (Line.opening_closedBy 0 head "") .nil
      · exact .cons (Line.opening_closedBy 0 head ";") .nil
      · exact .cons (Line.opening_closedBy 0 head ",") .nil
  | elseBranch given => exact .cons (Line.opening_closedBy 0 _ "") .nil
  | closure first second =>
      exact .cons (Line.opening_closedBy 1 _ ")") (.cons (Line.opening_closedBy 0 _ "") .nil)

namespace Scope

/-- The lines that a scope writes before its body, for a writer with a margin. -/
def openings (scope : Scope) (margin : Margin) : List Placed :=
  scope.frame.opening.map (Line.placed { origin := margin })

/-- The lines that a scope writes after its body. -/
def closings (scope : Scope) (margin : Margin) : List Placed :=
  scope.frame.closing.map (Line.placed { origin := margin })

theorem frame_closedBy (scope : Scope) :
    List.Forall₂ (fun opening closing : Line => closing.depth = opening.depth ∧
        (scope.IsConstruct → opening.ClosedBy closing))
      (scope.frame.opening.reverse.take scope.frame.closing.length) scope.frame.closing := by
  have shape : scope.IsConstruct → scope.frame.MadeOf fun _ => True := frame_shape
  -- A plain block is given both its lines; nothing is known of them but where they stand.
  cases scope with
  | indented => exact .nil
  | block first last => exact .cons ⟨rfl, fun construct => absurd construct id⟩ .nil
  | _ => exact (shape trivial).closedBy.imp fun _ _ closed => ⟨closed.depth, fun _ => closed⟩

theorem closings_paired (scope : Scope) (margin : Margin) :
    List.Forall₂ (fun opening closing : Placed => closing.margin = opening.margin ∧
        (scope.IsConstruct → (∃ head, opening.line = head ++ "\x7b") ∧
          ∃ rest, closing.line = "\x7d" ++ rest))
      ((scope.openings margin).reverse.take (scope.closings margin).length)
      (scope.closings margin) := by
  rw [openings, closings, List.length_map, ← List.map_reverse, ← List.map_take,
    List.forall₂_map_left_iff, List.forall₂_map_right_iff]
  refine scope.frame_closedBy.imp fun _ _ ⟨depth, closed⟩ => ⟨?_, ?_⟩
  · simp only [Placed.margin, Line.placed, depth]
  · exact fun construct => ⟨(closed construct).opens, (closed construct).closes⟩

theorem frame_depth (scope : Scope) (other : ∀ name type, scope ≠ .lazyStaticWith name type) :
    ∀ line ∈ scope.frame.opening ++ scope.frame.closing, line.depth = 0 := by
  cases scope with
  | lazyStaticWith name type => exact absurd rfl (other name type)
  | fnBlock exported signature =>
      cases exported <;> simp [frame, Frame.braced, Line.opening, Line.closing]
  | _ =>
      simp [frame, Frame.braced, Frame.terminated, Frame.elseBranch, Line.opening, Line.closing]

/-- Only plain indentation and commenting add no lines of their own. -/
theorem frame_eq_nil_iff (scope : Scope) :
    (scope.frame.opening = [] ↔ scope = .indented ∨ scope = .commented) ∧
      (scope.frame.closing = [] ↔ scope = .indented ∨ scope = .commented) := by
  cases scope with
  | fnBlock exported signature => cases exported <;> simp [frame, Frame.braced]
  | _ => simp [frame, Frame.braced, Frame.terminated, Frame.elseBranch, Frame.closure]

theorem block_requests (first last : String) (margin : Margin) :
    ((block first last).openings margin).map Placed.request = [(margin, first)] ∧
      ((block first last).closings margin).map Placed.request = [(margin, last)] := by
  simp [openings, closings, frame, Line.placed_request, Margin.indentBy]

theorem closure_requests (name type : String) (margin : Margin) :
    ((lazyStaticWith name type).openings margin).map Placed.request =
        [(margin, "static mut " ++ name ++ ": ::protobuf::lazy::Lazy<" ++ type ++
            "> = ::protobuf::lazy::Lazy \x7b"),
          (margin.indent, "lock: ::protobuf::lazy::ONCE_INIT,"),
          (margin.indent, "ptr: 0 as *const " ++ type ++ ","), (margin, "\x7d;"),
          (margin, "unsafe \x7b"), (margin.indent, name ++ ".get(|| \x7b")] ∧
      ((lazyStaticWith name type).closings margin).map Placed.request =
        [(margin.indent, "\x7d)"), (margin, "\x7d")] := by
  constructor
  · simp [openings, frame, Frame.closure, Item.lazyStaticLines, Line.placed_request, Line.opening,
      Line.field, Margin.indentBy, String.append_assoc]
    rw [← String.append_assoc]
    rfl
  · simp [closings, frame, Frame.closure, Line.placed_request, Line.closing, Margin.indentBy]

theorem lines_placed {scope : Scope} (other : ∀ name type, scope ≠ .lazyStaticWith name type)
    (margin : Margin) :
    ∀ placed ∈ scope.openings margin ++ scope.closings margin, placed.margin = margin := by
  intro placed member
  rw [openings, closings, ← List.map_append] at member
  obtain ⟨line, listed, rfl⟩ := List.mem_map.mp member
  rw [line.placed_margin, scope.frame_depth other line listed]
  rfl

end Scope

namespace Script

theorem within_eq (up : Nat) (scope : Scope) (body : Script) (nest : Nest Margin) (sink : Sink) :
    let margin := nest.writer up
    let openings := scope.openings margin
    let opened := sink.receive openings
    let inside := body.run (.inner (margin.descend scope.frame.descent) nest) opened.sink
    let closed := inside.sink.receive (scope.closings margin)
    (Script.within up scope body).run nest sink =
      if opened.accepted = openings then
        if inside.failure = none then
          { closed.outcome with moments := opened.moments ++ (inside.moments ++ closed.moments) }
        else { inside with moments := opened.moments ++ inside.moments }
      else opened.outcome := by
  intro margin openings opened inside closed
  have opening : writeLines margin scope.frame.opening sink = opened.outcome :=
    writeLines_eq_receive margin scope.frame.opening sink
  have closing : writeLines margin scope.frame.closing inside.sink = closed.outcome :=
    writeLines_eq_receive margin scope.frame.closing inside.sink
  have left : opened.outcome.sink = opened.sink := rfl
  have succeeds := sink.succeeds_iff openings
  rw [run, Frame.write]
  by_cases all : opened.accepted = openings
  · have succeeded : (writeLines margin scope.frame.opening sink).failure = none := by
      rw [opening]
      exact succeeds.mpr all
    rw [if_pos all, Action.andThen_of_succeeded succeeded, opening, left]
    by_cases normal : inside.failure = none
    · rw [if_pos normal, Action.andThen_of_succeeded normal, closing]
      rfl
    · obtain ⟨failure, ended⟩ := Option.ne_none_iff_exists'.mp normal
      rw [if_neg normal, Action.andThen_of_failed ended]
      rfl
  · obtain ⟨failure, refused⟩ := Option.ne_none_iff_exists'.mp (mt succeeds.mp all)
    have failed : (writeLines margin scope.frame.opening sink).failure = some failure := by
      rw [opening]
      exact refused
    rw [if_neg all, Action.andThen_of_failed failed, opening]

theorem asked_framed {opened closed : Reception} {openings : List Placed} {inside outcome : Outcome}
    (told : outcome =
      if opened.accepted = openings then
        if inside.failure = none then
          { closed.outcome with moments := opened.moments ++ (inside.moments ++ closed.moments) }
        else { inside with moments := opened.moments ++ inside.moments }
      else opened.outcome) :
    outcome.asked =
      opened.offered.map Placed.request ++
        (if opened.accepted = openings then
          inside.asked ++
            (if inside.failure = none then closed.offered.map Placed.request else [])
        else []) := by
  subst told
  by_cases all : opened.accepted = openings
  · by_cases normal : inside.failure = none
    · simp only [all, normal, if_true, Outcome.asked, List.filterMap_append,
        Reception.asked_moments]
    · simp only [all, normal, if_true, if_false, Outcome.asked, List.filterMap_append,
        Reception.asked_moments, List.append_nil]
  · simp only [all, if_false, Outcome.asked, Reception.outcome, Reception.asked_moments,
      List.append_nil]

/-- What the sink makes of the opening lines decides whether the body is run, and what the body
makes of it whether the closing lines are tried; each line is tried if the one before it was
accepted. A closing line stands where the line stands that it closes, the innermost first. -/
theorem scopes_frame_their_bodies (up : Nat) (scope : Scope) (body : Script)
    (nest : Nest Margin) (sink : Sink) :
    let margin := nest.writer up
    let openings := scope.openings margin
    let closings := scope.closings margin
    let opened := sink.receive openings
    let inside := body.run (.inner (margin.descend scope.frame.descent) nest) opened.sink
    let closed := inside.sink.receive closings
    let outcome := (Script.within up scope body).run nest sink
    outcome =
      (if opened.accepted = openings then
        if inside.failure = none then
          { closed.outcome with moments := opened.moments ++ (inside.moments ++ closed.moments) }
        else { inside with moments := opened.moments ++ inside.moments }
      else opened.outcome) ∧
    outcome.asked =
      opened.offered.map Placed.request ++
        (if opened.accepted = openings then
          inside.asked ++
            (if inside.failure = none then closed.offered.map Placed.request else [])
        else []) ∧
    opened.offered = openings.take (opened.accepted.length + 1) ∧
    closed.offered = closings.take (closed.accepted.length + 1) ∧
    List.Forall₂ (fun opening closing => closing.margin = opening.margin ∧
        (scope.IsConstruct → (∃ head, opening.line = head ++ "\x7b") ∧
          ∃ rest, closing.line = "\x7d" ++ rest))
      (openings.reverse.take closings.length) closings ∧
    (openings = [] ↔ scope = .indented ∨ scope = .commented) ∧
    (closings = [] ↔ scope = .indented ∨ scope = .commented) ∧
    (∀ first last, scope = .block first last →
      openings.map Placed.request = [(margin, first)] ∧
        closings.map Placed.request = [(margin, last)]) ∧
    ((∀ name type, scope ≠ .lazyStaticWith name type) →
      ∀ placed ∈ openings ++ closings, placed.margin = margin) ∧
    ∀ name type, scope = .lazyStaticWith name type →
      openings.map Placed.request =
        [(margin, "static mut " ++ name ++ ": ::protobuf::lazy::Lazy<" ++ type ++
            "> = ::protobuf::lazy::Lazy \x7b"),
          (margin.indent, "lock: ::protobuf::lazy::ONCE_INIT,"),
          (margin.indent, "ptr: 0 as *const " ++ type ++ ","), (margin, "\x7d;"),
          (margin, "unsafe \x7b"), (margin.indent, name ++ ".get(|| \x7b")] ∧
      closings.map Placed.request = [(margin.indent, "\x7d)"), (margin, "\x7d")] := by
  intro margin openings closings opened inside closed outcome
  have told : outcome = _ := within_eq up scope body nest sink
  obtain ⟨opens, closes⟩ := scope.frame_eq_nil_iff
  refine ⟨told, asked_framed told, sink.offered_eq_take openings,
    inside.sink.offered_eq_take closings, scope.closings_paired margin,
    List.map_eq_nil_iff.trans opens, List.map_eq_nil_iff.trans closes, ?_,
    fun other => Scope.lines_placed other margin, ?_⟩
  · intro first last same
    subst same
    exact Scope.block_requests first last margin
  · intro name type same
    subst same
    exact Scope.closure_requests name type margin

/-- A sink that refuses the end of a closure is not offered the end of the block around it; a plain
block without a body, written by a writer further out, still closes, and so does an empty branch. -/
theorem scopes_frame_their_bodies_in_closure :
    let sink : Sink := { policy := .failing [8] none .noSpace }
    let fetched := Script.within 0 (.lazyStaticWith "x" "T") (.emit 0 .unimplemented)
    let empty := Script.within 1 (.block "do \x7b" "\x7d while") .skip
    let branches := Script.within 0 (.arm "Some(x)") (.within 0 (.ifLetElse "A" "x") .skip)
    let memory : Sink := { policy := .memory }
    (fetched.run (.root "") sink).asked =
        [("", "static mut x: ::protobuf::lazy::Lazy<T> = ::protobuf::lazy::Lazy \x7b"),
          ("    ", "lock: ::protobuf::lazy::ONCE_INIT,"), ("    ", "ptr: 0 as *const T,"),
          ("", "\x7d;"), ("", "unsafe \x7b"), ("    ", "x.get(|| \x7b"),
          ("        ", "unimplemented!();"), ("    ", "\x7d)")] ∧
      (empty.run (.inner "    " (.root "// ")) memory).asked =
        [("// ", "do \x7b"), ("// ", "\x7d while")] ∧
      (branches.run (.root "") memory).asked =
        [("", "Some(x) => \x7b"), ("    ", "if let A = x \x7b"), ("    ", "\x7d else \x7b"),
          ("    ", "\x7d"), ("", "\x7d,")] := by
  intro sink fetched empty branches memory
  obtain ⟨-, asked, opened, closed, -, -, -, -, -, closure⟩ :=
    scopes_frame_their_bodies 0 (.lazyStaticWith "x" "T") (.emit 0 .unimplemented) (.root "") sink
  obtain ⟨openings, closings⟩ := closure "x" "T" rfl
  obtain ⟨-, emptyAsked, emptyOpened, emptyClosed, -, -, -, block, -, -⟩ :=
    scopes_frame_their_bodies 1 (.block "do \x7b" "\x7d while") .skip
      (.inner "    " (.root "// ")) memory
  obtain ⟨first, last⟩ := block _ _ rfl
  obtain ⟨-, bothAsked, -⟩ := scopes_frame_their_bodies 0 (.arm "Some(x)")
    (.within 0 (.ifLetElse "A" "x") .skip) (.root "") memory
  refine ⟨?_, ?_, bothAsked.trans (by decide +kernel)⟩
  · rw [asked, opened, closed, List.map_take, List.map_take, openings, closings]
    decide +kernel
  · rw [emptyAsked, emptyOpened, emptyClosed, List.map_take, List.map_take, first, last]
    decide +kernel

end Script

end RustScribe
