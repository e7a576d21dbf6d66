import RustScribe.Proofs.Balance
import RustScribe.Proofs.Framing

namespace RustScribe

theorem Sink.takesAll_of_utf8 {sink : Sink} (encoded : sink.policy = .encoded .utf8)
    (isOpen : sink.closed = false) : sink.TakesAll := by
  intro earlier text
  have fits : Text.Charset.utf8.badRun? text.toList = none :=
    Text.Charset.badRun?_eq_none_iff.mpr fun char _ => Text.Charset.utf8_encodes char
  simp [refusal?, foldl_offer_policy, foldl_offer_closed, encoded, isOpen, fits]

theorem Placed.written_acceptance (placed : Placed) :
    placed.acceptance.filterMap Moment.written? = [placed.text] := rfl

theorem Placed.written_refusal (placed : Placed) (fault : Fault) :
    (placed.refusal fault).filterMap Moment.written? = [] := by
  unfold refusal
  split <;> rfl

theorem Reception.written_outcome (reception : Reception) :
    reception.outcome.written = reception.accepted.map Placed.text := by
  obtain ⟨accepted, refused, untried, sink⟩ := reception
  have start := filterMap_acceptances Placed.written_acceptance accepted
  rw [Outcome.written, outcome, moments, List.filterMap_append, start]
  cases refused with
  | none => exact List.append_nil _
  | some answer => simp [Placed.written_refusal]

namespace Item

variable {margin : Margin} {sink : Sink}

theorem map_placed_text (margin : Margin) (lines : List Line) :
    (lines.map (Line.placed { origin := margin })).map Placed.text =
      Line.rendered margin lines := by
  rw [List.map_map, Line.rendered]
  refine List.map_congr_left fun line _ => ?_
  rw [Function.comp_apply, Placed.text, line.placed_margin]
  rfl

theorem write_eq_receive (margin : Margin) (item : Item) (sink : Sink) :
    let reception := sink.receive (item.lines.map (Line.placed { origin := margin }))
    (item.write margin sink).written = reception.accepted.map Placed.text ∧
      (item.write margin sink).failure = reception.outcome.failure := by
  intro reception
  have received : writeLines margin item.lines sink = reception.outcome :=
    writeLines_eq_receive margin item.lines sink
  rw [← reception.written_outcome, ← received]
  unfold write
  cases item.notice with
  | none => exact ⟨rfl, rfl⟩
  | some message =>
      -- The notice is recorded before the lines and leaves the sink as it is.
      have note : (Action.record (.logged .debug message) sink).failure = none := rfl
      have noted := Action.andThen_of_succeeded note (writeLines margin item.lines)
      exact ⟨(congrArg Outcome.written noted).trans rfl, (congrArg Outcome.failure noted).trans rfl⟩

/-- A sink has the texts of the first lines, as far as it took them. -/
theorem written_prefix (margin : Margin) (item : Item) (sink : Sink) :
    (item.write margin sink).written <+: Line.rendered margin item.lines := by
  rw [(write_eq_receive margin item sink).1, ← map_placed_text]
  exact (sink.accepted_prefix _).map Placed.text

theorem write_of_takesAll (takesAll : sink.TakesAll) (margin : Margin) (item : Item) :
    (item.write margin sink).written = Line.rendered margin item.lines ∧
      (item.write margin sink).failure = none := by
  obtain ⟨written, failure⟩ := write_eq_receive margin item sink
  have accepted := takesAll.accepted (item.lines.map (Line.placed { origin := margin }))
  constructor
  · rw [written, accepted, map_placed_text]
  · rw [failure]
    exact (sink.succeeds_iff _).mpr accepted

end Item

end RustScribe
