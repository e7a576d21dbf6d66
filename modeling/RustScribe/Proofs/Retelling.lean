import RustScribe.Script

namespace RustScribe

/-! Two runs in step fail alike and leave corresponding sinks, and each moment of one is a moment of
the other in other words. What corresponds, and how a moment is retold, is left open. -/

namespace Moment

/-- A way to retell moments that changes nothing but what margins and texts show. -/
structure Plain (tell : Moment → Moment) : Prop where
  logged : ∀ level message, tell (.event (.logged level message)) = .event (.logged level message)
  caught : ∀ failure, tell (.event (.caught failure)) = .event (.caught failure)
  raised : ∀ fault, tell (.raised fault) = .raised fault
  failed : ∀ failure, tell (.failed failure) = .failed failure

theorem Plain.id : Plain id where
  logged _ _ := rfl
  caught _ := rfl
  raised _ := rfl
  failed _ := rfl

end Moment

/-- The second outcome retells the first. -/
structure Outcome.Retold (sinks : Sink → Sink → Prop) (tell : Moment → Moment)
    (outcome other : Outcome) : Prop where
  moments : other.moments = outcome.moments.map tell
  failure : other.failure = outcome.failure
  sink : sinks outcome.sink other.sink

/-- What is observed of one run is what is observed of the other, in other words. -/
theorem Outcome.Retold.observed {sinks : Sink → Sink → Prop} {tell : Moment → Moment}
    {outcome other : Outcome} {Observed : Type} {observe : Moment → Option Observed}
    {retell : Observed → Observed} (retold : outcome.Retold sinks tell other)
    (kept : ∀ moment, observe (tell moment) = (observe moment).map retell) :
    other.moments.filterMap observe = (outcome.moments.filterMap observe).map retell := by
  rw [retold.moments, List.filterMap_map, List.map_filterMap]
  exact congrArg (List.filterMap · outcome.moments) (funext kept)

namespace Action

def Retold (sinks : Sink → Sink → Prop) (tell : Moment → Moment) (action other : Action) : Prop :=
  ∀ sink mirror, sinks sink mirror → (action sink).Retold sinks tell (other mirror)

namespace Retold

variable {sinks : Sink → Sink → Prop} {tell : Moment → Moment}
variable {first second action firstOther secondOther other : Action}

theorem done : Retold sinks tell done done :=
  fun _ _ related => ⟨rfl, rfl, related⟩

theorem raise (plain : Moment.Plain tell) (fault : Fault) :
    Retold sinks tell (raise fault) (raise fault) :=
  fun _ _ related => ⟨by simp [Action.raise, plain.raised], rfl, related⟩

theorem record {event told : Event} (retold : tell (.event event) = .event told) :
    Retold sinks tell (record event) (record told) :=
  fun _ _ related => ⟨by simp [Action.record, retold], rfl, related⟩

theorem andThen (before : Retold sinks tell first firstOther)
    (after : Retold sinks tell second secondOther) :
    Retold sinks tell (first.andThen second) (firstOther.andThen secondOther) := by
  intro sink mirror related
  obtain ⟨moments, failure, left⟩ := before sink mirror related
  -- The failures are the same, so both runs go on after the first part or neither does.
  cases ended : (first sink).failure with
  | some cause =>
      rw [ended] at failure
      rw [andThen_of_failed ended, andThen_of_failed failure]
      exact before sink mirror related
  | none =>
      rw [ended] at failure
      obtain ⟨later, ending, final⟩ := after _ _ left
      rw [andThen_of_succeeded ended, andThen_of_succeeded failure]
      exact ⟨by simp only [moments, later, List.map_append], ending, final⟩

theorem attempt (plain : Moment.Plain tell) (inside : Retold sinks tell action other) :
    Retold sinks tell action.attempt other.attempt := by
  intro sink mirror related
  obtain ⟨moments, failure, left⟩ := inside sink mirror related
  cases ended : (action sink).failure with
  | none =>
      rw [ended] at failure
      rw [attempt_of_succeeded ended, attempt_of_succeeded failure]
      exact inside sink mirror related
  | some cause =>
      rw [ended] at failure
      rw [attempt_of_failed ended, attempt_of_failed failure]
      exact ⟨by simp [moments, plain.caught], rfl, left⟩

/-- A line is retold where both sinks give the same answer to it. -/
theorem writeLine (plain : Moment.Plain tell) {margin mirrored : Margin} {line : String}
    (asked : tell (.asked margin line) = .asked mirrored line)
    (written : tell (.event (.written (margin.render line))) =
      .event (.written (mirrored.render line)))
    (refused : ∀ fault, tell (.event (.refused (margin.render line) fault)) =
      .event (.refused (mirrored.render line) fault))
    (answers : ∀ {sink mirror : Sink}, sinks sink mirror →
      mirror.refusal? (mirrored.render line) = sink.refusal? (margin.render line) ∧
        sinks (sink.offer (margin.render line)) (mirror.offer (mirrored.render line))) :
    Retold sinks tell (writeLine margin line) (writeLine mirrored line) := by
  intro sink mirror related
  obtain ⟨same, left⟩ := answers related
  cases answer : sink.refusal? (margin.render line) with
  | none =>
      rw [answer] at same
      rw [writeLine_of_accepted answer, writeLine_of_accepted same]
      exact ⟨by simp [asked, written], rfl, left⟩
  | some fault =>
      rw [answer] at same
      cases kind : fault.isRefusal with
      | true =>
          rw [writeLine_of_refused answer kind, writeLine_of_refused same kind]
          exact ⟨by simp [asked, refused, plain.logged, plain.failed], rfl, left⟩
      | false =>
          rw [writeLine_of_defect answer kind, writeLine_of_defect same kind]
          exact ⟨by simp [asked, refused, plain.failed], rfl, left⟩

variable {margin mirrored : Margin}

theorem writeLines {lines : List Line}
    (each : ∀ line : Line, Retold sinks tell (line.write margin) (line.write mirrored)) :
    Retold sinks tell (writeLines margin lines) (writeLines mirrored lines) := by
  induction lines with
  | nil => exact .done
  | cons line rest ih =>
      rw [writeLines_cons, writeLines_cons]
      exact (each line).andThen ih

theorem item (plain : Moment.Plain tell) (item : Item)
    (each : ∀ line : Line, Retold sinks tell (line.write margin) (line.write mirrored)) :
    Retold sinks tell (item.write margin) (item.write mirrored) := by
  unfold Item.write
  cases item.notice with
  | none => exact writeLines each
  | some message => exact (record (plain.logged _ _)).andThen (writeLines each)

theorem frame {frame : Frame} {body bodyOther : Margin → Action}
    (each : ∀ line : Line, Retold sinks tell (line.write margin) (line.write mirrored))
    (inside : Retold sinks tell (body (margin.descend frame.descent))
      (bodyOther (mirrored.descend frame.descent))) :
    Retold sinks tell (frame.write margin body) (frame.write mirrored bodyOther) :=
  (writeLines each).andThen (inside.andThen (writeLines each))

end Retold

end Action

end RustScribe
