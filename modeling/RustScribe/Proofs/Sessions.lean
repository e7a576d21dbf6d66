import RustScribe.Proofs.Residue
import RustScribe.Proofs.Templates

namespace RustScribe.Session

variable {margin : Margin} {sink : Sink} {scripts : List Script} {outcome : Outcome}

theorem exists_run (member : outcome ∈ outcomes margin sink scripts) :
    ∃ earlier script later, scripts = earlier ++ script :: later ∧
      outcome = script.run (.root margin) (finalSink margin sink earlier) := by
  induction scripts generalizing sink with
  | nil => exact absurd member List.not_mem_nil
  | cons script rest ih =>
      cases List.mem_cons.mp member with
      | inl same => exact ⟨[], script, rest, rfl, same⟩
      | inr further =>
          obtain ⟨earlier, later, others, split, same⟩ := ih further
          exact ⟨script :: earlier, later, others, congrArg (script :: ·) split, same⟩

/-- A sink holds what it held before a session, and what the session wrote, in order. -/
theorem finalSink_content (margin : Margin) (sink : Sink) (scripts : List Script) :
    (finalSink margin sink scripts).content =
      sink.content ++ String.join ((outcomes margin sink scripts).flatMap Outcome.written) := by
  induction scripts generalizing sink with
  | nil => exact String.append_empty.symm
  | cons script rest ih =>
      have first := (script.run_accountable (.root margin) sink).content_eq
      rw [finalSink_cons, ih, first, outcomes, List.flatMap_cons, String.join_append,
        String.append_assoc]
      rfl

/-- A property of the root margin and of all texts and margins that the scripts are given. -/
def Given (holds : String → Prop) (margin : Margin) (scripts : List Script) : Prop :=
  holds margin ∧ ∀ script ∈ scripts, script.Given holds

theorem asked_holds {holds : String → Prop} (inheritable : Inheritable holds)
    (given : Given holds margin scripts) (member : outcome ∈ outcomes margin sink scripts) :
    ∀ request ∈ outcome.asked, holds request.1 ∧ holds request.2 := by
  obtain ⟨earlier, script, later, rfl, rfl⟩ := exists_run member
  have margins (up : Nat) : holds ((Nest.root margin).writer up) := given.1
  exact Script.asked_holds inheritable (given.2 script (by simp)) margins _

end RustScribe.Session
