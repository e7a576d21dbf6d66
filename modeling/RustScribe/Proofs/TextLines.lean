import RustScribe.Proofs.Account
import RustScribe.Proofs.Templates

namespace RustScribe.Text

/-- Cuts a text after each line feed; what follows the last one is a line as well. -/
def cutLines : List Char → List (List Char)
  | [] => []
  | char :: rest =>
      if char = '\n' then [char] :: cutLines rest
      else
        match cutLines rest with
        | [] => [[char]]
        | line :: later => (char :: line) :: later

def Unbroken (text : String) : Prop :=
  '\n' ∉ text.toList

instance (text : String) : Decidable (Unbroken text) :=
  inferInstanceAs (Decidable ('\n' ∉ text.toList))

/-- A line together with its end. -/
def IsWholeLine (text : String) : Prop :=
  ∃ line : String, Unbroken line ∧ text = line ++ "\n"

theorem Unbroken.append {first second : String} (one : Unbroken first) (other : Unbroken second) :
    Unbroken (first ++ second) := by
  simp only [Unbroken, String.toList_append, List.mem_append, not_or] at one other ⊢
  exact ⟨one, other⟩

theorem Unbroken.inheritable : Inheritable Unbroken where
  printable text printable member := by
    have visible := List.all_eq_true.mp printable '\n' member
    revert visible
    decide
  append := .append

theorem cutLines_append {line : List Char} (unbroken : '\n' ∉ line) (rest : List Char) :
    cutLines (line ++ '\n' :: rest) = (line ++ ['\n']) :: cutLines rest := by
  induction line with
  | nil => rfl
  | cons char line ih =>
      simp only [List.mem_cons, not_or] at unbroken
      simp only [List.cons_append, cutLines, if_neg (Ne.symm unbroken.1), ih unbroken.2]

theorem cutLines_join {texts : List String} (whole : ∀ text ∈ texts, IsWholeLine text) :
    cutLines (String.join texts).toList = texts.map String.toList := by
  induction texts with
  | nil => rfl
  | cons text rest ih =>
      obtain ⟨line, unbroken, rfl⟩ := whole text List.mem_cons_self
      have later := ih fun other member => whole other (List.mem_cons_of_mem _ member)
      have cut := cutLines_append unbroken (String.join rest).toList
      rw [later] at cut
      simpa using cut

theorem cutLines_ne_nil {chars : List Char} (some : chars ≠ []) : cutLines chars ≠ [] := by
  cases chars with
  | nil => exact absurd rfl some
  | cons char rest =>
      simp only [cutLines]
      split
      · exact List.cons_ne_nil _ _
      · split <;> exact List.cons_ne_nil _ _

/-- A text that ends in a line feed is cut on its own, whatever follows it. -/
theorem cutLines_append_ended (line rest : List Char) :
    cutLines (line ++ '\n' :: rest) = cutLines (line ++ ['\n']) ++ cutLines rest := by
  induction line with
  | nil => rfl
  | cons char line ih =>
      by_cases feed : char = '\n'
      · simp only [List.cons_append, cutLines, if_pos feed, ih]
      · have some := cutLines_ne_nil (show line ++ ['\n'] ≠ [] by simp)
        simp only [List.cons_append, cutLines, if_neg feed, ih]
        cases cut : cutLines (line ++ ['\n']) with
        | nil => exact absurd cut some
        | cons first others => rfl

/-- What stands at the start of a line, without a line feed, begins that line. -/
theorem exists_line_of_lineStart {before name : List Char} (rest : List Char)
    (lineStart : ∀ char ∈ before.getLast?, char = '\n') (named : name ≠ [])
    (unbroken : '\n' ∉ name) : ∃ line ∈ cutLines (before ++ (name ++ rest)), name <+: line := by
  have first : ∃ line later, cutLines (name ++ rest) = line :: later ∧ name <+: line := by
    induction name with
    | nil => contradiction
    | cons char name ih =>
        simp only [List.mem_cons, not_or] at unbroken
        simp only [List.cons_append, cutLines, if_neg (Ne.symm unbroken.1)]
        cases name with
        | nil =>
            split
            · exact ⟨[char], [], rfl, List.prefix_rfl⟩
            · next line later _ => exact ⟨char :: line, later, rfl, ⟨line, rfl⟩⟩
        | cons next name =>
            obtain ⟨line, later, cut, inside⟩ := ih (List.cons_ne_nil _ _) unbroken.2
            rw [cut]
            exact ⟨char :: line, later, rfl, List.cons_prefix_cons.mpr ⟨rfl, inside⟩⟩
  obtain ⟨line, later, cut, inside⟩ := first
  refine ⟨line, ?_, inside⟩
  cases last : before.getLast? with
  | none =>
      rw [List.getLast?_eq_none_iff.mp last, List.nil_append, cut]
      exact List.mem_cons_self
  | some char =>
      obtain ⟨ended, rfl⟩ := List.getLast?_eq_some_iff.mp last
      rw [lineStart char last, List.append_assoc, List.singleton_append,
        cutLines_append_ended, cut]
      exact List.mem_append_right _ List.mem_cons_self

theorem trimEndChars_sublist (chars : List Char) : (trimEndChars chars).Sublist chars := by
  induction chars with
  | nil => exact .slnil
  | cons char rest ih =>
      simp only [trimEndChars]
      split
      · exact List.nil_sublist _
      · exact ih.cons_cons char

theorem Unbroken.trimEnd {text : String} (unbroken : Unbroken text) : Unbroken (trimEnd text) := by
  intro member
  rw [toList_trimEnd] at member
  exact unbroken ((trimEndChars_sublist text.toList).subset member)

end RustScribe.Text

namespace RustScribe

theorem Margin.exists_render_eq (margin : Margin) (line : String) :
    ∃ text : String, margin.render line = text ++ "\n" := by
  unfold render
  split
  · exact ⟨_, rfl⟩
  · exact ⟨_, rfl⟩

theorem Margin.render_isWholeLine {margin : Margin} {line : String} (start : Text.Unbroken margin)
    (rest : Text.Unbroken line) : Text.IsWholeLine (margin.render line) := by
  unfold render
  split
  · exact ⟨_, start.trimEnd, rfl⟩
  · exact ⟨_, start.append rest, rfl⟩

theorem Outcome.offered_of_written {outcome : Outcome} {text : String}
    (written : text ∈ outcome.written) : text ∈ outcome.offered := by
  obtain ⟨moment, happened, same⟩ := List.mem_filterMap.mp written
  refine List.mem_filterMap.mpr ⟨moment, happened, ?_⟩
  unfold Moment.written? at same
  split at same
  · exact same
  · contradiction

namespace Script

variable {script : Script} {nest : Nest Margin} {sink : Sink} {text : String}

theorem exists_request (offered : text ∈ (script.run nest sink).offered) :
    ∃ margin line, (margin, line) ∈ (script.run nest sink).asked ∧ text = margin.render line := by
  rw [Outcome.offered, (script.run_accountable nest sink).offered_eq] at offered
  obtain ⟨⟨margin, line⟩, asked, rfl⟩ := List.mem_map.mp offered
  exact ⟨margin, line, asked, rfl⟩

theorem offered_ends (offered : text ∈ (script.run nest sink).offered) :
    ∃ line : String, text = line ++ "\n" := by
  obtain ⟨margin, line, -, rfl⟩ := exists_request offered
  exact margin.exists_render_eq line

theorem offered_isWholeLine (given : script.Given Text.Unbroken)
    (margins : ∀ up, Text.Unbroken (nest.writer up))
    (offered : text ∈ (script.run nest sink).offered) : Text.IsWholeLine text := by
  obtain ⟨margin, line, asked, rfl⟩ := exists_request offered
  obtain ⟨start, rest⟩ := asked_holds Text.Unbroken.inheritable given margins sink _ asked
  exact Margin.render_isWholeLine start rest

end Script

end RustScribe
