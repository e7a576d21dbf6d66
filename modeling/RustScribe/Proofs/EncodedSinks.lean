import RustScribe.Proofs.CalmRuns
import RustScribe.Proofs.TextLines

namespace RustScribe

namespace Text.Charset

variable {charset : Charset} {chars start : List Char} {run : BadRun}

/-- The run that a text is refused for, found by cutting the text around it. -/
def IsFirstRun (charset : Charset) (chars : List Char) (run : BadRun) : Prop :=
  ∃ before others after, chars = before ++ (run.first :: others) ++ after ∧
    run.start = before.length ∧ run.more = others.length ∧
    (∀ char ∈ before, charset.encodes char = true) ∧
    (∀ char ∈ run.first :: others, charset.encodes char = false) ∧
    ∀ char ∈ after.head?, charset.encodes char = true

theorem IsFirstRun.of_badRun? (found : charset.badRun? chars = some run) :
    charset.IsFirstRun chars run := by
  unfold badRun? at found
  cases rest : chars.dropWhile charset.encodes with
  | nil => simp [rest] at found
  | cons first others =>
      simp only [rest, Option.some.injEq] at found
      subst found
      have unfit : charset.encodes first = false := by
        have head := List.head?_dropWhile_not charset.encodes chars
        simpa [rest] using head
      refine ⟨chars.takeWhile charset.encodes, others.takeWhile fun char => !charset.encodes char,
        others.dropWhile fun char => !charset.encodes char, ?_, rfl, rfl, ?_, ?_, ?_⟩
      · rw [List.append_assoc, List.cons_append, List.takeWhile_append_dropWhile, ← rest,
          List.takeWhile_append_dropWhile]
      · exact List.all_eq_true.mp List.all_takeWhile
      · intro char member
        cases List.mem_cons.mp member with
        | inl same => exact same ▸ unfit
        | inr later => simpa using List.all_eq_true.mp List.all_takeWhile char later
      · intro char head
        have stop := List.head?_dropWhile_not (fun char => !charset.encodes char) others
        rw [Option.mem_def.mp head] at stop
        simpa using stop

theorem badRun?_of_isFirstRun (first : charset.IsFirstRun chars run) :
    charset.badRun? chars = some run := by
  obtain ⟨before, others, after, rfl, start, more, fit, unfit, stop⟩ := first
  have head : ¬ charset.encodes run.first = true := by simp [unfit]
  have inside : ∀ char ∈ others, (!charset.encodes char) = true := fun char member => by
    simp [unfit char (List.mem_cons_of_mem _ member)]
  have ended : after.takeWhile (fun char => !charset.encodes char) = [] := by
    cases after with
    | nil => rfl
    | cons next rest => simp [stop next rfl]
  rw [badRun?, List.append_assoc, List.dropWhile_append_of_pos fit,
    List.takeWhile_append_of_pos fit, List.cons_append, List.dropWhile_cons_of_neg head,
    List.takeWhile_cons_of_neg head]
  simp only [List.takeWhile_append_of_pos inside, ended, List.append_nil, ← start, ← more]

theorem badRun?_eq_some_iff : charset.badRun? chars = some run ↔ charset.IsFirstRun chars run :=
  ⟨.of_badRun?, badRun?_of_isFirstRun⟩

def BadRun.shift (distance : Nat) (run : BadRun) : BadRun :=
  { run with start := distance + run.start }

/-- Characters of the set in front of a text move its first run. -/
theorem badRun?_append (fit : ∀ char ∈ start, charset.encodes char = true) (chars : List Char) :
    charset.badRun? (start ++ chars) = (charset.badRun? chars).map (.shift start.length) := by
  unfold badRun?
  rw [List.dropWhile_append_of_pos fit, List.takeWhile_append_of_pos fit]
  cases chars.dropWhile charset.encodes with
  | nil => rfl
  | cons first rest => simp [BadRun.shift]

/-- A character of the set behind a text ends its last run, and moves none. -/
theorem badRun?_concat {last : Char} (fit : charset.encodes last = true) (chars : List Char) :
    charset.badRun? (chars ++ [last]) = charset.badRun? chars := by
  cases found : charset.badRun? chars with
  | none =>
      rw [badRun?_eq_none_iff] at found ⊢
      intro char member
      rcases List.mem_append.mp member with inside | ending
      · exact found char inside
      · exact List.mem_singleton.mp ending ▸ fit
  | some run =>
      obtain ⟨before, others, after, cut, start, more, fits, unfit, stop⟩ :=
        IsFirstRun.of_badRun? found
      refine badRun?_of_isFirstRun
        ⟨before, others, after ++ [last], ?_, start, more, fits, unfit, ?_⟩
      · rw [cut, List.append_assoc]
      intro char head
      cases after with
      | nil => exact Option.some.inj head ▸ fit
      | cons next rest => exact stop char head

theorem encodes_newline (charset : Charset) : charset.encodes '\n' = true := by
  cases charset <;> decide

def Encodes (charset : Charset) (text : String) : Prop :=
  ∀ char ∈ text.toList, charset.encodes char = true

instance (charset : Charset) (text : String) : Decidable (charset.Encodes text) :=
  decidable_of_iff (text.toList.all charset.encodes = true) List.all_eq_true

theorem ascii_le_limit (charset : Charset) : 0x80 ≤ charset.limit := by
  cases charset <;> decide

theorem encodes_inheritable (charset : Charset) : Inheritable charset.Encodes where
  printable text printable char member := by
    have visible := List.all_eq_true.mp printable char member
    simp only [isPrintable, Bool.and_eq_true, decide_eq_true_eq] at visible
    have limit := charset.ascii_le_limit
    exact decide_eq_true (by omega)
  append one other char member := by
    rw [String.toList_append, List.mem_append] at member
    exact member.elim (one char) (other char)

/-- The fault with which a sink answers a text. -/
def fault? (charset : Charset) (text : String) : Option Fault :=
  (charset.badRun? text.toList).map (.unencodable charset)

theorem fault?_eq_none_iff {text : String} :
    charset.fault? text = none ↔ charset.Encodes text := by
  rw [fault?, Option.map_eq_none_iff, badRun?_eq_none_iff]
  rfl

end Text.Charset

open Text (Charset)

namespace Margin

variable {charset : Charset} {margin : Margin}

theorem encodes_render {line : String} (start : charset.Encodes margin)
    (rest : charset.Encodes line) : charset.Encodes (margin.render line) := by
  have feed : charset.Encodes "\n" := fun char member =>
    List.mem_singleton.mp member ▸ charset.encodes_newline
  have append := @charset.encodes_inheritable.append
  unfold render
  split
  · refine append (fun char member => ?_) feed
    rw [Text.toList_trimEnd] at member
    exact start char ((Text.trimEndChars_sublist margin.toList).subset member)
  · exact append (append start rest) feed

/-- Behind a margin in the set, the first run of a line stands further on by its length. -/
theorem badRun?_render (fit : charset.Encodes margin) (line : String) :
    charset.badRun? (margin.render line).toList =
      (charset.badRun? line.toList).map (.shift margin.length) := by
  by_cases empty : line = ""
  · subst empty
    have blank : charset.Encodes (margin.render "") :=
      encodes_render fit fun char member => absurd member (by simp)
    rw [Charset.badRun?_eq_none_iff.mpr blank]
    rfl
  · have text : (margin.render line).toList = margin.toList ++ line.toList ++ ['\n'] := by
      simp [render_of_ne empty]
    rw [text, Charset.badRun?_concat charset.encodes_newline, Charset.badRun?_append fit,
      String.length_toList]

end Margin

theorem Lineage.length_margin (writer : Lineage) :
    writer.margin.length = 3 * writer.path.count .commented + writer.origin.length +
      4 * Scope.unitsAlong writer.path := by
  have marker : commentMarker.length = 3 := by decide
  have unit : indentUnit.length = 4 := by decide
  rw [margin_eq_place, Place.margin, String.length_append, String.length_append, length_repeated,
    length_repeated, marker, unit, Nat.mul_comm 3, Nat.mul_comm 4]
  rfl

/-- A policy by which an open sink answers each text on its own, and only by refusing it. -/
structure Sink.Policy.Judges (policy : Sink.Policy) (answer : String → Option Fault) : Prop where
  answers : ∀ sink : Sink, sink.policy = policy → sink.closed = false →
    ∀ text, sink.refusal? text = answer text
  refuses : ∀ text fault, answer text = some fault → fault.isRefusal = true

theorem Sink.Policy.memory_judges : Judges .memory fun _ => none where
  answers sink policy isOpen text := by simp [refusal?, policy, isOpen]
  refuses text fault answer := by contradiction

theorem Sink.Policy.encoded_judges (charset : Charset) :
    (encoded charset).Judges charset.fault? where
  answers sink policy isOpen text := by simp [refusal?, policy, isOpen, Charset.fault?]
  refuses text fault answer := by
    obtain ⟨run, -, rfl⟩ := Option.map_eq_some_iff.mp answer
    rfl

/-- A text that was passed to the sink, and the fault that the sink answered, if it did. -/
def Moment.answered? : Moment → Option (String × Option Fault)
  | .event (.written text) => some (text, none)
  | .event (.refused text fault) => some (text, some fault)
  | _ => none

def Outcome.answered (outcome : Outcome) : List (String × Option Fault) :=
  outcome.moments.filterMap Moment.answered?

/-- A record in which each text was answered as told, and each refusal failed a line. -/
structure Judged (answer : String → Option Fault) (moments : List Moment) : Prop where
  answered : moments.filterMap Moment.answered? =
    (moments.filterMap Moment.asked?).map fun (margin, line) =>
      (margin.render line, answer (margin.render line))
  failed : moments.filterMap Moment.failed? =
    (moments.filterMap Moment.asked?).filterMap fun (margin, line) =>
      (answer (margin.render line)).map (.refusedLine line)

section Judged

variable {policy : Sink.Policy} {answer : String → Option Fault} {sink after : Sink}
variable {moments later : List Moment} {ending : Option Failure}

theorem Judged.append (first : Judged answer moments) (second : Judged answer later) :
    Judged answer (moments ++ later) where
  answered := by simp only [List.filterMap_append, List.map_append, first.answered, second.answered]
  failed := by simp only [List.filterMap_append, first.failed, second.failed]

theorem Episode.judged (judges : policy.Judges answer)
    (episode : Episode sink moments ending after) (governed : sink.policy = policy)
    (isOpen : after.closed = false) : Judged answer moments := by
  cases episode with
  | noted | shown | raised => exact ⟨rfl, rfl⟩
  | closed => simp [Sink.close] at isOpen
  | @accepted margin line accepted =>
      rw [judges.answers sink governed (by simpa using isOpen)] at accepted
      constructor <;>
        simp [List.filterMap_cons, Moment.answered?, Moment.asked?, Moment.failed?, accepted]
  | @refused margin line fault refused refusal =>
      rw [judges.answers sink governed (by simpa using isOpen)] at refused
      constructor <;>
        simp [List.filterMap_cons, Moment.answered?, Moment.asked?, Moment.failed?, refused]
  | @defect margin line fault refused defect =>
      rw [judges.answers sink governed (by simpa using isOpen)] at refused
      rw [judges.refuses _ _ refused] at defect
      contradiction

theorem Account.judged (judges : policy.Judges answer)
    (account : Account sink moments ending after) (governed : sink.policy = policy)
    (isOpen : after.closed = false) : Judged answer moments := by
  -- A sink that is open in the end was open before every episode.
  have opened {sink after : Sink} {moments : List Moment} {ending : Option Failure}
      (account : Account sink moments ending after) (isOpen : after.closed = false) :
      sink.closed = false := by
    cases closed : sink.closed with
    | false => rfl
    | true =>
        rw [account.closed_of_closed closed] at isOpen
        contradiction
  induction account with
  | blank sink => exact ⟨rfl, rfl⟩
  | quiet episode rest ih =>
      exact (episode.judged judges governed (opened rest isOpen)).append
        (ih (episode.policy.trans governed) isOpen)
  | @caught _ _ _ _ _ failure _ episode rest ih =>
      have report : Judged answer [.event (.caught failure)] := ⟨rfl, rfl⟩
      exact (episode.judged judges governed (opened rest isOpen)).append
        (report.append (ih (episode.policy.trans governed) isOpen))
  | ended episode => exact episode.judged judges governed isOpen

end Judged

namespace Session

variable {policy : Sink.Policy} {answer : String → Option Fault}
variable {margin : Margin} {sink : Sink} {scripts : List Script}

theorem outcomes_judged (judges : policy.Judges answer) (governed : sink.policy = policy)
    (isOpen : sink.closed = false) (closesNothing : ∀ script ∈ scripts, script.ClosesNothing) :
    ∀ outcome ∈ outcomes margin sink scripts, Judged answer outcome.moments := by
  intro outcome member
  obtain ⟨earlier, script, later, rfl, rfl⟩ := exists_run member
  have before : ∀ script ∈ earlier, script.ClosesNothing := fun script listed =>
    closesNothing script (by simp [listed])
  refine (script.run_accountable _ _).judged judges ((finalSink_policy _ _ _).trans governed) ?_
  rw [(closesNothing script (by simp)).run_closed, finalSink_closed before, isOpen]

/-- Where no text is refused, sessions that raise nothing are calm. -/
theorem outcomes_calm (judges : policy.Judges answer) (governed : sink.policy = policy)
    (isOpen : sink.closed = false) (closesNothing : ∀ script ∈ scripts, script.ClosesNothing)
    (raisesNothing : ∀ script ∈ scripts, script.RaisesNothing)
    (accepted : ∀ outcome ∈ outcomes margin sink scripts, ∀ margin line,
      (margin, line) ∈ outcome.asked → answer (margin.render line) = none) :
    ∀ outcome ∈ outcomes margin sink scripts, outcome.arisen = [] := by
  intro outcome member
  have judged := outcomes_judged judges governed isOpen closesNothing outcome member
  have unfailed : outcome.failed = [] := by
    rw [Outcome.failed, judged.failed]
    refine List.filterMap_eq_nil_iff.mpr fun (margin, line) asked => ?_
    exact Option.map_eq_none_iff.mpr (accepted outcome member margin line asked)
  obtain ⟨earlier, script, later, rfl, rfl⟩ := exists_run member
  exact (raisesNothing script (by simp)).run_calm unfailed

/-- A script that is given only characters of the set does on an open sink with this set
what it does in memory. -/
theorem reports_encoded {charset : Charset} (governed : sink.policy = .encoded charset)
    (isOpen : sink.closed = false) (closesNothing : ∀ script ∈ scripts, script.ClosesNothing)
    (raisesNothing : ∀ script ∈ scripts, script.RaisesNothing)
    (given : Given charset.Encodes margin scripts) :
    (∀ outcome ∈ outcomes margin sink scripts, outcome.reported = []) ∧
      reports sink margin scripts = reports { policy := .memory } margin scripts := by
  have calm := outcomes_calm (Sink.Policy.encoded_judges charset) governed isOpen closesNothing
    raisesNothing fun outcome member margin line asked => by
      obtain ⟨start, rest⟩ := asked_holds charset.encodes_inheritable given member _ asked
      exact Charset.fault?_eq_none_iff.mpr (Margin.encodes_render start rest)
  have memory : ∀ outcome ∈ outcomes margin { policy := .memory } scripts,
      outcome.arisen = [] :=
    outcomes_calm Sink.Policy.memory_judges rfl rfl closesNothing raisesNothing
      fun _ _ _ _ _ => rfl
  refine ⟨fun outcome member => ?_, reports_of_calm calm memory⟩
  obtain ⟨before, account⟩ := (outcomes_accounted sink margin scripts).of_mem member
  exact account.arisen_eq_reported.symm.trans (calm outcome member)

/-- On an open sink a text is refused exactly if it has a character outside the set. The fault names
the first run of such characters, which the margin moves by its length; the failure names the bare
line. Scripts that are given only characters of the set do what they do in memory. -/
theorem encoded_sinks_refuse_bad_runs (margin : Margin) {charset : Charset}
    (governed : sink.policy = .encoded charset) (isOpen : sink.closed = false)
    (closesNothing : ∀ script ∈ scripts, script.ClosesNothing) :
    let outcomes := outcomes margin sink scripts
    (Given charset.Encodes margin scripts → (∀ script ∈ scripts, script.RaisesNothing) →
      (∀ outcome ∈ outcomes, outcome.reported = []) ∧
      reports sink margin scripts = reports { policy := .memory } margin scripts) ∧
    (∀ outcome ∈ outcomes,
      outcome.answered = outcome.asked.map (fun (margin, line) =>
        (margin.render line, charset.fault? (margin.render line))) ∧
      outcome.failed = outcome.asked.filterMap fun (margin, line) =>
        (charset.fault? (margin.render line)).map (.refusedLine line)) ∧
    (∀ text : String,
      (charset.fault? text = none ↔ ∀ char ∈ text.toList, charset.encodes char = true) ∧
      ∀ fault, charset.fault? text = some fault ↔
        ∃ run, charset.IsFirstRun text.toList run ∧ .unencodable charset run = fault) ∧
    (∀ run, (Fault.unencodable charset run).message =
      "'" ++ charset.name ++ "' codec can't encode " ++
        (if run.more = 0 then
          "character '" ++ String.ofList (Text.escapeCode run.first) ++ "' in position " ++
            toString run.start
        else
          "characters in position " ++ toString run.start ++ "-" ++
            toString (run.start + run.more)) ++
        ": ordinal not in range(" ++ toString charset.limit ++ ")") ∧
    (∀ (start : Margin) (line : String), charset.Encodes start →
      charset.fault? (start.render line) =
        (charset.badRun? line.toList).map fun run =>
          .unencodable charset (run.shift start.length)) ∧
    ∀ (script : Script) (nest : Nest Lineage) (current : Sink) (start : Margin) (line : String),
      (start, line) ∈ (script.run (nest.map Lineage.margin) current).asked →
      ∃ writer, ⟨writer, some line⟩ ∈ script.uses nest ∧ start = writer.margin ∧
        start.length = 3 * writer.path.count .commented + writer.origin.length +
          4 * Scope.unitsAlong writer.path := by
  intro outcomes
  refine ⟨fun given raisesNothing => ?_, fun outcome member => ?_,
    fun text => ⟨?_, fun fault => ?_⟩, fun run => rfl, fun start line fit => ?_,
    fun script nest current start line asked => ?_⟩
  · exact reports_encoded governed isOpen closesNothing raisesNothing given
  · have judged := outcomes_judged (Sink.Policy.encoded_judges charset) governed isOpen
      closesNothing outcome member
    exact ⟨judged.answered, judged.failed⟩
  · exact Charset.fault?_eq_none_iff
  · simp only [Charset.fault?, Option.map_eq_some_iff, Charset.badRun?_eq_some_iff]
  · rw [Charset.fault?, Margin.badRun?_render fit, Option.map_map]
    rfl
  · obtain ⟨writer, used, rfl⟩ := Script.exists_use asked
    exact ⟨writer, used, rfl, writer.length_margin⟩

/-- Two accents in a function that is commented out: in Latin-1 they are written, in ASCII they
are refused behind the three characters of a comment and the four of a body. -/
theorem encoded_sinks_refuse_bad_runs_behind_margin :
    let line := "let s = \"éé\";"
    let script := Script.within 0 .commented (.within 0 (.pubFn "f()") (.emit 0 (.line line)))
    let latin1 : Sink := { policy := .encoded .latin1 }
    let ascii : Sink := { policy := .encoded .ascii }
    let bad : Fault := .unencodable .ascii ⟨16, 'é', 1⟩
    script.ClosesNothing ∧ script.RaisesNothing ∧ Given Charset.latin1.Encodes "" [script] ∧
      reports latin1 "" [script] = reports { policy := .memory } "" [script] ∧
      (∀ outcome ∈ outcomes "" ascii [script], outcome.failed = [.refusedLine line bad]) ∧
      bad.message =
        "'ascii' codec can't encode characters in position 16-17: ordinal not in range(128)" := by
  intro line script latin1 ascii bad
  have closesNothing : script.ClosesNothing := by
    simp [script, Script.ClosesNothing, Script.Throughout]
  have raisesNothing : script.RaisesNothing := by
    simp [script, Script.RaisesNothing, Script.Throughout]
  have given : Given Charset.latin1.Encodes "" [script] := by
    simp only [Given, List.forall_mem_singleton, script, Script.Given, Script.Throughout,
      Scope.arguments, Item.arguments]
    decide
  have allOpen := List.forall_mem_singleton.mpr closesNothing
  obtain ⟨written, -⟩ := encoded_sinks_refuse_bad_runs ""
    (show latin1.policy = .encoded .latin1 from rfl) rfl allOpen
  obtain ⟨-, refused, -, message, -⟩ := encoded_sinks_refuse_bad_runs ""
    (show ascii.policy = .encoded .ascii from rfl) rfl allOpen
  refine ⟨closesNothing, raisesNothing, given,
    (written given (List.forall_mem_singleton.mpr raisesNothing)).2, fun outcome member => ?_,
    (message ⟨16, 'é', 1⟩).trans (by decide)⟩
  rw [(refused outcome member).2, List.mem_singleton.mp member]
  decide +kernel

end Session

end RustScribe
