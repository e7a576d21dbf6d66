import Mathlib.Data.List.Basic
import RustScribe.Action
import RustScribe.WireType
import RustScribe.Proofs.Unquoting

namespace RustScribe

/-- The characters that end a line in one convention or another. -/
def Text.lineBreaks : List Char :=
  ['\n', '\x0b', '\x0c', '\r', '\x1c', '\x1d', '\x1e', '\u0085', '\u2028', '\u2029']

theorem Text.unprintable_of_mem_lineBreaks :
    ∀ char ∈ lineBreaks, isUnprintable char = true := by
  have all : lineBreaks.all isUnprintable = true := by decide +kernel
  exact List.all_eq_true.mp all

theorem Text.printable_of_ascii {chars : List Char}
    (ascii : (chars.all fun char => 0x20 ≤ char.toNat && char.toNat < 0x7F) = true) :
    ∀ char ∈ chars, isUnprintable char = false := by
  intro char member
  have within := List.all_eq_true.mp ascii char member
  simp only [Bool.and_eq_true, decide_eq_true_eq] at within
  exact isUnprintable_of_ascii within.1 within.2

namespace Failure

/-- The line that a message about a refusal quotes, and what it names as the cause. -/
def readRefusal (message : String) : Option (String × String) := do
  let quotation ← "Could not write generated line ".toList.isPrefixOf? message.toList
  let (line, account) ← Text.readQuoted quotation
  let cause ← " to the output sink: ".toList.isPrefixOf? account
  return (String.ofList line, String.ofList cause)

theorem toList_message (line : String) (cause : Fault) :
    (refusedLine line cause).message.toList =
      "Could not write generated line ".toList ++ (Text.quoteChars line.toList ++
        (" to the output sink: ".toList ++ cause.message.toList)) := by
  have written : (refusedLine line cause).message =
      "Could not write generated line " ++ Text.quoted line ++ " to the output sink: " ++
        cause.message := rfl
  simp only [written, String.toList_append, Text.toList_quoted, List.append_assoc]

theorem readRefusal_message (line : String) (cause : Fault) :
    readRefusal (refusedLine line cause).message = some (line, cause.message) := by
  have opening := List.isPrefixOf?_eq_some_iff_append_eq.mpr (toList_message line cause).symm
  have closing : " to the output sink: ".toList.isPrefixOf?
      (" to the output sink: ".toList ++ cause.message.toList) = some cause.message.toList :=
    List.isPrefixOf?_eq_some_iff_append_eq.mpr rfl
  simp only [readRefusal, opening, Text.readQuoted_quoteChars, closing, Option.bind_eq_bind,
    Option.bind_some, String.ofList_toList, Option.pure_def]

theorem message_inj {left right : String} {leftCause rightCause : Fault}
    (same : (refusedLine left leftCause).message = (refusedLine right rightCause).message) :
    left = right ∧ leftCause.message = rightCause.message := by
  have read := readRefusal_message left leftCause
  rw [same, readRefusal_message, Option.some.injEq, Prod.mk.injEq] at read
  exact ⟨read.1.symm, read.2.symm⟩

/-- All that a message says in its own words, or quotes, is printable. -/
theorem mem_cause_of_unprintable {line : String} {cause : Fault} {char : Char}
    (unprintable : Text.isUnprintable char = true)
    (member : char ∈ (refusedLine line cause).message.toList) :
    char ∈ cause.message.toList := by
  have apart {chars : List Char} (visible : ∀ char ∈ chars, Text.isUnprintable char = false) :
      char ∉ chars := by
    intro inside
    rw [visible char inside] at unprintable
    contradiction
  have opening : char ∉ "Could not write generated line ".toList :=
    apart (Text.printable_of_ascii (by decide))
  have between : char ∉ " to the output sink: ".toList :=
    apart (Text.printable_of_ascii (by decide))
  rw [toList_message] at member
  simpa only [List.mem_append, opening, between, apart (Text.quoteChars_printable _),
    false_or] using member

end Failure

namespace WireType

/-- No message of a failed lookup could be about another text than the one looked up. -/
def TellsApart (lookup : String → Except Unknown WireType) : Prop :=
  ∀ left right leftUnknown rightUnknown,
    lookup left = .error leftUnknown → lookup right = .error rightUnknown →
      leftUnknown.message = rightUnknown.message → left = right

theorem tellsApart_of_quoted {lookup : String → Except Unknown WireType} (after : List Char)
    (quotes : ∀ sought unknown, lookup sought = .error unknown →
      unknown.message.toList = Text.quoteChars sought.toList ++ after) : TellsApart lookup := by
  intro left right leftUnknown rightUnknown leftFailed rightFailed same
  have quoted := congrArg String.toList same
  rw [quotes left leftUnknown leftFailed, quotes right rightUnknown rightFailed] at quoted
  exact String.toList_inj.mp (Text.quoteChars_append_inj quoted).1

theorem unknown_of_not_found {found : Option WireType} {raised unknown : Unknown}
    (failed : (match found with
      | some wireType => Except.ok wireType
      | none => .error raised) = .error unknown) : unknown = raised := by
  cases found with
  | none => exact (Except.error.inj failed).symm
  | some wireType => contradiction

theorem ofVariant_tellsApart : TellsApart ofVariant := by
  refine tellsApart_of_quoted " is not a valid WireType".toList fun sought unknown failed => ?_
  have written : unknown.message = Text.quoted sought ++ " is not a valid WireType" := by
    rw [unknown_of_not_found failed]
    rfl
  rw [written, String.toList_append, Text.toList_quoted]

theorem ofName_tellsApart : TellsApart ofName := by
  refine tellsApart_of_quoted [] fun sought unknown failed => ?_
  have written : unknown.message = Text.quoted sought := by
    rw [unknown_of_not_found failed]
    rfl
  rw [written, Text.toList_quoted, List.append_nil]

end WireType

/-- A quoted text is read back whatever follows it. So are the line and the cause from the message
about a refused line, with which a write ends that the sink refuses, and this message has the
line breaks of its cause only. Failed lookups of wire types tell apart what was looked up. -/
theorem messages_identify_texts (text : String) (cause : Fault) :
    let message := (Failure.refusedLine text cause).message
    (∀ rest, Text.readQuoted ((Text.quoted text).toList ++ rest) = some (text.toList, rest)) ∧
      (∀ char ∈ (Text.quoted text).toList, Text.isUnprintable char = false) ∧
      Failure.readRefusal message = some (text, cause.message) ∧
      (∀ (other : String) (otherCause : Fault),
        (Failure.refusedLine other otherCause).message = message →
          other = text ∧ otherCause.message = cause.message) ∧
      (∀ char ∈ Text.lineBreaks, char ∈ message.toList → char ∈ cause.message.toList) ∧
      (∀ (margin : Margin) (sink : Sink),
        sink.refusal? (margin.render text) = some cause → cause.isRefusal = true →
          (Action.writeLine margin text sink).failure.map Failure.message = some message) ∧
      WireType.TellsApart WireType.ofVariant ∧ WireType.TellsApart WireType.ofName := by
  intro message
  refine ⟨fun rest => ?_, fun char member => ?_, Failure.readRefusal_message text cause,
    fun other otherCause same => Failure.message_inj same, fun char isBreak member => ?_,
    fun margin sink refused refusal => ?_, WireType.ofVariant_tellsApart,
    WireType.ofName_tellsApart⟩
  · rw [Text.toList_quoted, Text.readQuoted_quoteChars]
  · rw [Text.toList_quoted] at member
    exact Text.quoteChars_printable text.toList char member
  · exact Failure.mem_cause_of_unprintable (Text.unprintable_of_mem_lineBreaks char isBreak) member
  · rw [Action.writeLine_of_refused refused refusal, Option.map_some]

/-- The line holds both quotes, what looks like an escape, a line feed, and the first of the words
that follow a line in the message. -/
theorem messages_identify_texts_within_quotation :
    let line := "'\\n\n' to \""
    let sink : Sink := { policy := .limited 8 }
    let message := "Could not write generated line '\\'\\\\n\\n\\' to \"' to the output sink: " ++
      "[Errno 28] No space left on device"
    (Action.writeLine "    " line sink).failure.map Failure.message = some message ∧
      Failure.readRefusal message = some (line, "[Errno 28] No space left on device") := by
  intro line sink message
  obtain ⟨-, -, read, -, -, written, -⟩ := messages_identify_texts line .noSpace
  have same : (Failure.refusedLine line .noSpace).message = message := by decide +kernel
  rw [same] at read written
  exact ⟨written "    " sink (by decide +kernel) rfl, read⟩

end RustScribe
