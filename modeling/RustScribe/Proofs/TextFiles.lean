import RustScribe.Proofs.PrevailingVersion
import RustScribe.Proofs.Utf8Refusal

namespace RustScribe.Release

open Project (Path Tree)

variable {tree : Tree} {path : Path} {bytes : List UInt8}

/-- A run broken off by bytes, at the end of their longest part that encodes a text. -/
def Refuses (bytes : List UInt8) (fault : Option Fault) : Prop :=
  ∃ bad place, fault = some (.malformed bad) ∧
    IsGreatest {length | ∃ text, Text.Utf8.encode text <+: bytes ∧
      (Text.Utf8.encode text).length = length} place ∧
    Text.Utf8.NamesPlace (Fault.malformed bad).message place

theorem refuses_of_decode {bad : Text.Utf8.Malformed}
    (failed : Text.Utf8.decode bytes = .error bad) : Refuses bytes (some (.malformed bad)) :=
  ⟨bad, bad.start, rfl, Text.Utf8.isGreatest_start failed, bad.message_names⟩

/-- Bytes that encode no text cannot be read. -/
theorem exists_unreadable (found : tree.get? path = some (.file bytes))
    (broken : ∀ text, bytes ≠ Text.Utf8.encode text) :
    ∃ fault, Unreadable tree path fault ∧ Refuses bytes (some fault) := by
  cases decoded : Text.Utf8.decode bytes with
  | ok chars => exact absurd (Text.Utf8.decode_eq_ok_iff.mp decoded) (broken _)
  | error bad => exact ⟨.malformed bad, .malformed found decoded, refuses_of_decode decoded⟩

/-- A text that was read is read back from its own encoding. -/
theorem Holds.read_again {text : String}
    (holds : Holds tree path (String.ofList (Text.unifyNewlines text.toList))) :
    Release.readText tree path = .ok (Text.unifyNewlines text.toList) := by
  rw [holds.readText, String.toList_ofList,
    Text.unifyNewlines_eq_self (Text.not_mem_unifyNewlines text.toList)]

namespace Invocation

variable (invocation : Invocation)

/-- Every text is read from its encoding, with a line feed for each line end, and the readme handed
over as it was read. Bytes that encode no text are refused, of the readme before those of the
version module, and nothing is handed over. -/
theorem reads_exactly_encoded_texts (tree : Tree) (program : invocation.asProgram = true)
    (quiet : invocation.arguments[1]? ≠ some "pypi") :
    let found := (invocation.workspace tree).tree
    let calls := (invocation.run tree).1.calls
    let fault := (invocation.run tree).2
    (∀ readme source, Holds found readmePath readme → Holds found versionPath source →
      let description := String.ofList (Text.unifyNewlines readme.toList)
      (∀ version, findVersion (Text.unifyNewlines source.toList) = some version →
        (∃ metadata, calls = [.setup metadata .project] ∧
          metadata.longDescription = description ∧
          metadata.version = String.ofList version) ∧ fault = none) ∧
      (findVersion (Text.unifyNewlines source.toList) = none →
        calls = [] ∧ fault = some .unversioned) ∧
      '\r' ∉ description.toList ∧
      ∀ (other : Tree) (path : Path), Holds other path description →
        readText other path = .ok description.toList) ∧
    (∀ chars : List Char, '\r' ∉ chars → Text.unifyNewlines chars = chars) ∧
    (∀ before after : List Char, Text.unifyNewlines (before ++ '\r' :: '\n' :: after) =
      Text.unifyNewlines before ++ '\n' :: Text.unifyNewlines after) ∧
    (∀ before after : List Char, after.head? ≠ some '\n' →
      Text.unifyNewlines (before ++ '\r' :: after) =
        Text.unifyNewlines before ++ '\n' :: Text.unifyNewlines after) ∧
    (∀ bytes, found.get? readmePath = some (.file bytes) →
      (∀ text, bytes ≠ Text.Utf8.encode text) → calls = [] ∧ Refuses bytes fault) ∧
    ∀ readme bytes, Holds found readmePath readme → found.get? versionPath = some (.file bytes) →
      (∀ text, bytes ≠ Text.Utf8.encode text) → calls = [] ∧ Refuses bytes fault := by
  intro found calls fault
  have brokenOff {bytes : List UInt8} {cause : Fault} (incomplete : Incomplete found cause)
      (refuses : Refuses bytes (some cause)) : calls = [] ∧ Refuses bytes fault := by
    obtain ⟨uncalled, failed⟩ := invocation.run_of_incomplete tree program quiet incomplete
    exact ⟨uncalled, by rwa [show fault = some cause from failed]⟩
  refine ⟨?_, fun _ => Text.unifyNewlines_eq_self, Text.unifyNewlines_pair,
    fun before _ => Text.unifyNewlines_return before, ?_, ?_⟩
  · intro readme source read versioned description
    refine ⟨fun version assigned => ?_, fun unassigned => ?_, ?_, fun other path holds => ?_⟩
    · obtain ⟨metadata, called, passed, carries⟩ :=
        invocation.run_of_version tree program quiet read versioned assigned
      exact ⟨⟨metadata, called, carries.longDescription, carries.version⟩, passed⟩
    · exact invocation.run_of_incomplete tree program quiet
        (.version read (.unassigned versioned (findVersion_eq_none_iff.mp unassigned)))
    · rw [String.toList_ofList]
      exact Text.not_mem_unifyNewlines readme.toList
    · rw [String.toList_ofList]
      exact Holds.read_again holds
  · intro bytes given broken
    obtain ⟨cause, unreadable, refuses⟩ := exists_unreadable given broken
    exact brokenOff (.readme unreadable) refuses
  · intro readme bytes read given broken
    obtain ⟨cause, unreadable, refuses⟩ := exists_unreadable given broken
    exact brokenOff (.version read (.unreadable unreadable)) refuses

/-- A readme with a mark in front and line ends of all conventions, and one that is cut off within
a character, behind a longer one. -/
theorem reads_exactly_encoded_texts_with_mixed_line_ends :
    let readme := "\uFEFFa\r\r\n\nb\r"
    let cutOff : List UInt8 := [0x61, 0xC3, 0xA9, 0xE2, 0x82]
    let project (bytes : List UInt8) : Tree := Tree.ofFiles [(readmePath, .file bytes),
      (versionPath, .file (Text.Utf8.encode "__version__ = '1'"))]
    let invocation : Invocation := { arguments := ["setup.py"] }
    (∃ metadata,
        (invocation.run (project (Text.Utf8.encode readme))).1.calls = [.setup metadata .project] ∧
        metadata.longDescription = "\uFEFFa\n\n\nb\n" ∧ metadata.version = "1") ∧
      (∀ text, cutOff ≠ Text.Utf8.encode text) ∧
      (invocation.run (project cutOff)).1.calls = [] ∧
      Refuses cutOff (invocation.run (project cutOff)).2 ∧
      (invocation.run (project cutOff)).2.map Fault.message =
        some "'utf-8' codec can't decode bytes in position 3-4: unexpected end of data" := by
  intro readme cutOff project invocation
  obtain ⟨whole, -⟩ := reads_exactly_encoded_texts invocation (project (Text.Utf8.encode readme))
    rfl (by decide)
  obtain ⟨-, -, -, -, broken, -⟩ := reads_exactly_encoded_texts invocation (project cutOff) rfl
    (by decide)
  have read : Holds (invocation.workspace (project (Text.Utf8.encode readme))).tree readmePath
      readme := by
    unfold Holds
    rfl
  have versioned : Holds (invocation.workspace (project (Text.Utf8.encode readme))).tree
      versionPath "__version__ = '1'" := by
    unfold Holds
    rfl
  obtain ⟨⟨metadata, handed, description, version⟩, -⟩ :=
    (whole _ _ read versioned).1 ['1'] (by decide +kernel)
  have decoded : Text.Utf8.decode cutOff = .error ⟨3, 0xE2, 1, .endOfData⟩ := by
    decide +kernel
  have uncoded : ∀ text, cutOff ≠ Text.Utf8.encode text := by
    intro text same
    rw [Text.Utf8.decode_eq_ok_iff.mpr (by rw [same, String.ofList_toList])] at decoded
    contradiction
  obtain ⟨calls, refuses⟩ := broken cutOff rfl uncoded
  exact ⟨⟨metadata, handed, description.trans (by decide +kernel), version⟩, uncoded, calls,
    refuses, by decide +kernel⟩

end Invocation

end RustScribe.Release
