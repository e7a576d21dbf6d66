import RustScribe.Proofs.Trees
import RustScribe.Proofs.Utf8Codec
import RustScribe.Release.Fault

namespace RustScribe.Release

open Project (Path Tree)

variable {tree : Tree} {path : Path} {fault : Fault} {chars : List Char}

/-- A file whose bytes are the encoding of a text. -/
def Holds (tree : Tree) (path : Path) (text : String) : Prop :=
  tree.get? path = some (.file (Text.Utf8.encode text))

/-- Why a path cannot be read as a text. -/
inductive Unreadable (tree : Tree) (path : Path) : Fault → Prop
  | missing (absent : tree.get? path = none)
      (clear : ∀ ancestor ∈ path.ancestors, tree.isFile ancestor = false) :
      Unreadable tree path (.missing path)
  | notDirectory {ancestor : Path} (absent : tree.get? path = none)
      (above : ancestor ∈ path.ancestors) (file : tree.isFile ancestor = true) :
      Unreadable tree path (.notDirectory path)
  | isDirectory (found : tree.isDirectory path = true) : Unreadable tree path (.isDirectory path)
  | malformed {bytes : List UInt8} {bad : Text.Utf8.Malformed}
      (found : tree.get? path = some (.file bytes)) (broken : Text.Utf8.decode bytes = .error bad) :
      Unreadable tree path (.malformed bad)

theorem Holds.readText {text : String} (holds : Holds tree path text) :
    readText tree path = .ok (Text.unifyNewlines text.toList) := by
  have decoded : Text.Utf8.decode (Text.Utf8.encode text) = .ok text.toList :=
    Text.Utf8.decode_eq_ok_iff.mpr (by rw [String.ofList_toList])
  simp only [Release.readText, show tree.get? path = _ from holds, decoded]

theorem readText_eq_ok_iff :
    readText tree path = .ok chars ↔
      ∃ text, Holds tree path text ∧ chars = Text.unifyNewlines text.toList := by
  constructor
  · intro read
    unfold readText at read
    split at read
    · next bytes found =>
        split at read
        · next decoded same =>
            cases read
            refine ⟨String.ofList decoded, ?_, by rw [String.toList_ofList]⟩
            rw [Holds, found, Text.Utf8.decode_eq_ok_iff.mp same]
        · contradiction
    · contradiction
    · contradiction
  · rintro ⟨text, holds, rfl⟩
    exact holds.readText

theorem readText_eq_error_iff : readText tree path = .error fault ↔ Unreadable tree path fault := by
  constructor
  · intro read
    unfold readText at read
    split at read
    · next bytes found =>
        split at read
        · contradiction
        · next bad broken =>
            cases read
            exact .malformed found broken
    · next found =>
        cases read
        exact .isDirectory (Tree.isDirectory_iff.mpr found)
    · next absent =>
        split at read
        · next below =>
            cases read
            obtain ⟨ancestor, above, file⟩ := List.any_eq_true.mp below
            exact .notDirectory absent above file
        · next clear =>
            cases read
            refine .missing absent fun ancestor above => ?_
            rw [← Bool.not_eq_true]
            exact fun file => clear (List.any_eq_true.mpr ⟨ancestor, above, file⟩)
  · intro unreadable
    cases unreadable with
    | missing absent clear =>
        have noFile : path.ancestors.any tree.isFile = false := by
          simpa only [List.any_eq_false, Bool.not_eq_true] using clear
        simp [readText, absent, noFile]
    | notDirectory absent above file =>
        have below : path.ancestors.any tree.isFile = true :=
          List.any_eq_true.mpr ⟨_, above, file⟩
        simp [readText, absent, below]
    | isDirectory found => simp [readText, Tree.isDirectory_iff.mp found]
    | malformed found broken => simp [readText, found, broken]

/-- Trees in which a path holds the same bytes, or cannot be read for the same reason. -/
def SameFile (first second : Tree) (path : Path) : Prop :=
  (∃ bytes, first.get? path = some (.file bytes) ∧ second.get? path = some (.file bytes)) ∨
    ∃ fault, Unreadable first path fault ∧ Unreadable second path fault

theorem readText_congr {first second : Tree} (same : SameFile first second path) :
    readText first path = readText second path := by
  rcases same with ⟨bytes, inFirst, inSecond⟩ | ⟨fault, inFirst, inSecond⟩
  · simp only [readText, inFirst, inSecond]
  · rw [readText_eq_error_iff.mpr inFirst, readText_eq_error_iff.mpr inSecond]

end RustScribe.Release
