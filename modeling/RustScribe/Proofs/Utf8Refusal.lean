import Mathlib.Order.Bounds.Defs
import RustScribe.Proofs.Utf8Codec

namespace RustScribe.Text.Utf8

variable {lead : UInt8} {bytes rest : List UInt8} {start : Nat} {bad : Malformed}

/-- If bytes begin with the encoding of a text, their first byte is completed as it asks for, and
the encoding of all other characters follows. -/
theorem exists_completes_of_encoded {char : Char} {chars : List Char}
    (inside : (char :: chars).flatMap String.utf8EncodeChar <+: lead :: rest) :
    ∃ tails, Completes lead tails ∧ rest.take tails.length = tails ∧
      chars.flatMap String.utf8EncodeChar <+: rest.drop tails.length ∧
      ((char :: chars).flatMap String.utf8EncodeChar).length =
        1 + tails.length + (chars.flatMap String.utf8EncodeChar).length := by
  obtain ⟨first, tails, encoded, complete, -⟩ := exists_complete char
  rw [List.flatMap_cons, encoded, List.cons_append] at inside ⊢
  obtain ⟨rfl, others, rfl⟩ := List.cons_prefix_cons.mp inside
  refine ⟨tails, complete, ?_, ?_, ?_⟩
  · rw [List.append_assoc, List.take_left' rfl]
  · rw [List.append_assoc, List.drop_left' rfl]
    exact List.prefix_append _ others
  · rw [List.length_cons, List.length_append]
    omega

/-- No text whose encoding the bytes begin with reaches beyond the place of a refusal. -/
theorem encoded_le_start (failed : decodeFrom start bytes = .error bad) (chars : List Char)
    (inside : chars.flatMap String.utf8EncodeChar <+: bytes) :
    start + (chars.flatMap String.utf8EncodeChar).length ≤ bad.start := by
  fun_induction decodeFrom start bytes generalizing chars with
  | case1 | case3 => contradiction
  | case2 start lead rest unknown =>
      cases failed
      cases chars with
      | nil => exact Nat.le_refl _
      | cons char chars =>
          obtain ⟨tails, complete, -⟩ := exists_completes_of_encoded inside
          rw [complete.1] at unknown
          contradiction
  | case4 start lead rest count known tails whole later broken ih =>
      cases failed
      cases chars with
      | nil =>
          have beyond := ih broken [] List.nil_prefix
          simp only [List.flatMap_nil, List.length_nil] at beyond ⊢
          omega
      | cons char chars =>
          obtain ⟨others, complete, -, next, length⟩ := exists_completes_of_encoded inside
          have same : others.length = count := Option.some.inj (complete.1.symm.trans known)
          rw [same] at next length
          have beyond := ih broken chars next
          omega
  | case5 start lead rest count known tails partly =>
      cases failed
      cases chars with
      | nil => exact Nat.le_refl _
      | cons char chars =>
          obtain ⟨others, complete, taken, -⟩ := exists_completes_of_encoded inside
          have same : others.length = count := Option.some.inj (complete.1.symm.trans known)
          refine absurd ?_ partly
          rw [show tails = fittingTails lead (rest.take count) from rfl, ← same, taken, complete.2]

/-- Before a refusal the bytes encode a text. -/
theorem exists_encoded_to_start (failed : decodeFrom start bytes = .error bad) :
    ∃ chars : List Char, chars.flatMap String.utf8EncodeChar <+: bytes ∧
      start + (chars.flatMap String.utf8EncodeChar).length = bad.start := by
  fun_induction decodeFrom start bytes with
  | case1 | case3 => contradiction
  | case2 | case5 =>
      cases failed
      exact ⟨[], List.nil_prefix, rfl⟩
  | case4 start lead rest count known tails whole later broken ih =>
      cases failed
      obtain ⟨chars, ⟨more, cut⟩, place⟩ := ih broken
      obtain ⟨taken, complete⟩ := completes_of_whole known whole
      have length : (rest.take count).length = count := by
        rw [← taken]
        exact whole
      refine ⟨assemble lead (rest.take count) :: chars, ⟨more, ?_⟩, ?_⟩
      · rw [List.flatMap_cons, encode_assemble complete, List.cons_append, List.cons_append,
          List.append_assoc, cut, List.take_append_drop]
      · rw [List.flatMap_cons, encode_assemble complete, List.length_append, List.length_cons]
        omega

/-- Bytes are refused at the end of their longest part that encodes a text. -/
theorem isGreatest_start (failed : decode bytes = .error bad) :
    IsGreatest {length | ∃ text, encode text <+: bytes ∧ (encode text).length = length}
      bad.start := by
  constructor
  · obtain ⟨chars, inside, place⟩ := exists_encoded_to_start failed
    refine ⟨String.ofList chars, ?_, ?_⟩
    · rwa [encode, String.toList_ofList]
    · rw [encode, String.toList_ofList, ← place, Nat.zero_add]
  · rintro _ ⟨text, inside, rfl⟩
    have beyond := encoded_le_start failed text.toList inside
    rwa [Nat.zero_add] at beyond

/-- A message about a byte, or about several in a row, that names the place of the first. -/
def NamesPlace (message : String) (place : Nat) : Prop :=
  (∃ (byte : UInt8) (reason : String), message = "'utf-8' codec can't decode byte 0x" ++
    String.ofList (hexDigits 2 byte.toNat) ++ " in position " ++ toString place ++ ": " ++ reason) ∨
  ∃ (last : Nat) (reason : String), message = "'utf-8' codec can't decode bytes in position " ++
    toString place ++ "-" ++ toString last ++ ": " ++ reason

theorem Malformed.message_names (bad : Malformed) : NamesPlace bad.message bad.start := by
  unfold message
  split
  · refine .inl ⟨bad.lead, bad.reason.message, ?_⟩
    rw [show "'utf-8' codec can't decode byte 0x" =
      "'utf-8' codec can't decode " ++ "byte 0x" by decide]
    simp only [String.append_assoc]
  · refine .inr ⟨bad.start + bad.tails, bad.reason.message, ?_⟩
    rw [show "'utf-8' codec can't decode bytes in position " =
      "'utf-8' codec can't decode " ++ "bytes in position " by decide]
    simp only [String.append_assoc]

end RustScribe.Text.Utf8
