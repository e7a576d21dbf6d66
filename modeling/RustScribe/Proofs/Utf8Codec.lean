import RustScribe.Text.Utf8

namespace RustScribe.Text.Utf8

/-! Bytes are read as a text exactly if they encode it. -/

variable {lead second byte : UInt8} {tails bytes rest : List UInt8} {count : Nat}

theorem tailCount?_eq_some_iff :
    tailCount? lead = some count ↔
      count = 0 ∧ lead.toNat < 0x80 ∨ count = 1 ∧ 0xC2 ≤ lead.toNat ∧ lead.toNat < 0xE0 ∨
        count = 2 ∧ 0xE0 ≤ lead.toNat ∧ lead.toNat < 0xF0 ∨
        count = 3 ∧ 0xF0 ≤ lead.toNat ∧ lead.toNat < 0xF5 := by
  simp only [tailCount?, UInt8.lt_iff_toNat_lt, UInt8.reduceToNat]
  repeat' split
  all_goals simp only [Option.some.injEq, reduceCtorEq, false_iff]; omega

theorem isContinuation_iff :
    isContinuation byte = true ↔ 0x80 ≤ byte.toNat ∧ byte.toNat ≤ 0xBF := by
  simp [isContinuation, UInt8.le_iff_toNat_le]

theorem fitsSecond_iff :
    fitsSecond lead second = true ↔
      (0x80 ≤ second.toNat ∧ second.toNat ≤ 0xBF) ∧
        (lead.toNat = 0xE0 → 0xA0 ≤ second.toNat) ∧ (lead.toNat = 0xED → second.toNat ≤ 0x9F) ∧
        (lead.toNat = 0xF0 → 0x90 ≤ second.toNat) ∧ (lead.toNat = 0xF4 → second.toNat ≤ 0x8F) := by
  simp only [fitsSecond, Bool.and_eq_true, Bool.or_eq_true, bne_iff_ne, ne_eq, decide_eq_true_eq,
    isContinuation_iff, UInt8.le_iff_toNat_le, ← UInt8.toNat_inj, UInt8.reduceToNat]
  omega

/-- The bytes after a first byte that make a character with it. -/
def Completes (lead : UInt8) (tails : List UInt8) : Prop :=
  tailCount? lead = some tails.length ∧ fittingTails lead tails = tails

/-- The code point that is a character, if there is one. -/
theorem toNat_ofNat_of_valid {code : Nat}
    (valid : code < 0xD800 ∨ 0xDFFF < code ∧ code < 0x110000) :
    (Char.ofNat code).toNat = code := by
  have isValid : code.isValidChar := valid
  rw [Char.ofNat, dif_pos isValid]
  rfl

theorem prefix_fittingTails (lead : UInt8) (bytes : List UInt8) :
    fittingTails lead bytes <+: bytes := by
  cases bytes with
  | nil => exact List.nil_prefix
  | cons second others =>
      simp only [fittingTails]
      split
      · exact (List.prefix_cons_inj second).mpr (List.takeWhile_prefix _)
      · exact List.nil_prefix

theorem fittingTails_cons_eq_self_iff {others : List UInt8} :
    fittingTails lead (second :: others) = second :: others ↔
      fitsSecond lead second = true ∧ ∀ byte ∈ others, isContinuation byte = true := by
  simp only [fittingTails]
  split
  · next fits =>
      simp only [fits, List.cons.injEq, true_and]
      constructor
      · intro same
        exact same ▸ List.all_eq_true.mp List.all_takeWhile
      · intro all
        have whole : (others ++ []).takeWhile isContinuation = others ++ [].takeWhile _ :=
          List.takeWhile_append_of_pos all
        simpa using whole
  · next misfit => simp [misfit]

theorem encodeChar_ofNat {code : Nat} (valid : code < 0xD800 ∨ 0xDFFF < code ∧ code < 0x110000) :
    String.utf8EncodeChar (Char.ofNat code) =
      if code ≤ 0x7F then [UInt8.ofNat code]
      else if code ≤ 0x7FF then [UInt8.ofNat (code / 64 % 32 + 192), UInt8.ofNat (code % 64 + 128)]
      else if code ≤ 0xFFFF then
        [UInt8.ofNat (code / 4096 % 16 + 224), UInt8.ofNat (code / 64 % 64 + 128),
          UInt8.ofNat (code % 64 + 128)]
      else
        [UInt8.ofNat (code / 262144 % 8 + 240), UInt8.ofNat (code / 4096 % 64 + 128),
          UInt8.ofNat (code / 64 % 64 + 128), UInt8.ofNat (code % 64 + 128)] := by
  have same : (Char.ofNat code).val.toNat = code := toNat_ofNat_of_valid valid
  simp only [String.utf8EncodeChar, same]

theorem ofNat_eq_of_mod (byte : UInt8) {number : Nat} (same : number % 256 = byte.toNat) :
    UInt8.ofNat number = byte :=
  UInt8.toNat_inj.mp (UInt8.toNat_ofNat'.trans same)

section assemble

variable (lead second third fourth : UInt8)

theorem assemble_one : assemble lead [] = Char.ofNat lead.toNat := rfl

theorem assemble_two :
    assemble lead [second] = Char.ofNat (lead.toNat % 32 * 64 + second.toNat % 64) := rfl

theorem assemble_three :
    assemble lead [second, third] =
      Char.ofNat ((lead.toNat % 16 * 64 + second.toNat % 64) * 64 + third.toNat % 64) := rfl

theorem assemble_four :
    assemble lead [second, third, fourth] =
      Char.ofNat (((lead.toNat % 8 * 64 + second.toNat % 64) * 64 + third.toNat % 64) * 64 +
        fourth.toNat % 64) := rfl

end assemble

/-- A complete sequence encodes the character that it is read as. -/
theorem encode_assemble (complete : Completes lead tails) :
    String.utf8EncodeChar (assemble lead tails) = lead :: tails := by
  obtain ⟨count, fitting⟩ := complete
  rw [tailCount?_eq_some_iff] at count
  match tails with
  | [] =>
      simp only [List.length_nil] at count
      rw [assemble_one, encodeChar_ofNat (by omega), if_pos (by omega),
        ofNat_eq_of_mod lead (by omega)]
  | [second] =>
      simp only [List.length_singleton] at count
      rw [fittingTails_cons_eq_self_iff, fitsSecond_iff] at fitting
      rw [assemble_two, encodeChar_ofNat (by omega), if_neg (by omega), if_pos (by omega),
        ofNat_eq_of_mod lead (by omega), ofNat_eq_of_mod second (by omega)]
  | [second, third] =>
      simp only [List.length_cons, List.length_nil] at count
      rw [fittingTails_cons_eq_self_iff, fitsSecond_iff] at fitting
      have last := isContinuation_iff.mp (fitting.2 third (by simp))
      rw [assemble_three, encodeChar_ofNat (by omega), if_neg (by omega), if_neg (by omega),
        if_pos (by omega), ofNat_eq_of_mod lead (by omega), ofNat_eq_of_mod second (by omega),
        ofNat_eq_of_mod third (by omega)]
  | [second, third, fourth] =>
      simp only [List.length_cons, List.length_nil] at count
      rw [fittingTails_cons_eq_self_iff, fitsSecond_iff] at fitting
      have next := isContinuation_iff.mp (fitting.2 third (by simp))
      have last := isContinuation_iff.mp (fitting.2 fourth (by simp))
      rw [assemble_four, encodeChar_ofNat (by omega), if_neg (by omega), if_neg (by omega),
        if_neg (by omega), ofNat_eq_of_mod lead (by omega), ofNat_eq_of_mod second (by omega),
        ofNat_eq_of_mod third (by omega), ofNat_eq_of_mod fourth (by omega)]
  | _ :: _ :: _ :: _ :: _ => simp at count

theorem toNat_ofNat_byte {number : Nat} (bound : number < 256) :
    (UInt8.ofNat number).toNat = number :=
  UInt8.toNat_ofNat'.trans (Nat.mod_eq_of_lt bound)

/-- The encoding of a character is a complete sequence that is read as this character. -/
theorem exists_complete (char : Char) :
    ∃ lead tails, String.utf8EncodeChar char = lead :: tails ∧ Completes lead tails ∧
      assemble lead tails = char := by
  have valid : char.toNat < 0xD800 ∨ 0xDFFF < char.toNat ∧ char.toNat < 0x110000 := char.valid
  have read {code : Nat} (same : code = char.toNat) : Char.ofNat code = char := by
    rw [same, Char.ofNat_toNat]
  have encoded := encodeChar_ofNat valid
  rw [read rfl] at encoded
  -- One case for each length of an encoding.
  by_cases one : char.toNat ≤ 0x7F
  · have lead := toNat_ofNat_byte (show char.toNat < 256 by omega)
    rw [if_pos one] at encoded
    refine ⟨_, _, encoded, ⟨tailCount?_eq_some_iff.mpr ?_, rfl⟩, ?_⟩
    · rw [lead]
      exact .inl ⟨rfl, by omega⟩
    · rw [assemble_one, lead]
      exact read rfl
  rw [if_neg one] at encoded
  by_cases two : char.toNat ≤ 0x7FF
  · have lead := toNat_ofNat_byte (show char.toNat / 64 % 32 + 192 < 256 by omega)
    have last := toNat_ofNat_byte (show char.toNat % 64 + 128 < 256 by omega)
    rw [if_pos two] at encoded
    refine ⟨_, _, encoded, ⟨tailCount?_eq_some_iff.mpr ?_, ?_⟩, ?_⟩
    · rw [lead]
      exact .inr (.inl ⟨rfl, by omega⟩)
    · rw [fittingTails_cons_eq_self_iff, fitsSecond_iff, lead, last]
      exact ⟨by omega, fun _ member => absurd member List.not_mem_nil⟩
    · rw [assemble_two, lead, last]
      exact read (by omega)
  rw [if_neg two] at encoded
  by_cases three : char.toNat ≤ 0xFFFF
  · have lead := toNat_ofNat_byte (show char.toNat / 4096 % 16 + 224 < 256 by omega)
    have second := toNat_ofNat_byte (show char.toNat / 64 % 64 + 128 < 256 by omega)
    have last := toNat_ofNat_byte (show char.toNat % 64 + 128 < 256 by omega)
    rw [if_pos three] at encoded
    refine ⟨_, _, encoded, ⟨tailCount?_eq_some_iff.mpr ?_, ?_⟩, ?_⟩
    · rw [lead]
      exact .inr (.inr (.inl ⟨rfl, by omega⟩))
    · rw [fittingTails_cons_eq_self_iff, fitsSecond_iff, lead, second]
      refine ⟨by omega, ?_⟩
      simp only [List.mem_singleton, forall_eq, isContinuation_iff, last]
      omega
    · rw [assemble_three, lead, second, last]
      exact read (by omega)
  rw [if_neg three] at encoded
  have lead := toNat_ofNat_byte (show char.toNat / 262144 % 8 + 240 < 256 by omega)
  have second := toNat_ofNat_byte (show char.toNat / 4096 % 64 + 128 < 256 by omega)
  have third := toNat_ofNat_byte (show char.toNat / 64 % 64 + 128 < 256 by omega)
  have last := toNat_ofNat_byte (show char.toNat % 64 + 128 < 256 by omega)
  refine ⟨_, _, encoded, ⟨tailCount?_eq_some_iff.mpr ?_, ?_⟩, ?_⟩
  · rw [lead]
    exact .inr (.inr (.inr ⟨rfl, by omega⟩))
  · rw [fittingTails_cons_eq_self_iff, fitsSecond_iff, lead, second]
    refine ⟨by omega, ?_⟩
    simp only [List.mem_cons, List.not_mem_nil, or_false, forall_eq_or_imp, forall_eq,
      isContinuation_iff, third, last]
    omega
  · rw [assemble_four, lead, second, third, last]
    exact read (by omega)

/-- A complete sequence is read as its character, wherever it stands. -/
theorem decodeFrom_complete (complete : Completes lead tails) (start : Nat) (rest : List UInt8) :
    decodeFrom start (lead :: (tails ++ rest)) =
      (decodeFrom (start + 1 + tails.length) rest).map (assemble lead tails :: ·) := by
  obtain ⟨count, fitting⟩ := complete
  simp only [decodeFrom, count, List.take_left', List.drop_left', fitting, if_true]
  cases decodeFrom (start + 1 + tails.length) rest <;> rfl

theorem decodeFrom_encoded (start : Nat) (chars : List Char) :
    decodeFrom start (chars.flatMap String.utf8EncodeChar) = .ok chars := by
  induction chars generalizing start with
  | nil => rw [List.flatMap_nil, decodeFrom]
  | cons char rest ih =>
      obtain ⟨lead, tails, encoded, complete, read⟩ := exists_complete char
      rw [List.flatMap_cons, encoded, List.cons_append, decodeFrom_complete complete, ih,
        Except.map, read]

/-- Where as many tails fit as the first byte asks for, they complete it. -/
theorem completes_of_whole (known : tailCount? lead = some count)
    (whole : (fittingTails lead (rest.take count)).length = count) :
    fittingTails lead (rest.take count) = rest.take count ∧ Completes lead (rest.take count) := by
  have taken : fittingTails lead (rest.take count) = rest.take count := by
    refine (prefix_fittingTails lead (rest.take count)).eq_of_length_le ?_
    rw [whole]
    exact List.length_take_le _ _
  refine ⟨taken, ?_, taken⟩
  rw [known, ← taken, whole]

/-- Bytes that are read as a text are its encoding. -/
theorem eq_encoded_of_decodeFrom {start : Nat} {chars : List Char}
    (decoded : decodeFrom start bytes = .ok chars) :
    bytes = chars.flatMap String.utf8EncodeChar := by
  fun_induction decodeFrom start bytes generalizing chars with
  | case1 => cases decoded; rfl
  | case3 start lead rest count known tails whole later read =>
      rename_i ih
      cases decoded
      obtain ⟨taken, complete⟩ := completes_of_whole known whole
      rw [List.flatMap_cons, show tails = _ from taken, encode_assemble complete, ← ih read,
        List.cons_append, List.take_append_drop]
  | case2 | case4 | case5 => contradiction

theorem decode_eq_ok_iff {chars : List Char} :
    decode bytes = .ok chars ↔ bytes = encode (String.ofList chars) := by
  unfold decode encode
  rw [String.toList_ofList]
  constructor
  · exact eq_encoded_of_decodeFrom
  · rintro rfl
    exact decodeFrom_encoded 0 chars

end RustScribe.Text.Utf8
