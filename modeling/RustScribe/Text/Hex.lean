namespace RustScribe.Text

/-! Characters written by their code point, in lower-case hexadecimal. -/

/-- The last `width` hexadecimal digits of `code`, most significant first. -/
def hexDigits : Nat → Nat → List Char
  | 0, _ => []
  | width + 1, code => hexDigits width (code / 16) ++ [Nat.digitChar (code % 16)]

theorem toNat_lt (char : Char) : char.toNat < 0x110000 := by
  rcases char.valid with low | ⟨_, high⟩
  · exact Nat.lt_trans low (by decide)
  · exact high

theorem length_hexDigits (width code : Nat) : (hexDigits width code).length = width := by
  induction width generalizing code with
  | zero => rfl
  | succ width ih => simp [hexDigits, ih]

/-- A backslash, then `x`, `u` or `U` with two, four or eight digits: the first
of these widths that holds the code point. -/
def escapeCode (char : Char) : List Char :=
  let code := char.toNat
  if code < 0x100 then '\x5c' :: 'x' :: hexDigits 2 code
  else if code < 0x10000 then '\x5c' :: 'u' :: hexDigits 4 code
  else '\x5c' :: 'U' :: hexDigits 8 code

end RustScribe.Text
