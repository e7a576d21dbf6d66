import Mathlib.Algebra.Group.Nat.Defs
import RustScribe.Text.Quoted

namespace RustScribe.Text

/-! A quoted text is read up to the next mark like its first that no backslash escapes, and what
stands between them is unescaped from left to right. -/

variable {mark char : Char} {chars rest : List Char}

def digitValue (digit : Char) : Nat :=
  if digit.isDigit then digit.toNat - '0'.toNat else digit.toNat - 'a'.toNat + 10

def hexValue (digits : List Char) : Nat :=
  digits.foldl (fun code digit => code * 16 + digitValue digit) 0

theorem digitValue_digitChar : ∀ digit < 16, digitValue (Nat.digitChar digit) = digit := by
  decide

theorem hexValue_hexDigits (width code : Nat) :
    hexValue (hexDigits width code) = code % 16 ^ width := by
  induction width generalizing code with
  | zero => simp [hexDigits, hexValue, Nat.mod_one]
  | succ width ih =>
      have last : digitValue (Nat.digitChar (code % 16)) = code % 16 :=
        digitValue_digitChar _ (Nat.mod_lt _ (by decide))
      have split : hexValue (hexDigits (width + 1) code) =
          hexValue (hexDigits width (code / 16)) * 16 + digitValue (Nat.digitChar (code % 16)) := by
        simp only [hexValue, hexDigits, List.foldl_append, List.foldl_cons, List.foldl_nil]
      rw [split, ih, last, Nat.pow_succ, Nat.mul_comm (16 ^ width) 16, Nat.mod_mul]
      omega

theorem exists_digit_of_mem_hexDigits {width code : Nat} (member : char ∈ hexDigits width code) :
    ∃ digit < 16, char = Nat.digitChar digit := by
  induction width generalizing code with
  | zero => simp [hexDigits] at member
  | succ width ih =>
      rw [hexDigits, List.mem_append, List.mem_singleton] at member
      rcases member with before | last
      · exact ih before
      · exact ⟨code % 16, Nat.mod_lt _ (by decide), last⟩

/-- How many digits follow the letter of an escape by code point. -/
def escapeWidth? : Char → Option Nat
  | 'x' => some 2
  | 'u' => some 4
  | 'U' => some 8
  | _ => none

/-- What a letter means behind a backslash; other characters mean themselves there. -/
def escapedLetter : Char → Char
  | 't' => '\t'
  | 'n' => '\n'
  | 'r' => '\r'
  | other => other

def unescape (chars : List Char) : List Char :=
  match chars with
  | [] => []
  | char :: rest =>
      if char = '\x5c' then
        match rest with
        | [] => []
        | letter :: more =>
            match escapeWidth? letter with
            | some width => Char.ofNat (hexValue (more.take width)) :: unescape (more.drop width)
            | none => escapedLetter letter :: unescape more
      else char :: unescape rest
  termination_by chars.length
  decreasing_by all_goals simp only [List.length_drop, List.length_cons]; omega

/-- The characters up to the first mark that no backslash escapes, and those behind it. -/
def cutAtMark (mark : Char) : List Char → Option (List Char × List Char)
  | [] => none
  | char :: rest =>
      if char = mark then some ([], rest)
      else if char = '\x5c' then
        match rest with
        | [] => none
        | escaped :: more =>
            (cutAtMark mark more).map fun cut => (char :: escaped :: cut.1, cut.2)
      else (cutAtMark mark rest).map fun cut => (char :: cut.1, cut.2)

/-- A text in quotes and what follows it. -/
def readQuoted : List Char → Option (List Char × List Char)
  | [] => none
  | mark :: rest => (cutAtMark mark rest).map fun cut => (unescape cut.1, cut.2)

/-- What a character is written as between two marks: a backslash and a letter that means it, its
code point behind a letter that tells the width, or the character itself. -/
inductive Escapes (mark char : Char) : List Char → Prop
  | letter {letter : Char} (plain : escapeWidth? letter = none)
      (means : escapedLetter letter = char) (visible : isUnprintable letter = false) :
      Escapes mark char ['\x5c', letter]
  | code {letter : Char} {width : Nat} (wide : escapeWidth? letter = some width)
      (bounded : char.toNat < 16 ^ width) :
      Escapes mark char ('\x5c' :: letter :: hexDigits width char.toNat)
  | raw (unguarded : char ≠ mark ∧ char ≠ '\x5c') (visible : isUnprintable char = false) :
      Escapes mark char [char]

theorem escapeCode_escapes (mark char : Char) : Escapes mark char (escapeCode char) := by
  simp only [escapeCode]
  split
  · next narrow => exact .code rfl narrow
  · split
    · next wide => exact .code rfl wide
    · exact .code rfl (Nat.lt_trans (toNat_lt char) (by decide))

section marked

variable (isMark : mark = '\x27' ∨ mark = '\x22')
include isMark

theorem escapeChar_escapes (char : Char) : Escapes mark char (escapeChar mark char) := by
  unfold escapeChar
  split
  · next guarded =>
      rcases guarded with rfl | rfl
      · rcases isMark with rfl | rfl <;>
          exact .letter rfl rfl (isUnprintable_of_ascii (by decide) (by decide))
      · exact .letter rfl rfl (isUnprintable_of_ascii (by decide) (by decide))
  next unguarded =>
  by_cases control : char = '\t' ∨ char = '\n' ∨ char = '\r'
  · rcases control with rfl | rfl | rfl <;>
      exact .letter rfl rfl (isUnprintable_of_ascii (by decide) (by decide))
  obtain ⟨tab, feed, carriage⟩ : char ≠ '\t' ∧ char ≠ '\n' ∧ char ≠ '\r' := by
    simpa only [not_or] using control
  rw [if_neg tab, if_neg feed, if_neg carriage]
  split
  · exact escapeCode_escapes mark char
  · next visible => exact .raw (not_or.mp unguarded) (by simpa using visible)

end marked

theorem unescape_cons_of_ne (plain : char ≠ '\x5c') :
    unescape (char :: rest) = char :: unescape rest := by
  rw [unescape.eq_def]
  simp only [if_neg plain]

theorem unescape_letter {letter : Char} (plain : escapeWidth? letter = none) :
    unescape ('\x5c' :: letter :: rest) = escapedLetter letter :: unescape rest := by
  rw [unescape.eq_def]
  simp only [if_true, plain]

theorem unescape_code {letter : Char} {width code : Nat}
    (wide : escapeWidth? letter = some width) (bounded : code < 16 ^ width) :
    unescape ('\x5c' :: letter :: (hexDigits width code ++ rest)) =
      Char.ofNat code :: unescape rest := by
  have digits : (hexDigits width code).length = width := length_hexDigits width code
  rw [unescape.eq_def]
  simp only [if_true, wide, List.take_left' digits, List.drop_left' digits, hexValue_hexDigits,
    Nat.mod_eq_of_lt bounded]

theorem Escapes.unescape {form : List Char} (escapes : Escapes mark char form)
    (rest : List Char) : unescape (form ++ rest) = char :: unescape rest := by
  cases escapes with
  | letter plain means =>
      rw [List.cons_append, List.singleton_append, unescape_letter plain, means]
  | code wide bounded =>
      rw [List.cons_append, List.cons_append, unescape_code wide bounded, Char.ofNat_toNat]
  | raw unguarded =>
      rw [List.singleton_append, unescape_cons_of_ne unguarded.2]

/-- A piece of text that no cut at a mark falls into. -/
def Passes (mark : Char) (piece : List Char) : Prop :=
  ∀ rest, cutAtMark mark (piece ++ rest) =
    (cutAtMark mark rest).map fun cut => (piece ++ cut.1, cut.2)

theorem Passes.append {first second : List Char} (one : Passes mark first)
    (other : Passes mark second) : Passes mark (first ++ second) := by
  intro rest
  rw [List.append_assoc, one, other, Option.map_map]
  simp [Function.comp_def]

theorem passes_nil (mark : Char) : Passes mark [] := by
  intro rest
  simp

theorem passes_of_forall (unguarded : ∀ char ∈ chars, char ≠ mark ∧ char ≠ '\x5c') :
    Passes mark chars := by
  induction chars with
  | nil => exact passes_nil mark
  | cons char chars ih =>
      obtain ⟨other, unescaped⟩ := unguarded char List.mem_cons_self
      have here : Passes mark [char] := by
        intro rest
        rw [List.singleton_append, cutAtMark.eq_def]
        simp only [if_neg other, if_neg unescaped, List.singleton_append]
      exact here.append (ih fun char member => unguarded char (List.mem_cons_of_mem _ member))

section marked

variable (isMark : mark = '\x27' ∨ mark = '\x22')
include isMark

theorem passes_escaped (char : Char) : Passes mark ['\x5c', char] := by
  intro rest
  have other : '\x5c' ≠ mark := by
    rcases isMark with rfl | rfl <;> decide
  rw [List.cons_append, cutAtMark.eq_def]
  simp [if_neg other]

theorem passes_hexDigits (width code : Nat) : Passes mark (hexDigits width code) := by
  have apart : ∀ digit < 16, Nat.digitChar digit ≠ '\x27' ∧ Nat.digitChar digit ≠ '\x22' ∧
      Nat.digitChar digit ≠ '\x5c' := by decide
  refine passes_of_forall fun char member => ?_
  obtain ⟨digit, bounded, rfl⟩ := exists_digit_of_mem_hexDigits member
  obtain ⟨single, double, backslash⟩ := apart digit bounded
  rcases isMark with rfl | rfl
  · exact ⟨single, backslash⟩
  · exact ⟨double, backslash⟩

theorem Escapes.passes {form : List Char} (escapes : Escapes mark char form) :
    Passes mark form := by
  cases escapes with
  | letter => exact passes_escaped isMark _
  | code => exact (passes_escaped isMark _).append (passes_hexDigits isMark _ _)
  | raw unguarded => exact passes_of_forall (List.forall_mem_singleton.mpr unguarded)

/-- Between its marks, a text is read back as it was, and no cut falls into it. -/
theorem unescape_flatMap (chars : List Char) :
    unescape (chars.flatMap (escapeChar mark)) = chars ∧
      Passes mark (chars.flatMap (escapeChar mark)) := by
  induction chars with
  | nil => exact ⟨by simp [unescape], passes_nil mark⟩
  | cons char rest ih =>
      have escapes := escapeChar_escapes isMark char
      rw [List.flatMap_cons, escapes.unescape, ih.1]
      exact ⟨rfl, (escapes.passes isMark).append ih.2⟩

end marked

/-- A quoted text is read back, whatever follows it. -/
theorem readQuoted_quoteChars (chars rest : List Char) :
    readQuoted (quoteChars chars ++ rest) = some (chars, rest) := by
  obtain ⟨unescaped, passes⟩ := unescape_flatMap (quoteMark_eq_or chars) chars
  have closed (mark : Char) : cutAtMark mark (mark :: rest) = some ([], rest) := by
    rw [cutAtMark.eq_def]
    simp only [if_true]
  simp only [quoteChars, List.cons_append, List.append_assoc, List.nil_append, readQuoted]
  rw [passes, closed]
  simp only [Option.map_some, List.append_nil, unescaped]

theorem quoteChars_append_inj {left right leftRest rightRest : List Char}
    (same : quoteChars left ++ leftRest = quoteChars right ++ rightRest) :
    left = right ∧ leftRest = rightRest := by
  have read := readQuoted_quoteChars left leftRest
  rw [same, readQuoted_quoteChars, Option.some.injEq, Prod.mk.injEq] at read
  exact ⟨read.1.symm, read.2.symm⟩

theorem hexDigits_printable (width code : Nat) :
    ∀ char ∈ hexDigits width code, isUnprintable char = false := by
  have ascii : ∀ digit < 16,
      0x20 ≤ (Nat.digitChar digit).toNat ∧ (Nat.digitChar digit).toNat < 0x7F := by decide
  intro char member
  obtain ⟨digit, bounded, rfl⟩ := exists_digit_of_mem_hexDigits member
  obtain ⟨low, high⟩ := ascii digit bounded
  exact isUnprintable_of_ascii low high

theorem Escapes.printable {form : List Char} (escapes : Escapes mark char form) :
    ∀ char ∈ form, isUnprintable char = false := by
  have backslash : isUnprintable '\x5c' = false := isUnprintable_of_ascii (by decide) (by decide)
  cases escapes with
  | letter _ _ visible => simp [backslash, visible]
  | @code letter width wide =>
      have visible : isUnprintable letter = false := by
        unfold escapeWidth? at wide
        split at wide
        case h_4 => exact absurd wide.symm (Option.some_ne_none _)
        all_goals exact isUnprintable_of_ascii (by decide) (by decide)
      simp only [List.forall_mem_cons]
      exact ⟨backslash, visible, hexDigits_printable _ _⟩
  | raw _ visible => simpa using visible

theorem quoteChars_printable (chars : List Char) :
    ∀ char ∈ quoteChars chars, isUnprintable char = false := by
  have isMark := quoteMark_eq_or chars
  have visible : isUnprintable (quoteMark chars) = false := by
    rcases isMark with same | same <;> rw [same] <;>
      exact isUnprintable_of_ascii (by decide) (by decide)
  have inside : ∀ char ∈ chars.flatMap (escapeChar (quoteMark chars)),
      isUnprintable char = false := by
    intro char member
    obtain ⟨other, _, inForm⟩ := List.mem_flatMap.mp member
    exact (escapeChar_escapes isMark other).printable char inForm
  simp only [quoteChars, List.forall_mem_cons, List.forall_mem_append]
  exact ⟨visible, inside, visible, List.forall_mem_nil _⟩

end RustScribe.Text
