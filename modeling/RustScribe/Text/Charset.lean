import RustScribe.Text.Hex

namespace RustScribe.Text

/-! Character sets that are an initial segment of Unicode. -/

inductive Charset where
  | ascii
  | latin1
  | utf8
  deriving Repr, DecidableEq

namespace Charset

def name : Charset → String
  | .ascii => "ascii"
  | .latin1 => "latin-1"
  | .utf8 => "utf-8"

def limit : Charset → Nat
  | .ascii => 0x80
  | .latin1 => 0x100
  | .utf8 => 0x110000

def encodes (charset : Charset) (char : Char) : Bool :=
  char.toNat < charset.limit

/-- The first run of neighbouring characters outside a set: where it starts, its
first character, and how many more it has. -/
structure BadRun where
  start : Nat
  first : Char
  more : Nat
  deriving Repr, DecidableEq

def badRun? (charset : Charset) (chars : List Char) : Option BadRun :=
  match chars.dropWhile charset.encodes with
  | [] => none
  | first :: rest =>
      some {
        start := (chars.takeWhile charset.encodes).length
        first
        more := (rest.takeWhile fun char => !charset.encodes char).length }

/-- Names a single character, and the first and last position of a longer run. -/
def refusal (charset : Charset) (run : BadRun) : String :=
  "'" ++ charset.name ++ "' codec can't encode " ++
    (if run.more = 0 then
      "character '" ++ String.ofList (escapeCode run.first) ++ "' in position " ++
        toString run.start
    else
      "characters in position " ++ toString run.start ++ "-" ++
        toString (run.start + run.more)) ++
    ": ordinal not in range(" ++ toString charset.limit ++ ")"

theorem badRun?_eq_none_iff {charset : Charset} {chars : List Char} :
    charset.badRun? chars = none ↔ ∀ char ∈ chars, charset.encodes char = true := by
  induction chars with
  | nil => simp [badRun?]
  | cons char rest ih =>
      by_cases fits : charset.encodes char = true
      · simp only [badRun?, List.dropWhile_cons_of_pos fits, List.mem_cons, forall_eq_or_imp,
          fits, true_and]
        rw [← ih, badRun?]
        cases rest.dropWhile charset.encodes <;> simp
      · simp [badRun?, List.dropWhile_cons_of_neg fits, fits]

theorem utf8_encodes (char : Char) : Charset.utf8.encodes char = true :=
  decide_eq_true (toNat_lt char)

end Charset

end RustScribe.Text
