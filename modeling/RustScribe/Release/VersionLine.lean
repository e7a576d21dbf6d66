import RustScribe.Text.Blank

namespace RustScribe.Release

/-! The version that a text assigns. An assignment starts a line with the name of
the version; white space may stand around its equals sign, line ends included;
the value lies between quotes of either kind, and reaches to the last quote on
the line of the first. -/

open Text (isBlank)

def versionName : List Char := "__version__".toList

def isQuote (char : Char) : Bool :=
  char == '\x27' || char == '\x22'

def beforeLastQuote : List Char → Option (List Char)
  | [] => none
  | char :: rest =>
      match beforeLastQuote rest with
      | some value => some (char :: value)
      | none => if isQuote char then some [] else none

/-- The value of an assignment that the text begins with. -/
def assigned? (chars : List Char) : Option (List Char) :=
  match versionName.isPrefixOf? chars with
  | none => none
  | some afterName =>
      match afterName.dropWhile isBlank with
      | '=' :: afterSign =>
          match afterSign.dropWhile isBlank with
          | [] => none
          | quote :: rest =>
              if isQuote quote then beforeLastQuote (rest.takeWhile fun char => char != '\n')
              else none
      | _ => none

/-- The value of the first assignment; `lineStart` tells whether the text begins
where a line does. -/
def findVersionFrom (lineStart : Bool) : List Char → Option (List Char)
  | [] => none
  | char :: rest =>
      match if lineStart then assigned? (char :: rest) else none with
      | some value => some value
      | none => findVersionFrom (char == '\n') rest

def findVersion (chars : List Char) : Option (List Char) :=
  findVersionFrom true chars

theorem beforeLastQuote_eq_none_iff {chars : List Char} :
    beforeLastQuote chars = none ↔ ∀ char ∈ chars, isQuote char = false := by
  induction chars with
  | nil => simp [beforeLastQuote]
  | cons char rest ih =>
      cases later : beforeLastQuote rest with
      | some value =>
          simp only [beforeLastQuote, later, reduceCtorEq, List.mem_cons, forall_eq_or_imp,
            false_iff, not_and]
          intro _ all
          simp [ih.mpr all] at later
      | none =>
          simp only [beforeLastQuote, later, List.mem_cons, forall_eq_or_imp]
          by_cases quote : isQuote char = true
          · simp [quote]
          · simpa [quote] using ih.mp later

theorem beforeLastQuote_append_cons (value : List Char) {quote : Char} {rest : List Char}
    (isQuoted : isQuote quote = true) (last : ∀ char ∈ rest, isQuote char = false) :
    beforeLastQuote (value ++ quote :: rest) = some value := by
  induction value with
  | nil => simp [beforeLastQuote, beforeLastQuote_eq_none_iff.mpr last, isQuoted]
  | cons char more ih => simp [beforeLastQuote, ih]

end RustScribe.Release
