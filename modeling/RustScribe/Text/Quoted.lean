import RustScribe.Text.Hex
import RustScribe.Text.Unprintable

namespace RustScribe.Text

/-! Texts quoted for a message: one line of printable characters between two
equal quote marks. -/

/-- An apostrophe, unless the text holds one and no double quote. -/
def quoteMark (chars : List Char) : Char :=
  if chars.contains '\x27' && !chars.contains '\x22' then '\x22' else '\x27'

/-- The backslash and the quote mark in use are escaped by a backslash, tab and
line ends by a letter, other unprintable characters by their code point. -/
def escapeChar (mark char : Char) : List Char :=
  if char = mark ∨ char = '\x5c' then ['\x5c', char]
  else if char = '\t' then ['\x5c', 't']
  else if char = '\n' then ['\x5c', 'n']
  else if char = '\r' then ['\x5c', 'r']
  else if isUnprintable char then escapeCode char
  else [char]

def quoteChars (chars : List Char) : List Char :=
  let mark := quoteMark chars
  mark :: (chars.flatMap (escapeChar mark) ++ [mark])

def quoted (text : String) : String :=
  String.ofList (quoteChars text.toList)

theorem toList_quoted (text : String) : (quoted text).toList = quoteChars text.toList := by
  simp [quoted]

theorem quoteMark_eq_or (chars : List Char) :
    quoteMark chars = '\x27' ∨ quoteMark chars = '\x22' := by
  unfold quoteMark
  split <;> simp

end RustScribe.Text
