namespace RustScribe.Text

/-- The white space of Unicode: the controls that separate or advance, the
spaces of every width, and the line and paragraph separators. -/
def isBlank (char : Char) : Bool :=
  let code := char.toNat
  (0x09 ≤ code && code ≤ 0x0D) || (0x1C ≤ code && code ≤ 0x20) ||
    code == 0x85 || code == 0xA0 || code == 0x1680 ||
    (0x2000 ≤ code && code ≤ 0x200A) || code == 0x2028 || code == 0x2029 ||
    code == 0x202F || code == 0x205F || code == 0x3000

/-- Drops the white space after the last other character. -/
def trimEndChars : List Char → List Char
  | [] => []
  | char :: rest =>
      let kept := trimEndChars rest
      if kept.isEmpty && isBlank char then [] else char :: kept

def trimEnd (text : String) : String :=
  String.ofList (trimEndChars text.toList)

theorem toList_trimEnd (text : String) :
    (trimEnd text).toList = trimEndChars text.toList := by
  simp [trimEnd]

theorem trimEndChars_eq_nil_iff {chars : List Char} :
    trimEndChars chars = [] ↔ ∀ char ∈ chars, isBlank char = true := by
  induction chars with
  | nil => simp [trimEndChars]
  | cons char rest ih =>
      simp only [trimEndChars, List.mem_cons, forall_eq_or_imp, ← ih]
      by_cases empty : trimEndChars rest = [] <;> simp [empty]

theorem trimEndChars_append (left right : List Char) :
    trimEndChars (left ++ right) =
      if trimEndChars right = [] then trimEndChars left else left ++ trimEndChars right := by
  induction left with
  | nil => by_cases empty : trimEndChars right = [] <;> simp [trimEndChars, empty]
  | cons char rest ih =>
      simp only [List.cons_append, trimEndChars, ih]
      by_cases empty : trimEndChars right = [] <;> simp [empty]

end RustScribe.Text
