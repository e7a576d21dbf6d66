import RustScribe.Margin

namespace RustScribe

/-! Round, square and curly brackets. A word is well nested by a grammar; a scan that remembers the
closing brackets still owed decides it. -/

def closing? : Char → Option Char
  | '(' => some ')'
  | '[' => some ']'
  | '\x7b' => some '\x7d'
  | _ => none

def isClosing (char : Char) : Bool :=
  char == ')' || char == ']' || char == '\x7d'

inductive WellNested : List Char → Prop where
  | nil : WellNested []
  | other {char : Char} {rest : List Char} (opensNone : closing? char = none)
      (closesNone : isClosing char = false) (tail : WellNested rest) : WellNested (char :: rest)
  | pair {opening closing : Char} {inner rest : List Char}
      (pairs : closing? opening = some closing) (within : WellNested inner)
      (tail : WellNested rest) : WellNested (opening :: (inner ++ closing :: rest))

def Balanced (text : String) : Prop :=
  WellNested text.toList

/-- The closing brackets owed after one more character, innermost first. -/
def advance (owed : List Char) (char : Char) : Option (List Char) :=
  match closing? char with
  | some closing => some (closing :: owed)
  | none =>
      if isClosing char then
        match owed with
        | [] => none
        | expected :: outer => if char = expected then some outer else none
      else some owed

def scan (owed chars : List Char) : Option (List Char) :=
  chars.foldlM advance owed

@[simp] theorem scan_nil (owed : List Char) : scan owed [] = some owed := rfl

theorem scan_cons (owed : List Char) (char : Char) (rest : List Char) :
    scan owed (char :: rest) = (advance owed char).bind fun next => scan next rest := rfl

theorem scan_append (owed left right : List Char) :
    scan owed (left ++ right) = (scan owed left).bind fun next => scan next right :=
  List.foldlM_append

theorem closing_closes {opening closing : Char} (pairs : closing? opening = some closing) :
    closing? closing = none ∧ isClosing closing = true := by
  unfold closing? at pairs
  split at pairs <;> cases pairs <;> decide

theorem WellNested.scan {word : List Char} (nested : WellNested word) (owed : List Char) :
    scan owed word = some owed := by
  induction nested generalizing owed with
  | nil => rfl
  | other opensNone closesNone tail ih => simp [scan_cons, advance, opensNone, closesNone, ih]
  | pair pairs within tail withinIH tailIH =>
      obtain ⟨opensNone, closes⟩ := closing_closes pairs
      rw [scan_cons]
      simp only [advance, pairs, Option.bind_some, scan_append, withinIH]
      simp [scan_cons, advance, opensNone, closes, tailIH]

/-- A word that pays what is owed: well-nested words with the owed brackets between. -/
def Pays : List Char → List Char → Prop
  | [], word => WellNested word
  | closing :: owed, word =>
      ∃ inner rest, WellNested inner ∧ word = inner ++ closing :: rest ∧ Pays owed rest

theorem Pays.other {owed word : List Char} {char : Char} (opensNone : closing? char = none)
    (closesNone : isClosing char = false) (pays : Pays owed word) : Pays owed (char :: word) := by
  cases owed with
  | nil => exact WellNested.other opensNone closesNone pays
  | cons closing owed =>
      obtain ⟨inner, rest, nested, rfl, pays⟩ := pays
      exact ⟨char :: inner, rest, .other opensNone closesNone nested, rfl, pays⟩

theorem Pays.pair {owed word : List Char} {opening closing : Char}
    (pairs : closing? opening = some closing) (pays : Pays (closing :: owed) word) :
    Pays owed (opening :: word) := by
  obtain ⟨within, rest, nested, rfl, pays⟩ := pays
  cases owed with
  | nil => exact WellNested.pair pairs nested pays
  | cons expected owed =>
      obtain ⟨inner, later, tail, rfl, pays⟩ := pays
      exact ⟨opening :: (within ++ closing :: inner), later, .pair pairs nested tail,
        by simp, pays⟩

theorem pays_of_scan {owed word : List Char} (scanned : scan owed word = some []) :
    Pays owed word := by
  induction word generalizing owed with
  | nil =>
      cases scanned
      exact WellNested.nil
  | cons char rest ih =>
      cases opens : closing? char with
      | some closing =>
          simp only [scan_cons, advance, opens, Option.bind_some] at scanned
          exact .pair opens (ih scanned)
      | none =>
          simp only [scan_cons, advance, opens] at scanned
          cases closes : isClosing char with
          | false =>
              simp only [closes] at scanned
              exact .other opens closes (ih scanned)
          | true =>
              cases owed with
              | nil => simp [closes] at scanned
              | cons expected owed =>
                  by_cases same : char = expected
                  · subst same
                    simp only [closes, if_true, Option.bind_some] at scanned
                    exact ⟨[], rest, .nil, rfl, ih scanned⟩
                  · simp [closes, same] at scanned

theorem wellNested_iff_scan {word : List Char} : WellNested word ↔ scan [] word = some [] :=
  ⟨fun nested => nested.scan [], pays_of_scan⟩

instance (word : List Char) : Decidable (WellNested word) :=
  decidable_of_iff _ wellNested_iff_scan.symm

instance (text : String) : Decidable (Balanced text) :=
  inferInstanceAs (Decidable (WellNested text.toList))

theorem WellNested.append {left right : List Char} (first : WellNested left)
    (second : WellNested right) : WellNested (left ++ right) := by
  rw [wellNested_iff_scan, scan_append, first.scan, Option.bind_some, second.scan]

/-- What stands around a well-nested word decides whether the whole is one. -/
theorem WellNested.insert {before word after : List Char} (around : WellNested (before ++ after))
    (nested : WellNested word) : WellNested (before ++ (word ++ after)) := by
  rw [wellNested_iff_scan, scan_append] at around ⊢
  simp only [scan_append, nested.scan, Option.bind_some]
  exact around

example : Balanced "match x.get(|| \x7b a[0] \x7d)" ∧ ¬ Balanced "(]" := by decide

end RustScribe
