import Mathlib.Data.List.Basic
import RustScribe.Release.VersionLine

namespace RustScribe.Release

open Text (isBlank)

/-- An assignment from the name to the end of the line that the value stands on. -/
structure Assignment where
  beforeSign : List Char
  afterSign : List Char
  opening : Char
  value : List Char
  closing : Char
  remainder : List Char
  deriving Repr, DecidableEq

namespace Assignment

def text (assignment : Assignment) : List Char :=
  versionName ++ (assignment.beforeSign ++ '=' :: (assignment.afterSign ++
    assignment.opening :: (assignment.value ++ assignment.closing :: assignment.remainder)))

/-- White space around the sign, line ends included; quotes of either kind around the value;
and no line end from the first quote on. -/
structure WellFormed (assignment : Assignment) : Prop where
  beforeSign : ∀ char ∈ assignment.beforeSign, isBlank char = true
  afterSign : ∀ char ∈ assignment.afterSign, isBlank char = true
  opening : isQuote assignment.opening = true
  closing : isQuote assignment.closing = true
  value : '\n' ∉ assignment.value
  remainder : '\n' ∉ assignment.remainder

/-- The rest of the line that the value begins on. -/
def line (assignment : Assignment) : List Char :=
  assignment.value ++ assignment.closing :: assignment.remainder

theorem WellFormed.line_unbroken {assignment : Assignment} (wellFormed : assignment.WellFormed) :
    '\n' ∉ assignment.line := by
  intro member
  rw [line, List.mem_append, List.mem_cons] at member
  rcases member with inValue | same | inRemainder
  · exact wellFormed.value inValue
  · have closing := wellFormed.closing
    rw [← same] at closing
    exact absurd closing (by decide)
  · exact wellFormed.remainder inRemainder

end Assignment

/-- An assignment in a text, from the start of a line to the end of a line. -/
structure Assigns (chars : List Char) (assignment : Assignment) : Prop where
  cut : ∃ before after, chars = before ++ (assignment.text ++ after) ∧
    (∀ char ∈ before.getLast?, char = '\n') ∧ ∀ char ∈ after.head?, char = '\n'
  wellFormed : assignment.WellFormed

variable {chars value : List Char}

theorem not_isBlank_of_isQuote {char : Char} (quote : isQuote char = true) :
    isBlank char = false := by
  simp only [isQuote, Bool.or_eq_true, beq_iff_eq] at quote
  rcases quote with rfl | rfl <;> decide

theorem beforeLastQuote_eq_some_iff :
    beforeLastQuote chars = some value ↔
      ∃ quote rest, chars = value ++ quote :: rest ∧ isQuote quote = true ∧
        ∀ char ∈ rest, isQuote char = false := by
  constructor
  · intro found
    induction chars generalizing value with
    | nil => contradiction
    | cons char chars ih =>
        cases later : beforeLastQuote chars with
        | some inner =>
            simp only [beforeLastQuote, later, Option.some.injEq] at found
            obtain ⟨quote, rest, rfl, last⟩ := ih later
            exact ⟨quote, rest, by rw [← found, List.cons_append], last⟩
        | none =>
            simp only [beforeLastQuote, later, Option.ite_none_right_eq_some,
              Option.some.injEq] at found
            obtain ⟨quote, rfl⟩ := found
            exact ⟨char, chars, rfl, quote, beforeLastQuote_eq_none_iff.mp later⟩
  · rintro ⟨quote, rest, rfl, isQuoted, last⟩
    exact beforeLastQuote_append_cons value isQuoted last

theorem not_unquoted {left right : List Char} {quote : Char} (isQuoted : isQuote quote = true) :
    ¬ ∀ char ∈ left ++ quote :: right, isQuote char = false := by
  intro unquoted
  have noQuote := unquoted quote (by simp)
  rw [isQuoted] at noQuote
  contradiction

theorem eq_takeWhile_append {holds : Char → Bool} {rest : List Char}
    (dropped : chars.dropWhile holds = rest) : chars = chars.takeWhile holds ++ rest := by
  rw [← dropped, List.takeWhile_append_dropWhile]

/-- A run of characters of some kind, before one that is not, is what is taken of a text. -/
theorem takeWhile_append_eq_left {holds : Char → Bool} {left rest : List Char}
    (inside : ∀ char ∈ left, holds char = true) (stop : ∀ char ∈ rest.head?, holds char = false) :
    (left ++ rest).takeWhile holds = left := by
  have none : rest.takeWhile holds = [] := by
    cases rest with
    | nil => rfl
    | cons next others => simp [stop next rfl]
  rw [List.takeWhile_append_of_pos inside, none, List.append_nil]

/-- A text that begins with an assignment is cut at the end of the line of its value. -/
theorem exists_assignment (assigned : assigned? chars = some value) :
    ∃ assignment : Assignment, assignment.value = value ∧ assignment.WellFormed ∧
      ∃ after, chars = assignment.text ++ after ∧ ∀ char ∈ after.head?, char = '\n' := by
  unfold assigned? at assigned
  split at assigned
  · contradiction
  next afterName named =>
  split at assigned
  · next afterSign sign =>
    split at assigned
    · contradiction
    next quote rest quoted =>
    split at assigned
    · next isQuoted =>
      obtain ⟨closing, remainder, line, isClosing, -⟩ := beforeLastQuote_eq_some_iff.mp assigned
      have unbroken : '\n' ∉ value ++ closing :: remainder := by
        intro member
        rw [← line] at member
        simpa using List.all_eq_true.mp List.all_takeWhile '\n' member
      simp only [List.mem_append, List.mem_cons, not_or] at unbroken
      have blank (chars : List Char) : ∀ char ∈ chars.takeWhile isBlank, isBlank char = true :=
        List.all_eq_true.mp List.all_takeWhile
      refine ⟨⟨afterName.takeWhile isBlank, afterSign.takeWhile isBlank, quote, value, closing,
        remainder⟩, rfl, ⟨blank _, blank _, isQuoted, isClosing, unbroken.1, unbroken.2.2⟩,
        rest.dropWhile fun char => char != '\n', ?_, ?_⟩
      · have valued : rest =
            value ++ closing :: remainder ++ rest.dropWhile fun char => char != '\n' := by
          rw [← line, List.takeWhile_append_dropWhile]
        calc chars = versionName ++ afterName :=
              (List.isPrefixOf?_eq_some_iff_append_eq.mp named).symm
          _ = versionName ++ (afterName.takeWhile isBlank ++ '=' :: (afterSign.takeWhile isBlank ++
                quote :: rest)) := by
              rw [← eq_takeWhile_append quoted, ← eq_takeWhile_append sign]
          _ = _ := by
              simp only [Assignment.text, List.append_assoc, List.cons_append] at valued ⊢
              rw [← valued]
      · intro char head
        have stop := List.head?_dropWhile_not (fun char => char != '\n') rest
        rw [Option.mem_def.mp head] at stop
        simpa using stop
    · contradiction
  · contradiction

/-- What an assignment at the start of a text says of the version. -/
theorem assigned?_text {assignment : Assignment} {after : List Char}
    (wellFormed : assignment.WellFormed) (lineEnd : ∀ char ∈ after.head?, char = '\n') :
    assigned? (assignment.text ++ after) = beforeLastQuote assignment.line := by
  have named : versionName.isPrefixOf? (assignment.text ++ after) =
      some (assignment.beforeSign ++ '=' :: (assignment.afterSign ++ assignment.opening ::
        (assignment.line ++ after))) := by
    rw [List.isPrefixOf?_eq_some_iff_append_eq]
    simp [Assignment.text, Assignment.line]
  have notBlank := not_isBlank_of_isQuote wellFormed.opening
  have line : (assignment.line ++ after).takeWhile (fun char => char != '\n') =
      assignment.line := by
    apply takeWhile_append_eq_left
    · intro char member
      rw [bne_iff_ne]
      rintro rfl
      exact wellFormed.line_unbroken member
    · intro char head
      simp [lineEnd char head]
  simp only [assigned?, named]
  rw [List.dropWhile_append_of_pos wellFormed.beforeSign, List.dropWhile_cons_of_neg (by decide)]
  simp only []
  rw [List.dropWhile_append_of_pos wellFormed.afterSign,
    List.dropWhile_cons_of_neg (by simp [notBlank])]
  simp only [wellFormed.opening, if_true, line]

theorem exists_assigned {assignment : Assignment} {after : List Char}
    (wellFormed : assignment.WellFormed) (lineEnd : ∀ char ∈ after.head?, char = '\n') :
    ∃ value, assigned? (assignment.text ++ after) = some value := by
  rw [assigned?_text wellFormed lineEnd]
  cases found : beforeLastQuote assignment.line with
  | some value => exact ⟨value, rfl⟩
  | none =>
      have noQuote := beforeLastQuote_eq_none_iff.mp found assignment.closing
        (by simp [Assignment.line])
      rw [wellFormed.closing] at noQuote
      contradiction

/-- Whether a line starts behind a text, which itself begins where one does or not. -/
def lineStartAfter : Bool → List Char → Bool
  | lineStart, [] => lineStart
  | _, char :: rest => lineStartAfter (char == '\n') rest

theorem lineStartAfter_iff (lineStart : Bool) (before : List Char) :
    lineStartAfter lineStart before = true ↔
      (before = [] → lineStart = true) ∧ ∀ char ∈ before.getLast?, char = '\n' := by
  induction before generalizing lineStart with
  | nil => simp [lineStartAfter]
  | cons char rest ih =>
      rw [lineStartAfter, ih]
      cases rest with
      | nil => simp
      | cons next others => simp

/-- A version that is found is assigned behind the start of a line, and behind none before it. -/
theorem findVersionFrom_eq_some {lineStart : Bool}
    (found : findVersionFrom lineStart chars = some value) :
    ∃ before rest, chars = before ++ rest ∧ lineStartAfter lineStart before = true ∧
      assigned? rest = some value ∧
      ∀ earlier later, chars = earlier ++ later → lineStartAfter lineStart earlier = true →
        earlier.length < before.length → assigned? later = none := by
  induction chars generalizing lineStart with
  | nil => contradiction
  | cons char others ih =>
      cases here : if lineStart then assigned? (char :: others) else none with
      | some first =>
          simp only [findVersionFrom, here] at found
          rw [Option.ite_none_right_eq_some] at here
          exact ⟨[], char :: others, rfl, here.1, here.2.trans found, by simp⟩
      | none =>
          simp only [findVersionFrom, here] at found
          obtain ⟨before, rest, rfl, start, assigned, first⟩ := ih found
          refine ⟨char :: before, rest, rfl, start, assigned, ?_⟩
          intro earlier later cut startsLine shorter
          cases earlier with
          | nil =>
              rw [List.nil_append] at cut
              rw [← cut]
              simpa [show lineStart = true from startsLine] using here
          | cons head earlier =>
              obtain ⟨rfl, same⟩ := List.cons.inj cut
              exact first earlier later same startsLine (Nat.lt_of_succ_lt_succ shorter)

theorem findVersionFrom_eq_none {lineStart : Bool}
    (missing : findVersionFrom lineStart chars = none) {before rest : List Char}
    (cut : chars = before ++ rest) (start : lineStartAfter lineStart before = true) :
    assigned? rest = none := by
  induction chars generalizing lineStart before with
  | nil =>
      obtain ⟨rfl, rfl⟩ := List.append_eq_nil_iff.mp cut.symm
      decide
  | cons char others ih =>
      cases here : if lineStart then assigned? (char :: others) else none with
      | some first => simp [findVersionFrom, here] at missing
      | none =>
          simp only [findVersionFrom, here] at missing
          cases before with
          | nil =>
              rw [List.nil_append] at cut
              rw [← cut]
              simpa [show lineStart = true from start] using here
          | cons first before =>
              obtain ⟨rfl, others⟩ := List.cons.inj cut
              exact ih missing others start

/-- A version that is found is one that the text assigns. -/
theorem assigns_of_findVersion (found : findVersion chars = some value) :
    ∃ assignment, assignment.value = value ∧ Assigns chars assignment := by
  obtain ⟨before, rest, rfl, start, assigned, -⟩ := findVersionFrom_eq_some found
  obtain ⟨assignment, same, wellFormed, after, rfl, lineEnd⟩ := exists_assignment assigned
  exact ⟨assignment, same,
    ⟨before, after, rfl, ((lineStartAfter_iff _ _).mp start).2, lineEnd⟩, wellFormed⟩

/-- No version is found only in the texts that assign none. -/
theorem findVersion_eq_none_iff :
    findVersion chars = none ↔ ∀ assignment, ¬ Assigns chars assignment := by
  constructor
  · rintro missing assignment ⟨⟨before, after, cut, lineStart, lineEnd⟩, wellFormed⟩
    have start := (lineStartAfter_iff true before).mpr ⟨fun _ => rfl, lineStart⟩
    obtain ⟨value, assigned⟩ := exists_assigned wellFormed lineEnd
    rw [findVersionFrom_eq_none missing cut start] at assigned
    contradiction
  · intro unassigned
    cases found : findVersion chars with
    | none => rfl
    | some value =>
        obtain ⟨assignment, _, assigns⟩ := assigns_of_findVersion found
        exact absurd assigns (unassigned assignment)

end RustScribe.Release
