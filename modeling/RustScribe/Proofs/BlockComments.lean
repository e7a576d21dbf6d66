import Mathlib.Data.List.Chain
import Mathlib.Data.List.Infix
import RustScribe.Proofs.BlankLines
import RustScribe.Proofs.ItemWrites
import RustScribe.Proofs.SessionBalance

namespace RustScribe

namespace Text

/-- Two characters in a row that make no delimiter. -/
def Apart (first second : Char) : Prop :=
  ¬ (first = '/' ∧ second = '*') ∧ ¬ (first = '*' ∧ second = '/')

instance (first second : Char) : Decidable (Apart first second) :=
  inferInstanceAs (Decidable (_ ∧ _))

def Undelimited (chars : List Char) : Prop :=
  chars.IsChain Apart

instance (chars : List Char) : Decidable (Undelimited chars) :=
  inferInstanceAs (Decidable (chars.IsChain Apart))

theorem undelimited_iff {chars : List Char} :
    Undelimited chars ↔ ¬ "/*".toList <:+: chars ∧ ¬ "*/".toList <:+: chars := by
  rw [Undelimited, List.isChain_iff_forall_rel_of_append_cons_cons]
  constructor
  · intro apart
    constructor
    · rintro ⟨before, after, rfl⟩
      exact (@apart '/' '*' before after (by simp)).1 ⟨rfl, rfl⟩
    · rintro ⟨before, after, rfl⟩
      exact (@apart '*' '/' before after (by simp)).2 ⟨rfl, rfl⟩
  · rintro ⟨unopened, unclosed⟩ first second before after rfl
    constructor
    · rintro ⟨rfl, rfl⟩
      exact unopened ⟨before, after, by simp⟩
    · rintro ⟨rfl, rfl⟩
      exact unclosed ⟨before, after, by simp⟩

section Undelimited

variable {chars before after : List Char} {char other : Char}

theorem not_delimiter_of_blank (blank : isBlank char = true) : char ≠ '/' ∧ char ≠ '*' := by
  constructor
  · rintro rfl
    exact absurd blank (by decide)
  · rintro rfl
    exact absurd blank (by decide)

theorem apart_of_blank_left (blank : isBlank char = true) : Apart char other :=
  have ⟨noSlash, noStar⟩ := not_delimiter_of_blank blank
  ⟨fun pair => noSlash pair.1, fun pair => noStar pair.1⟩

theorem apart_of_blank_right (blank : isBlank other = true) : Apart char other :=
  have ⟨noSlash, noStar⟩ := not_delimiter_of_blank blank
  ⟨fun pair => noStar pair.2, fun pair => noSlash pair.2⟩

theorem undelimited_nil : Undelimited [] :=
  .nil

theorem Undelimited.part (undelimited : Undelimited chars) (part : before <:+: chars) :
    Undelimited before :=
  List.IsChain.infix undelimited part

/-- A blank keeps what is before it from what is after it. -/
theorem Undelimited.spaced (undelimited : Undelimited before) (blank : isBlank char = true)
    (later : Undelimited after) : Undelimited (before ++ char :: after) := by
  refine List.isChain_append.mpr ⟨undelimited, ?_, fun _ _ next same => ?_⟩
  · exact List.isChain_cons.mpr ⟨fun _ _ => apart_of_blank_left blank, later⟩
  · cases same
    exact apart_of_blank_right blank

theorem Undelimited.after_blank (blank : ∀ char ∈ before, isBlank char = true)
    (undelimited : Undelimited chars) : Undelimited (before ++ chars) := by
  induction before with
  | nil => exact undelimited
  | cons char rest ih =>
      have later := ih fun other member => blank other (List.mem_cons_of_mem _ member)
      exact undelimited_nil.spaced (blank char List.mem_cons_self) later

end Undelimited

/-- A reader of block comments: how many are open, and the character just read if it may be
the first of a delimiter. -/
structure Nesting where
  depth : Nat := 0
  pending : Option Char := none
  deriving Repr, DecidableEq

namespace Nesting

/-- A delimiter takes both its characters; one that closes counts only inside a comment. -/
def read (state : Nesting) (char : Char) : Nesting :=
  if state.pending = some '/' ∧ char = '*' then { depth := state.depth + 1 }
  else if state.pending = some '*' ∧ char = '/' ∧ 0 < state.depth then
    { depth := state.depth - 1 }
  else { state with pending := if char = '/' ∨ char = '*' then some char else none }

def readAll (state : Nesting) (chars : List Char) : Nesting :=
  chars.foldl read state

variable {state : Nesting} {chars : List Char}

theorem readAll_append (state : Nesting) (first second : List Char) :
    state.readAll (first ++ second) = (state.readAll first).readAll second :=
  List.foldl_append

theorem read_blank {char : Char} (blank : isBlank char = true) (state : Nesting) :
    state.read char = { depth := state.depth } := by
  have ⟨noSlash, noStar⟩ := not_delimiter_of_blank blank
  simp [read, noSlash, noStar]

theorem readAll_blank (blank : ∀ char ∈ chars, isBlank char = true) (depth : Nat) :
    readAll { depth } chars = { depth } := by
  induction chars with
  | nil => rfl
  | cons char rest ih =>
      rw [readAll, List.foldl_cons, read_blank (blank char List.mem_cons_self)]
      exact ih fun other member => blank other (List.mem_cons_of_mem _ member)

/-- What holds no delimiter, the character before it included, opens and closes nothing. -/
theorem readAll_depth (undelimited : Undelimited (state.pending.toList ++ chars)) :
    (state.readAll chars).depth = state.depth := by
  induction chars generalizing state with
  | nil => rfl
  | cons char rest ih =>
      have follows : ∀ last ∈ state.pending, Apart last char := by
        intro last pending
        rw [pending] at undelimited
        exact (List.isChain_cons_cons.mp undelimited).1
      have passes : state.read char =
          { state with pending := if char = '/' ∨ char = '*' then some char else none } := by
        rw [read, if_neg, if_neg]
        · rintro ⟨pending, rfl, -⟩
          exact (follows _ pending).2 ⟨rfl, rfl⟩
        · rintro ⟨pending, rfl⟩
          exact (follows _ pending).1 ⟨rfl, rfl⟩
      have remaining : Undelimited (char :: rest) :=
        undelimited.part (List.suffix_append _ _).isInfix
      rw [readAll, List.foldl_cons, passes]
      refine ih ?_
      dsimp only
      split
      · exact remaining
      · exact remaining.part (List.suffix_cons _ _).isInfix

/-- An inner comment has to be closed as well, and no character is part of two delimiters. -/
example : (readAll {} "/* a /* b */".toList).depth = 1 ∧
    (readAll {} "*/ /*/".toList).depth = 1 := by
  decide

end Nesting

/-- A text that is one comment between blanks, read from outside: it is open from the first
delimiter on and closed by the last two characters that are not blank, and what follows the
text is read as if it stood alone. -/
structure OneComment (text : String) (before inner after : List Char) : Prop where
  cut : text.toList = before ++ "/*".toList ++ inner ++ "*/".toList ++ after
  lead : ∀ char ∈ before, isBlank char = true
  trail : ∀ char ∈ after, isBlank char = true
  inside : ∀ front, front <+: inner ++ ['*'] →
    0 < (Nesting.readAll {} (before ++ "/*".toList ++ front)).depth
  closed : Nesting.readAll {} (before ++ "/*".toList ++ inner ++ "*/".toList) = {}
  outside : ∀ rest, Nesting.readAll {} (text.toList ++ rest) = Nesting.readAll {} rest

theorem oneComment_of_undelimited {text : String} {before inner : List Char}
    (lead : ∀ char ∈ before, isBlank char = true) (undelimited : Undelimited inner)
    (cut : text.toList = before ++ "/*".toList ++ (inner ++ [' ']) ++ "*/".toList ++ ['\n']) :
    OneComment text before (inner ++ [' ']) ['\n'] := by
  have opened (rest : List Char) : Nesting.readAll {} (before ++ "/*".toList ++ rest) =
      Nesting.readAll { depth := 1 } rest := by
    rw [Nesting.readAll_append, Nesting.readAll_append, Nesting.readAll_blank lead]
    rfl
  have through : Nesting.readAll { depth := 1 } (inner ++ [' ']) = { depth := 1 } := by
    have depth : (Nesting.readAll { depth := 1 } inner).depth = 1 :=
      Nesting.readAll_depth undelimited
    rw [Nesting.readAll_append]
    exact (Nesting.read_blank (by decide) _).trans (by rw [depth])
  have closed : Nesting.readAll {} (before ++ "/*".toList ++ (inner ++ [' ']) ++ "*/".toList) =
      {} := by
    rw [List.append_assoc, opened, Nesting.readAll_append, through]
    rfl
  have trail : ∀ char ∈ ['\n'], isBlank char = true := List.all_eq_true.mp (by decide)
  refine ⟨cut, lead, trail, fun front isFront => ?_, closed, fun rest => ?_⟩
  · have whole : Undelimited (inner ++ [' '] ++ ['*']) := by
      rw [List.append_assoc]
      exact undelimited.spaced (by decide) (List.isChain_singleton _)
    have depth : (Nesting.readAll { depth := 1 } front).depth = 1 :=
      Nesting.readAll_depth (whole.part isFront.isInfix)
    rw [opened, depth]
    exact Nat.one_pos
  · rw [cut, Nesting.readAll_append, Nesting.readAll_append, closed]
    rfl

end Text

open Text

namespace Item

/-- The text of a line inside a block comment. -/
def row (margin : Margin) (line : String) : String :=
  margin ++ (Line.commented line).text ++ "\n"

/-- The margin and the lines of a block comment, from the texts it was written in. The first
text tells how long the margin is. -/
def readBlockComment : List String → Margin × List String
  | [] => ("", [])
  | first :: rest =>
      let width := first.length - 3
      (String.ofList (first.toList.take width),
        rest.dropLast.map fun text => String.ofList (text.toList.drop (width + 3)).dropLast)

variable {margin : Margin}

theorem rendered_blockComment (margin : Margin) (lines : List String) :
    Line.rendered margin (blockComment lines).lines =
      (margin ++ "/*\n") :: (lines.map (row margin) ++ [margin ++ " */\n"]) := by
  have rows : (lines.map Line.commented).map
      (fun line => (margin.indentBy line.depth).render line.text) = lines.map (row margin) := by
    rw [List.map_map]
    refine List.map_congr_left fun line _ => ?_
    have written : (Line.commented line).text ≠ "" := by
      unfold Line.commented
      split <;> simp
    exact Margin.render_of_ne written margin
  simp [Line.rendered, Item.lines, rows, Margin.render_of_ne, Margin.indentBy, String.append_assoc]

/-- Between the mark and the text of a line stands a space, so no delimiter arises there. -/
theorem commented_undelimited {line : String} (undelimited : Undelimited line.toList) :
    Undelimited (Line.commented line).text.toList := by
  unfold Line.commented
  split
  · decide
  · rw [String.toList_append]
    have mark : Undelimited [' ', '*'] := by decide
    exact mark.spaced (by decide) undelimited

theorem rows_undelimited (blank : AllBlank margin) {lines : List String}
    (undelimited : ∀ line ∈ lines, Undelimited line.toList) {after : List Char}
    (later : Undelimited after) :
    Undelimited ((lines.map (row margin)).flatMap String.toList ++ after) := by
  induction lines with
  | nil => exact later
  | cons line rest ih =>
      have others := ih fun other member => undelimited other (List.mem_cons_of_mem _ member)
      have first := commented_undelimited (undelimited line List.mem_cons_self)
      have feed : isBlank '\n' = true := by decide
      have ended := (first.spaced feed others).after_blank blank
      simpa [row] using ended

theorem infix_row (margin : Margin) (line : String) :
    line.toList <:+: (row margin line).toList := by
  unfold row Line.commented
  split
  · next empty => simp [String.isEmpty_iff.mp empty]
  · exact ⟨(margin ++ " * ").toList, ['\n'], by simp⟩

theorem blockComment_oneComment (blank : AllBlank margin) {lines : List String}
    (undelimited : ∀ line ∈ lines, Undelimited line.toList) :
    ∃ inner, OneComment (String.join (Line.rendered margin (blockComment lines).lines))
        margin.toList inner ['\n'] ∧ ∀ line ∈ lines, line.toList <:+: inner := by
  let rows := (lines.map (row margin)).flatMap String.toList
  have inside : Undelimited ('\n' :: (rows ++ margin.toList)) := by
    have margins : Undelimited (margin.toList ++ []) := undelimited_nil.after_blank blank
    rw [List.append_nil] at margins
    exact undelimited_nil.spaced (by decide) (rows_undelimited blank undelimited margins)
  refine ⟨_, oneComment_of_undelimited blank inside ?_, fun line member => ?_⟩
  · rw [rendered_blockComment]
    simp [rows, String.toList_join, List.flatMap_map]
  · have listed : row margin line ∈ lines.map (row margin) := List.mem_map_of_mem member
    have own := List.infix_of_mem_flatten (List.mem_map_of_mem (f := String.toList) listed)
    rw [← List.flatMap_def] at own
    have among : rows <:+: '\n' :: (rows ++ margin.toList) ++ [' '] :=
      ⟨['\n'], margin.toList ++ [' '], by simp⟩
    exact (infix_row margin line).trans (own.trans among)

/-- What is read of a row behind its margin: the bare mark is shorter than a mark and a space. -/
theorem drop_row (margin : Margin) (line : String) :
    String.ofList ((row margin line).toList.drop (margin.length + 3)).dropLast = line := by
  have behind (text : String) : (margin ++ text ++ "\n").toList.drop (margin.length + 3) =
      (text.toList ++ ['\n']).drop 3 := by
    rw [String.append_assoc, String.toList_append, ← String.length_toList,
      List.drop_length_add_append, String.toList_append]
    rfl
  unfold row Line.commented
  rw [behind]
  split
  · next empty => simp [String.isEmpty_iff.mp empty]
  · simp

theorem readBlockComment_rendered (margin : Margin) (lines : List String) :
    readBlockComment (Line.rendered margin (blockComment lines).lines) = (margin, lines) := by
  have width : (margin ++ "/*\n").length - 3 = margin.length := by
    rw [String.length_append]
    exact Nat.add_sub_cancel margin.length 3
  have start : String.ofList ((margin ++ "/*\n").toList.take margin.length) = margin := by
    rw [String.toList_append, ← String.length_toList, List.take_left, String.ofList_toList]
  have rows : (lines.map (row margin)).map (fun text =>
      String.ofList (text.toList.drop (margin.length + 3)).dropLast) = lines := by
    rw [List.map_map]
    exact List.map_id'' (drop_row margin) lines
  rw [rendered_blockComment, readBlockComment, width, List.dropLast_concat, start, rows]

end Item

/-- A block comment makes one write for each line and two more, which give back margin and lines.
Lines without delimiters at a blank margin make one comment, with all of them inside. -/
theorem block_comments_enclose_lines (margin : Margin) (lines : List String) {sink : Sink}
    (takesAll : sink.TakesAll) :
    let outcome := (Item.blockComment lines).write margin sink
    outcome.failure = none ∧ outcome.written.length = lines.length + 2 ∧
      (AllBlank margin →
        (∀ line ∈ lines, ¬ "/*".toList <:+: line.toList ∧ ¬ "*/".toList <:+: line.toList) →
        ∃ before inner after, OneComment outcome.text before inner after ∧
          ∀ line ∈ lines, line.toList <:+: inner) ∧
      Item.readBlockComment outcome.written = (margin, lines) ∧
      ∀ (otherMargin : Margin) (otherLines : List String) (otherSink : Sink), otherSink.TakesAll →
        ((Item.blockComment otherLines).write otherMargin otherSink).written = outcome.written →
          otherMargin = margin ∧ otherLines = lines := by
  intro outcome
  obtain ⟨written, failure⟩ : outcome.written = _ ∧ outcome.failure = none :=
    Item.write_of_takesAll takesAll margin (.blockComment lines)
  have read : Item.readBlockComment outcome.written = (margin, lines) := by
    rw [written, Item.readBlockComment_rendered]
  refine ⟨failure, ?_, fun blank free => ?_, read, ?_⟩
  · rw [written, Item.rendered_blockComment]
    simp
  · obtain ⟨inner, comment, inside⟩ := Item.blockComment_oneComment blank fun line member =>
      undelimited_iff.mpr (free line member)
    rw [Outcome.text, written]
    exact ⟨_, inner, _, comment, inside⟩
  · intro otherMargin otherLines otherSink all same
    have other := (Item.write_of_takesAll all otherMargin (.blockComment otherLines)).1
    have both : (otherMargin, otherLines) = (margin, lines) := by
      rw [← read, ← same, other, Item.readBlockComment_rendered]
    exact Prod.mk.inj both

/-- Lines that begin and end like delimiters, an empty one and a blank one. -/
theorem block_comments_enclose_lines_of_stars :
    let lines := ["/", "", "* *", " ", "//"]
    let sink : Sink := { policy := .encoded .utf8 }
    let outcome := (Item.blockComment lines).write "\t " sink
    sink.TakesAll ∧ AllBlank "\t " ∧
      (∀ line ∈ lines, ¬ "/*".toList <:+: line.toList ∧ ¬ "*/".toList <:+: line.toList) ∧
      outcome.written = ["\t /*\n", "\t  * /\n", "\t  *\n", "\t  * * *\n", "\t  *  \n",
        "\t  * //\n", "\t  */\n"] ∧
      (∃ before inner after, OneComment outcome.text before inner after ∧
        ∀ line ∈ lines, line.toList <:+: inner) ∧
      Item.readBlockComment outcome.written = ("\t ", lines) ∧
      (Item.blockComment ["/", "", "* *", "", "//"]).write "\t " sink ≠ outcome := by
  intro lines sink outcome
  have takesAll : sink.TakesAll := Sink.takesAll_of_utf8 rfl rfl
  have blank : AllBlank "\t " := by decide
  have free : ∀ line ∈ lines, ¬ "/*".toList <:+: line.toList ∧ ¬ "*/".toList <:+: line.toList := by
    decide
  obtain ⟨-, -, encloses, read, tells⟩ := block_comments_enclose_lines "\t " lines takesAll
  refine ⟨takesAll, blank, free, by decide +kernel, encloses blank free, read, fun same => ?_⟩
  exact absurd (tells "\t " _ sink takesAll (congrArg Outcome.written same)).2 (by decide)

end RustScribe
