import Mathlib.Data.List.Infix
import RustScribe.Proofs.Layout

namespace RustScribe

/-! The lines of a construct stand as many units in as curly brackets are open before them. -/

/-- How many more curly brackets a text opens than it closes. -/
def braceDepth (text : String) : Int :=
  text.toList.count '\x7b' - text.toList.count '\x7d'

/-- One for a line that begins by closing a curly bracket. -/
def closingLead (line : String) : Nat :=
  if line.toList.head? = some '\x7d' then 1 else 0

def linesDepth : List String → Int
  | [] => 0
  | line :: rest => braceDepth line + linesDepth rest

/-- No beginning of the text closes a curly bracket that it has not opened, and the whole
text closes all that it opens. -/
def BraceBalanced (text : String) : Prop :=
  (∀ beginning, beginning <+: text.toList → beginning.count '\x7d' ≤ beginning.count '\x7b') ∧
    text.toList.count '\x7b' = text.toList.count '\x7d'

instance (text : String) : Decidable (BraceBalanced text) :=
  decidable_of_iff
    ((∀ beginning ∈ text.toList.inits, beginning.count '\x7d' ≤ beginning.count '\x7b') ∧
      text.toList.count '\x7b' = text.toList.count '\x7d')
    (by simp only [BraceBalanced, List.mem_inits])

/-- A text that changes no depth and does not begin by closing. -/
def Level (text : String) : Prop :=
  braceDepth text = 0 ∧ closingLead text = 0

instance (text : String) : Decidable (Level text) :=
  inferInstanceAs (Decidable (_ ∧ _))

theorem braceDepth_append (first second : String) :
    braceDepth (first ++ second) = braceDepth first + braceDepth second := by
  simp only [braceDepth, String.toList_append, List.count_append]
  omega

theorem closingLead_append_of_level {first : String} (level : Level first) {second : String}
    (other : closingLead second = 0) : closingLead (first ++ second) = 0 := by
  have one := level.2
  unfold closingLead at *
  rw [String.toList_append]
  cases start : first.toList with
  | nil => simpa using other
  | cons char rest => simpa [start] using one

theorem BraceBalanced.level {text : String} (balanced : BraceBalanced text) : Level text := by
  obtain ⟨beginnings, whole⟩ := balanced
  refine ⟨by unfold braceDepth; omega, ?_⟩
  unfold closingLead
  split
  · next leads =>
      obtain ⟨rest, chars⟩ := List.head?_eq_some_iff.mp leads
      have first := beginnings ['\x7d'] ⟨rest, chars.symm⟩
      exact absurd first (by decide)
  · rfl

theorem closingLead_append_of_ne {first : String} (nonempty : first ≠ "") (second : String) :
    closingLead (first ++ second) = closingLead first := by
  unfold closingLead
  rw [String.toList_append]
  cases start : first.toList with
  | nil => exact absurd (String.toList_eq_nil_iff.mp start) nonempty
  | cons char rest => rfl

theorem curly_of_pairs {opening closing : Char} (pairs : closing? opening = some closing) :
    opening ≠ '\x7d' ∧ closing ≠ '\x7b' ∧ (opening = '\x7b' ↔ closing = '\x7d') := by
  unfold closing? at pairs
  split at pairs <;> cases pairs <;> decide

theorem WellNested.count_curly {word : List Char} (nested : WellNested word) :
    word.count '\x7b' = word.count '\x7d' := by
  induction nested with
  | nil => rfl
  | @other char rest opensNone closesNone _ ih =>
      have notOpening : char ≠ '\x7b' := by
        intro same
        rw [same] at opensNone
        contradiction
      have notClosing : char ≠ '\x7d' := by
        intro same
        rw [same] at closesNone
        contradiction
      rw [List.count_cons_of_ne notOpening, List.count_cons_of_ne notClosing, ih]
  | @pair opening closing inner rest pairs _ _ withinIH ih =>
      obtain ⟨notClosing, notOpening, curly⟩ := curly_of_pairs pairs
      simp only [List.count_cons, List.count_append, withinIH, ih, beq_iff_eq, notClosing,
        notOpening, curly]
      omega

theorem WellNested.head?_ne {word : List Char} (nested : WellNested word) :
    word.head? ≠ some '\x7d' := by
  cases nested with
  | nil => exact nofun
  | other _ closesNone _ =>
      intro leads
      cases leads
      exact absurd closesNone (by decide)
  | pair pairs _ _ =>
      intro leads
      exact (curly_of_pairs pairs).1 (Option.some.inj leads)

theorem Balanced.level {text : String} (balanced : Balanced text) : Level text := by
  have counts := WellNested.count_curly balanced
  refine ⟨by unfold braceDepth; omega, ?_⟩
  rw [closingLead, if_neg (WellNested.head?_ne balanced)]

namespace Level

variable {first second : String}

theorem append (one : Level first) (other : Level second) : Level (first ++ second) := by
  refine ⟨?_, closingLead_append_of_level one other.2⟩
  rw [braceDepth_append, one.1, other.1]
  rfl

/-- Where the brackets around a text close each other, the whole is as level as the text. -/
theorem enclose {before after text : String} (around : Balanced (before ++ after))
    (level : Level text) : Level (before ++ text ++ after) := by
  obtain ⟨depth, lead⟩ := around.level
  rw [braceDepth_append] at depth
  constructor
  · rw [braceDepth_append, braceDepth_append, level.1]
    omega
  · by_cases start : before = ""
    · subst start
      exact closingLead_append_of_level (by simpa using level) (by simpa using lead)
    · rw [closingLead_append_of_ne start] at lead
      rwa [String.append_assoc, closingLead_append_of_ne start]

theorem compositional : Compositional Level where
  nothing := by decide
  append := append
  enclose isFixed := enclose isFixed.1

end Level

/-- From a depth before it to one after it: a line stands at the depth before it, or one
unit less if it begins by closing a bracket. -/
structure Line.Moves (line : Line) (start finish : Nat) : Prop where
  aligned : line.depth + closingLead line.text = start
  moved : start + braceDepth line.text = finish

namespace Line.Moves

theorem level {text : String} (level : Level text) (depth : Nat) :
    Line.Moves { depth, text } depth depth where
  aligned := by rw [level.2]; rfl
  moved := by rw [level.1]; omega

theorem opening {head : String} (level : Level head) (depth : Nat) :
    (Line.opening depth head).Moves depth (depth + 1) where
  aligned := by
    rw [Line.opening, closingLead_append_of_level level (by decide)]
    rfl
  moved := by
    have bracket : braceDepth " \x7b" = 1 := by decide
    rw [Line.opening, braceDepth_append, level.1, bracket]
    omega

theorem closing {text : String} (leads : closingLead text = 1) (closes : braceDepth text = -1)
    (depth : Nat) : Line.Moves { depth, text } (depth + 1) depth where
  aligned := by rw [leads]
  moved := by rw [closes]; omega

theorem deeper {line : Line} {start finish : Nat} (moves : line.Moves start finish)
    (units : Nat) :
    Line.Moves { line with depth := units + line.depth } (units + start) (units + finish) where
  aligned := by
    rw [← moves.aligned]
    exact Nat.add_assoc _ _ _
  moved := by
    have moved := moves.moved
    simp only [Int.natCast_add]
    omega

end Line.Moves

/-- Lines that follow the brackets from the depth before them to the depth after them. -/
inductive Tracks : Nat → List Line → Nat → Prop where
  | nil {depth : Nat} : Tracks depth [] depth
  | cons {start next finish : Nat} {line : Line} {rest : List Line}
      (first : line.Moves start next) (others : Tracks next rest finish) :
      Tracks start (line :: rest) finish

namespace Tracks

variable {start next finish : Nat} {line : Line} {lines before after : List Line}

theorem single (moves : line.Moves start finish) : Tracks start [line] finish :=
  .cons moves .nil

theorem append (first : Tracks start before next) (second : Tracks next after finish) :
    Tracks start (before ++ after) finish := by
  induction first with
  | nil => exact second
  | cons moves others ih => exact .cons moves (ih second)

theorem deeper (tracks : Tracks start lines finish) (units : Nat) :
    Tracks (units + start)
      (lines.map fun line => { line with depth := units + line.depth }) (units + finish) := by
  induction tracks with
  | nil => exact .nil
  | cons moves others ih => exact .cons (moves.deeper units) ih

theorem depth_eq (tracks : Tracks start lines finish) :
    start + linesDepth (lines.map Line.text) = finish := by
  induction tracks with
  | nil => exact Int.add_zero _
  | cons moves others ih =>
      simp only [linesDepth, List.map_cons]
      rw [← Int.add_assoc, moves.moved, ih]

theorem split (tracks : Tracks start (before ++ after) finish) :
    ∃ next, Tracks start before next ∧ Tracks next after finish := by
  induction before generalizing start with
  | nil => exact ⟨start, .nil, tracks⟩
  | cons line rest ih =>
      cases tracks with
      | cons moves others =>
          obtain ⟨next, first, second⟩ := ih others
          exact ⟨next, .cons moves first, second⟩

end Tracks

theorem Layout.tracks {ends : String → Prop} {depth : Nat} {lines : List Line}
    (layout : Layout Level ends depth lines) : Tracks depth lines depth := by
  induction layout with
  | nil => exact .nil
  | line made _ _ ih => exact .cons (.level made _) ih
  | block made _ closes _ withinIH ih =>
      have returns : ∀ last ∈ ["\x7d", "\x7d;"],
          closingLead last = 1 ∧ braceDepth last = -1 := by decide
      obtain ⟨leads, closes⟩ := returns _ closes
      exact .cons (.opening made _) (withinIH.append (.cons (.closing leads closes _) ih))

theorem Item.lines_track (item : Item) (given : ∀ text ∈ item.arguments, Level text) :
    Tracks 0 item.lines 0 :=
  (item.lines_layout Level.compositional given).tracks

namespace Frame

def inset (frame : Frame) : Nat :=
  match frame.descent with
  | .indented depth => depth
  | .commented => 0

/-- The lines before a body lead to the depth that it stands at, and those after it back. -/
structure Surrounds (frame : Frame) : Prop where
  opening : Tracks 0 frame.opening frame.inset
  closing : Tracks frame.inset frame.closing 0

theorem enclosed_surrounds {head last : String} (given : Level head)
    (closes : last ∈ ["\x7d", "\x7d;", "\x7d,"]) : (enclosed head last).Surrounds where
  opening := .single (.opening given 0)
  closing := by
    have returns : ∀ last ∈ ["\x7d", "\x7d;", "\x7d,"],
        closingLead last = 1 ∧ braceDepth last = -1 := by decide
    obtain ⟨leads, closes⟩ := returns last closes
    exact .single (.closing leads closes 0)

/-- The first branch is empty: the line between the branches closes one and opens the other. -/
theorem elseBranch_surrounds {condition : String} (given : Level condition) :
    (elseBranch condition).Surrounds where
  opening := by
    have between : (Line.opening 0 "\x7d else").Moves 1 1 := ⟨by decide, by decide⟩
    exact .cons (.opening (Level.compositional.after given) 0) (.single between)
  closing := .single (.closing (by decide) (by decide) 0)

theorem closure_surrounds {name type : String} (first : Level name) (second : Level type) :
    (closure name type).Surrounds where
  opening := by
    have call : Level (name ++ ".get(||") := first.append (by decide)
    have entry := (Item.lazyStaticLines_layout Level.compositional first second).tracks
    exact entry.append <|
      .cons (.opening (by decide) 0) (.single (.opening call 1))
  closing := .cons (.closing (by decide) (by decide) 1) <|
    .single (.closing (by decide) (by decide) 0)

theorem MadeOf.surrounds {frame : Frame} (made : frame.MadeOf Level) : frame.Surrounds := by
  cases made with
  | commented => exact ⟨.nil, .nil⟩
  | enclosed given closes => exact enclosed_surrounds given closes
  | elseBranch given => exact elseBranch_surrounds given
  | closure first second => exact closure_surrounds first second

end Frame

end RustScribe
