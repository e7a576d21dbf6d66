import RustScribe.Proofs.Shape

namespace RustScribe

namespace Text

/-- The last character is no white space. -/
def EndsVisibly (text : String) : Prop :=
  ∃ char ∈ text.toList.getLast?, isBlank char = false

instance (text : String) : Decidable (EndsVisibly text) :=
  decidable_of_iff (text.toList.getLast?.any fun char => !isBlank char)
    (by simp [EndsVisibly, Option.any_eq_true])

variable {text : String}

theorem EndsVisibly.after (ends : EndsVisibly text) (start : String) :
    EndsVisibly (start ++ text) := by
  obtain ⟨char, last, visible⟩ := ends
  refine ⟨char, ?_, visible⟩
  rw [String.toList_append, List.getLast?_append, Option.mem_def.mp last]
  rfl

theorem EndsVisibly.ne_empty (ends : EndsVisibly text) : text ≠ "" := by
  rintro rfl
  obtain ⟨char, last, -⟩ := ends
  simp at last

end Text

open Text

namespace Item

/-- The texts that a construct hands on up to the end of a line. -/
def handedOn : Item → List String
  | .line text | .comment text => [text]
  | .blockComment texts => texts
  | _ => []

/-- How a construct ends a line: with a visible character of its own or with a text that
it hands on, as it stands or behind a mark. A header has blank lines. -/
inductive Ends : Item → String → Prop
  | visibly {item : Item} {text : String} (visible : EndsVisibly text) : Ends item text
  | marked {item : Item} {mark text : String} (given : text ∈ item.handedOn) (written : text ≠ "")
      (isMark : mark ∈ ["// ", " * "]) : Ends item (mark ++ text)
  | bare (text : String) : Ends (.line text) text
  | blank : Ends .header ""

end Item

/-- Lines at a depth, with properties of their texts and of how they end, and among them blocks
with deeper lines inside. -/
inductive Layout (holds ends : String → Prop) : Nat → List Line → Prop where
  | nil {depth : Nat} : Layout holds ends depth []
  | line {depth : Nat} {text : String} {rest : List Line} (made : holds text) (ended : ends text)
      (others : Layout holds ends depth rest) : Layout holds ends depth ({ depth, text } :: rest)
  | block {depth : Nat} {head last : String} {inside rest : List Line} (made : holds head)
      (within : Layout holds ends (depth + 1) inside) (closes : last ∈ ["\x7d", "\x7d;"])
      (others : Layout holds ends depth rest) :
      Layout holds ends depth
        (Line.opening depth head :: (inside ++ { depth, text := last } :: rest))

namespace Layout

variable {holds ends other shown : String → Prop} {depth : Nat} {lines before after : List Line}

theorem single {text : String} (made : holds text) (ended : ends text) :
    Layout holds ends depth [{ depth, text }] :=
  .line made ended .nil

theorem flat (each : ∀ line ∈ lines, line.depth = depth ∧ holds line.text ∧ ends line.text) :
    Layout holds ends depth lines := by
  induction lines with
  | nil => exact .nil
  | cons line rest ih =>
      obtain ⟨rfl, made, ended⟩ := each line List.mem_cons_self
      exact .line made ended (ih fun other member => each other (List.mem_cons_of_mem _ member))

theorem append (first : Layout holds ends depth before) (second : Layout holds ends depth after) :
    Layout holds ends depth (before ++ after) := by
  induction first with
  | nil => exact second
  | line made ended _ ih => exact .line made ended (ih second)
  | block made within closes _ _ ih =>
      rw [List.cons_append, List.append_assoc]
      exact .block made within closes (ih second)

theorem mono (layout : Layout holds ends depth lines)
    (implies : ∀ {text : String}, ends text → other text) : Layout holds other depth lines := by
  induction layout with
  | nil => exact .nil
  | line made ended _ ih => exact .line made (implies ended) ih
  | block made _ closes _ withinIH ih => exact .block made withinIH closes ih

/-- What all lines and the lines around blocks have, every line has. -/
theorem forall_mem (layout : Layout holds ends depth lines)
    (line : ∀ {text : String}, holds text → ends text → shown text)
    (opening : ∀ {head : String}, holds head → shown (head ++ " \x7b"))
    (closing : ∀ last ∈ ["\x7d", "\x7d;"], shown last) : ∀ line ∈ lines, shown line.text := by
  induction layout with
  | nil => exact fun _ member => absurd member List.not_mem_nil
  | line made ended _ ih => exact List.forall_mem_cons.mpr ⟨line made ended, ih⟩
  | block made _ closes _ withinIH ih =>
      exact List.forall_mem_cons.mpr ⟨opening made, List.forall_mem_append.mpr
        ⟨withinIH, List.forall_mem_cons.mpr ⟨closing _ closes, ih⟩⟩⟩

end Layout

namespace Item

variable {holds : String → Prop}

theorem headerLines_layout (compositional : Compositional holds) :
    Layout holds header.Ends 0 headerLines := by
  have lints : ∀ lint ∈ suppressedLints, IsFixed lint := by decide +kernel
  refine .flat fun line member => ?_
  simp only [headerLines, List.mem_append, List.mem_map] at member
  obtain marks | ⟨lint, listed, rfl⟩ := member
  · obtain ⟨flat, isFixed, ended⟩ :
        line.depth = 0 ∧ IsFixed line.text ∧ (EndsVisibly line.text ∨ line.text = "") := by
      revert line
      decide +kernel
    refine ⟨flat, compositional.fixed isFixed, ?_⟩
    rcases ended with visible | blank
    · exact .visibly visible
    · rw [blank]
      exact .blank
  · exact ⟨rfl, compositional.enclose (by decide +kernel) (compositional.fixed (lints lint listed)),
      .visibly (.after (by decide) _)⟩

theorem lazyStaticLines_layout (compositional : Compositional holds) {name type : String}
    (first : holds name) (second : holds type) :
    Layout holds EndsVisibly 0 (lazyStaticLines name type) :=
  .block (compositional.ended (compositional.follow (compositional.after first) second))
    (.line (compositional.ended (compositional.follow compositional.fixed compositional.fixed))
      (.after (by decide) _) <|
    .line (compositional.ended (compositional.follow compositional.fixed
      (compositional.after second))) (.after (by decide) _) .nil)
    (by simp) .nil

/-- The lines of a construct, one case for each template. -/
theorem lines_layout (compositional : Compositional holds) (item : Item)
    (given : ∀ text ∈ item.arguments, holds text) : Layout holds item.Ends 0 item.lines := by
  have visibly {start last : String} (visible : EndsVisibly last) : item.Ends (start ++ last) :=
    .visibly (visible.after start)
  cases item with
  | line text => exact .single (given text (by simp [arguments])) (.bare text)
  | header => exact headerLines_layout compositional
  | todo text | wireTypeError text =>
      exact .single (compositional.enclose (by decide +kernel) (given text (by simp [arguments])))
        (visibly (by decide))
  | unimplemented => exact .single compositional.fixed (.visibly (by decide))
  | pubConst name type init =>
      obtain ⟨first, second, third⟩ : holds name ∧ holds type ∧ holds init := by
        simpa [arguments] using given
      exact .single (compositional.ended (compositional.follow
        (compositional.follow (compositional.after first) second) third)) (visibly (by decide))
  | lazyStatic name type =>
      obtain ⟨first, second⟩ : holds name ∧ holds type := by simpa [arguments] using given
      exact (lazyStaticLines_layout compositional first second).mono .visibly
  | lazyStaticFrom name type init =>
      obtain ⟨first, second, third⟩ : holds name ∧ holds type ∧ holds init := by
        simpa [arguments] using given
      have fetched : holds (".get(" ++ init ++ ")") :=
        compositional.enclose (by decide +kernel) third
      have call : holds (name ++ ".get(" ++ init ++ ")") := by
        simpa only [String.append_assoc] using compositional.append first fetched
      exact ((lazyStaticLines_layout compositional first second).mono .visibly).append <|
        .block compositional.fixed (.single call (visibly (by decide))) (by simp) .nil
  | unsafeImpl first second =>
      obtain ⟨first, second⟩ : holds first ∧ holds second := by simpa [arguments] using given
      exact .single (compositional.ended (compositional.follow (compositional.after first) second))
        (visibly (by decide))
  | fnDecl signature =>
      exact .single (compositional.ended (compositional.after
        (given signature (by simp [arguments])))) (visibly (by decide))
  | fieldValue name value | fieldDecl name value =>
      obtain ⟨first, second⟩ : holds name ∧ holds value := by simpa [arguments] using given
      exact .single (compositional.ended (compositional.follow first second)) (visibly (by decide))
  | pubFieldDecl name type =>
      obtain ⟨first, second⟩ : holds name ∧ holds type := by simpa [arguments] using given
      exact .single (compositional.ended (compositional.follow (compositional.after first) second))
        (visibly (by decide))
  | derive texts | allow texts =>
      have list : holds (",".intercalate texts) :=
        compositional.intercalate compositional.fixed given
      exact .single (compositional.enclose (by decide +kernel) list) (visibly (by decide))
  | comment text =>
      have given := given text (by simp [arguments])
      by_cases empty : text = ""
      · subst empty
        exact .single compositional.fixed (.visibly (by decide))
      · have written : Line.comment text = { text := "// " ++ text } := by
          simp [Line.comment, empty]
        rw [lines, written]
        exact .single (compositional.after given) (.marked (by simp [handedOn]) empty (by decide))
  | blockComment texts =>
      refine .flat fun line member => ?_
      simp only [lines, List.mem_append, List.mem_singleton, List.mem_map] at member
      rcases member with (rfl | ⟨text, listed, rfl⟩) | rfl
      · exact ⟨rfl, compositional.fixed, .visibly (by decide)⟩
      · by_cases empty : text = ""
        · subst empty
          exact ⟨rfl, compositional.fixed, .visibly (by decide)⟩
        · have written : Line.commented text = { text := " * " ++ text } := by
            simp [Line.commented, empty]
          rw [written]
          exact ⟨rfl, compositional.after (given text listed), .marked listed empty (by decide)⟩
      · exact ⟨rfl, compositional.fixed, .visibly (by decide)⟩
  | armExpr pattern value =>
      obtain ⟨first, second⟩ : holds pattern ∧ holds value := by simpa [arguments] using given
      exact .single (compositional.ended (compositional.follow first second)) (visibly (by decide))
  | assertWireType wireType =>
      have isFixed : IsFixed wireType.variant := by cases wireType <;> decide +kernel
      exact .block (compositional.after (compositional.fixed isFixed))
        (.single compositional.fixed (.visibly (by decide))) (by simp) .nil

end Item

end RustScribe
