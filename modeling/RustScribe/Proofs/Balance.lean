import RustScribe.Proofs.Layout

namespace RustScribe

namespace Balanced

variable {before text after : String}

theorem nothing : Balanced "" :=
  WellNested.nil

theorem append (first : Balanced before) (second : Balanced after) :
    Balanced (before ++ after) := by
  unfold Balanced at *
  rw [String.toList_append]
  exact WellNested.append first second

theorem insert (around : Balanced (before ++ after)) (nested : Balanced text) :
    Balanced (before ++ text ++ after) := by
  unfold Balanced at *
  rw [String.toList_append] at around
  rw [String.toList_append, String.toList_append, List.append_assoc]
  exact around.insert nested

/-- A construct that opens a bracket after its head and closes it after what is inside. -/
theorem enclose {head : String} (first : Balanced head) (opening closing : String)
    (brackets : Balanced (opening ++ closing)) (inside : Balanced text) :
    Balanced (head ++ opening ++ text ++ closing) := by
  have whole := first.append (brackets.insert inside)
  simpa only [String.append_assoc] using whole

end Balanced

theorem Balanced.compositional : Compositional Balanced where
  nothing := Balanced.nothing
  append := Balanced.append
  enclose isFixed := Balanced.insert isFixed.1

section margins

variable {margin : Margin}

theorem advance_blank {char : Char} (blank : Text.isBlank char = true) (owed : List Char) :
    advance owed char = some owed := by
  have opensNone : closing? char = none := by
    unfold closing?
    split <;> first | rfl | exact absurd blank (by decide)
  have closesNone : isClosing char = false := by
    simp only [isClosing, Bool.or_eq_false_iff, beq_eq_false_iff_ne, ne_eq]
    refine ⟨⟨?_, ?_⟩, ?_⟩ <;> rintro rfl <;> exact absurd blank (by decide)
  simp [advance, opensNone, closesNone]

theorem scan_trimEndChars (owed chars : List Char) :
    scan owed (Text.trimEndChars chars) = scan owed chars := by
  induction chars generalizing owed with
  | nil => rfl
  | cons char rest ih =>
      simp only [Text.trimEndChars]
      split
      · next trimmed =>
          simp only [Bool.and_eq_true, List.isEmpty_iff] at trimmed
          rw [scan_cons, advance_blank trimmed.2, Option.bind_some, ← ih, trimmed.1]
      · simp only [scan_cons, ih]

theorem Balanced.indentBy (balanced : Balanced margin) (depth : Nat) :
    Balanced (margin.indentBy depth) := by
  induction depth generalizing margin with
  | zero => exact balanced
  | succ depth ih => exact ih (balanced.append (by decide))

theorem Balanced.descend (balanced : Balanced margin) (descent : Margin.Descent) :
    Balanced (margin.descend descent) := by
  cases descent with
  | indented depth => exact balanced.indentBy depth
  | commented => exact Balanced.append (by decide) balanced

/-- A balanced margin does not show in a scan. -/
theorem scan_render (balanced : Balanced margin) (owed : List Char) (line : String) :
    scan owed (margin.render line).toList = scan owed line.toList := by
  have newline : WellNested "\n".toList := by decide
  by_cases empty : line = ""
  · subst empty
    rw [Margin.render_empty, String.toList_append, Text.toList_trimEnd, scan_append,
      scan_trimEndChars, WellNested.scan balanced, Option.bind_some, newline.scan]
    rfl
  · rw [Margin.render_of_ne empty]
    simp only [String.toList_append, scan_append, WellNested.scan balanced, Option.bind_some,
      newline.scan, Option.bind_fun_some]

end margins

namespace Line

def content (lines : List Line) : String :=
  String.join (lines.map Line.text)

@[simp] theorem content_nil : content [] = "" := rfl

@[simp] theorem content_cons (line : Line) (rest : List Line) :
    content (line :: rest) = line.text ++ content rest := by
  simp [content]

@[simp] theorem content_append (left right : List Line) :
    content (left ++ right) = content left ++ content right := by
  simp [content]

theorem content_singleton (line : Line) : content [line] = line.text := by
  simp

def rendered (margin : Margin) (lines : List Line) : List String :=
  lines.map fun line => (margin.indentBy line.depth).render line.text

theorem scan_rendered {margin : Margin} (balanced : Balanced margin) (owed : List Char)
    (lines : List Line) :
    scan owed (String.join (rendered margin lines)).toList = scan owed (content lines).toList := by
  induction lines generalizing owed with
  | nil => rfl
  | cons line rest ih =>
      simp only [String.toList_join, rendered, content] at ih
      simp only [String.toList_join, rendered, content, List.map_cons, List.flatMap_cons,
        scan_append, scan_render (balanced.indentBy line.depth), ih]

end Line

theorem Layout.content_balanced {ends : String → Prop} {depth : Nat} {lines : List Line}
    (layout : Layout Balanced ends depth lines) : Balanced (Line.content lines) := by
  induction layout with
  | nil => exact .nothing
  | line made _ _ ih =>
      rw [Line.content_cons]
      exact made.append ih
  | @block _ _ last _ _ made _ closes _ withinIH ih =>
      have brackets : ∀ last ∈ ["\x7d", "\x7d;"], Balanced (" \x7b" ++ last) := by decide
      have whole := (made.enclose " \x7b" last (brackets last closes) withinIH).append ih
      simpa only [Line.opening, Line.content_cons, Line.content_append, String.append_assoc]
        using whole

theorem Item.content_balanced (item : Item) (given : ∀ text ∈ item.arguments, Balanced text) :
    Balanced (Line.content item.lines) :=
  (item.lines_layout Balanced.compositional given).content_balanced

/-- What the lines before a body open, the lines after it close. -/
def Frame.Closes (frame : Frame) : Prop :=
  Balanced (Line.content frame.opening ++ Line.content frame.closing)

namespace Frame

theorem enclosed_closes {head last : String} (given : Balanced head)
    (brackets : Balanced (" \x7b" ++ last)) : (enclosed head last).Closes := by
  have whole := given.enclose " \x7b" last brackets .nothing
  simpa only [Closes, enclosed, Line.opening, Line.content_singleton, String.append_empty]
    using whole

theorem elseBranch_closes {condition : String} (given : Balanced condition) :
    (elseBranch condition).Closes := by
  have head : Balanced ("if " ++ condition) := .append (by decide) given
  have whole := head.enclose (" \x7b" ++ "\x7d else" ++ " \x7b") "\x7d" (by decide) .nothing
  simpa only [Closes, elseBranch, Line.opening, Line.closing, Line.content_cons,
    Line.content_nil, String.append_empty, String.append_assoc] using whole

theorem closure_closes {name type : String} (first : Balanced name) (second : Balanced type) :
    (closure name type).Closes := by
  have call : Balanced ("unsafe \x7b" ++ name ++ (".get(|| \x7b" ++ "\x7d)" ++ "\x7d")) :=
    .insert (by decide) first
  have entry := (Item.lazyStaticLines_layout Balanced.compositional first second).content_balanced
  have whole := entry.append call
  simpa [Closes, closure, Line.opening, Line.closing, String.append_assoc] using whole

theorem MadeOf.closes {frame : Frame} (made : frame.MadeOf Balanced) : frame.Closes := by
  cases made with
  | commented => exact WellNested.nil
  | enclosed given closes =>
      have brackets : ∀ last ∈ ["\x7d", "\x7d;", "\x7d,"], Balanced (" \x7b" ++ last) := by decide
      exact enclosed_closes given (brackets _ closes)
  | elseBranch given => exact elseBranch_closes given
  | closure first second => exact closure_closes first second

end Frame

namespace Scope

/-- The texts of a scope are balanced; those of a plain block need be so only together. -/
def BalancedTexts : Scope → Prop
  | .block first last => Balanced (first ++ last)
  | scope => ∀ text ∈ scope.arguments, Balanced text

theorem frame_closes (scope : Scope) (given : scope.BalancedTexts) : scope.frame.Closes := by
  cases scope with
  | indented => exact WellNested.nil
  | block first last =>
      rw [Frame.Closes, frame, Line.content_singleton, Line.content_singleton]
      exact given
  | _ => exact (frame_madeOf Balanced.compositional (by trivial) given).closes

end Scope

end RustScribe
