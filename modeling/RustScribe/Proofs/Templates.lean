import RustScribe.Proofs.Lineage
import RustScribe.Proofs.Layout

namespace RustScribe

structure Inheritable (holds : String → Prop) : Prop where
  printable : ∀ text : String, text.toList.all isPrintable = true → holds text
  append : ∀ {first second : String}, holds first → holds second → holds (first ++ second)

/-- That a text is fixed, or given, is found by computation unless a proof is handed over. -/
inductive Woven (given : List String) : String → Prop where
  | fixed {text : String} (printable : text.toList.all isPrintable = true := by decide +kernel) :
      Woven given text
  | given {text : String}
      (member : text ∈ given := by simp [Item.arguments, Scope.arguments]) : Woven given text
  | join {first second : String} (one : Woven given first) (other : Woven given second) :
      Woven given (first ++ second)

namespace Woven

variable {given : List String} {text first second : String}

/-- What fixed texts and arguments have, and joining keeps, is a property of all they weave. -/
theorem inherits {holds : String → Prop} (inheritable : Inheritable holds)
    (woven : Woven given text) (arguments : ∀ text ∈ given, holds text) : holds text := by
  induction woven with
  | fixed printable => exact inheritable.printable _ printable
  | given member => exact arguments _ member
  | join one other oneIH otherIH => exact inheritable.append oneIH otherIH

theorem compositional (given : List String) : Compositional (Woven given) where
  nothing := .fixed
  append := .join
  enclose := by
    intro before after text isFixed inside
    have printable := isFixed.2
    rw [String.toList_append, List.all_append, Bool.and_eq_true] at printable
    exact ((fixed printable.1).join inside).join (.fixed printable.2)

theorem opening (depth : Nat) (head : Woven given text) :
    Woven given (Line.opening depth text).text :=
  head.join .fixed

end Woven

theorem Layout.woven {given : List String} {ends : String → Prop} {depth : Nat} {lines : List Line}
    (layout : Layout (Woven given) ends depth lines) : ∀ line ∈ lines, Woven given line.text := by
  have brackets : ∀ last ∈ ["\x7d", "\x7d;"], last.toList.all isPrintable = true := by decide
  exact layout.forall_mem (fun made _ => made) (fun made => made.join .fixed)
    fun last closes => .fixed (brackets last closes)

theorem Item.lines_woven (item : Item) {line : Line} (member : line ∈ item.lines) :
    Woven item.arguments line.text :=
  (item.lines_layout (Woven.compositional _) fun _ listed => .given listed).woven line member

theorem Frame.MadeOf.woven {given : List String} {frame : Frame} (made : frame.MadeOf (Woven given))
    {line : Line} (member : line ∈ frame.opening ∨ line ∈ frame.closing) :
    Woven given line.text := by
  cases made with
  | commented => simp at member
  | @enclosed head last heads closes =>
      have brackets : ∀ last ∈ ["\x7d", "\x7d;", "\x7d,"],
          last.toList.all isPrintable = true := by decide
      simp only [Frame.enclosed, List.mem_singleton] at member
      rcases member with rfl | rfl
      · exact .opening 0 heads
      · exact .fixed (brackets _ closes)
  | elseBranch condition =>
      simp only [Frame.elseBranch, List.mem_cons, List.not_mem_nil, or_false] at member
      rcases member with (rfl | rfl) | rfl
      · exact .opening 0 (.join .fixed condition)
      · exact .fixed
      · exact .fixed
  | closure name type =>
      have entries :=
        (Item.lazyStaticLines_layout (Woven.compositional given) name type).woven
      simp only [Frame.closure, List.mem_append, List.mem_cons, List.not_mem_nil,
        or_false] at member
      rcases member with (entry | rfl | rfl) | rfl | rfl
      · exact entries line entry
      · exact .fixed
      · exact .opening 1 (name.join .fixed)
      · exact .fixed
      · exact .fixed

theorem Scope.frame_woven (scope : Scope) {line : Line}
    (member : line ∈ scope.frame.opening ∨ line ∈ scope.frame.closing) :
    Woven scope.arguments line.text := by
  have made (construct : scope.IsConstruct) : scope.frame.MadeOf (Woven scope.arguments) :=
    frame_madeOf (Woven.compositional _) construct fun _ listed => .given listed
  cases scope with
  | indented => simp [frame] at member
  | block first last =>
      simp only [frame, List.mem_singleton] at member
      rcases member with rfl | rfl <;> exact .given
  | _ => exact (made trivial).woven member

namespace Inheritable

variable {holds : String → Prop} {margin : Margin}

theorem indentBy (inheritable : Inheritable holds) (start : holds margin) (depth : Nat) :
    holds (margin.indentBy depth) := by
  induction depth generalizing margin with
  | zero => exact start
  | succ depth ih => exact ih (inheritable.append start (inheritable.printable _ (by decide)))

theorem descend (inheritable : Inheritable holds) (start : holds margin)
    (descent : Margin.Descent) : holds (margin.descend descent) := by
  cases descent with
  | indented depth => exact inheritable.indentBy start depth
  | commented => exact inheritable.append (inheritable.printable _ (by decide)) start

end Inheritable

/-- A property of the margin that a writer is used with, and of the line it is used for. -/
def Use.Shows (holds : String → Prop) (use : Use Lineage) : Prop :=
  holds use.writer.margin ∧ ∀ line ∈ use.line, holds line

theorem Line.uses_show {holds : String → Prop} (inheritable : Inheritable holds) {writer : Lineage}
    (start : holds writer.margin) {lines : List Line} (texts : ∀ line ∈ lines, holds line.text) :
    ∀ use ∈ Line.uses writer lines, use.Shows holds := by
  intro use used
  obtain ⟨line, member, rfl⟩ := List.mem_map.mp used
  refine ⟨?_, fun text shown => ?_⟩
  · rw [Lineage.margin_deeper]
    exact inheritable.indentBy start line.depth
  · cases shown
    exact texts line member

theorem Nest.forall_inner {Writer : Type} (holds : Writer → Prop) {writer : Writer}
    {outer : Nest Writer} (inside : holds writer) (outside : ∀ up, holds (outer.writer up)) :
    ∀ up, holds ((Nest.inner writer outer).writer up)
  | 0 => inside
  | up + 1 => outside up

namespace Script

/-- A property of the texts of all constructs and of the margins of all new writers. -/
def Given (holds : String → Prop) (script : Script) : Prop :=
  script.Throughout fun
    | .emit _ item => ∀ text ∈ item.arguments, holds text
    | .within _ scope _ => ∀ text ∈ scope.arguments, holds text
    | .afresh margin _ => holds margin
    | _ => True

variable {holds : String → Prop}

theorem uses_show (inheritable : Inheritable holds) {script : Script} (given : script.Given holds)
    {nest : Nest Lineage} (margins : ∀ up, holds (nest.writer up).margin) :
    ∀ use ∈ script.uses nest, use.Shows holds := by
  have inner {writer : Lineage} {outer : Nest Lineage} (inside : holds writer.margin)
      (outside : ∀ up, holds (outer.writer up).margin) :=
    Nest.forall_inner (fun writer : Lineage => holds writer.margin) inside outside
  induction script generalizing nest with
  | skip | raise fault | close => exact fun _ used => absurd used List.not_mem_nil
  | seq first second firstIH secondIH =>
      intro use used
      exact (List.mem_append.mp used).elim (firstIH given.1 margins use)
        (secondIH given.2 margins use)
  | emit up item =>
      exact Line.uses_show inheritable (margins up) fun line member =>
        (item.lines_woven member).inherits inheritable given
  | within up scope body ih =>
      have framed {lines : List Line}
          (frame : ∀ line ∈ lines, line ∈ scope.frame.opening ∨ line ∈ scope.frame.closing) :=
        Line.uses_show inheritable (margins up) fun line member =>
          (scope.frame_woven (frame line member)).inherits inheritable given.1
      have descended : holds ((nest.writer up).enter scope).margin := by
        rw [Lineage.margin_enter]
        exact inheritable.descend (margins up) scope.frame.descent
      intro use used
      rcases List.mem_append.mp used with opening | later
      · exact framed (fun _ => .inl) use opening
      rcases List.mem_append.mp later with inside | closing
      · exact ih given.2 (inner descended margins) use inside
      · exact framed (fun _ => .inr) use closing
  | showMargin up =>
      intro use used
      cases List.mem_singleton.mp used
      exact ⟨margins up, fun _ shown => nomatch shown⟩
  | attempt body ih => exact ih given.2 margins
  | afresh margin body ih => exact ih given.2 (inner given.1 margins)

/-- A script that is given texts and margins with a property asks a sink for nothing else. -/
theorem asked_holds (inheritable : Inheritable holds) {script : Script} (given : script.Given holds)
    {nest : Nest Margin} (margins : ∀ up, holds (nest.writer up)) (sink : Sink) :
    ∀ request ∈ (script.run nest sink).asked, holds request.1 ∧ holds request.2 := by
  rintro ⟨margin, line⟩ asked
  have lineages (up : Nat) : holds (nest.lineages.writer up).margin := by
    rw [Nest.lineages, Nest.writer_map]
    exact margins up
  rw [← nest.lineages_margin] at asked
  obtain ⟨writer, used, rfl⟩ := exists_use asked
  have shows := uses_show inheritable given lineages _ used
  exact ⟨shows.1, shows.2 line rfl⟩

end Script

end RustScribe
