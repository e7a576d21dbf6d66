import RustScribe.Proofs.Arguments
import RustScribe.Proofs.Brackets

namespace RustScribe

/-- A printable character of ASCII. -/
def isPrintable (char : Char) : Bool :=
  0x20 ≤ char.toNat && char.toNat < 0x7F

/-- A printable text that closes all brackets it opens. -/
def IsFixed (text : String) : Prop :=
  Balanced text ∧ text.toList.all isPrintable = true

instance (text : String) : Decidable (IsFixed text) :=
  inferInstanceAs (Decidable (_ ∧ _))

/-- A property that joining texts keeps, and putting fixed texts around one. -/
structure Compositional (holds : String → Prop) : Prop where
  nothing : holds ""
  append : ∀ {first second : String}, holds first → holds second → holds (first ++ second)
  enclose : ∀ {before after text : String}, IsFixed (before ++ after) → holds text →
    holds (before ++ text ++ after)

namespace Compositional

variable {holds : String → Prop} {start text middle last first second : String}

theorem fixed (compositional : Compositional holds)
    (isFixed : IsFixed text := by decide +kernel) : holds text := by
  have around : holds ("" ++ "" ++ text) :=
    compositional.enclose (by simpa using isFixed) compositional.nothing
  simpa using around

theorem after (compositional : Compositional holds) (given : holds text)
    (isFixed : IsFixed start := by decide +kernel) : holds (start ++ text) :=
  compositional.append (compositional.fixed isFixed) given

theorem ended (compositional : Compositional holds) (given : holds text)
    (isFixed : IsFixed last := by decide +kernel) : holds (text ++ last) :=
  compositional.append given (compositional.fixed isFixed)

theorem follow (compositional : Compositional holds) (one : holds first) (other : holds second)
    (isFixed : IsFixed middle := by decide +kernel) : holds (first ++ middle ++ second) :=
  compositional.append (compositional.ended one isFixed) other

theorem intercalate (compositional : Compositional holds) {separator : String} {texts : List String}
    (between : holds separator) (given : ∀ text ∈ texts, holds text) :
    holds (separator.intercalate texts) := by
  induction texts with
  | nil => exact compositional.nothing
  | cons text rest ih =>
      have first := given text List.mem_cons_self
      have others := ih fun text member => given text (List.mem_cons_of_mem _ member)
      cases rest with
      | nil => simpa using first
      | cons second rest =>
          rw [String.intercalate_cons_cons]
          exact compositional.append (compositional.append first between) others

theorem anything : Compositional fun _ => True :=
  ⟨trivial, fun _ _ => trivial, fun _ _ => trivial⟩

end Compositional

/-- The constructs that fix the lines around their body: all but plain indentation and
plain blocks. -/
def Scope.IsConstruct : Scope → Prop
  | .indented | .block _ _ => False
  | _ => True

namespace Frame

def enclosed (head last : String) : Frame where
  opening := [Line.opening 0 head]
  closing := [{ text := last }]

/-- The frames of constructs, with a property of the texts they are given. -/
inductive MadeOf (holds : String → Prop) : Frame → Prop where
  | commented : MadeOf holds { descent := .commented }
  | enclosed {head last : String} (given : holds head)
      (closes : last ∈ ["\x7d", "\x7d;", "\x7d,"]) : MadeOf holds (.enclosed head last)
  | elseBranch {condition : String} (given : holds condition) :
      MadeOf holds (.elseBranch condition)
  | closure {name type : String} (first : holds name) (second : holds type) :
      MadeOf holds (.closure name type)

namespace MadeOf

variable {holds : String → Prop} {head : String}

theorem braced (given : holds head) : MadeOf holds (.braced head) :=
  .enclosed given (by simp)

theorem terminated (given : holds head) : MadeOf holds (.terminated head) :=
  .enclosed given (by simp)

end MadeOf

end Frame

theorem Scope.frame_madeOf {holds : String → Prop} (compositional : Compositional holds)
    {scope : Scope} (construct : scope.IsConstruct)
    (given : ∀ text ∈ scope.arguments, holds text) : scope.frame.MadeOf holds := by
  cases scope with
  | indented | block first last => exact absurd construct id
  | commented => exact .commented
  | unsafeExpr => exact .braced compositional.fixed
  | exprBlock head => exact .braced (given head (by simp [arguments]))
  | stmtBlock head => exact .terminated (given head (by simp [arguments]))
  | lazyStaticWith name type =>
      exact .closure (given name (by simp [arguments])) (given type (by simp [arguments]))
  | implSelf text | pubStruct text | privStruct text | pubEnum text | pubTrait text
  | privMod text | pubMod text | pubFn text | privFn text | whileLoop text | ifThen text
  | matchExpr text =>
      exact .braced (compositional.after (given text (by simp [arguments])))
  | fnBlock exported text =>
      have signature := given text (by simp [arguments])
      cases exported <;> exact .braced (compositional.after signature)
  | implFor first second | ifLet first second =>
      exact .braced (compositional.follow
        (compositional.after (given first (by simp [arguments])))
        (given second (by simp [arguments])))
  | ifElse condition => exact .elseBranch (given condition (by simp [arguments]))
  | ifLetElse pattern value =>
      exact .elseBranch (compositional.follow
        (compositional.after (given pattern (by simp [arguments])))
        (given value (by simp [arguments])))
  | forLoop iterable binder =>
      exact .terminated (compositional.follow
        (compositional.after (given binder (by simp [arguments])))
        (given iterable (by simp [arguments])))
  | matchStmt value =>
      exact .terminated (compositional.after (given value (by simp [arguments])))
  | arm pattern =>
      exact .enclosed (compositional.ended (given pattern (by simp [arguments]))) (by simp)

theorem Scope.frame_shape {scope : Scope} (construct : scope.IsConstruct) :
    scope.frame.MadeOf fun _ => True :=
  frame_madeOf .anything construct fun _ _ => trivial

end RustScribe
