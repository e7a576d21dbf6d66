import RustScribe.Construct.Item
import RustScribe.Margin

namespace RustScribe

/-! Rust constructs around a generated body. Each has a frame: the lines before
the body, the lines after it, and the margin the body is written at. -/

inductive Scope where
  | indented
  | commented
  | block (first last : String)
  /-- A block that needs no terminator: an item or an expression. -/
  | exprBlock (head : String)
  /-- A block that ends a statement. -/
  | stmtBlock (head : String)
  | unsafeExpr
  /-- A lazy static and the expression that fetches it, built by the body. -/
  | lazyStaticWith (name type : String)
  | implSelf (name : String)
  | implFor (trait type : String)
  | pubStruct (name : String)
  | privStruct (name : String)
  | pubEnum (name : String)
  | pubTrait (name : String)
  | privMod (name : String)
  | pubMod (name : String)
  | fnBlock (exported : Bool) (signature : String)
  | pubFn (signature : String)
  | privFn (signature : String)
  | whileLoop (condition : String)
  | ifThen (condition : String)
  /-- The body fills the second branch; the first is empty. -/
  | ifElse (condition : String)
  | ifLet (pattern value : String)
  | ifLetElse (pattern value : String)
  | forLoop (iterable binder : String)
  | matchStmt (value : String)
  | matchExpr (value : String)
  | arm (pattern : String)
  deriving Repr, DecidableEq

structure Frame where
  opening : List Line := []
  closing : List Line := []
  descent : Margin.Descent := .indented 1
  deriving Repr, DecidableEq

namespace Frame

def braced (head : String) : Frame where
  opening := [Line.opening 0 head]
  closing := [Line.closing 0]

def terminated (head : String) : Frame where
  opening := [Line.opening 0 head]
  closing := [{ text := "\x7d;" }]

/-- Bails out through the second branch unless a condition holds. -/
def elseBranch (condition : String) : Frame where
  opening := [Line.opening 0 ("if " ++ condition), Line.opening 0 "\x7d else"]
  closing := [Line.closing 0]

/-- The body is that of a closure inside a braced expression, two units in. -/
def closure (name type : String) : Frame where
  opening := Item.lazyStaticLines name type ++
    [Line.opening 0 "unsafe", Line.opening 1 (name ++ ".get(||")]
  closing := [{ depth := 1, text := "\x7d)" }, Line.closing 0]
  descent := .indented 2

end Frame

def Scope.frame : Scope → Frame
  | .indented => {}
  | .commented => { descent := .commented }
  | .block first last => { opening := [{ text := first }], closing := [{ text := last }] }
  | .exprBlock head => .braced head
  | .stmtBlock head => .terminated head
  | .unsafeExpr => .braced "unsafe"
  | .lazyStaticWith name type => .closure name type
  | .implSelf name => .braced ("impl " ++ name)
  | .implFor trait type => .braced ("impl " ++ trait ++ " for " ++ type)
  | .pubStruct name => .braced ("pub struct " ++ name)
  | .privStruct name => .braced ("struct " ++ name)
  | .pubEnum name => .braced ("pub enum " ++ name)
  | .pubTrait name => .braced ("pub trait " ++ name)
  | .privMod name => .braced ("mod " ++ name)
  | .pubMod name => .braced ("pub mod " ++ name)
  | .fnBlock true signature => .braced ("pub fn " ++ signature)
  | .fnBlock false signature => .braced ("fn " ++ signature)
  | .pubFn signature => .braced ("pub fn " ++ signature)
  | .privFn signature => .braced ("fn " ++ signature)
  | .whileLoop condition => .braced ("while " ++ condition)
  | .ifThen condition => .braced ("if " ++ condition)
  | .ifElse condition => .elseBranch condition
  | .ifLet pattern value => .braced ("if let " ++ pattern ++ " = " ++ value)
  | .ifLetElse pattern value => .elseBranch ("let " ++ pattern ++ " = " ++ value)
  | .forLoop iterable binder => .terminated ("for " ++ binder ++ " in " ++ iterable)
  | .matchStmt value => .terminated ("match " ++ value)
  | .matchExpr value => .braced ("match " ++ value)
  | .arm pattern =>
      { opening := [Line.opening 0 (pattern ++ " =>")], closing := [{ text := "\x7d," }] }

end RustScribe
