import RustScribe.WireType

namespace RustScribe

/-! Rust constructs that hold no generated body: each is a fixed list of lines. -/

/-- A line and how many indentation units further in than its construct it stands. -/
structure Line where
  depth : Nat := 0
  text : String
  deriving Repr, DecidableEq

inductive Item where
  | line (text : String)
  | header
  | todo (message : String)
  | unimplemented
  | pubConst (name type init : String)
  | lazyStatic (name type : String)
  /-- A lazy static and the expression that fetches it, built by a named function. -/
  | lazyStaticFrom (name type init : String)
  | unsafeImpl (subject target : String)
  | fnDecl (signature : String)
  | fieldValue (name value : String)
  | fieldDecl (name type : String)
  | pubFieldDecl (name type : String)
  | derive (traits : List String)
  | allow (lints : List String)
  | comment (text : String)
  | blockComment (lines : List String)
  | armExpr (pattern value : String)
  | wireTypeError (wireType : String)
  | assertWireType (wireType : WireType)
  deriving Repr, DecidableEq

/-- Lints that generated code does not try to satisfy. -/
def suppressedLints : List String :=
  ["box_pointers", "dead_code", "missing_docs", "non_camel_case_types", "non_snake_case",
   "non_upper_case_globals", "trivial_casts", "unsafe_code", "unused_imports", "unused_results"]

namespace Line

/-- A comment without text has no space after its marker. -/
def comment (text : String) : Line :=
  { text := if text.isEmpty then "//" else "// " ++ text }

def commented (text : String) : Line :=
  { text := if text.isEmpty then " *" else " * " ++ text }

def field (depth : Nat) (name value : String) : Line :=
  { depth, text := name ++ ": " ++ value ++ "," }

def opening (depth : Nat) (head : String) : Line :=
  { depth, text := head ++ " \x7b" }

def closing (depth : Nat) : Line :=
  { depth, text := "\x7d" }

def wireTypeError (depth : Nat) (wireType : String) : Line :=
  { depth
    text := "return ::std::result::Result::Err(::protobuf::rt::unexpected_wire_type(" ++
      wireType ++ "));" }

end Line

namespace Item

/-- The marks by which tools know a generated file, and the attributes that
silence lints and formatting in it. -/
def headerLines : List Line :=
  [{ text := "// This file is generated. Do not edit" },
   { text := "// @generated" },
   { text := "" },
   Line.comment "https://github.com/Manishearth/rust-clippy/issues/702",
   { text := "#![allow(unknown_lints)]" },
   { text := "#![allow(clippy)]" },
   { text := "" },
   { text := "#![cfg_attr(rustfmt, rustfmt_skip)]" },
   { text := "" }] ++
  suppressedLints.map fun lint => { text := "#![allow(" ++ lint ++ ")]" }

def lazyStaticLines (name type : String) : List Line :=
  [Line.opening 0 ("static mut " ++ name ++ ": ::protobuf::lazy::Lazy<" ++ type ++
      "> = ::protobuf::lazy::Lazy"),
   Line.field 1 "lock" "::protobuf::lazy::ONCE_INIT",
   Line.field 1 "ptr" ("0 as *const " ++ type),
   { text := "\x7d;" }]

def lines : Item → List Line
  | .line text => [{ text }]
  | .header => headerLines
  | .todo message => [{ text := "panic!(\"TODO: " ++ message ++ "\");" }]
  | .unimplemented => [{ text := "unimplemented!();" }]
  | .pubConst name type init =>
      [{ text := "pub const " ++ name ++ ": " ++ type ++ " = " ++ init ++ ";" }]
  | .lazyStatic name type => lazyStaticLines name type
  | .lazyStaticFrom name type init =>
      lazyStaticLines name type ++
        [Line.opening 0 "unsafe",
         { depth := 1, text := name ++ ".get(" ++ init ++ ")" },
         Line.closing 0]
  | .unsafeImpl subject target =>
      [{ text := "unsafe impl " ++ subject ++ " for " ++ target ++ " \x7b\x7d" }]
  | .fnDecl signature => [{ text := "fn " ++ signature ++ ";" }]
  | .fieldValue name value => [Line.field 0 name value]
  | .fieldDecl name type => [Line.field 0 name type]
  | .pubFieldDecl name type => [Line.field 0 ("pub " ++ name) type]
  | .derive traits => [{ text := "#[derive(" ++ ",".intercalate traits ++ ")]" }]
  | .allow lints => [{ text := "#[allow(" ++ ",".intercalate lints ++ ")]" }]
  | .comment text => [Line.comment text]
  | .blockComment texts =>
      [{ text := "/*" }] ++ texts.map Line.commented ++ [{ text := " */" }]
  | .armExpr pattern value => [{ text := pattern ++ " => " ++ value ++ "," }]
  | .wireTypeError wireType => [Line.wireTypeError 0 wireType]
  | .assertWireType wireType =>
      [Line.opening 0 ("if wire_type != ::protobuf::wire_format::" ++ wireType.variant),
       Line.wireTypeError 1 "wire_type",
       Line.closing 0]

def notice : Item → Option String
  | .header => some "Writing generated file header"
  | _ => none

end Item

end RustScribe
