import RustScribe.Text.Quoted

namespace RustScribe

/-! How the bytes of a serialized protobuf field are laid out, and the three ways
to look a wire type up: by its number, by its variant, by its name. -/

inductive WireType where
  | varint
  | fixed64
  | lengthDelimited
  | startGroup
  | endGroup
  | fixed32
  deriving Repr, DecidableEq

namespace WireType

def all : List WireType :=
  [.varint, .fixed64, .lengthDelimited, .startGroup, .endGroup, .fixed32]

theorem mem_all (wireType : WireType) : wireType ∈ all := by
  cases wireType <;> decide

def number : WireType → Int
  | .varint => 0
  | .fixed64 => 1
  | .lengthDelimited => 2
  | .startGroup => 3
  | .endGroup => 4
  | .fixed32 => 5

/-- The variant of the Rust runtime's `wire_format` module that generated code
refers to. -/
def variant : WireType → String
  | .varint => "WireTypeVarint"
  | .fixed64 => "WireTypeFixed64"
  | .lengthDelimited => "WireTypeLengthDelimited"
  | .startGroup => "WireTypeStartGroup"
  | .endGroup => "WireTypeEndGroup"
  | .fixed32 => "WireTypeFixed32"

def name : WireType → String
  | .varint => "VARINT"
  | .fixed64 => "FIXED64"
  | .lengthDelimited => "LENGTH_DELIMITED"
  | .startGroup => "START_GROUP"
  | .endGroup => "END_GROUP"
  | .fixed32 => "FIXED32"

inductive Unknown where
  | number (sought : Int)
  | variant (sought : String)
  | name (sought : String)
  deriving Repr, DecidableEq

def Unknown.message : Unknown → String
  | .number sought => "unknown wire type number: " ++ toString sought
  | .variant sought => Text.quoted sought ++ " is not a valid WireType"
  | .name sought => Text.quoted sought

def ofNumber (sought : Int) : Except Unknown WireType :=
  match all.find? fun wireType => wireType.number == sought with
  | some wireType => .ok wireType
  | none => .error (.number sought)

def ofVariant (sought : String) : Except Unknown WireType :=
  match all.find? fun wireType => wireType.variant == sought with
  | some wireType => .ok wireType
  | none => .error (.variant sought)

def ofName (sought : String) : Except Unknown WireType :=
  match all.find? fun wireType => wireType.name == sought with
  | some wireType => .ok wireType
  | none => .error (.name sought)

end WireType

end RustScribe
