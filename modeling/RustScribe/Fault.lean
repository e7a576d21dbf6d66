import RustScribe.Text.Charset
import RustScribe.Text.Quoted

namespace RustScribe

namespace Fault

inductive Kind where
  | system
  | brokenPipe
  | permission
  | timeout
  | unsupported
  | badValue
  | badText
  | wrongType
  | runtime
  | endOfInput
  | missingAttribute
  | lookup
  | outOfMemory
  | generator
  | callback
  deriving Repr, DecidableEq

/-- Faults of the operating system and of the text handed over mean that a write
was refused; all others are the sink's own defects. -/
def Kind.isRefusal : Kind → Bool
  | .system | .brokenPipe | .permission | .timeout | .unsupported | .badValue | .badText => true
  | .wrongType | .runtime | .endOfInput | .missingAttribute | .lookup | .outOfMemory
  | .generator | .callback => false

end Fault

inductive Fault where
  | raised (kind : Fault.Kind) (code : Option Int) (text : String)
  | closedBuffer
  | closedStream
  | unencodable (charset : Text.Charset) (run : Text.Charset.BadRun)
  deriving Repr, DecidableEq

namespace Fault

def noSpace : Fault :=
  .raised .system (some 28) "No space left on device"

def isRefusal : Fault → Bool
  | .raised kind _ _ => kind.isRefusal
  | .closedBuffer | .closedStream | .unencodable _ _ => true

def message : Fault → String
  | .raised _ none text => text
  | .raised _ (some code) text => "[Errno " ++ toString code ++ "] " ++ text
  | .closedBuffer => "I/O operation on closed file"
  | .closedStream => "I/O operation on closed file."
  | .unencodable charset run => charset.refusal run

end Fault

/-- What a writer reports: a fault as it arose, or a line that the sink refused,
which leaves the generated unit incomplete. -/
inductive Failure where
  | fault (cause : Fault)
  | refusedLine (line : String) (cause : Fault)
  deriving Repr, DecidableEq

def Failure.message : Failure → String
  | .fault cause => cause.message
  | .refusedLine line cause =>
      "Could not write generated line " ++ Text.quoted line ++ " to the output sink: " ++
        cause.message

end RustScribe
