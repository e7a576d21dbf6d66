import RustScribe.Text.Hex

namespace RustScribe.Text.Utf8

/-! Reading UTF-8. A text is refused at the first byte that starts no character,
with the bytes of the broken sequence up to the first that cannot belong to it. -/

def encode (text : String) : List UInt8 :=
  text.toList.flatMap String.utf8EncodeChar

/-- How many continuation bytes follow a first byte; none for a byte that can
start no character. -/
def tailCount? (lead : UInt8) : Option Nat :=
  if lead < 0x80 then some 0
  else if lead < 0xC2 then none
  else if lead < 0xE0 then some 1
  else if lead < 0xF0 then some 2
  else if lead < 0xF5 then some 3
  else none

def isContinuation (byte : UInt8) : Bool :=
  0x80 ≤ byte && byte ≤ 0xBF

/-- The second byte is bounded further after four first bytes, so that no
character has a longer form than it needs, is a surrogate, or lies beyond the
last code point. -/
def fitsSecond (lead second : UInt8) : Bool :=
  isContinuation second &&
    (lead != 0xE0 || 0xA0 ≤ second) && (lead != 0xED || second ≤ 0x9F) &&
    (lead != 0xF0 || 0x90 ≤ second) && (lead != 0xF4 || second ≤ 0x8F)

/-- The continuation bytes up to the first that does not fit. -/
def fittingTails (lead : UInt8) : List UInt8 → List UInt8
  | [] => []
  | second :: others =>
      if fitsSecond lead second then second :: others.takeWhile isContinuation else []

def assemble (lead : UInt8) (tails : List UInt8) : Char :=
  let payload := if tails = [] then lead.toNat else lead.toNat % Nat.pow 2 (6 - tails.length)
  Char.ofNat (tails.foldl (fun code byte => code * 64 + byte.toNat % 64) payload)

inductive Reason where
  | invalidStart
  | invalidContinuation
  | endOfData
  deriving Repr, DecidableEq

def Reason.message : Reason → String
  | .invalidStart => "invalid start byte"
  | .invalidContinuation => "invalid continuation byte"
  | .endOfData => "unexpected end of data"

/-- A sequence that is no character: where it starts, its first byte, and how
many of the bytes after it fit. -/
structure Malformed where
  start : Nat
  lead : UInt8
  tails : Nat
  reason : Reason
  deriving Repr, DecidableEq

def Malformed.message (bad : Malformed) : String :=
  "'utf-8' codec can't decode " ++
    (if bad.tails = 0 then
      "byte 0x" ++ String.ofList (hexDigits 2 bad.lead.toNat) ++ " in position " ++
        toString bad.start
    else
      "bytes in position " ++ toString bad.start ++ "-" ++ toString (bad.start + bad.tails)) ++
    ": " ++ bad.reason.message

/-- Reads the bytes that start at offset `start`. -/
def decodeFrom (start : Nat) : List UInt8 → Except Malformed (List Char)
  | [] => .ok []
  | lead :: rest =>
      match tailCount? lead with
      | none => .error { start, lead, tails := 0, reason := .invalidStart }
      | some count =>
          let tails := fittingTails lead (rest.take count)
          if tails.length = count then
            match decodeFrom (start + 1 + count) (rest.drop count) with
            | .ok chars => .ok (assemble lead tails :: chars)
            | .error bad => .error bad
          else
            .error {
              start, lead, tails := tails.length
              reason := if rest.length = tails.length then .endOfData else .invalidContinuation }
  termination_by bytes => bytes.length
  decreasing_by simp only [List.length_drop, List.length_cons]; omega

def decode (bytes : List UInt8) : Except Malformed (List Char) :=
  decodeFrom 0 bytes

end RustScribe.Text.Utf8
