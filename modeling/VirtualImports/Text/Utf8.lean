/-!
UTF-8. Decoding is strict: overlong forms, surrogates and numbers above the last code point are
refused, and an error names the bytes that cannot be decoded.
-/
namespace VirtualImports.Text.Utf8

inductive Reason
  | invalidStart
  | invalidContinuation
  | unexpectedEnd
  deriving DecidableEq, Repr

def Reason.message : Reason → String
  | invalidStart => "invalid start byte"
  | invalidContinuation => "invalid continuation byte"
  | unexpectedEnd => "unexpected end of data"

/-- The bytes from `start` to `last`, which begin with `lead`, are no character. -/
structure Malformed where
  lead : UInt8
  start : Nat
  last : Nat
  reason : Reason
  deriving DecidableEq, Repr

def hexByte (byte : UInt8) : String :=
  let digit (n : Nat) : Char :=
    if n < 10 then Char.ofNat ('0'.toNat + n) else Char.ofNat ('a'.toNat + (n - 10))
  String.ofList [digit (byte.toNat / 16), digit (byte.toNat % 16)]

def Malformed.message (found : Malformed) : String :=
  let place :=
    if found.start = found.last then
      "byte 0x" ++ hexByte found.lead ++ " in position " ++ toString found.start
    else "bytes in position " ++ toString found.start ++ "-" ++ toString found.last
  "'utf-8' codec can't decode " ++ place ++ ": " ++ found.reason.message

/-- A character of which some bytes have been read: its first byte and where that was, the bits so
far, how many bytes are still to come, and the range of the next one. -/
structure Pending where
  lead : UInt8
  start : Nat
  bits : Nat
  remaining : Nat
  low : UInt8
  high : UInt8
  deriving DecidableEq, Repr

/-- What a first byte of several announces. The ranges leave out overlong forms, surrogates and
numbers that are too large. -/
def announce? (byte : UInt8) (position : Nat) : Option Pending :=
  let pending (bits remaining : Nat) (low high : UInt8) : Option Pending :=
    some ⟨byte, position, bits, remaining, low, high⟩
  if byte < 0xC2 then none
  else if byte < 0xE0 then pending (byte.toNat - 0xC0) 1 0x80 0xBF
  else if byte = 0xE0 then pending 0 2 0xA0 0xBF
  else if byte = 0xED then pending 0xD 2 0x80 0x9F
  else if byte < 0xF0 then pending (byte.toNat - 0xE0) 2 0x80 0xBF
  else if byte = 0xF0 then pending 0 3 0x90 0xBF
  else if byte < 0xF4 then pending (byte.toNat - 0xF0) 3 0x80 0xBF
  else if byte = 0xF4 then pending 4 3 0x80 0x8F
  else none

/-- Decodes from `position` on. -/
def decodeFrom : Nat → Option Pending → List UInt8 → Except Malformed (List Char)
  | _, none, [] => .ok []
  | position, some pending, [] =>
    .error ⟨pending.lead, pending.start, position - 1, .unexpectedEnd⟩
  | position, none, byte :: rest =>
    if byte < 0x80 then
      (decodeFrom (position + 1) none rest).map (Char.ofNat byte.toNat :: ·)
    else
      match announce? byte position with
      | some pending => decodeFrom (position + 1) (some pending) rest
      | none => .error ⟨byte, position, position, .invalidStart⟩
  | position, some pending, byte :: rest =>
    if pending.low ≤ byte && byte ≤ pending.high then
      let bits := pending.bits * 64 + (byte.toNat - 0x80)
      if pending.remaining ≤ 1 then
        (decodeFrom (position + 1) none rest).map (Char.ofNat bits :: ·)
      else
        decodeFrom (position + 1)
          (some { pending with bits := bits, remaining := pending.remaining - 1,
                               low := 0x80, high := 0xBF }) rest
    else .error ⟨pending.lead, pending.start, position - 1, .invalidContinuation⟩

def decode (bytes : List UInt8) : Except Malformed (List Char) :=
  decodeFrom 0 none bytes

def encode (text : List Char) : List UInt8 :=
  text.flatMap String.utf8EncodeChar

end VirtualImports.Text.Utf8
