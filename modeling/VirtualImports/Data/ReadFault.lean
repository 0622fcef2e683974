import VirtualImports.Data.Value

/-!
Why a text is not read as data. Three things stop a reader: text that is not in the format, a decimal
integer with too many digits, and a string with half of a surrogate pair. Whichever comes first in the
text is the one that is told.
-/
namespace VirtualImports

inductive ReadFault
  | malformed
  | longInteger (digits : Nat)
  /-- JSON can write half of a surrogate pair, which is no character. -/
  | loneSurrogate
  deriving DecidableEq, Repr

/-- What a reader takes from the start of a text, and the text behind it. -/
abbrev Taken (α : Type) := Except ReadFault (α × List Char)

/-- Decimal integers with more digits are not read. -/
def maxIntegerDigits : Nat := 4300

namespace ReadFault

def longIntegerMessage (digits : Nat) : String :=
  "Exceeds the limit (" ++ toString maxIntegerDigits ++
    " digits) for integer string conversion: value has " ++ toString digits ++
    " digits; use sys.set_int_max_str_digits() to increase the limit"

/-- Takes a missing answer for malformed text. -/
def orMalformed {α : Type} : Option α → Except ReadFault α
  | some answer => .ok answer
  | none => .error malformed

end ReadFault

/-- The number that decimal digits make. -/
def decimal (digits : List Char) : Nat :=
  digits.foldl (fun n c => 10 * n + (c.toNat - '0'.toNat)) 0

/-- The integer that a sign and decimal digits make. -/
def decimalInteger (negative : Bool) (digits : List Char) : Except ReadFault Value :=
  if maxIntegerDigits < digits.length then .error (.longInteger digits.length)
  else
    let n : Int := decimal digits
    .ok (.int (if negative then -n else n))

end VirtualImports
