import VirtualImports.Data.ReadFault

/-!
Reading JSON. Objects keep the order of their keys; a key that is given twice keeps its first
place and takes its last value. Integers have up to `maxIntegerDigits` digits, and `NaN`,
`Infinity` and `-Infinity` are numbers. Strings may not hold control characters, nor may the text
start with a byte-order mark.
-/
namespace VirtualImports.Json

def isSpace (c : Char) : Bool :=
  c == ' ' || c == '\t' || c == '\n' || c == '\r'

def skipSpace (s : List Char) : List Char :=
  s.dropWhile isSpace

def hexValue? (c : Char) : Option Nat :=
  if c.isDigit then some (c.toNat - '0'.toNat)
  else if 'a' ≤ c && c ≤ 'f' then some (c.toNat - 'a'.toNat + 10)
  else if 'A' ≤ c && c ≤ 'F' then some (c.toNat - 'A'.toNat + 10)
  else none

def hexNumber? (digits : List Char) : Option Nat :=
  digits.foldlM (fun n c => (hexValue? c).map (16 * n + ·)) 0

/-- A string is written in characters and in escaped 16-bit units. -/
inductive Piece
  | char (c : Char)
  | unit (n : Nat)
  deriving DecidableEq, Repr

/-- The character of a unit, if it is not half of a pair. -/
def unitChar? (n : Nat) : Option Char :=
  if 0xD800 ≤ n && n < 0xE000 then none else some (Char.ofNat n)

/-- The text that pieces make, where two units that make a pair stand for one character. Half of a pair
on its own stands for none. -/
def joinPieces? : List Piece → Option (List Char)
  | [] => some []
  | .char c :: rest => (joinPieces? rest).map (c :: ·)
  | .unit high :: .unit low :: rest =>
    if 0xD800 ≤ high && high < 0xDC00 && 0xDC00 ≤ low && low < 0xE000 then
      let c := Char.ofNat (0x10000 + (high - 0xD800) * 0x400 + (low - 0xDC00))
      (joinPieces? rest).map (c :: ·)
    else do return (← unitChar? high) :: (← joinPieces? (.unit low :: rest))
  | .unit n :: rest => do return (← unitChar? n) :: (← joinPieces? rest)

def escape? (c : Char) : Option Char :=
  if c = '"' || c = '\\' || c = '/' then some c
  else if c = 'b' then some '\x08'
  else if c = 'f' then some '\x0c'
  else if c = 'n' then some '\n'
  else if c = 'r' then some '\r'
  else if c = 't' then some '\t'
  else none

/-- The pieces of a string up to its closing quote, and what follows the quote. -/
def pieces? : List Char → Option (List Piece × List Char)
  | [] => none
  | '"' :: rest => some ([], rest)
  | '\\' :: 'u' :: a :: b :: c :: d :: rest => do
    let n ← hexNumber? [a, b, c, d]
    let (more, rest) ← pieces? rest
    return (.unit n :: more, rest)
  | '\\' :: c :: rest => do
    let c ← escape? c
    let (more, rest) ← pieces? rest
    return (.char c :: more, rest)
  | c :: rest => do
    if c.toNat < 0x20 || c = '\\' then none
    let (more, rest) ← pieces? rest
    return (.char c :: more, rest)

/-- The text of a string, and what follows its closing quote. -/
def readString (s : List Char) : Taken String :=
  match pieces? s with
  | none => .error .malformed
  | some (pieces, rest) =>
    match joinPieces? pieces with
    | none => .error .loneSurrogate
    | some text => .ok (String.ofList text, rest)

/-- The exponent of a number, where one is written. -/
def exponent? : List Char → Option (Int × List Char)
  | e :: rest =>
    if e = 'e' || e = 'E' then
      let (negative, rest) :=
        match rest with
        | '-' :: rest => (true, rest)
        | '+' :: rest => (false, rest)
        | rest => (false, rest)
      let digits := rest.takeWhile Char.isDigit
      if digits.isEmpty then none
      else
        let n : Int := decimal digits
        some (if negative then -n else n, rest.dropWhile Char.isDigit)
    else none
  | [] => none

/-- The digits behind the point of a number, where there are some. -/
def fraction? : List Char → Option (List Char × List Char)
  | '.' :: rest =>
    let digits := rest.takeWhile Char.isDigit
    if digits.isEmpty then none else some (digits, rest.dropWhile Char.isDigit)
  | _ => none

/-- A number without its sign. No number but zero starts with the digit zero. -/
def readUnsigned (negative : Bool) (s : List Char) : Taken Value :=
  let whole :=
    match s with
    | '0' :: rest => (['0'], rest)
    | s => (s.takeWhile Char.isDigit, s.dropWhile Char.isDigit)
  if whole.1.isEmpty then .error .malformed
  else
    let (fraction, rest) := (fraction? whole.2).getD ([], whole.2)
    let (power, behind) := (exponent? rest).getD (0, rest)
    if fraction.isEmpty && behind.length = whole.2.length then
      (decimalInteger negative whole.1).map fun value => (value, behind)
    else
      .ok (.real (Binary64.ofDecimal negative (decimal (whole.1 ++ fraction))
        (power - fraction.length)), behind)

def readWord (word : String) (value : Value) (s : List Char) : Taken Value :=
  if word.toList.isPrefixOf s then .ok (value, s.drop word.length) else .error .malformed

def readNumber (s : List Char) : Taken Value :=
  match s with
  | '-' :: 'I' :: rest => readWord "Infinity" (.real (.infinite true)) ('I' :: rest)
  | '-' :: rest => readUnsigned true rest
  | s => readUnsigned false s

mutual

/-- A value at the start of the text. Each call spends one unit of `fuel` and at least one
character lies between two calls, so the length of the text is fuel enough. -/
def readValue : Nat → List Char → Taken Value
  | 0, _ => .error .malformed
  | fuel + 1, s =>
    match s with
    | [] => .error .malformed
    | '"' :: rest => (readString rest).map fun (text, rest) => (.text text, rest)
    | '{' :: rest =>
      match skipSpace rest with
      | '}' :: rest => .ok (.table [], rest)
      | rest =>
        (readFields fuel rest).map fun (fields, rest) => (.table (Entries.ofSettings fields), rest)
    | '[' :: rest =>
      match skipSpace rest with
      | ']' :: rest => .ok (.list [], rest)
      | rest => (readItems fuel rest).map fun (items, rest) => (.list items, rest)
    | c :: _ =>
      if c = 'n' then readWord "null" .null s
      else if c = 't' then readWord "true" (.bool true) s
      else if c = 'f' then readWord "false" (.bool false) s
      else if c = 'N' then readWord "NaN" (.real .notANumber) s
      else if c = 'I' then readWord "Infinity" (.real (.infinite false)) s
      else readNumber s

def readFields : Nat → List Char → Taken (List (String × Value))
  | 0, _ => .error .malformed
  | fuel + 1, s =>
    match s with
    | '"' :: rest =>
      match readString rest with
      | .error fault => .error fault
      | .ok (key, rest) =>
        match skipSpace rest with
        | ':' :: rest =>
          match readValue fuel (skipSpace rest) with
          | .error fault => .error fault
          | .ok (value, rest) =>
            match skipSpace rest with
            | '}' :: rest => .ok ([(key, value)], rest)
            | ',' :: rest =>
              (readFields fuel (skipSpace rest)).map fun (fields, rest) =>
                ((key, value) :: fields, rest)
            | _ => .error .malformed
        | _ => .error .malformed
    | _ => .error .malformed

def readItems : Nat → List Char → Taken (List Value)
  | 0, _ => .error .malformed
  | fuel + 1, s =>
    match readValue fuel s with
    | .error fault => .error fault
    | .ok (item, rest) =>
      match skipSpace rest with
      | ']' :: rest => .ok ([item], rest)
      | ',' :: rest =>
        (readItems fuel (skipSpace rest)).map fun (items, rest) => (item :: items, rest)
      | _ => .error .malformed

end

/-- The value that a JSON text holds. -/
def read (s : List Char) : Except ReadFault Value :=
  match readValue (2 * s.length + 2) (skipSpace s) with
  | .error fault => .error fault
  | .ok (value, rest) => if (skipSpace rest).isEmpty then .ok value else .error .malformed

end VirtualImports.Json
