import VirtualImports.Data.Json

/-!
The words of TOML: blanks, comments, strings, numbers and moments. Each reader takes what it can
from the start of the text and returns the rest.
-/
namespace VirtualImports.Toml

def isSpace (c : Char) : Bool :=
  c == ' ' || c == '\t'

def isSpaceOrNewline (c : Char) : Bool :=
  isSpace c || c == '\n'

def skipSpace (s : List Char) : List Char :=
  s.dropWhile isSpace

/-- Control characters other than the tab stand nowhere but in escapes. -/
def isControl (c : Char) : Bool :=
  (c.toNat < 0x20 && c != '\t') || c.toNat == 0x7F

/-- Lines may end in a carriage return and a newline, which count as the newline alone. -/
def unifyNewlines : List Char → List Char
  | [] => []
  | '\r' :: '\n' :: rest => '\n' :: unifyNewlines rest
  | c :: rest => c :: unifyNewlines rest

/-- Skips a comment up to the end of its line. -/
def skipComment? : List Char → Option (List Char)
  | '#' :: rest =>
    if (rest.takeWhile (· != '\n')).any isControl then none else some (rest.dropWhile (· != '\n'))
  | s => some s

/-- Skips blanks, newlines and comments, which may stand anywhere between the items of an array. -/
def skipBetween? : Nat → List Char → Option (List Char)
  | 0, _ => none
  | fuel + 1, s =>
    match s.dropWhile isSpaceOrNewline with
    | '#' :: rest =>
      match skipComment? ('#' :: rest) with
      | none => none
      | some rest => skipBetween? fuel rest
    | rest => some rest

def escape? (c : Char) : Option Char :=
  if c = 'b' then some '\x08'
  else if c = 't' then some '\t'
  else if c = 'n' then some '\n'
  else if c = 'f' then some '\x0c'
  else if c = 'r' then some '\r'
  else if c = '"' || c = '\\' then some c
  else none

/-- The character written in the first `width` characters as hexadecimal digits. -/
def hexChar? (width : Nat) (s : List Char) : Option (Char × List Char) :=
  let digits := s.take width
  if digits.length < width then none
  else
    match Json.hexNumber? digits with
    | none => none
    | some n =>
      if n < 0xD800 || (0xE000 ≤ n && n < 0x110000) then some (Char.ofNat n, s.drop width) else none

/-- Behind a backslash at the end of a line, everything blank is skipped. -/
def skipFold? (s : List Char) : Option (List Char) :=
  match skipSpace s with
  | '\n' :: rest => some (rest.dropWhile isSpaceOrNewline)
  | _ => none

/-- The characters of a string in double quotes, up to the closing quotes. -/
def basicChars? : Nat → Bool → List Char → Option (List Char × List Char)
  | 0, _, _ => none
  | fuel + 1, multiline, s =>
    let followedBy (c : Char) (rest : List Char) : Option (List Char × List Char) :=
      (basicChars? fuel multiline rest).map fun (more, rest) => (c :: more, rest)
    match s with
    | [] => none
    | '"' :: rest =>
      if !multiline then some ([], rest)
      else
        match rest with
        | '"' :: '"' :: rest => some ([], rest)
        | rest => followedBy '"' rest
    | '\\' :: c :: rest =>
      if multiline && isSpaceOrNewline c then
        match skipFold? (c :: rest) with
        | none => none
        | some rest => basicChars? fuel multiline rest
      else if c = 'u' then
        match hexChar? 4 rest with
        | none => none
        | some (c, rest) => followedBy c rest
      else if c = 'U' then
        match hexChar? 8 rest with
        | none => none
        | some (c, rest) => followedBy c rest
      else
        match escape? c with
        | none => none
        | some c => followedBy c rest
    | c :: rest =>
      if c = '\\' || (isControl c && !(multiline && c == '\n')) then none else followedBy c rest

/-- The characters of a literal string up to three closing quotes. -/
def literalChars? : List Char → Option (List Char × List Char)
  | [] => none
  | '\'' :: '\'' :: '\'' :: rest => some ([], rest)
  | c :: rest =>
    if isControl c && c != '\n' then none
    else (literalChars? rest).map fun (more, rest) => (c :: more, rest)

/-- Up to two quotes in front of the three closing ones belong to the string. -/
def extraQuotes (quote : Char) : List Char × List Char → List Char × List Char
  | (text, a :: b :: rest) =>
    if a = quote then
      if b = quote then (text ++ [quote, quote], rest) else (text ++ [quote], b :: rest)
    else (text, a :: b :: rest)
  | (text, [a]) => if a = quote then (text ++ [quote], []) else (text, [a])
  | (text, []) => (text, [])

/-- A newline right behind the opening quotes does not belong to the string. -/
def skipFirstNewline : List Char → List Char
  | '\n' :: rest => rest
  | s => s

def basicString? (s : List Char) : Option (List Char × List Char) :=
  basicChars? (s.length + 1) false s

def literalString? (s : List Char) : Option (List Char × List Char) :=
  let body := s.takeWhile (· != '\'')
  match s.dropWhile (· != '\'') with
  | _ :: rest => if body.any isControl then none else some (body, rest)
  | [] => none

/-- A string in any of the four kinds of quotes. -/
def string? : List Char → Option (List Char × List Char)
  | '"' :: '"' :: '"' :: rest =>
    (basicChars? (rest.length + 1) true (skipFirstNewline rest)).map (extraQuotes '"')
  | '\'' :: '\'' :: '\'' :: rest => (literalChars? (skipFirstNewline rest)).map (extraQuotes '\'')
  | '"' :: rest => basicString? rest
  | '\'' :: rest => literalString? rest
  | _ => none

/-- Digits in which single underscores may stand between two digits. -/
def moreDigits (isDigit : Char → Bool) : List Char → List Char × List Char
  | [] => ([], [])
  | '_' :: d :: rest =>
    if isDigit d then
      let (more, rest) := moreDigits isDigit rest
      (d :: more, rest)
    else ([], '_' :: d :: rest)
  | d :: rest =>
    if isDigit d then
      let (more, rest) := moreDigits isDigit rest
      (d :: more, rest)
    else ([], d :: rest)

def digits? (isDigit : Char → Bool) : List Char → Option (List Char × List Char)
  | d :: rest =>
    if isDigit d then
      let (more, rest) := moreDigits isDigit rest
      some (d :: more, rest)
    else none
  | [] => none

/-- The number that digits make in a base. -/
def ofDigits (base : Nat) (digits : List Char) : Nat :=
  digits.foldl (fun n c => base * n + (Json.hexValue? c).getD 0) 0

/-- A whole number in base 16, 8 or 2. -/
def basedInteger? : List Char → Option (Value × List Char)
  | '0' :: mark :: rest =>
    let based (base : Nat) (isDigit : Char → Bool) : Option (Value × List Char) :=
      (digits? isDigit rest).map fun (digits, rest) => (.int (ofDigits base digits), rest)
    if mark = 'x' then based 16 fun c => (Json.hexValue? c).isSome
    else if mark = 'o' then based 8 fun c => '0' ≤ c && c ≤ '7'
    else if mark = 'b' then based 2 fun c => c == '0' || c == '1'
    else none
  | _ => none

def sign : List Char → Bool × List Char
  | '-' :: rest => (true, rest)
  | '+' :: rest => (false, rest)
  | s => (false, s)

/-- The digits in front of the point: a single zero, or digits that do not start with one. -/
def wholePart? : List Char → Option (List Char × List Char)
  | '0' :: rest => some (['0'], rest)
  | s => digits? Char.isDigit s

def fraction? : List Char → Option (List Char × List Char)
  | '.' :: rest => digits? Char.isDigit rest
  | _ => none

def exponent? : List Char → Option (Int × List Char)
  | e :: rest =>
    if e = 'e' || e = 'E' then
      let (negative, rest) := sign rest
      (digits? Char.isDigit rest).map fun (digits, rest) =>
        let n : Int := decimal digits
        (if negative then -n else n, rest)
    else none
  | [] => none

/-- A decimal number, which may still be too long for an integer. -/
def decimal? (s : List Char) : Option (Except ReadFault Value × List Char) :=
  let (negative, unsigned) := sign s
  match wholePart? unsigned with
  | none => none
  | some (whole, rest) =>
    let fraction := fraction? rest
    let (places, afterFraction) := fraction.getD ([], rest)
    let exponent := exponent? afterFraction
    let (power, behind) := exponent.getD (0, afterFraction)
    if fraction.isNone && exponent.isNone then
      some (decimalInteger negative whole, behind)
    else
      some (.ok (.real (Binary64.ofDecimal negative (decimal (whole ++ places))
        (power - places.length))), behind)

def specialReal? (s : List Char) : Option (Value × List Char) :=
  let (negative, unsigned) := sign s
  match unsigned with
  | 'i' :: 'n' :: 'f' :: rest => some (.real (.infinite negative), rest)
  | 'n' :: 'a' :: 'n' :: rest => some (.real .notANumber, rest)
  | _ => none

/-- Two digits that make a number between two bounds. -/
def twoDigits? (low high : Nat) : List Char → Option (Nat × List Char)
  | a :: b :: rest =>
    if a.isDigit && b.isDigit then
      let n := decimal [a, b]
      if low ≤ n && n ≤ high then some (n, rest) else none
    else none
  | _ => none

def mark? (c : Char) : List Char → Option (List Char)
  | d :: rest => if d = c then some rest else none
  | [] => none

def isLeapYear (year : Nat) : Bool :=
  year % 4 == 0 && (year % 100 != 0 || year % 400 == 0)

def daysInMonth (year month : Nat) : Nat :=
  if month = 2 then if isLeapYear year then 29 else 28
  else if month = 4 || month = 6 || month = 9 || month = 11 then 30
  else 31

/-- What follows a time of day. -/
def skipTime? (s : List Char) : Option (List Char) := do
  let (_, s) ← twoDigits? 0 23 s
  let s ← mark? ':' s
  let (_, s) ← twoDigits? 0 59 s
  let s ← mark? ':' s
  let (_, s) ← twoDigits? 0 59 s
  match s with
  | '.' :: rest =>
    let places := rest.takeWhile Char.isDigit
    return if places.isEmpty then s else rest.dropWhile Char.isDigit
  | _ => return s

/-- What follows the offset of a time, which may be missing. -/
def skipOffset (s : List Char) : List Char :=
  match s with
  | c :: rest =>
    if c = 'Z' || c = 'z' then rest
    else if c = '+' || c = '-' then
      (do
        let (_, rest) ← twoDigits? 0 23 rest
        let rest ← mark? ':' rest
        let (_, rest) ← twoDigits? 0 59 rest
        return rest).getD s
    else s
  | [] => []

/-- Year, month and day, and what follows them. -/
def date? (s : List Char) : Option ((Nat × Nat × Nat) × List Char) := do
  let year := s.take 4
  if year.length < 4 || !year.all Char.isDigit then none
  let s ← mark? '-' (s.drop 4)
  let (month, s) ← twoDigits? 1 12 s
  let s ← mark? '-' s
  let (day, s) ← twoDigits? 1 31 s
  return ((decimal year, month, day), s)

/-- A time may follow a date behind a `T` or a space. -/
def skipTimeOfDate (s : List Char) : List Char :=
  match s with
  | c :: rest =>
    if c = 'T' || c = 't' || c = ' ' then
      match skipTime? rest with
      | some rest => skipOffset rest
      | none => s
    else s
  | [] => []

/-- A date, a date with a time, or a time. The inner answer is missing for a day that its month
does not have. -/
def moment? (s : List Char) : Option (Option (Value × List Char)) :=
  let upTo (rest : List Char) : Value × List Char :=
    (.moment (String.ofList (s.take (s.length - rest.length))), rest)
  match date? s with
  | some ((year, month, day), rest) =>
    if year = 0 || daysInMonth year month < day then some none
    else some (some (upTo (skipTimeOfDate rest)))
  | none => (skipTime? s).map fun rest => some (upTo rest)

/-- Any value but a string, an array or an inline table. -/
def readPlain (s : List Char) : Taken Value :=
  if ['t', 'r', 'u', 'e'].isPrefixOf s then .ok (.bool true, s.drop 4)
  else if ['f', 'a', 'l', 's', 'e'].isPrefixOf s then .ok (.bool false, s.drop 5)
  else
    match moment? s with
    | some found => ReadFault.orMalformed found
    | none =>
      match basedInteger? s with
      | some found => .ok found
      | none =>
        match decimal? s with
        | some (value, rest) => value.map fun value => (value, rest)
        | none => ReadFault.orMalformed (specialReal? s)

end VirtualImports.Toml
