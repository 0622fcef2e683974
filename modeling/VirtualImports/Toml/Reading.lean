import VirtualImports.Toml.Document
import VirtualImports.Toml.Text

/-!
Reading TOML: keys, values and the lines of a document.
-/
namespace VirtualImports.Toml

def isBareKeyChar (c : Char) : Bool :=
  c.isAlphanum || c == '-' || c == '_'

def keyPart? (s : List Char) : Option (String × List Char) :=
  match s with
  | [] => none
  | '\'' :: rest => (literalString? rest).map fun (key, rest) => (String.ofList key, rest)
  | '"' :: rest => (basicString? rest).map fun (key, rest) => (String.ofList key, rest)
  | c :: _ =>
    if isBareKeyChar c then
      some (String.ofList (s.takeWhile isBareKeyChar), s.dropWhile isBareKeyChar)
    else none

/-- A key with its dotted parts, and the text behind the blanks that follow it. -/
def key? : Nat → List Char → Option (List String × List Char)
  | 0, _ => none
  | fuel + 1, s =>
    match keyPart? s with
    | none => none
    | some (part, rest) =>
      match skipSpace rest with
      | '.' :: rest =>
        (key? fuel (skipSpace rest)).map fun (parts, rest) => (part :: parts, rest)
      | rest => some ([part], rest)

mutual

/-- A value at the start of the text. Between two calls that spend fuel lies at least one
character. -/
def readValue : Nat → List Char → Taken Value
  | 0, _ => .error .malformed
  | fuel + 1, s =>
    match s with
    | [] => .error .malformed
    | '[' :: rest =>
      match skipBetween? (rest.length + 1) rest with
      | none => .error .malformed
      | some (']' :: rest) => .ok (.list [], rest)
      | some rest => (readItems fuel rest).map fun (items, rest) => (.list items, rest)
    | '{' :: rest =>
      match skipSpace rest with
      | '}' :: rest => .ok (.table [], rest)
      | rest => (readFields fuel [] [] rest).map fun (fields, rest) => (.table fields, rest)
    | c :: _ =>
      if c = '"' || c = '\'' then
        ReadFault.orMalformed ((string? s).map fun (text, rest) => (.text (String.ofList text), rest))
      else readPlain s

def readItems : Nat → List Char → Taken (List Value)
  | 0, _ => .error .malformed
  | fuel + 1, s =>
    match readValue fuel s with
    | .error fault => .error fault
    | .ok (item, rest) =>
      match skipBetween? (rest.length + 1) rest with
      | some (']' :: rest) => .ok ([item], rest)
      | some (',' :: rest) =>
        match skipBetween? (rest.length + 1) rest with
        | none => .error .malformed
        | some (']' :: rest) => .ok ([item], rest)
        | some rest => (readItems fuel rest).map fun (items, rest) => (item :: items, rest)
      | _ => .error .malformed

def readFields : Nat → Table → List Mark → List Char → Taken Table
  | 0, _, _, _ => .error .malformed
  | fuel + 1, table, complete, s =>
    match readPair fuel s with
    | .error fault => .error fault
    | .ok ((key, value), rest) =>
      match assignInline key value complete table with
      | none => .error .malformed
      | some (table, complete) =>
        match skipSpace rest with
        | '}' :: rest => .ok (table, rest)
        | ',' :: rest => readFields fuel table complete (skipSpace rest)
        | _ => .error .malformed

/-- A key, the equals sign and a value. -/
def readPair : Nat → List Char → Taken (List String × Value)
  | 0, _ => .error .malformed
  | fuel + 1, s =>
    match key? (s.length + 1) s with
    | some (key, '=' :: rest) =>
      (readValue fuel (skipSpace rest)).map fun (value, rest) => ((key, value), rest)
    | _ => .error .malformed

end

/-- One line of a document that is not blank, and what follows it on the line. -/
def readLine (document : Document) (s : List Char) : Taken Document :=
  match s with
  | '[' :: '[' :: rest =>
    match key? (rest.length + 1) (skipSpace rest) with
    | some (path, ']' :: ']' :: rest) =>
      ReadFault.orMalformed ((document.openItem path).map fun next => (next, rest))
    | _ => .error .malformed
  | '[' :: rest =>
    match key? (rest.length + 1) (skipSpace rest) with
    | some (path, ']' :: rest) =>
      ReadFault.orMalformed ((document.openTable path).map fun next => (next, rest))
    | _ => .error .malformed
  | s =>
    match readPair (3 * s.length + 3) s with
    | .error fault => .error fault
    | .ok ((key, value), rest) =>
      ReadFault.orMalformed ((document.assign key value).map fun next => (next, rest))

def readLines : Nat → Document → List Char → Except ReadFault Document
  | 0, _, _ => .error .malformed
  | fuel + 1, document, s =>
    let line : Taken Document :=
      match skipSpace s with
      | [] => .ok (document, [])
      | '\n' :: rest => .ok (document, '\n' :: rest)
      | '#' :: rest => .ok (document, '#' :: rest)
      | s => readLine document s
    match line with
    | .error fault => .error fault
    | .ok (document, rest) =>
      match skipComment? (skipSpace rest) with
      | some [] => .ok document
      | some ('\n' :: rest) => readLines fuel document rest
      | _ => .error .malformed

/-- The table that a TOML text holds. -/
def read (s : List Char) : Except ReadFault (List (String × Value)) :=
  let s := unifyNewlines s
  (readLines (s.length + 1) .empty s).map Document.table

end VirtualImports.Toml
