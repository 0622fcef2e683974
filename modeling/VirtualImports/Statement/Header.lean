import VirtualImports.Text.Blank

/-!
The frame of an import statement: `import`, an optional `type`, the clause, `from`, the quoted
module specifier and an optional semicolon.
-/
namespace VirtualImports.Statement

open Text

def isQuote (c : Char) : Bool :=
  c == '\'' || c == '"'

/-- What follows `expected` in `s`, if `s` starts with it. -/
def after? : List Char → List Char → Option (List Char)
  | [], s => some s
  | _ :: _, [] => none
  | e :: expected, c :: s => if e = c then after? expected s else none

theorem eq_append_of_after? {expected s rest : List Char} (h : after? expected s = some rest) :
    s = expected ++ rest := by
  induction expected generalizing s with
  | nil => simpa [after?] using h
  | cons e expected ih =>
    cases s with
    | nil => simp [after?] at h
    | cons c s =>
      by_cases he : e = c
      · subst he; simp only [after?, if_true] at h; rw [ih h]; rfl
      · simp [after?, he] at h

theorem after?_append (expected rest : List Char) :
    after? expected (expected ++ rest) = some rest := by
  induction expected with
  | nil => rfl
  | cons e expected ih => simp [after?, ih]

/-- Nothing but blanks and at most one semicolon. -/
def isTerminator (s : List Char) : Bool :=
  match trimLeft s with
  | ';' :: rest => rest.all isBlank
  | rest => rest.isEmpty

/-- The specifier of `from 'specifier'` where `s` is such a phrase up to its end. -/
def source? (s : List Char) : Option (List Char) :=
  match after? ['f', 'r', 'o', 'm'] s with
  | none => none
  | some rest =>
    if (rest.head?.map isBlank).getD false then
      match trimLeft rest with
      | [] => none
      | quote :: body =>
        let specifier := body.takeWhile fun c => !isQuote c
        match body.dropWhile fun c => !isQuote c with
        | [] => none
        | close :: tail =>
          if isQuote quote && close == quote && !specifier.isEmpty && isTerminator tail then
            some specifier
          else none
    else none

/-- The text in front of the closing `from` phrase, and the specifier of the phrase. -/
def splitSource? : List Char → Option (List Char × List Char)
  | [] => none
  | c :: rest =>
    match source? (c :: rest) with
    | some specifier => some ([], specifier)
    | none => (splitSource? rest).map fun (before, specifier) => (c :: before, specifier)

structure Header where
  typeOnly : Bool
  clause : List Char
  specifier : List Char
  deriving DecidableEq, Repr

/-- Splits what stands between `import` and `from` into the type mark and the clause. Blanks must
enclose the clause. `type` is the mark when blanks, a brace or a star follow it, unless that
leaves no clause: then it is the clause. -/
def splitTypeKeyword? (s : List Char) : Option (Bool × List Char) :=
  let lead := s.takeWhile isBlank
  let body := s.dropWhile isBlank
  let clause := trimRight body
  if lead.isEmpty then none
  else if body.isEmpty then
    if 3 ≤ lead.length then some (false, []) else none
  else if clause.length = body.length then none
  else
    match after? ['t', 'y', 'p', 'e'] body with
    | none => some (false, clause)
    | some rest =>
      let marked := trimRight (trimLeft rest)
      if (rest.head?.map fun c => isBlank c || c == '{' || c == '*').getD false then
        if !marked.isEmpty then some (true, marked)
        else if 2 ≤ rest.length then some (true, [])
        else some (false, clause)
      else some (false, clause)

/-- The parts of a statement without surrounding blanks. -/
def Header.ofText? (s : List Char) : Option Header :=
  match after? ['i', 'm', 'p', 'o', 'r', 't'] s with
  | none => none
  | some rest =>
    match splitSource? rest with
    | none => none
    | some (before, specifier) =>
      (splitTypeKeyword? before).map fun (typeOnly, clause) => ⟨typeOnly, clause, specifier⟩

end VirtualImports.Statement
