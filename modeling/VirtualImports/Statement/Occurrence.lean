import VirtualImports.Statement.Header

/-!
Occurrences of the import statements of one module in a source text.

A statement starts a line, after spaces and tabs at most, and ends its line, before spaces and
tabs at most. It may span lines, but nothing between `import` and the quoted specifier may be a
quote or a semicolon, so that it cannot run into another statement.
-/
namespace VirtualImports.Statement

open Text

/-- An import statement in a source text. The offsets delimit `original`, which is the indentation
and the statement; `newline` is the ending of the line on which the statement ends. -/
structure Occurrence where
  original : List Char
  statement : List Char
  start : Nat
  stop : Nat
  indent : List Char
  newline : List Char
  deriving DecidableEq, Repr

/-- Nothing that could end a string or a statement. -/
def isClauseChar (c : Char) : Bool :=
  !isQuote c && c != ';'

/-- The text between `import` and the quote: something enclosed in blanks, `from` and blanks. -/
def framesClause (s : List Char) : Bool :=
  let beforeBlanks := trimRight s
  if beforeBlanks.length = s.length then false
  else
    match after? ['m', 'o', 'r', 'f'] beforeBlanks.reverse with
    | none => false
    | some reversed =>
      3 ≤ reversed.length && (reversed.head?.map isBlank).getD false &&
        (reversed.getLast?.map isBlank).getD false

/-- A line that starts with a statement, cut into its pieces. -/
structure Cut where
  indent : List Char
  statement : List Char
  trailing : List Char
  newline : List Char
  rest : List Char
  deriving DecidableEq, Repr

/-- How the line goes on behind a statement: blanks, the line ending, and the text from there. -/
def lineEnd? (s : List Char) : Option (List Char × List Char × List Char) :=
  let blanks := s.takeWhile isSpaceOrTab
  match s.dropWhile isSpaceOrTab with
  | [] => some (blanks, ['\n'], [])
  | '\n' :: rest => some (blanks, ['\n'], '\n' :: rest)
  | ['\r'] => some (blanks ++ ['\r'], ['\r', '\n'], [])
  | '\r' :: '\n' :: rest => some (blanks ++ ['\r'], ['\r', '\n'], '\n' :: rest)
  | _ => none

/-- The blanks behind the closing quote with the semicolon, if there is one. -/
def closing (s : List Char) : List Char × List Char :=
  let blanks := s.takeWhile isSpaceOrTab
  match s.dropWhile isSpaceOrTab with
  | ';' :: rest => (blanks ++ [';'], rest)
  | rest => (blanks, rest)

/-- The quoted specifier at the start of `s`, quotes included, and what follows it. -/
def quotedSpecifier? (specifier s : List Char) : Option (List Char × List Char) :=
  match s with
  | [] => none
  | quote :: body =>
    if isQuote quote then
      match after? (specifier ++ [quote]) body with
      | none => none
      | some rest => some (quote :: specifier ++ [quote], rest)
    else none

/-- The statement of module `specifier` at the start of a line. -/
def cut? (specifier s : List Char) : Option Cut := do
  let afterKeyword ← after? ['i', 'm', 'p', 'o', 'r', 't'] (s.dropWhile isSpaceOrTab)
  let frame := afterKeyword.takeWhile isClauseChar
  if framesClause frame then
    let (shown, behind) ← quotedSpecifier? specifier (afterKeyword.dropWhile isClauseChar)
    let (trailing, newline, rest) ← lineEnd? (closing behind).2
    some {
      indent := s.takeWhile isSpaceOrTab
      statement := ['i', 'm', 'p', 'o', 'r', 't'] ++ frame ++ shown ++ (closing behind).1
      trailing := trailing
      newline := newline
      rest := rest }
  else none

theorem append_of_lineEnd? {s trailing newline rest : List Char}
    (h : lineEnd? s = some (trailing, newline, rest)) : s = trailing ++ rest := by
  have whole := List.takeWhile_append_dropWhile (p := isSpaceOrTab) (l := s)
  simp only [lineEnd?] at h
  split at h
  · rename_i found
    rw [found] at whole
    simp only [Option.some.injEq, Prod.mk.injEq] at h
    obtain ⟨rfl, _, rfl⟩ := h
    exact whole.symm
  · rename_i found
    rw [found] at whole
    simp only [Option.some.injEq, Prod.mk.injEq] at h
    obtain ⟨rfl, _, rfl⟩ := h
    exact whole.symm
  · rename_i found
    rw [found] at whole
    simp only [Option.some.injEq, Prod.mk.injEq] at h
    obtain ⟨rfl, _, rfl⟩ := h
    rw [List.append_nil]
    exact whole.symm
  · rename_i found
    rw [found] at whole
    simp only [Option.some.injEq, Prod.mk.injEq] at h
    obtain ⟨rfl, _, rfl⟩ := h
    rw [List.append_assoc]
    exact whole.symm
  · cases h

theorem closing_append (s : List Char) : (closing s).1 ++ (closing s).2 = s := by
  have whole := List.takeWhile_append_dropWhile (p := isSpaceOrTab) (l := s)
  unfold closing
  split <;> simp_all

theorem append_of_quotedSpecifier? {specifier s shown rest : List Char}
    (h : quotedSpecifier? specifier s = some (shown, rest)) : s = shown ++ rest := by
  unfold quotedSpecifier? at h
  split at h
  · simp at h
  · split at h
    · split at h
      · simp at h
      · rename_i found
        simp only [Option.some.injEq, Prod.mk.injEq] at h
        obtain ⟨rfl, rfl⟩ := h
        simp [eq_append_of_after? found]
    · simp at h

/-- A cut loses nothing: its pieces make up the text. -/
theorem append_of_cut? {specifier s : List Char} {cut : Cut} (h : cut? specifier s = some cut) :
    s = cut.indent ++ cut.statement ++ cut.trailing ++ cut.rest := by
  unfold cut? at h
  simp only [Option.bind_eq_bind, Option.bind_eq_some_iff] at h
  obtain ⟨afterKeyword, keyword, h⟩ := h
  split at h
  · simp only [Option.bind_eq_some_iff, Option.some.injEq] at h
    obtain ⟨⟨shown, behind⟩, source, ⟨trailing, newline, rest⟩, line, rfl⟩ := h
    have indent := List.takeWhile_append_dropWhile (p := isSpaceOrTab) (l := s)
    have frame := List.takeWhile_append_dropWhile (p := isClauseChar) (l := afterKeyword)
    rw [eq_append_of_after? keyword] at indent
    rw [append_of_quotedSpecifier? source, ← closing_append behind, append_of_lineEnd? line] at frame
    simp only [List.append_assoc] at indent frame ⊢
    rw [frame, indent]
  · simp at h

theorem statement_ne_nil_of_cut? {specifier s : List Char} {cut : Cut}
    (h : cut? specifier s = some cut) : cut.statement ≠ [] := by
  unfold cut? at h
  simp only [Option.bind_eq_bind, Option.bind_eq_some_iff] at h
  obtain ⟨afterKeyword, keyword, h⟩ := h
  split at h
  · simp only [Option.bind_eq_some_iff, Option.some.injEq] at h
    obtain ⟨_, _, _, _, rfl⟩ := h
    simp
  · simp at h

theorem length_rest_of_cut? {specifier s : List Char} {cut : Cut} (h : cut? specifier s = some cut) :
    cut.rest.length < s.length := by
  have whole := congrArg List.length (append_of_cut? h)
  have := List.length_pos_iff.2 (statement_ne_nil_of_cut? h)
  simp only [List.length_append] at whole
  omega

def Cut.occurrence (cut : Cut) (start : Nat) : Occurrence where
  original := cut.indent ++ cut.statement
  statement := trim cut.statement
  start := start
  stop := start + (cut.indent ++ cut.statement).length
  indent := cut.indent
  newline := cut.newline

/-- Takes the first statement that starts a line and goes on behind it. -/
def findFrom (specifier : List Char) (position : Nat) (lineStart : Bool) (s : List Char) :
    List Occurrence :=
  match h : if lineStart then cut? specifier s else none with
  | some cut =>
    cut.occurrence position ::
      findFrom specifier
        (position + (cut.indent ++ cut.statement ++ cut.trailing).length) false cut.rest
  | none =>
    match s with
    | [] => []
    | c :: rest => findFrom specifier (position + 1) (c == '\n') rest
termination_by s.length
decreasing_by
  · split at h
    · exact length_rest_of_cut? h
    · simp at h
  · simp

/-- The occurrences of a module's import statements, in source order. -/
def find (specifier : String) (code : List Char) : List Occurrence :=
  findFrom specifier.toList 0 true code

end VirtualImports.Statement
