import VirtualImports.Command.Session
import VirtualImports.Text.Blank

/-!
Messages as plain text. Where nothing else draws them, the tags are read and taken out, and a fault of
a configuration is told without details.
-/
namespace VirtualImports

namespace Tags

/-- The text in front of the first opening bracket, and the pieces behind each of them. -/
def pieces : List Char → List Char × List (List Char)
  | [] => ([], [])
  | c :: rest =>
    let (front, behind) := pieces rest
    if c = '[' then ([], front :: behind) else (c :: front, behind)

/-- The tag that a piece starts with, and the text behind its closing bracket. -/
def tag? : List Char → Option (List Char × List Char)
  | [] => none
  | c :: rest =>
    if c.isLower || c = '#' || c = '@' || c = '/' then
      match rest.dropWhile (· != ']') with
      | [] => none
      | _ :: behind => some (c :: rest.takeWhile (· != ']'), behind)
    else none

/-- A tag is named by what stands in front of an equals sign, in small letters. -/
def nameOf (tag : List Char) : List Char :=
  (Text.trim (tag.takeWhile (· != '='))).map Char.toLower

/-- What is still open behind a closing tag: it closes the last tag of its name, or without a name the
last of all. -/
def close? (name : List Char) : List (List Char) → Option (List (List Char))
  | [] => none
  | tag :: opened =>
    if name = [] ∨ name = tag then some opened else (close? name opened).map (tag :: ·)

/-- Draws pieces behind the text `shown ++ front`, of which `front` stands behind the last tag. An odd
number of backslashes in front of a tag makes it plain text. -/
def drawPieces (opened : List (List Char)) (shown front : List Char) :
    List (List Char) → Option (List Char)
  | [] => some (shown ++ front)
  | piece :: rest =>
    let slashes := (front.reverse.takeWhile (· == '\\')).length
    let drawn := shown ++ front.take (front.length - (slashes + 1) / 2)
    match tag? piece with
    | none => drawPieces opened shown (front ++ '[' :: piece) rest
    | some (tag, behind) =>
      if slashes % 2 = 1 then drawPieces opened (drawn ++ '[' :: tag ++ [']']) behind rest
      else
        match tag with
        | '/' :: name =>
          match close? (nameOf name) opened with
          | none => none
          | some opened => drawPieces opened drawn behind rest
        | tag => drawPieces (nameOf tag :: opened) drawn behind rest

def draw? (text : String) : Option (List Char) :=
  let (front, behind) := pieces text.toList
  drawPieces [] [] front behind

theorem ne_slash_of_pieces {text : List Char} (none : ¬ ['[', '/'] <:+: text) :
    ((pieces text).1.head? = some '/' → text.head? = some '/') ∧
      ∀ piece ∈ (pieces text).2, piece.head? ≠ some '/' := by
  induction text with
  | nil => simp [pieces]
  | cons c rest ih =>
    obtain ⟨first, later⟩ := ih fun inside => none (inside.trans (List.suffix_cons c rest).isInfix)
    unfold pieces
    dsimp only
    split
    · rename_i opening
      refine ⟨nofun, List.forall_mem_cons.2 ⟨fun slash => none ?_, later⟩⟩
      obtain ⟨more, rfl⟩ := List.head?_eq_some_iff.1 (first slash)
      exact ⟨[], more, by simp [opening]⟩
    · exact ⟨fun slash => slash, later⟩

theorem head?_of_tag? {piece tag behind : List Char} (h : tag? piece = some (tag, behind)) :
    tag.head? = piece.head? := by
  cases piece with
  | nil => cases h
  | cons c rest =>
    rw [tag?, Option.ite_none_right_eq_some] at h
    obtain ⟨_, h⟩ := h
    split at h
    · cases h
    · cases h
      rfl

/-- Without a closing tag all pieces can be drawn. -/
theorem isSome_drawPieces {behind : List (List Char)}
    (none : ∀ piece ∈ behind, piece.head? ≠ some '/') (opened : List (List Char))
    (shown front : List Char) : (drawPieces opened shown front behind).isSome = true := by
  induction behind generalizing opened shown front with
  | nil => rfl
  | cons piece rest ih =>
    obtain ⟨here, later⟩ := List.forall_mem_cons.1 none
    unfold drawPieces
    dsimp only
    split
    · exact ih later _ _ _
    · rename_i tag _ found
      split
      · exact ih later _ _ _
      · split
        · rw [← head?_of_tag? found] at here
          exact absurd rfl here
        · exact ih later _ _ _

end Tags

/-- Messages are drawn without their tags, and faults told without details. -/
@[reducible]
def Libraries.plain : Libraries where
  draw? := Tags.draw?
  isSome_draw? _ none := Tags.isSome_drawPieces (Tags.ne_slash_of_pieces none).2 _ _ _
  wording _ := ""

section
variable [Markup]

/-- A warning quotes source text, and its tags are not read. -/
def LogEntry.plain (entry : LogEntry) : List Char :=
  match entry.level with
  | .warning => entry.message.toList
  | _ => (Markup.draw? entry.message).getD []

def ReportTable.plain (table : ReportTable) : List Char :=
  let cell (text : String) : List Char := (Markup.draw? text).getD []
  let row (cells : List String) : List Char := " | ".toList.intercalate (cells.map cell)
  ['\n'].intercalate (cell table.title :: row table.columns :: table.rows.map row)

def Message.plain : Message → List Char
  | log entry => entry.plain ++ ['\n']
  | line text => (Markup.draw? text).getD [] ++ ['\n']
  | table report => report.plain ++ ['\n']
  | code text => text

end

end VirtualImports
