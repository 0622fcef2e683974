import VirtualImports.Report.Screen

/-!
Markup: tags in the text of a message, which set off parts of it. The screen reads them when it draws
the message, and a message with a tag that closes what is not open cannot be drawn.

How text is drawn is up to the library that does it. The rewrite only depends on whether it can be.
-/
namespace VirtualImports

/-- The characters that are shown of a text with tags, or none if it cannot be drawn. A tag that closes
something starts with `[/`, and nothing else keeps a text from being drawn. -/
class Markup where
  draw? : String → Option (List Char)
  isSome_draw? (text : String) : ¬ ['[', '/'] <:+: text.toList → (draw? text).isSome = true

variable [Markup]

def Markup.draws (text : String) : Bool :=
  (draw? text).isSome

/-- A warning quotes source text, and its tags are not read. -/
def LogEntry.isDrawable (entry : LogEntry) : Bool :=
  match entry.level with
  | .warning => true
  | _ => Markup.draws entry.message

def ReportTable.texts (table : ReportTable) : List String :=
  table.title :: (table.columns ++ table.rows.flatten)

/-- Code is written out as it is. -/
def Message.isDrawable : Message → Bool
  | log entry => entry.isDrawable
  | line text => Markup.draws text
  | table report => report.texts.all Markup.draws
  | code _ => true

end VirtualImports
