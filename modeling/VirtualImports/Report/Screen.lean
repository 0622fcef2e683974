import VirtualImports.Report.Log

/-!
The screen: what has been shown to the user so far, and the stream that is written to now.
-/
namespace VirtualImports

inductive Stream
  | stdout
  | stderr
  deriving DecidableEq, Repr

structure ReportTable where
  title : String
  columns : List String
  rows : List (List String)
  deriving DecidableEq, Repr

inductive Message
  | log (entry : LogEntry)
  | line (text : String)
  | table (table : ReportTable)
  | code (text : List Char)
  deriving DecidableEq, Repr

/-- Messages go to the active stream, except that code goes to standard output. -/
structure Screen where
  active : Stream
  shown : List (Stream × Message)
  deriving DecidableEq, Repr

namespace Screen

def start : Screen := ⟨.stdout, []⟩

def print (messages : List Message) (screen : Screen) : Screen :=
  { screen with shown := screen.shown ++ messages.map fun message => (screen.active, message) }

def printCode (code : List Char) (screen : Screen) : Screen :=
  { screen with shown := screen.shown ++ [(.stdout, .code code)] }

end Screen

end VirtualImports
