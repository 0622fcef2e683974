import VirtualImports.Command.Arguments
import VirtualImports.Command.Summary
import VirtualImports.Configuration.Loading
import VirtualImports.Report.Markup

/-!
Sessions: the files, the directory that a command runs in, and the screen.

Commands rely on libraries for two things that they cannot tell beforehand: how messages with tags are
drawn, and how a fault of a configuration is worded. Both are parameters here.
-/
namespace VirtualImports

structure Session where
  files : FileTree
  cwd : Location
  screen : Screen
  deriving DecidableEq, Repr

/-- How messages are drawn, and what the reader of a configuration says of a fault in it. -/
class Libraries extends Markup where
  wording : LoadFault → String

/-- What is logged of a fault that a command expects. -/
def LoadFault.complaint [Libraries] (fault : LoadFault) : LogEntry :=
  Level.error.log (fault.message Libraries.wording)

/-- What ends a command that no command expects. -/
inductive Crash
  | load (fault : LoadFault)
  | file (error : FileError)
  | routing (invalid : Invalid)
  | undrawable (message : Message)
  deriving DecidableEq, Repr

def Crash.message [Libraries] : Crash → String
  | load fault => fault.message Libraries.wording
  | file error => error.message
  | routing invalid => invalid.model.title ++ ": " ++ "; ".intercalate
      (invalid.issues.map fun issue =>
        ".".intercalate issue.place ++ ": " ++ issue.complaint.message)
  | undrawable _ => "A closing tag has nothing to close."

/-- How a command ends. What becomes of a configuration with half of a surrogate pair is left open. -/
inductive Ending
  | exit (code : Nat)
  | crash (crash : Crash)
  | unmodelled
  deriving DecidableEq, Repr

namespace Session

def print (messages : List Message) (session : Session) : Session :=
  { session with screen := session.screen.print messages }

/-- Shows a warning. Its tags are not read, so it can always be drawn. -/
def warn (text : String) (session : Session) : Session :=
  session.print [.log (Level.warning.log text)]

def printCode (code : List Char) (session : Session) : Session :=
  { session with screen := session.screen.printCode code }

/-- Sends what follows to another stream. -/
def activate (stream : Stream) (session : Session) : Session :=
  { session with screen := { session.screen with active := stream } }

/-- Loads the configuration that the options of a command lead to. A cleared target replaces that
of the file by a value that is no text. -/
def load (session : Session) (searchPath : Path) (target : Command.Setting String)
    (configurationFile : Command.Setting Path) : Except LoadFault Configuration :=
  let target :=
    match target with
    | .unset => none
    | .cleared => some (.list [])
    | .value target => some (.text target)
  match configurationFile with
  | .cleared => .error .unnamedFile
  | file => VirtualImports.load session.files session.cwd ⟨some searchPath, target, none, file.value?⟩

section Drawing
variable {β : Type}

/-- Shows messages and goes on with what is next. A message that cannot be drawn is not shown, and
nothing comes after it: the command crashes. -/
def tell [Markup] (stop : Crash → β) (messages : List Message) (next : Session → Session × β)
    (session : Session) : Session × β :=
  match messages.find? fun message => !message.isDrawable with
  | none => next (session.print messages)
  | some message =>
    (session.print (messages.takeWhile Message.isDrawable), stop (.undrawable message))

variable [Libraries]

/-- Shows messages and ends the command. -/
def finish (messages : List Message) (code : Nat) (session : Session) : Session × Ending :=
  session.tell .crash messages fun session => (session, .exit code)

/-- Ends a command that could not load its configuration. -/
def endLoad (fault : LoadFault) (session : Session) : Session × Ending :=
  match fault with
  | .loneSurrogate => (session, .unmodelled)
  | fault =>
    if fault.isExpected then session.finish [.log fault.complaint] 1
    else (session, .crash (.load fault))

end Drawing

end Session

end VirtualImports
