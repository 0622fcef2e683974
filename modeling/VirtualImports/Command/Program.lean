import VirtualImports.Command.Declare
import VirtualImports.Command.Rewrite

/-!
The program: its arguments lead to a command, to a text about the program, or to a refusal.
-/
namespace VirtualImports.Command

def programName : String := "magic-imports"

def programVersion : String := "0.1.0"

def versionText : List Char :=
  (programName ++ " " ++ programVersion ++ "\n").toList

def usageText : String :=
  programName ++ " rewrite PATH [--target NAME] [--out PATH] [--config FILE] [--ext SUFFIX ...]\n" ++
    programName ++ " shim [--config FILE] [--out FILE]\n" ++
    programName ++ " --version\n"

variable [Libraries]

def run (command : Invocation) (session : Session) : Session × Ending :=
  match command with
  | .rewrite options => rewrite options session
  | .declare options => declare options (absolutePath session.cwd) session

/-- Help and refusals print their text outside the session; both leave it as it was. -/
def runProgram (arguments : List String) (session : Session) : Session × Ending :=
  match parse arguments with
  | .ok command => run command session
  | .error .help => (session, .exit 0)
  | .error .version => (session.printCode versionText, .exit 0)
  | .error .usage => (session, .exit 2)

end VirtualImports.Command
