import VirtualImports.Report.Screen
import VirtualImports.Rewrite.Diagnostic

/-!
The summary of a batch: one line if every file went well, and otherwise a table of the files that
did not.
-/
namespace VirtualImports

/-- How the rewrite of one file went. -/
structure FileReport where
  success : Bool
  errors : List String
  diagnostics : List (DiagnosticKind × String)
  deriving DecidableEq, Repr

namespace FileReport

def hasDiagnostics (report : FileReport) : Bool :=
  !report.diagnostics.isEmpty

def isClean (report : FileReport) : Bool :=
  report.success && !report.hasDiagnostics

def status (report : FileReport) : String :=
  if report.success then "⚠️ Warnings" else "❌ Failed"

def issues (report : FileReport) : String :=
  let text := "; ".intercalate
    (report.errors ++ report.diagnostics.map fun (kind, message) => kind.summary message)
  if text = "" then "Unknown Error" else text

def row (file : String) (report : FileReport) : List String :=
  [file, report.status, report.issues]

end FileReport

/-- The messages that close a batch. -/
def summarize (reports : Entries FileReport) : List Message :=
  let clean := (reports.filter fun (_, report) => report.isClean).length
  let issues := reports.length - clean
  if issues = 0 then
    [.log (Level.success.log ("Batch Complete: " ++ toString clean ++ "/" ++
      toString reports.length ++ " files rewritten cleanly."))]
  else
    [.table {
        title := "Rewrite Report"
        columns := ["File", "Status", "Issues"]
        rows := (reports.filter fun (_, report) => !report.isClean).map fun (file, report) =>
          report.row file },
      .line ("\n[bold]Summary:[/bold] " ++ toString clean ++ " Clean, " ++ toString issues ++
        " with Issues.")]

end VirtualImports
