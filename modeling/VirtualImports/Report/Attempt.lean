import VirtualImports.Report.Markup

/-!
Attempts: work that reports as it goes and may fail. What was reported before a failure stays
reported.

An attempt tells what is worked out and reported. Its outcome takes in that each report is drawn when
it is made, and that one that cannot be drawn ends the work.
-/
namespace VirtualImports

structure Attempt (ε α : Type) where
  logs : List LogEntry
  result : Except ε α

/-- What ends work early. -/
inductive Raised (ε : Type)
  | undrawable (entry : LogEntry)
  | failed (error : ε)
  deriving DecidableEq, Repr

namespace Attempt

variable {ε α β : Type}

def done (value : α) : Attempt ε α := ⟨[], .ok value⟩

def failed (error : ε) : Attempt ε α := ⟨[], .error error⟩

def map (f : α → β) (attempt : Attempt ε α) : Attempt ε β :=
  ⟨attempt.logs, attempt.result.map f⟩

/-- Attempts made one after the other, up to the first failure. -/
def all : List (Attempt ε α) → Attempt ε (List α)
  | [] => done []
  | attempt :: rest =>
    match attempt.result with
    | .error error => ⟨attempt.logs, .error error⟩
    | .ok value =>
      let later := all rest
      ⟨attempt.logs ++ later.logs, later.result.map (value :: ·)⟩

/-- What comes of an attempt as its reports are drawn: the first that cannot be drawn ends it. -/
def outcome [Markup] (attempt : Attempt ε α) : Except (Raised ε) α :=
  match attempt.logs.find? fun entry => !entry.isDrawable with
  | some entry => .error (.undrawable entry)
  | none => attempt.result.mapError .failed

end Attempt

end VirtualImports
