/-!
Messages to the user, each with a level and the sign of its level in front.
-/
namespace VirtualImports

inductive Level
  | info
  | success
  | warning
  | error
  deriving DecidableEq, Repr

def Level.sign : Level → String
  | info => "ℹ️  "
  | success => "✅ "
  | warning => "⚠️  "
  | error => "❌ "

structure LogEntry where
  level : Level
  message : String
  deriving DecidableEq, Repr

def Level.log (level : Level) (text : String) : LogEntry :=
  ⟨level, level.sign ++ text⟩

end VirtualImports
