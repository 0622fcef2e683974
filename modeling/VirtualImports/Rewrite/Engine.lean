import VirtualImports.Configuration.Basic
import VirtualImports.Rewrite.ModuleRewrite

/-!
The rewrite of a source text for one target: all modules of a configuration are looked for in the
unchanged text, and their replacements are made together.
-/
namespace VirtualImports

/-- A configuration and the target to rewrite for. -/
structure Engine where
  configuration : Configuration
  target : String
  deriving Repr

structure Rewritten where
  code : List Char
  replacements : List Replacement
  diagnostics : List Diagnostic
  deriving DecidableEq, Repr

namespace Rewritten

/-- At least one statement was rewritten. -/
def changed (rewritten : Rewritten) : Bool :=
  !rewritten.replacements.isEmpty

end Rewritten

namespace Engine

/-- The target asked for, or else the one that the configuration names; an empty name is none. -/
def make? (configuration : Configuration) (target : Option String) : Option Engine :=
  ((filledName? target).or (filledName? configuration.target)).map fun target =>
    ⟨configuration, target⟩

def noTargetMessage : String :=
  "No compilation target specified (pass target or set 'target' in config)."

/-- A module with statements in the text but no routing for the target is mentioned, in a note with
tags that holds the names as they are. -/
def noMapping (specifier target : String) : LogEntry :=
  Level.info.log ("Module [code]" ++ specifier ++ "[/code] has no mapping for target '" ++ target ++
    "'.")

/-- The part that one module has in the rewrite. -/
def moduleRewrite (engine : Engine) (code : List Char) (specifier : String)
    (module : VirtualModule) : Attempt Invalid ModuleRewrite :=
  match module.targets.get? engine.target with
  | some routing => ModuleRewrite.compute code specifier routing
  | none =>
    ⟨if (Statement.find specifier code).isEmpty then [] else [noMapping specifier engine.target],
      .ok ⟨[], []⟩⟩

/-- A pass over a text: what it works out, and what it reports on the way. A report that cannot be drawn
ends it, as its `outcome` says. -/
def run (engine : Engine) (code : List Char) : Attempt Invalid Rewritten :=
  (Attempt.all (engine.configuration.modules.map fun (specifier, module) =>
    engine.moduleRewrite code specifier module)).map fun rewrites =>
      let rewrite := ModuleRewrite.join rewrites
      let replacements := rewrite.replacements.mergeSort fun a b => decide (a.start ≤ b.start)
      ⟨Replacement.applyAll code replacements, replacements, rewrite.diagnostics⟩

end Engine

end VirtualImports
