import VirtualImports.Command.Plain
import VirtualImports.Command.Rewrite
import VirtualImports.Proofs.Rewrite.Notes

/-!
Passes that do not fail.

* `run_of_absent`: a pass leaves a text without statements of mapped modules as it is;
* `rewriteFile_of_outcome`: a file that is read and printed counts as a success when its pass comes out;
* `run_succeeds`: for an accepted configuration and a target a pass succeeds, and so does every look-up
  that it may come to;
* `run_raises`: a note on a module without a routing may still end it.
-/
namespace VirtualImports.Engine

open Command

variable {engine : Engine} {code : List Char}

/-- A text in which no mapped module is located stays as it is. -/
theorem run_of_absent (sound : engine.configuration.Sound)
    (absent : ∀ module ∈ engine.mapped, Statement.find module.1 code = []) :
    (engine.run code).result = .ok ⟨code, [], []⟩ := by
  have pooled : engine.pooled code = [] := by
    rw [pooled, List.flatMap_eq_nil_iff]
    rintro ⟨specifier, routing⟩ mem
    dsimp only
    rw [absent (specifier, routing) mem, List.filterMap_nil]
  have diagnostics : engine.diagnostics code = [] := by
    rw [Engine.diagnostics, List.flatMap_eq_nil_iff]
    rintro ⟨specifier, routing⟩ mem
    dsimp only
    rw [absent (specifier, routing) mem, List.flatMap_nil]
  rw [run_eq_ok sound, ordered, pooled, diagnostics, List.mergeSort_nil, Replacement.applyAll_nil]

section
variable [Libraries]

/-- A pass over a file that is printed ends the command where its outcome is a note that cannot be drawn,
and otherwise counts as a success. -/
theorem rewriteFile_of_outcome {session : Session} {input : Path}
    (read : readSource session input = .ok code) :
    (∀ rewritten, (engine.run code).outcome = .ok rewritten →
      (rewriteFile engine input none session).2 = .ok ⟨true, [], diagnosticLines rewritten⟩) ∧
    ∀ note, (engine.run code).outcome = .error (.undrawable note) →
      (rewriteFile engine input none session).2 = .error (.undrawable (.log note)) := by
  simp only [rewriteFile, read, Session.tell, Message.find?_map_log, Attempt.outcome]
  cases (engine.run code).logs.find? fun entry => !entry.isDrawable with
  | some note => exact ⟨nofun, fun _ same => by cases same; rfl⟩
  | none =>
    cases (engine.run code).result with
    | error invalid => exact ⟨nofun, nofun⟩
    | ok rewritten => exact ⟨fun _ same => by cases same; rfl, nofun⟩

/-- **A pass does not fail.** For an accepted configuration and a target there is an engine, and its
pass over any text has a result. It reports warnings, and a note on each module with statements in the
text and no routing. If these notes can be drawn, the pass comes out as its result, and the report on a
file with that text has no errors. Otherwise one that cannot be drawn ends the pass, and the command
with it. In the symbol maps for the target each entry stands for a source, the catch-all among them,
and each binding has a resolution, whichever statement asks for it. -/
theorem run_succeeds {raw : Value} {configuration : Configuration} {target : String}
    (accepted : Configuration.ofValue raw = .ok configuration) (named : target ≠ "")
    (code : List Char) :
    ∃ engine rewritten, make? configuration (some target) = some engine ∧
      (engine.run code).result = .ok rewritten ∧
      (∀ entry ∈ (engine.run code).logs, entry.level = .warning ∨
        ∃ module ∈ configuration.modules, module.2.targets.get? target = none ∧
          Statement.find module.1 code ≠ [] ∧ entry = noMapping module.1 target) ∧
      ((∀ module ∈ configuration.modules, module.2.targets.get? target = none →
          Statement.find module.1 code ≠ [] → (noMapping module.1 target).isDrawable = true) →
        (engine.run code).outcome = .ok rewritten ∧
          ∀ session input, readSource session input = .ok code →
            (rewriteFile engine input none session).2 =
              .ok ⟨true, [], diagnosticLines rewritten⟩) ∧
      (∀ module ∈ configuration.modules, module.2.targets.get? target = none →
        Statement.find module.1 code ≠ [] → (noMapping module.1 target).isDrawable = false →
          ∃ note : LogEntry, note.isDrawable = false ∧
            (engine.run code).outcome = .error (.undrawable note) ∧
            ∀ session input, readSource session input = .ok code →
              (rewriteFile engine input none session).2 = .error (.undrawable (.log note))) ∧
      ∀ module ∈ configuration.modules, ∀ entries,
        module.2.targets.get? target = some (.symbols entries) →
          (∀ entry ∈ entries, ∃ source, entry.2.toSource = .ok source) ∧
          ∃ map, SymbolMap.ofEntries entries = .ok map ∧
            ∀ request, ∃ resolution, map.resolve request = .ok resolution := by
  have sound := Configuration.sound_of_ofValue accepted
  have run := (run_eq_ok sound code : (run ⟨configuration, target⟩ code).result = _)
  refine ⟨_, _, make?_some configuration named, run, fun entry mem => ?_, fun drawable => ?_,
    fun module listed unmapped located undrawable => ?_, fun module listed entries mapped => ?_⟩
  · exact (cases_of_mem_logs mem).imp_right mem_notes.1
  · have outcome := (outcome_eq_ok_iff sound).2 ⟨run, fun note mem => by
      obtain ⟨module, listed, unmapped, located, rfl⟩ := mem_notes.1 mem
      exact drawable module listed unmapped located⟩
    exact ⟨outcome, fun session input read => (rewriteFile_of_outcome read).1 _ outcome⟩
  · have mem : noMapping module.1 target ∈ notes ⟨configuration, target⟩ code :=
      mem_notes.2 ⟨module, listed, unmapped, located, rfl⟩
    have comes := @outcome_cases ⟨configuration, target⟩ _ sound code
    rcases comes with ⟨drawable, _⟩ | ⟨note, _, stuck, outcome⟩
    · rw [drawable _ mem] at undrawable
      cases undrawable
    · exact ⟨note, stuck, outcome, fun session input read => (rewriteFile_of_outcome read).2 _ outcome⟩
  · have valid : (Routing.symbols entries).Valid :=
      sound.valid module listed (target, .symbols entries) (Entries.mem_of_get? mapped)
    obtain ⟨map, built, same⟩ := SymbolMap.exists_ofEntries valid.lookUp
    exact ⟨valid.lookUp, map, built, SymbolMap.exists_resolve (same ▸ valid.lookUp)⟩

end

/-- A symbol map, and a module that has no routing for the target. -/
def partialTable : Value :=
  .table [("modules", .table
    [("ui", .table [("targets", .table [("react", .table
        [("A", .table [("from", .text "lib")]), ("*", .text "rest")])])]),
      ("icons", .table [])])]

def partialConfiguration : Configuration where
  modules :=
    [("virtual:ui", ⟨none, [("react", .symbols
        [("A", .checked ⟨"lib", none⟩), ("*", .shorthand "rest")])]⟩),
      ("virtual:icons", ⟨none, []⟩)]
  declarationFile := some Configuration.defaultDeclarationFile
  target := none

def partialText : List Char :=
  "import { A, B } from 'virtual:ui'\nimport Star from 'virtual:icons'".toList

theorem run_succeeds_sample :
    Configuration.ofValue partialTable = .ok partialConfiguration ∧ "react" ≠ "" ∧
      ∃ engine rewritten, make? partialConfiguration (some "react") = some engine ∧
        @Attempt.outcome _ _ Libraries.plain.toMarkup (engine.run partialText) = .ok rewritten ∧
        (engine.run partialText).logs = [noMapping "virtual:icons" "react"] ∧
        ∀ session input, readSource session input = .ok partialText →
          (@rewriteFile .plain engine input none session).2 =
            .ok ⟨true, [], diagnosticLines rewritten⟩ := by
  have accepted : Configuration.ofValue partialTable = .ok partialConfiguration := rfl
  have named : "react" ≠ "" := by decide
  obtain ⟨engine, rewritten, made, _, _, succeeds, _⟩ :=
    @run_succeeds .plain _ _ _ accepted named partialText
  have drawable : ∀ module ∈ partialConfiguration.modules, module.2.targets.get? "react" = none →
      Statement.find module.1 partialText ≠ [] →
        @LogEntry.isDrawable Libraries.plain.toMarkup (noMapping module.1 "react") = true := by
    intro module mem _ _
    simp only [partialConfiguration, List.mem_cons, List.not_mem_nil, or_false] at mem
    rcases mem with rfl | rfl <;> decide +kernel
  obtain ⟨outcome, report⟩ := succeeds drawable
  refine ⟨accepted, named, engine, rewritten, made, outcome, ?_, report⟩
  cases made
  decide +kernel

/-- A module without a routing whose name is a closing tag. -/
def taggedTable : Value :=
  .table [("modules", .table [("[/x]", .table [])])]

def taggedConfiguration : Configuration where
  modules := [("virtual:[/x]", ⟨none, []⟩)]
  declarationFile := some Configuration.defaultDeclarationFile
  target := none

def taggedText : List Char :=
  "import { A } from 'virtual:[/x]'".toList

/-- The configuration is accepted, and the note on its module ends the pass. -/
theorem run_raises :
    Configuration.ofValue taggedTable = .ok taggedConfiguration ∧
      make? taggedConfiguration (some "react") = some ⟨taggedConfiguration, "react"⟩ ∧
      @Attempt.outcome _ _ Libraries.plain.toMarkup (run ⟨taggedConfiguration, "react"⟩ taggedText) =
        .error (.undrawable (noMapping "virtual:[/x]" "react")) :=
  ⟨rfl, rfl, by decide +kernel⟩

end VirtualImports.Engine
