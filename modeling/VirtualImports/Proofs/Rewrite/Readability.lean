import VirtualImports.Command.Plain
import VirtualImports.Proofs.Rewrite.Notes
import VirtualImports.Proofs.Routing.ReadBack

/-!
The statements that a pass writes, read again.

* `exists_writes`: each of them is for a record of a statement that was routed;
* `Writes.exists_again`: it can be read if no quote is in the name of its module and the exports
  that it asks for are names;
* `Writes.plain`: that is so where the configuration has no quotes and no symbols but names;
* `run_written`: a statement that can be read is for the module that its names were routed to.

A configuration may hold any text as the name of a module or as a symbol, and what it holds is
written as it stands.
-/
namespace VirtualImports.Engine

open Text Statement ModuleRewrite

/-- A statement that takes the place of another: what a record of the other is printed as. -/
structure Writes (engine : Engine) (code : List Char) (r : Replacement)
    (statement : ImportStatement) (routing : Routing) (entry : String × Record)
    (text : List Char) : Prop where
  asked : ∃ specifier occurrence, engine.Asks code (specifier, routing) occurrence r ∧
    ImportStatement.read occurrence.statement = .ok statement
  routed : ∃ routed, (routing.apply statement).result = .ok routed ∧ entry ∈ routed.records
  printed : entry.2.statement? entry.1 = some text

variable {engine : Engine} {code : List Char} {r : Replacement} {statement : ImportStatement}
  {routing : Routing} {entry : String × Record} {text : List Char}

/-- Each statement of a replacement is for a record of a statement that was routed. -/
theorem exists_writes (sound : engine.configuration.Sound) (mem : r ∈ engine.pooled code)
    (listed : text ∈ r.statements) :
    ∃ statement routing entry, engine.Writes code r statement routing entry text := by
  obtain ⟨⟨specifier, routing⟩, occurrence, asks⟩ := mem_pooled.1 mem
  obtain ⟨⟨statement, readable, statements⟩, _⟩ := exists_statement_of_replacement? asks.eq
  have valid : routing.Valid := valid_of_mem_mapped sound asks.mapped
  rw [statements] at listed
  obtain ⟨entry, he, printed⟩ := List.mem_filterMap.1 listed
  exact ⟨statement, routing, entry, ⟨specifier, occurrence, asks, readable⟩,
    ⟨_, valid.applies statement, he⟩, printed⟩

namespace Writes

theorem valid (sound : engine.configuration.Sound)
    (h : engine.Writes code r statement routing entry text) : routing.Valid := by
  obtain ⟨_, _, asks, _⟩ := h.asked
  exact valid_of_mem_mapped sound asks.mapped

theorem wellNamed (h : engine.Writes code r statement routing entry text) :
    statement.bindings.WellNamed := by
  obtain ⟨_, _, _, readable⟩ := h.asked
  exact ImportStatement.wellNamed_of_read readable

theorem mem_routed (h : engine.Writes code r statement routing entry text) :
    entry ∈ (routing.routed statement).records := by
  obtain ⟨routed, result, mem⟩ := h.routed
  rw [Routing.routed_of_apply result]
  exact mem

theorem destination_ne_empty (sound : engine.configuration.Sound)
    (h : engine.Writes code r statement routing entry text) : entry.1 ≠ "" :=
  Routing.destination_ne_empty_of_mem_routed (h.valid sound) h.wellNamed h.mem_routed

/-- With no quote in the name of its module, and names for the exports that it asks for, a statement
that is written can be read, and binds names of the old one where the routing takes them. -/
theorem exists_again (sound : engine.configuration.Sound)
    (h : engine.Writes code r statement routing entry text) (unquoted : Unquoted entry.1.toList)
    (exports : ∀ binding ∈ entry.2.named, IsName binding.imported) :
    ∃ again, ImportStatement.read text = .ok again ∧
      again.bound ⊆ statement.bound.filterMap routing.rebind? := by
  have valid := h.valid sound
  have names := Routing.names_of_mem_routed valid h.wellNamed h.mem_routed exports
  have back := Record.read_statement (h.destination_ne_empty sound) unquoted names h.printed
  refine ⟨_, back, fun bound mem => ?_⟩
  exact Routing.bound_of_mem_routed valid h.mem_routed
    (Record.bound_readBack_subset entry.1 entry.2 text mem)

/-- Where the routing brings in no quotes, and no symbols but names, that is so of every record. -/
theorem plain (sound : engine.configuration.Sound)
    (h : engine.Writes code r statement routing entry text)
    (unquoted : ∀ source ∈ routing.sources, Unquoted source.destination.toList)
    (identifiers : ∀ source ∈ routing.sources, ∀ symbol ∈ source.symbol, IsName symbol) :
    Unquoted entry.1.toList ∧ ∀ binding ∈ entry.2.named, IsName binding.imported := by
  obtain ⟨⟨source, listed, same⟩, names⟩ := Routing.exists_source_of_mem_records (h.valid sound)
    h.wellNamed (fun _ name => name) identifiers entry h.mem_routed
  exact ⟨same ▸ unquoted source listed, fun binding mem => (names.named binding mem).1⟩

end Writes

/-- **What a pass writes can be read.** Take an accepted configuration, any target, and a pass over a
text that comes out. Every statement that it puts in the place of another is for a record of the other.
If the name of the module is without quotes and the exports that are asked for are names, the statement
can be read, and binds names of the old one where the routing takes them. If a quote is in the name it
cannot. And whenever it can be read, it is for the module of the record, to which the names were
routed. -/
theorem run_written [Markup] {raw : Value} {configuration : Configuration} {target : Option String}
    (accepted : Configuration.ofValue raw = .ok configuration)
    (made : make? configuration target = some engine) {rewritten : Rewritten}
    (comesOut : (engine.run code).outcome = .ok rewritten) :
    ∀ r ∈ rewritten.replacements, ∀ text ∈ r.statements,
      ∃ statement routing entry, engine.Writes code r statement routing entry text ∧
        (Unquoted entry.1.toList → (∀ binding ∈ entry.2.named, IsName binding.imported) →
          ∃ again, ImportStatement.read text = .ok again ∧
            again.bound ⊆ statement.bound.filterMap routing.rebind?) ∧
        ∀ again, ImportStatement.read text = .ok again →
          Unquoted entry.1.toList ∧ again.specifier = entry.1 := by
  have sound : engine.configuration.Sound := by
    rw [configuration_of_make? made]
    exact Configuration.sound_of_ofValue accepted
  have run := ((outcome_eq_ok_iff sound).1 comesOut).1
  cases (run_eq_ok sound code).symm.trans run
  intro r mem text listed
  obtain ⟨statement, routing, entry, written⟩ := exists_writes sound (mem_ordered.1 mem) listed
  refine ⟨statement, routing, entry, written, written.exists_again sound, fun again back => ?_⟩
  exact ⟨(Record.unquoted_of_read written.printed back).2,
    Record.specifier_of_read (written.destination_ne_empty sound) written.printed back⟩

theorem sources_of_mem_mapped_sample {module : String × Routing}
    (mem : module ∈ mapped ⟨sampleConfiguration, "react"⟩) :
    ∀ source ∈ module.2.sources, Unquoted source.destination.toList ∧ source.symbol = none := by
  have listed : mapped ⟨sampleConfiguration, "react"⟩ =
      [("virtual:flow", .module "@xyflow/react"),
        ("virtual:icons", .symbols [("*", .shorthand "icons-react")])] := rfl
  rw [listed] at mem
  simp only [List.mem_cons, List.not_mem_nil, or_false] at mem
  rcases mem with rfl | rfl
  · decide
  · decide

/-- One statement of one of the two modules. -/
def oneImport : List Char :=
  "run()\nimport Icons, { Star } from 'virtual:icons'".toList

theorem run_written_sample :
    Configuration.ofValue sampleTable = .ok sampleConfiguration ∧
      make? sampleConfiguration (some "react") = some ⟨sampleConfiguration, "react"⟩ ∧
      ∃ rewritten, @Attempt.outcome _ _ Libraries.plain.toMarkup
          (run ⟨sampleConfiguration, "react"⟩ oneImport) = .ok rewritten ∧
        rewritten.replacements.map Replacement.statements =
          [["import Icons, { Star } from 'icons-react';".toList]] ∧
        ∀ r ∈ rewritten.replacements, ∀ text ∈ r.statements,
          ∃ again, ImportStatement.read text = .ok again := by
  have accepted : Configuration.ofValue sampleTable = .ok sampleConfiguration := rfl
  have made : make? sampleConfiguration (some "react") = some ⟨sampleConfiguration, "react"⟩ := rfl
  have sound := Configuration.sound_of_ofValue accepted
  obtain ⟨rewritten, comesOut, shown⟩ : ∃ rewritten, @Attempt.outcome _ _ Libraries.plain.toMarkup
      (run ⟨sampleConfiguration, "react"⟩ oneImport) = .ok rewritten ∧
        rewritten.replacements.map Replacement.statements =
          [["import Icons, { Star } from 'icons-react';".toList]] := by
    refine ⟨⟨"run()\nimport Icons, { Star } from 'icons-react';".toList,
      [⟨"import Icons, { Star } from 'virtual:icons'".toList, 6, 49,
        ["import Icons, { Star } from 'icons-react';".toList], [], ['\n']⟩], []⟩, ?_, rfl⟩
    decide +kernel
  refine ⟨accepted, made, rewritten, comesOut, shown, fun r mem text listed => ?_⟩
  obtain ⟨statement, routing, entry, writes, readable, _⟩ :=
    @run_written _ _ Libraries.plain.toMarkup _ _ _ accepted made _ comesOut r mem text listed
  obtain ⟨_, _, asks, _⟩ := writes.asked
  obtain ⟨unquoted, exports⟩ := writes.plain sound
    (fun source hs => (sources_of_mem_mapped_sample asks.mapped source hs).1)
    (fun source hs symbol given => by
      rw [(sources_of_mem_mapped_sample asks.mapped source hs).2] at given
      cases given)
  obtain ⟨again, back, _⟩ := readable unquoted exports
  exact ⟨again, back⟩

/-- A module whose name holds a quote, and a symbol that is no name. -/
def unprintableTable : Value :=
  .table [("modules", .table [("ui", .table [("targets", .table [("react", .table
    [("A", .text "it's"), ("B", .table [("from", .text "lib"), ("symbol", .text "B C")])])])])])]

def unprintableConfiguration : Configuration where
  modules := [("virtual:ui", ⟨none, [("react", .symbols
    [("A", .shorthand "it's"), ("B", .checked ⟨"lib", some "B C"⟩)])]⟩)]
  declarationFile := some Configuration.defaultDeclarationFile
  target := none

/-- The configuration is accepted, and neither statement that comes of it can be read. -/
theorem run_unreadable :
    Configuration.ofValue unprintableTable = .ok unprintableConfiguration ∧
      make? unprintableConfiguration (some "react") = some ⟨unprintableConfiguration, "react"⟩ ∧
      ∃ rewritten r, (run ⟨unprintableConfiguration, "react"⟩
          "import { A, B } from 'virtual:ui'".toList).result = .ok rewritten ∧
        rewritten.replacements = [r] ∧
        r.statements = ["import { A } from 'it's';".toList,
          "import { B C as B } from 'lib';".toList] ∧
        ∀ text ∈ r.statements, ∀ again, ImportStatement.read text ≠ .ok again := by
  have unread {text : List Char} (h : (ImportStatement.read text).toOption = none)
      (again : ImportStatement) : ImportStatement.read text ≠ .ok again := by
    rintro back
    rw [back] at h
    cases h
  refine ⟨rfl, rfl, ⟨"import { A } from 'it's';\nimport { B C as B } from 'lib';".toList,
      [⟨"import { A, B } from 'virtual:ui'".toList, 0, 33, ["import { A } from 'it's';".toList,
        "import { B C as B } from 'lib';".toList], [], ['\n']⟩], []⟩, _, ?_, rfl, rfl, ?_⟩
  · decide +kernel
  · simp only [List.forall_mem_cons, List.not_mem_nil, false_implies, implies_true, and_true]
    exact ⟨unread (by decide +kernel), unread (by decide +kernel)⟩

end VirtualImports.Engine
