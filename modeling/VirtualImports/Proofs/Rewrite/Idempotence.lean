import Mathlib.Data.List.Sort
import VirtualImports.Proofs.Rewrite.Simultaneity
import VirtualImports.Proofs.Routing.Rendering
import VirtualImports.Proofs.Statement.Revision

/-!
A second pass finds nothing to do.

* `code_eq_revise`: the new text is the old one in which the readable statements have given way;
* `foreign_render`: what comes in their place names no module that the engine rewrites;
* `run_idempotent`: a second pass changes nothing, and the statements that it meets are those that
  the first pass reported as unreadable.
-/
namespace VirtualImports

open Text Statement ModuleRewrite

namespace Engine

open Replacement

variable {engine : Engine} {code : List Char}

/-- The rendering that takes the place of an occurrence. -/
def rendering? (module : String × Routing) (occurrence : Occurrence) : Option (List Char) :=
  (replacement? module.2 occurrence).map render

/-- The replacements for the statements among the pieces of a text. -/
def edits (found : List ((String × Routing) × Occurrence)) : List Replacement :=
  found.filterMap fun x => replacement? x.1.2 x.2

theorem pairwise_edits (modules : List (String × Routing)) (code : List Char) :
    (edits (placed (pieces modules 0 true code))).Pairwise fun a b => a.start < b.start := by
  rw [edits, List.pairwise_filterMap]
  refine (pairwise_placed 0 true code).imp ?_
  intro x y before r hr s hs
  obtain ⟨_, _, startr, _⟩ := exists_statement_of_replacement? hr
  obtain ⟨_, _, starts, _⟩ := exists_statement_of_replacement? hs
  omega

/-- A specifier has one routing. -/
theorem eq_of_mem_mapped (sound : engine.configuration.Sound) {a b : String × Routing}
    (ha : a ∈ engine.mapped) (hb : b ∈ engine.mapped) (same : a.1 = b.1) : a = b := by
  have distinct : (engine.mapped.map Prod.fst).Nodup :=
    List.pairwise_map.2 (pairwise_mapped sound)
  exact List.inj_on_of_nodup_map distinct ha hb same

/-- Sorted, the replacements of a pass are those of one sweep. -/
theorem ordered_eq_edits (sound : engine.configuration.Sound)
    (plain : ∀ module ∈ engine.mapped, Plain module.1.toList) :
    engine.ordered code = edits (placed (pieces engine.mapped 0 true code)) := by
  have sorted : (engine.ordered code).Pairwise fun a b => a.start < b.start :=
    (inOrder_ordered sound).apart.imp And.left
  have irreflexive : Std.Irrefl fun a b : Replacement => a.start < b.start :=
    ⟨fun a => Int.lt_irrefl a.start⟩
  refine List.Pairwise.eq_of_mem_iff sorted (pairwise_edits engine.mapped code) ?_
  intro r
  rw [mem_ordered, mem_pooled, edits, List.mem_filterMap]
  constructor
  · rintro ⟨module, occurrence, mapped, found, eq⟩
    rw [find, ← occurrencesOf_pieces plain mapped, mem_occurrencesOf] at found
    obtain ⟨other, mem, same⟩ := found
    have inside := (start_le_of_mem_placed mem).1
    obtain rfl := eq_of_mem_mapped sound inside mapped same
    exact ⟨_, mem, eq⟩
  · rintro ⟨⟨module, occurrence⟩, mem, eq⟩
    have mapped := (start_le_of_mem_placed mem).1
    refine ⟨module, occurrence, mapped, ?_, eq⟩
    rw [find, ← occurrencesOf_pieces plain mapped, mem_occurrencesOf]
    exact ⟨module, mem, rfl⟩

/-- Weaving in the renderings from some position on makes the revision, behind what stands between
that position and the pieces. -/
theorem weave_edits {modules : List (String × Routing)} {before s : List Char} {lineStart : Bool}
    (split : code = before ++ s) {start : Nat} (le : start ≤ before.length) :
    weave code render start (edits (placed (pieces modules before.length lineStart s))) =
      before.drop start ++ revise rendering? (pieces modules before.length lineStart s) := by
  generalize hp : before.length = position at le ⊢
  fun_induction pieces modules position lineStart s generalizing before start with
  | case1 position lineStart s module cut found ih =>
    subst hp
    split at found
    · have text := text_of_cut? (headCut?_eq_some found).2
      have whole : code = (before ++ (cut.indent ++ cut.statement ++ cut.trailing)) ++ cut.rest := by
        rw [split, ← text, Cut.text, List.append_assoc before]
      have length : (before ++ (cut.indent ++ cut.statement ++ cut.trailing)).length =
          before.length + (cut.indent ++ cut.statement ++ cut.trailing).length :=
        List.length_append
      rw [placed, revise, edits, List.filterMap_cons, rendering?]
      cases given : replacement? module.2 (cut.occurrence before.length) with
      | none =>
        rw [← edits, ih whole length (by omega), List.drop_append_of_le_length le]
        simp only [Option.map_none, Option.getD_none, Cut.occurrence, List.append_assoc]
      | some r =>
        obtain ⟨_, _, first, last, _⟩ := exists_statement_of_replacement? given
        have gap : (code.drop start).take (before.length - start) = before.drop start := by
          rw [split, List.drop_append_of_le_length le,
            List.take_left' (by rw [List.length_drop])]
        have behind (a b : List Char) : (before ++ (a ++ b)).drop (before.length + a.length) = b := by
          rw [← List.length_append, ← List.append_assoc, List.drop_left]
        rw [← edits, weave, first, last]
        simp only [Cut.occurrence, Int.toNat_natCast, gap, Option.map_some, Option.getD_some]
        rw [ih whole length (by simp only [List.length_append]; omega), behind]
        simp only [List.append_assoc]
    · cases found
  | case2 position lineStart found =>
    rw [List.append_nil] at split
    rw [split]
    simp [placed, edits, weave, revise]
  | case3 position lineStart c rest found ih =>
    have whole : code = (before ++ [c]) ++ rest := by rw [split]; simp
    rw [placed, revise, ih whole (by simp [hp]) (by omega),
      List.drop_append_of_le_length (by omega), List.append_assoc, List.singleton_append]

/-- **What a pass leaves of a text.** The new text is the old one in which the readable statements
of the mapped modules have given way to their renderings. -/
theorem code_eq_revise (sound : engine.configuration.Sound)
    (plain : ∀ module ∈ engine.mapped, Plain module.1.toList) :
    applyAll code (engine.ordered code) =
      revise rendering? (pieces engine.mapped 0 true code) := by
  have woven : weave code render 0 (edits (placed (pieces engine.mapped 0 true code))) =
      revise rendering? (pieces engine.mapped 0 true code) :=
    weave_edits (show code = [] ++ code from rfl) (Nat.le_refl 0)
  rw [code_run sound, ordered_eq_edits sound plain, woven]

/-! ## Renderings -/

/-- The names in a configuration do not disturb the statements that they are written into, and
nothing is routed to a module that has a routing itself. -/
structure Settled (engine : Engine) : Prop where
  specifiers : ∀ module ∈ engine.mapped, Plain module.1.toList
  destinations : ∀ module ∈ engine.mapped, ∀ source ∈ module.2.sources,
    Plain source.destination.toList
  symbols : ∀ module ∈ engine.mapped, ∀ source ∈ module.2.sources, ∀ symbol ∈ source.symbol,
    Plain symbol.toList
  away : ∀ module ∈ engine.mapped, ∀ source ∈ module.2.sources, ∀ other ∈ engine.mapped,
    source.destination ≠ other.1

/-- What comes in the place of a statement names no module that the engine rewrites. -/
theorem foreign_render (sound : engine.configuration.Sound) (settled : engine.Settled)
    {module : String × Routing} (mapped : module ∈ engine.mapped) {cut : Cut} {position : Nat}
    {text : List Char} (found : cut? module.1.toList cut.text = some cut)
    (given : rendering? module (cut.occurrence position) = some text) :
    Foreign engine.mapped text := by
  obtain ⟨r, replaced, rfl⟩ := Option.map_eq_some_iff.1 given
  obtain ⟨⟨statement, readable, statements⟩, _, _, _, indent, newline⟩ :=
    exists_statement_of_replacement? replaced
  obtain ⟨_, frame, mark, quote, fits⟩ := cut?_eq_some_iff.1 found
  obtain ⟨_, shown, _, ending, _⟩ := fits.tail.trailing_eq
  have spaces : Plain r.indent := by
    rw [indent]
    exact ⟨fun c hc => isQuote_of_isSpaceOrTab (fits.indent c hc),
      fun c hc => ne_newline_of_isSpaceOrTab (fits.indent c hc)⟩
  refine ⟨r.statements.map (r.indent ++ ·), shown, r.newline, newline ▸ ending, ?_, rfl⟩
  intro line mem
  obtain ⟨rendered, hr, rfl⟩ := List.mem_map.1 mem
  rw [statements] at hr
  obtain ⟨source, hs, record, names, rfl⟩ := Routing.exists_record_of_mem_statements
    (valid_of_mem_mapped sound mapped) (ImportStatement.wellNamed_of_read readable)
    (p := fun name => Plain name.toList) (fun _ name => name.plain)
    (settled.symbols module mapped) hr
  have opening : Plain importWord := by decide
  have phrase : Plain (fromWord ++ [' ']) := by decide
  have closing : Plain [';'] := by decide
  refine ⟨r.indent ++ (importWord ++ (record.lead ++ (fromWord ++ [' ']))),
    source.destination.toList, [';'], '\'', by simp [sourceText], by decide, ?_,
    settled.destinations module mapped source hs, closing, ?_⟩
  · rw [plain_append, plain_append, plain_append]
    exact ⟨spaces, opening, Record.plain_lead names, phrase⟩
  · intro other ho same
    exact settled.away module mapped source hs other ho (String.toList_inj.1 same)

/-! ## Reports -/

/-- The statement of an occurrence cannot be read. -/
def isUnreadable (occurrence : Occurrence) : Bool :=
  (ImportStatement.read occurrence.statement).toOption.isNone

theorem isNone_rendering? (module : String × Routing) (occurrence : Occurrence) :
    (rendering? module occurrence).isNone = isUnreadable occurrence := by
  unfold rendering? replacement? isUnreadable
  cases ImportStatement.read occurrence.statement <;> rfl

theorem occurrencesOf_filter {α : Type} (specifier : String) (keeps : Occurrence → Bool)
    (found : List ((String × α) × Occurrence)) :
    occurrencesOf specifier (found.filter fun x => keeps x.2) =
      (occurrencesOf specifier found).filter keeps := by
  induction found with
  | nil => rfl
  | cons x found ih =>
    obtain ⟨module, occurrence⟩ := x
    rw [List.filter_cons, occurrencesOf]
    by_cases kept : keeps occurrence = true <;> by_cases same : module.1 = specifier <;>
      simp [kept, same, occurrencesOf, ih]

/-- The statements found in the new text are the unreadable ones. -/
theorem find_revised (sound : engine.configuration.Sound) (settled : engine.Settled)
    {module : String × Routing} (mapped : module ∈ engine.mapped) (code : List Char) :
    (find module.1 (applyAll code (engine.ordered code))).map Occurrence.texts =
      ((find module.1 code).filter isUnreadable).map Occurrence.texts := by
  have foreign : ∀ m ∈ engine.mapped, ∀ cut position text, cut? m.1.toList cut.text = some cut →
      rendering? m (cut.occurrence position) = some text → Foreign engine.mapped text :=
    fun m hm cut position text found given => foreign_render sound settled hm found given
  rw [code_eq_revise sound settled.specifiers, find, find,
    findFrom_revise settled.specifiers foreign mapped, ← occurrencesOf_pieces settled.specifiers
      mapped, ← occurrencesOf_filter]
  simp only [isNone_rendering?]

/-- In the new text no statement is left to replace. -/
theorem ordered_revised (sound : engine.configuration.Sound) (settled : engine.Settled)
    (code : List Char) : engine.ordered (applyAll code (engine.ordered code)) = [] := by
  apply List.eq_nil_iff_forall_not_mem.2
  intro r mem
  obtain ⟨module, occurrence, mapped, found, given⟩ := mem_pooled.1 (mem_ordered.1 mem)
  obtain ⟨⟨statement, readable, _⟩, _⟩ := exists_statement_of_replacement? given
  have listed : occurrence.texts ∈ ((find module.1 code).filter isUnreadable).map
      Occurrence.texts := by
    rw [← find_revised sound settled mapped code]
    exact List.mem_map_of_mem found
  obtain ⟨old, hold, same⟩ := List.mem_map.1 listed
  have unreadable := (List.mem_filter.1 hold).2
  have text : old.statement = occurrence.statement := congrArg Prod.snd same
  rw [isUnreadable, text, readable] at unreadable
  cases unreadable

/-- Reports of a statement that cannot be read, under the specifier of a module. -/
def reports (specifier : String) (diagnostics : List Diagnostic) : List Diagnostic :=
  diagnostics.filter fun diagnostic =>
    diagnostic.module = specifier ∧ diagnostic.kind = .unparseableStatement

theorem reports_flatMap {α : Type} (specifier : String) (items : List α)
    (f : α → List Diagnostic) :
    (reports specifier (items.flatMap f)).map Diagnostic.original =
      items.flatMap fun item => (reports specifier (f item)).map Diagnostic.original := by
  rw [reports, List.filter_flatMap, List.map_flatMap]
  rfl

theorem reports_diagnosticsOf (specifier other : String) (routing : Routing)
    (occurrence : Occurrence) :
    (reports specifier (diagnosticsOf other routing occurrence)).map Diagnostic.original =
      if other = specifier ∧ isUnreadable occurrence = true then [occurrence.original] else [] := by
  unfold diagnosticsOf isUnreadable reports
  cases ImportStatement.read occurrence.statement with
  | error cause =>
    by_cases same : other = specifier <;> simp [same, Diagnostic.kind, Except.toOption]
  | ok statement => simp [List.filter_map, Diagnostic.kind, Except.toOption, Function.comp_def]

theorem reports_occurrences (specifier other : String) (routing : Routing)
    (occurrences : List Occurrence) :
    (reports specifier (occurrences.flatMap (diagnosticsOf other routing))).map
        Diagnostic.original =
      if other = specifier then (occurrences.filter isUnreadable).map Occurrence.original
      else [] := by
  induction occurrences with
  | nil => simp [reports]
  | cons occurrence occurrences ih =>
    have first := reports_diagnosticsOf specifier other routing occurrence
    unfold reports at first ih ⊢
    rw [List.flatMap_cons, List.filter_append, List.map_append, first, ih]
    by_cases same : other = specifier <;>
      by_cases unreadable : isUnreadable occurrence = true <;> simp [same, unreadable]

/-- The reports of a pass for one module are those of its unreadable statements. -/
theorem reports_diagnostics (sound : engine.configuration.Sound) {module : String × Routing}
    (mapped : module ∈ engine.mapped) :
    (reports module.1 (engine.diagnostics code)).map Diagnostic.original =
      ((find module.1 code).filter isUnreadable).map Occurrence.original := by
  have one (other : String × Routing) := reports_occurrences module.1 other.1 other.2
    (find other.1 code)
  rw [diagnostics, reports_flatMap]
  simp only [one]
  exact Entries.flatMap_of_distinct (pairwise_mapped sound) mapped
    fun other => ((find other.1 code).filter isUnreadable).map Occurrence.original

/-- **Rewriting is idempotent and complete.** Where the names of an accepted configuration hold no
quotes and line breaks, and nothing is routed to a module that has a routing itself, a second pass
replaces nothing and leaves the text alone. The statements of the mapped modules that are still
found in it are those that the first pass reported as unreadable. -/
theorem run_idempotent {raw : Value} {configuration : Configuration} {target : Option String}
    {engine : Engine} (accepted : Configuration.ofValue raw = .ok configuration)
    (made : make? configuration target = some engine) (settled : engine.Settled)
    (code : List Char) :
    ∃ first second, (engine.run code).result = .ok first ∧
      (engine.run first.code).result = .ok second ∧
      second.replacements = [] ∧ second.code = first.code ∧
      ∀ module ∈ engine.mapped,
        (find module.1 first.code).map Occurrence.original =
          (first.diagnostics.filter fun diagnostic => diagnostic.module = module.1 ∧
            diagnostic.kind = .unparseableStatement).map Diagnostic.original := by
  obtain ⟨name, _, rfl⟩ := Option.map_eq_some_iff.1 made
  have sound : Configuration.Sound (Engine.mk configuration name).configuration :=
    Configuration.sound_of_ofValue accepted
  generalize Engine.mk configuration name = engine at sound settled
  have nothing := ordered_revised sound settled code
  refine ⟨_, _, run_eq_ok sound code, run_eq_ok sound _, nothing, ?_, ?_⟩
  · dsimp only
    rw [nothing, applyAll_nil]
  · intro module mapped
    have same := congrArg (List.map Prod.fst) (find_revised sound settled mapped code)
    rw [List.map_map, List.map_map] at same
    exact same.trans (reports_diagnostics sound mapped).symm

theorem settled_sample : Settled ⟨sampleConfiguration, "react"⟩ where
  specifiers := by decide
  destinations := by decide
  symbols := by decide
  away := by decide

theorem run_idempotent_sample :
    Configuration.ofValue sampleTable = .ok sampleConfiguration ∧
      make? sampleConfiguration (some "react") = some ⟨sampleConfiguration, "react"⟩ ∧
      ∃ first second, (run ⟨sampleConfiguration, "react"⟩ sampleText).result = .ok first ∧
        (run ⟨sampleConfiguration, "react"⟩ first.code).result = .ok second ∧
        second.replacements = [] ∧ second.code = first.code := by
  have accepted : Configuration.ofValue sampleTable = .ok sampleConfiguration := rfl
  have made : make? sampleConfiguration (some "react") = some ⟨sampleConfiguration, "react"⟩ := rfl
  obtain ⟨first, second, run, again, nothing, same, _⟩ :=
    run_idempotent accepted made settled_sample sampleText
  exact ⟨accepted, made, first, second, run, again, nothing, same⟩

end Engine

end VirtualImports
