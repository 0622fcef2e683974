import VirtualImports.Proofs.Rewrite.Pass
import VirtualImports.Proofs.Rewrite.Weaving
import VirtualImports.Proofs.Statement.Finding
import VirtualImports.Proofs.Statement.Quotes

/-!
A pass is one simultaneous substitution.

* `spans_of_replacement?`: a replacement says truly what stands in its span;
* `pairwise_pooled`: the spans of two replacements have no character in common, whether one module
  or two ask for them;
* `run_simultaneous`: the new text is the old one with the renderings in the place of the spans.
-/
namespace VirtualImports

open Text Statement

namespace Replacement

/-- A span of the text that is not empty, with the text that stands in it. -/
structure Spans (code : List Char) (r : Replacement) : Prop where
  start_nonneg : 0 ≤ r.start
  start_lt_stop : r.start < r.stop
  stop_le : r.stop ≤ code.length
  original : r.original = r.span code

/-- One of the two spans ends before the other starts. -/
def Apart (a b : Replacement) : Prop :=
  a.stop ≤ b.start ∨ b.stop ≤ a.start

theorem Apart.symm {a b : Replacement} (h : a.Apart b) : b.Apart a :=
  Or.symm h

/-- Sorted by their starts, spans apart from one another are in order. -/
theorem inOrder_mergeSort {code : List Char} {replacements : List Replacement}
    (spans : ∀ r ∈ replacements, r.Spans code) (apart : replacements.Pairwise Apart) :
    InOrder code (replacements.mergeSort fun a b => decide (a.start ≤ b.start)) := by
  have perm := List.mergeSort_perm replacements fun a b => decide (a.start ≤ b.start)
  have sorted : (replacements.mergeSort fun a b => decide (a.start ≤ b.start)).Pairwise
      fun a b => decide (a.start ≤ b.start) = true := List.pairwise_mergeSort
    (by simp only [decide_eq_true_eq]; omega)
    (by simp only [Bool.or_eq_true, decide_eq_true_eq]; omega) replacements
  constructor
  · intro r hr
    have fits := spans r (perm.subset hr)
    exact ⟨fits.start_nonneg, Int.le_of_lt fits.start_lt_stop, fits.stop_le⟩
  · refine (sorted.and ((perm.pairwise_iff Apart.symm).2 apart)).imp_of_mem ?_
    rintro a b ha hb ⟨le, away⟩
    have first := (spans a (perm.subset ha)).start_lt_stop
    have second := (spans b (perm.subset hb)).start_lt_stop
    rw [decide_eq_true_eq] at le
    rcases away with away | away
    · exact ⟨by omega, away⟩
    · omega

end Replacement

namespace ModuleRewrite

theorem exists_statement_of_replacement? {routing : Routing} {occurrence : Occurrence}
    {r : Replacement} (h : replacement? routing occurrence = some r) :
    (∃ statement, ImportStatement.read occurrence.statement = .ok statement ∧
      r.statements = (routing.routed statement).statements) ∧
    r.original = occurrence.original ∧ r.start = occurrence.start ∧ r.stop = occurrence.stop ∧
      r.indent = occurrence.indent ∧ r.newline = occurrence.newline := by
  unfold replacement? at h
  split at h
  · cases h
  · rename_i statement found
    cases h
    exact ⟨⟨statement, found, rfl⟩, rfl, rfl, rfl, rfl, rfl⟩

/-- A replacement says truly what stands in its span. -/
theorem spans_of_replacement? {specifier : String} {code : List Char} {routing : Routing}
    {occurrence : Occurrence} {r : Replacement} (found : occurrence ∈ find specifier code)
    (h : replacement? routing occurrence = some r) : r.Spans code := by
  obtain ⟨before, after, cut, located⟩ := exists_located found
  obtain ⟨_, original, start, stop, _⟩ := exists_statement_of_replacement? h
  have length := List.length_pos_iff.2 located.original_ne_nil
  have stopEq := located.stop_eq
  refine ⟨by omega, by omega, ?_, ?_⟩
  · have := located.stop_le
    omega
  · rw [Replacement.span, original, start, stop, Int.toNat_natCast, Int.toNat_natCast,
      located.take_original]

end ModuleRewrite

namespace Engine

open ModuleRewrite Replacement

/-- A module that the engine rewrites, an occurrence of it in the text, and the replacement. -/
structure Asks (engine : Engine) (code : List Char) (module : String × Routing)
    (occurrence : Occurrence) (r : Replacement) : Prop where
  mapped : module ∈ engine.mapped
  found : occurrence ∈ find module.1 code
  eq : replacement? module.2 occurrence = some r

variable {engine : Engine} {code : List Char}

theorem mem_pooled {r : Replacement} :
    r ∈ engine.pooled code ↔ ∃ module occurrence, engine.Asks code module occurrence r := by
  simp only [pooled, List.mem_flatMap, List.mem_filterMap]
  constructor
  · rintro ⟨module, mapped, occurrence, found, eq⟩
    exact ⟨module, occurrence, mapped, found, eq⟩
  · rintro ⟨module, occurrence, mapped, found, eq⟩
    exact ⟨module, mapped, occurrence, found, eq⟩

theorem spans_of_mem_pooled {r : Replacement} (h : r ∈ engine.pooled code) : r.Spans code := by
  obtain ⟨module, occurrence, asks⟩ := mem_pooled.1 h
  exact spans_of_replacement? asks.found asks.eq

theorem mem_keys_of_mem_mapped {module : String × Routing} (h : module ∈ engine.mapped) :
    module.1 ∈ engine.configuration.modules.keys := by
  obtain ⟨⟨specifier, virtual⟩, mem, found⟩ := List.mem_filterMap.1 h
  obtain ⟨routing, _, rfl⟩ := Option.map_eq_some_iff.1 found
  exact List.mem_map_of_mem mem

theorem pairwise_mapped (sound : engine.configuration.Sound) :
    engine.mapped.Pairwise fun a b => a.1 ≠ b.1 := by
  have distinct : engine.configuration.modules.Pairwise fun a b => a.1 ≠ b.1 :=
    List.pairwise_map.1 sound.distinct
  rw [mapped, List.pairwise_filterMap]
  refine distinct.imp ?_
  rintro a b ne x hx y hy
  obtain ⟨_, _, rfl⟩ := Option.map_eq_some_iff.1 hx
  obtain ⟨_, _, rfl⟩ := Option.map_eq_some_iff.1 hy
  exact ne

/-- No specifier begins like the end of a line. -/
theorem head_of_mem_keys (sound : engine.configuration.Sound) {specifier : String}
    (h : specifier ∈ engine.configuration.modules.keys) :
    ∃ c ∈ specifier.toList.head?, isBlank c = false ∧ c ≠ ';' := by
  obtain ⟨rest, same⟩ := sound.started specifier h
  refine ⟨'v', ?_, by decide, by decide⟩
  rw [← same]
  rfl

/-- The spans that two modules ask for are apart: the statements can be read, so that neither
specifier holds a quote. -/
theorem apart_of_asks (sound : engine.configuration.Sound) {a b : String × Routing}
    {x y : Occurrence} {r s : Replacement} (ha : engine.Asks code a x r)
    (hb : engine.Asks code b y s) (ne : a.1 ≠ b.1) : r.Apart s := by
  obtain ⟨_, _, cutx, lx⟩ := exists_located ha.found
  obtain ⟨_, _, cuty, ly⟩ := exists_located hb.found
  obtain ⟨⟨_, readx, _⟩, _, startx, stopx, _⟩ := exists_statement_of_replacement? ha.eq
  obtain ⟨⟨_, ready, _⟩, _, starty, stopy, _⟩ := exists_statement_of_replacement? hb.eq
  rw [lx.eq] at readx
  rw [ly.eq] at ready
  have plainx := ImportStatement.unquoted_of_read lx.found readx
  have plainy := ImportStatement.unquoted_of_read ly.found ready
  have neList : a.1.toList ≠ b.1.toList := fun same => ne (String.toList_inj.1 same)
  rcases Nat.le_total x.start y.start with le | le
  · have := stop_le_start lx ly plainx plainy neList
      (fun _ => offLineEnd_of_head (head_of_mem_keys sound (mem_keys_of_mem_mapped hb.mapped))) le
    exact .inl (by omega)
  · have := stop_le_start ly lx plainy plainx neList.symm
      (fun _ => offLineEnd_of_head (head_of_mem_keys sound (mem_keys_of_mem_mapped ha.mapped))) le
    exact .inr (by omega)

/-- No two replacements have a character in common. -/
theorem pairwise_pooled (sound : engine.configuration.Sound) :
    (engine.pooled code).Pairwise Apart := by
  rw [pooled, List.pairwise_flatMap]
  constructor
  · intro module _
    rw [List.pairwise_filterMap]
    refine (pairwise_findFrom 0 true code).imp ?_
    intro x y behind r hr s hs
    obtain ⟨_, _, _, stop, _⟩ := exists_statement_of_replacement? hr
    obtain ⟨_, _, start, _⟩ := exists_statement_of_replacement? hs
    exact .inl (by omega)
  · refine (pairwise_mapped sound).imp_of_mem ?_
    intro a b ha hb ne r hr s hs
    obtain ⟨x, hx, eqx⟩ := List.mem_filterMap.1 hr
    obtain ⟨y, hy, eqy⟩ := List.mem_filterMap.1 hs
    exact apart_of_asks sound ⟨ha, hx, eqx⟩ ⟨hb, hy, eqy⟩ ne

theorem mem_ordered {r : Replacement} : r ∈ engine.ordered code ↔ r ∈ engine.pooled code :=
  (List.mergeSort_perm _ _).mem_iff

theorem inOrder_ordered (sound : engine.configuration.Sound) :
    InOrder code (engine.ordered code) :=
  inOrder_mergeSort (fun _ => spans_of_mem_pooled) (pairwise_pooled sound)

/-- The new text is the old one with the renderings in the place of the spans. -/
theorem code_run (sound : engine.configuration.Sound) :
    applyAll code (engine.ordered code) = weave code render 0 (engine.ordered code) :=
  applyAll_eq_weave (List.Perm.refl _) (inOrder_ordered sound)

theorem configuration_of_make? {configuration : Configuration} {target : Option String}
    (made : make? configuration target = some engine) : engine.configuration = configuration := by
  obtain ⟨name, _, rfl⟩ := Option.map_eq_some_iff.1 made
  rfl

theorem make?_some (configuration : Configuration) {target : String} (h : target ≠ "") :
    make? configuration (some target) = some ⟨configuration, target⟩ := by
  simp [make?, filledName?, h]

/-- **A pass is one substitution.** For an accepted configuration and a target, a pass over a text
succeeds. The spans that it replaces are not empty, lie in the text, stand in order and have
nothing in common, whichever modules they belong to. What stands between them is kept: with the
originals in their place it makes up the old text, and with the renderings the new one. -/
theorem run_simultaneous {raw : Value} {configuration : Configuration} {target : String}
    (accepted : Configuration.ofValue raw = .ok configuration) (named : target ≠ "")
    (code : List Char) :
    ∃ engine rewritten, make? configuration (some target) = some engine ∧
      (engine.run code).result = .ok rewritten ∧
      rewritten.replacements.Pairwise (fun a b => a.start < b.start ∧ a.stop ≤ b.start) ∧
      (∀ r ∈ rewritten.replacements, 0 ≤ r.start ∧ r.start < r.stop ∧ r.stop ≤ code.length ∧
        r.original = r.span code) ∧
      weave code original 0 rewritten.replacements = code ∧
      rewritten.code = weave code render 0 rewritten.replacements := by
  have sound := Configuration.sound_of_ofValue accepted
  have order : InOrder code (ordered ⟨configuration, target⟩ code) := inOrder_ordered sound
  have spans : ∀ r ∈ ordered ⟨configuration, target⟩ code, r.Spans code :=
    fun r hr => spans_of_mem_pooled (mem_ordered.1 hr)
  refine ⟨_, _, make?_some configuration named, run_eq_ok sound code, order.apart, ?_, ?_,
    code_run sound⟩
  · intro r hr
    have fits := spans r hr
    exact ⟨fits.start_nonneg, fits.start_lt_stop, fits.stop_le, fits.original⟩
  · exact weave_original order (fun r hr => (spans r hr).original) 0
      fun r hr => (order.within r hr).1

/-- Two modules, each with a routing for one target. -/
def sampleTable : Value :=
  .table [("modules", .table
    [("flow", .table [("targets", .table [("react", .text "@xyflow/react")])]),
      ("icons", .table [("targets", .table [("react", .table [("*", .text "icons-react")])])])])]

def sampleConfiguration : Configuration where
  modules :=
    [("virtual:flow", ⟨none, [("react", .module "@xyflow/react")]⟩),
      ("virtual:icons", ⟨none, [("react", .symbols [("*", .shorthand "icons-react")])]⟩)]
  declarationFile := some Configuration.defaultDeclarationFile
  target := none

def sampleText : List Char :=
  "import { Star } from 'virtual:icons'\nimport Flow from 'virtual:flow';\nrun()".toList

theorem run_simultaneous_sample :
    Configuration.ofValue sampleTable = .ok sampleConfiguration ∧ "react" ≠ "" ∧
      ∃ engine rewritten, make? sampleConfiguration (some "react") = some engine ∧
        (engine.run sampleText).result = .ok rewritten ∧
        weave sampleText original 0 rewritten.replacements = sampleText ∧
        rewritten.code = weave sampleText render 0 rewritten.replacements := by
  have accepted : Configuration.ofValue sampleTable = .ok sampleConfiguration := rfl
  have named : "react" ≠ "" := by decide
  obtain ⟨engine, rewritten, made, run, _, _, kept, code⟩ :=
    run_simultaneous accepted named sampleText
  exact ⟨accepted, named, engine, rewritten, made, run, kept, code⟩

end Engine

end VirtualImports
