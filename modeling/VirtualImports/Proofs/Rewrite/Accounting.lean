import VirtualImports.Proofs.Rewrite.OneModule
import VirtualImports.Proofs.Routing.Fates
import VirtualImports.Proofs.Statement.Agreement

/-!
What becomes of each statement that is found.

* `specifier_of_read`: a statement that is found for a module and can be read names that module;
* `forall₂_replaces`: each statement that can be read is replaced;
* `exists_reports`: each statement that cannot is reported, and so is each binding that is dropped;
* `logs_of_compute`: the warnings are those that go with the reports, in their order;
* `exists_unreadable`: a statement that cannot be read is left as it stands;
* `compute_accounts`: the account of a rewrite that succeeds.
-/
namespace VirtualImports

open Text Statement Replacement

/-- A statement that is found for a module and can be read names that module. -/
theorem Statement.specifier_of_read {code : List Char} {specifier : String}
    {occurrence : Occurrence} (mem : occurrence ∈ find specifier code)
    {statement : ImportStatement}
    (readable : ImportStatement.read occurrence.statement = .ok statement) :
    statement.specifier = specifier := by
  obtain ⟨before, after, cut, located⟩ := exists_located mem
  obtain ⟨_, frame, mark, quote, fits⟩ := cut?_eq_some_iff.1 located.found
  have text : occurrence.statement = trim cut.statement := by
    rw [located.eq]
    rfl
  rw [text] at readable
  obtain ⟨named, unquoted⟩ := fits.proper_of_read readable
  obtain ⟨header, found, same⟩ := fits.exists_header named unquoted
  obtain ⟨other, again, _, shown, _⟩ := ImportStatement.exists_header_of_read readable
  rw [found, Option.some.injEq] at again
  rw [shown, ← again, same, String.ofList_toList]

/-- The warning that goes with a diagnostic. -/
def Diagnostic.log (diagnostic : Diagnostic) : LogEntry :=
  match diagnostic.problem with
  | .unreadable cause => cause.log
  | .unresolved binding => binding.log diagnostic.module

theorem Diagnostic.level_log (diagnostic : Diagnostic) : diagnostic.log.level = .warning := by
  unfold log
  split <;> rfl

namespace ModuleRewrite

/-- A replacement puts what a routing makes of a statement in the place where it was found. -/
structure Replaces (routing : Routing) (occurrence : Occurrence) (r : Replacement) : Prop where
  original : r.original = occurrence.original
  start : r.start = occurrence.start
  stop : r.stop = occurrence.stop
  indent : r.indent = occurrence.indent
  newline : r.newline = occurrence.newline
  statements : ∃ statement routed, ImportStatement.read occurrence.statement = .ok statement ∧
    (routing.apply statement).result = .ok routed ∧ r.statements = routed.statements

/-- What is reported of a statement: that it cannot be read, or each binding that is dropped. -/
inductive Reports (specifier : String) (routing : Routing) (occurrence : Occurrence) :
    List Diagnostic → Prop
  | unreadable {cause : Unreadable}
      (refused : ImportStatement.read occurrence.statement = .error cause) :
      Reports specifier routing occurrence [⟨specifier, occurrence.original, .unreadable cause⟩]
  | readable {statement : ImportStatement}
      (read : ImportStatement.read occurrence.statement = .ok statement) :
      Reports specifier routing occurrence
        ((statement.requests.filter (routing.Drops ·)).map fun request =>
          ⟨specifier, occurrence.original, .unresolved ⟨request.kind, request.imported⟩⟩)

variable {code : List Char} {specifier : String} {routing : Routing} {rewrite : ModuleRewrite}
  {occurrence : Occurrence}

/-- Each statement that can be read has one replacement, in the order of the text. -/
theorem forall₂_replaces (done : (compute code specifier routing).result = .ok rewrite) :
    List.Forall₂ (Replaces routing) ((find specifier code).filter (!Engine.isUnreadable ·))
      rewrite.replacements := by
  obtain ⟨routable, rfl⟩ := compute_eq_ok_iff.1 done
  simp only
  generalize find specifier code = found at routable
  induction found with
  | nil => exact .nil
  | cons occurrence rest ih =>
    have later := ih fun other mem => routable other (List.mem_cons_of_mem _ mem)
    rw [List.filter_cons, List.filterMap_cons]
    cases read : ImportStatement.read occurrence.statement with
    | error cause => simpa [Engine.isUnreadable, replacement?, read, Except.toOption] using later
    | ok statement =>
      have applied := routable occurrence List.mem_cons_self statement read
      simp only [Engine.isUnreadable, replacement?, read, Except.toOption, Option.isNone_some,
        Bool.not_false, if_true]
      exact .cons ⟨rfl, rfl, rfl, rfl, rfl, statement, _, read, applied, rfl⟩ later

/-- The diagnostics are what is reported of the statements, one after the other. -/
theorem exists_reports (done : (compute code specifier routing).result = .ok rewrite) :
    ∃ reports, List.Forall₂ (Reports specifier routing) (find specifier code) reports ∧
      rewrite.diagnostics = reports.flatten := by
  obtain ⟨routable, rfl⟩ := compute_eq_ok_iff.1 done
  refine ⟨(find specifier code).map (diagnosticsOf specifier routing), ?_, List.flatMap_def ..⟩
  rw [List.forall₂_map_right_iff, List.forall₂_same]
  intro occurrence mem
  unfold diagnosticsOf
  cases read : ImportStatement.read occurrence.statement with
  | error cause => exact .unreadable read
  | ok statement =>
    simp only
    rw [Routing.unresolved_of_apply (routable occurrence mem statement read), List.map_map]
    exact .readable read

/-- Each diagnostic goes with one warning, in their order, and there are no other reports. -/
theorem logs_of_compute (done : (compute code specifier routing).result = .ok rewrite) :
    (compute code specifier routing).logs = rewrite.diagnostics.map Diagnostic.log := by
  obtain ⟨values, all, _⟩ := Except.map_eq_ok.1 done
  obtain ⟨routable, rfl⟩ := compute_eq_ok_iff.1 done
  simp only [compute, Attempt.map]
  rw [Attempt.logs_all all, List.flatMap_map, List.map_flatMap]
  refine List.flatMap_congr fun occurrence mem => ?_
  unfold ofOccurrence diagnosticsOf
  cases read : ImportStatement.read occurrence.statement with
  | error cause => rfl
  | ok statement =>
    have applied := routable occurrence mem statement read
    simp only [Attempt.map]
    rw [Routing.logs_apply applied, specifier_of_read mem read, List.map_map]
    rfl

theorem replacement?_eq_none_iff (routing : Routing) (occurrence : Occurrence) :
    replacement? routing occurrence = none ↔ Engine.isUnreadable occurrence = true := by
  unfold replacement? Engine.isUnreadable
  cases ImportStatement.read occurrence.statement <;> simp [Except.toOption]

/-- The replacements in front of a statement that cannot be read, and those behind it. -/
theorem exists_around (routing : Routing) (mem : occurrence ∈ find specifier code)
    (unreadable : Engine.isUnreadable occurrence = true) :
    ∃ front back, (find specifier code).filterMap (replacement? routing) = front ++ back ∧
      (∀ r ∈ front, r.start < occurrence.start ∧ r.stop ≤ occurrence.start) ∧
      ∀ r ∈ back, (occurrence.stop : Int) ≤ r.start := by
  obtain ⟨first, last, split⟩ := List.append_of_mem mem
  have none := (replacement?_eq_none_iff routing occurrence).2 unreadable
  have apart : (find specifier code).Pairwise fun a b => a.stop ≤ b.start :=
    pairwise_findFrom 0 true code
  rw [split, List.pairwise_append, List.pairwise_cons] at apart
  obtain ⟨_, ⟨behind, _⟩, ahead⟩ := apart
  refine ⟨first.filterMap (replacement? routing), last.filterMap (replacement? routing), ?_, ?_, ?_⟩
  · rw [split, List.filterMap_append, List.filterMap_cons_none none]
  · intro r hr
    obtain ⟨other, ho, given⟩ := List.mem_filterMap.1 hr
    have found : other ∈ find specifier code := split ▸ List.mem_append_left _ ho
    have filled := (spans_of_replacement? found given).start_lt_stop
    obtain ⟨_, _, start, stop, _⟩ := exists_statement_of_replacement? given
    have := ahead other ho occurrence List.mem_cons_self
    omega
  · intro r hr
    obtain ⟨other, ho, given⟩ := List.mem_filterMap.1 hr
    obtain ⟨_, _, start, _⟩ := exists_statement_of_replacement? given
    have := behind other ho
    omega

/-- A statement that cannot be read is left as it stands, as far on as the statements in front of
it have grown. -/
theorem exists_unreadable (done : (compute code specifier routing).result = .ok rewrite)
    (mem : occurrence ∈ find specifier code)
    (unreadable : Engine.isUnreadable occurrence = true) :
    ∃ before after, applyAll code rewrite.replacements = before ++ occurrence.original ++ after ∧
      (before.length : Int) =
        occurrence.start + shift rewrite.replacements occurrence.start := by
  obtain ⟨_, rfl⟩ := compute_eq_ok_iff.1 done
  obtain ⟨_, _, _, located⟩ := exists_located mem
  obtain ⟨front, back, split, ahead, behind⟩ := exists_around routing mem unreadable
  have order := inOrder_replacements code specifier routing
  have inFront : (front ++ back).filter (fun r => r.start < (occurrence.start : Int)) = front := by
    rw [List.filter_append, List.filter_eq_self.2, List.filter_eq_nil_iff.2, List.append_nil]
    · intro r hr
      have := behind r hr
      have := located.stop_eq
      simp only [decide_eq_true_eq]
      omega
    · exact fun r hr => decide_eq_true (ahead r hr).1
  simp only [applyAll_eq_weave (List.Perm.refl _) order]
  rw [split] at order ⊢
  have fits : occurrence.start ≤ occurrence.stop := by
    rw [located.stop_eq]
    exact Nat.le_add_right _ _
  obtain ⟨before, after, text, length⟩ := exists_weave_between order fits located.stop_le
    (fun r hr => (ahead r hr).2) behind
  rw [located.take_original] at text
  rw [shift, inFront]
  exact ⟨before, after, text, length⟩

/-- **Every statement that is found is accounted for.** Where the rewrite for a module succeeds,
each statement that can be read has one replacement, where it was found, and each that cannot has
one diagnostic and is left as it stands. The diagnostics come in the order of the text, with one for
each binding that is dropped, and a warning goes with each of them. -/
theorem compute_accounts (done : (compute code specifier routing).result = .ok rewrite) :
    List.Forall₂ (Replaces routing) ((find specifier code).filter (!Engine.isUnreadable ·))
      rewrite.replacements ∧
    (∃ reports, List.Forall₂ (Reports specifier routing) (find specifier code) reports ∧
      rewrite.diagnostics = reports.flatten) ∧
    (compute code specifier routing).logs = rewrite.diagnostics.map Diagnostic.log ∧
    (∀ entry ∈ (compute code specifier routing).logs, entry.level = .warning) ∧
    ∀ occurrence ∈ find specifier code, Engine.isUnreadable occurrence = true →
      ∃ before after, applyAll code rewrite.replacements = before ++ occurrence.original ++ after ∧
        (before.length : Int) =
          occurrence.start + shift rewrite.replacements occurrence.start := by
  have logs := logs_of_compute done
  refine ⟨forall₂_replaces done, exists_reports done, logs, ?_, fun occurrence mem unreadable =>
    exists_unreadable done mem unreadable⟩
  rw [logs]
  intro entry mem
  obtain ⟨diagnostic, _, rfl⟩ := List.mem_map.1 mem
  exact diagnostic.level_log

/-- A statement that cannot be read between two that can, of which one loses its only binding. -/
def mixedText : List Char :=
  "import { a, b } from 'm';\nimport { c d } from 'm';\nimport e from 'm';\n".toList

theorem compute_accounts_sample :
    ∃ rewrite, (compute mixedText "m" (.symbols [("a", .shorthand "xx")])).result = .ok rewrite ∧
      rewrite.replacements.length = 2 ∧
      rewrite.diagnostics.map Diagnostic.symbol? = [some "b", none, some "e"] ∧
      (compute mixedText "m" (.symbols [("a", .shorthand "xx")])).logs =
        rewrite.diagnostics.map Diagnostic.log ∧
      ∃ before after, applyAll mixedText rewrite.replacements =
        before ++ "import { c d } from 'm';".toList ++ after ∧ before.length = 24 := by
  have valid : (Routing.symbols [("a", .shorthand "xx")]).Valid := by
    intro entry mem
    rw [List.mem_singleton.1 mem]
    exact (by decide : isBlankName "xx" = false)
  have done := compute_eq_ok valid.applies mixedText "m"
  obtain ⟨_, _, logs, _, kept⟩ := compute_accounts done
  obtain ⟨before, after, text, length⟩ := kept
    ⟨"import { c d } from 'm';".toList, "import { c d } from 'm';".toList, 26, 50, [], ['\n']⟩
    (by decide +kernel) (by decide +kernel)
  refine ⟨_, done, by decide +kernel, by decide +kernel, logs, before, after, text, ?_⟩
  have moved : shift ((find "m" mixedText).filterMap (replacement? (.symbols [("a", .shorthand "xx")])))
      26 = -2 := by decide +kernel
  simp only [moved] at length
  omega

end ModuleRewrite

end VirtualImports
