import VirtualImports.Proofs.Rewrite.Pass
import VirtualImports.Proofs.Routing.CatchAll
import VirtualImports.Proofs.Routing.Fates

/-!
A catch-all in the place of the name of a module.

* `apply_catchAll_eq`: a statement that can be read is routed by a catch-all alone as by the name of
  its module, and neither reports anything;
* `compute_catchAll`: so the rewrite for a module is the same, with all it reports;
* `rewriteModule_catchAll`: the two forms of a setting stand for the same rewrite.
-/
namespace VirtualImports

open Statement

variable {destination : String}

/-- The name of a module routes a statement as a catch-all alone does, without a report. -/
theorem Routing.apply_catchAll_eq (named : destination ≠ "") {text : List Char}
    {statement : ImportStatement} (readable : ImportStatement.read text = .ok statement) :
    (catchAll destination).apply statement = (module destination).apply statement := by
  have result := apply_catchAll named (ImportStatement.wellNamed_of_read readable)
    (ImportStatement.isEmpty_of_read readable)
  have quiet : ((catchAll destination).apply statement).logs = [] := logs_apply result
  exact congrArg₂ Attempt.mk quiet result

namespace ModuleRewrite

theorem compute_catchAll (named : destination ≠ "") (code : List Char) (specifier : String) :
    compute code specifier (.catchAll destination) = compute code specifier (.module destination) :=
  compute_congr fun _ _ _ readable => Routing.apply_catchAll_eq named readable

end ModuleRewrite

/-- **The two forms of a setting agree.** For a module that has a name, its name and a symbol map of
nothing but a catch-all for it give the same replacements, diagnostics and warnings in every text,
and so the same text. Neither fails. -/
theorem rewriteModule_catchAll (named : destination ≠ "") (code : List Char) (specifier : String) :
    ∃ plain table rewrite,
      Routing.ofValue? (.text destination) = some plain ∧
      Routing.ofValue? (.table [(catchAllKey, .text destination)]) = some table ∧
      (ModuleRewrite.compute code specifier plain).result = .ok rewrite ∧
      ModuleRewrite.compute code specifier table = ModuleRewrite.compute code specifier plain ∧
      rewriteModule code specifier table = rewriteModule code specifier plain := by
  have same := ModuleRewrite.compute_catchAll named code specifier
  refine ⟨.module destination, .catchAll destination, _, rfl, rfl,
    ModuleRewrite.compute_eq_ok (Routing.applies_module destination) code specifier, same, ?_⟩
  rw [rewriteModule, same, rewriteModule]

theorem rewriteModule_catchAll_sample :
    "x" ≠ "" ∧ ∃ plain table rewrite,
      Routing.ofValue? (.text "x") = some plain ∧
      Routing.ofValue? (.table [("*", .text "x")]) = some table ∧
      (ModuleRewrite.compute "import type A, { b, type C } from 'm'".toList "m" table).result =
        .ok rewrite ∧
      rewrite.replacements.map Replacement.render =
        ["import type A, { b, C } from 'x';".toList] := by
  have named : "x" ≠ "" := by decide
  obtain ⟨plain, table, rewrite, isName, isTable, done, same, _⟩ :=
    rewriteModule_catchAll named "import type A, { b, type C } from 'm'".toList "m"
  refine ⟨named, plain, table, rewrite, isName, isTable, same ▸ done, ?_⟩
  cases isName
  obtain ⟨_, rfl⟩ := ModuleRewrite.compute_eq_ok_iff.1 done
  decide +kernel

end VirtualImports
