import VirtualImports.Proofs.Rewrite.Idempotence
import VirtualImports.Proofs.Statement.Succession

/-!
The rewrite for one module.

* `placed_pieces_singleton`: a sweep for one module meets its occurrences, whatever its name is;
* `rendering?_eq`, `placeless_rendering?`: what takes the place of a statement, which depends on its
  text and the ending of its line alone;
* `rewriteModule_eq_ok`: the rewrite for one module succeeds and is the revision of the text in which
  its readable statements give way to their renderings.
-/
namespace VirtualImports

open Text Statement ModuleRewrite Replacement Engine

namespace Statement

/-- A sweep for one module meets its occurrences. -/
theorem placed_pieces_singleton {α : Type} (module : String × α) (position : Nat)
    (lineStart : Bool) (s : List Char) :
    placed (pieces [module] position lineStart s) =
      (findFrom module.1.toList position lineStart s).map (module, ·) := by
  fun_induction pieces [module] position lineStart s with
  | case1 position lineStart s other cut found ih =>
    split at found
    · rename_i starts
      obtain ⟨inside, cutHere⟩ := headCut?_eq_some found
      obtain rfl := List.mem_singleton.1 inside
      rw [placed, ih, starts, findFrom_of_cut cutHere, List.map_cons]
    · cases found
  | case2 => rw [findFrom_nil]; rfl
  | case3 position lineStart c rest found ih =>
    have absent : lineStart = true → cut? module.1.toList (c :: rest) = none := by
      intro starts
      rw [if_pos starts] at found
      exact headCut?_eq_none.1 found module (List.mem_singleton_self module)
    rw [placed, ih, findFrom_cons absent]

end Statement

namespace Engine

/-- A statement that can be read gives way to the statements that come of it, on lines of their
own. -/
theorem rendering?_eq (module : String × Routing) (occurrence : Occurrence) :
    rendering? module occurrence =
      (ImportStatement.read occurrence.statement).toOption.map fun statement =>
        occurrence.newline.intercalate
          ((module.2.routed statement).statements.map (occurrence.indent ++ ·)) := by
  unfold rendering? replacement?
  cases ImportStatement.read occurrence.statement <;> rfl

/-- A rendering does not depend on where the statement stands. -/
theorem placeless_rendering? : Placeless rendering? := by
  intro module cut position other
  rw [rendering?_eq, rendering?_eq]
  rfl

/-- What gives way to the statements of one module does not depend on the label that the sweep puts
on them. -/
theorem revise_relabel (module : String × Routing) (label : Routing) (position : Nat)
    (lineStart : Bool) (s : List Char) :
    revise rendering? (pieces [module] position lineStart s) =
      revise (fun _ => rendering? module) (pieces [(module.1, label)] position lineStart s) := by
  fun_induction pieces [module] position lineStart s with
  | case1 position lineStart s other cut found ih =>
    split at found
    · rename_i starts
      obtain ⟨inside, cutHere⟩ := headCut?_eq_some found
      obtain rfl := List.mem_singleton.1 inside
      have first : headCut? [(other.1, label)] s = some ((other.1, label), cut) :=
        headCut?_of_cut? cutHere
      rw [starts, pieces_of_cut first, revise, revise, ih]
    · cases found
  | case2 => rw [pieces_nil]; rfl
  | case3 position lineStart c rest found ih =>
    have absent : lineStart = true → headCut? [(module.1, label)] (c :: rest) = none := by
      intro starts
      rw [if_pos starts, headCut?_singleton, Option.map_eq_none_iff] at found
      exact headCut?_of_eq_none found
    rw [pieces_cons absent, revise, revise, ih]

end Engine

variable {code : List Char} {specifier : String} {routing : Routing}

theorem inOrder_replacements (code : List Char) (specifier : String) (routing : Routing) :
    InOrder code ((find specifier code).filterMap (replacement? routing)) := by
  constructor
  · intro r mem
    obtain ⟨occurrence, found, given⟩ := List.mem_filterMap.1 mem
    have spans := spans_of_replacement? found given
    exact ⟨spans.start_nonneg, Int.le_of_lt spans.start_lt_stop, spans.stop_le⟩
  · rw [List.pairwise_filterMap]
    refine (pairwise_findFrom 0 true code).imp_of_mem ?_
    intro a b foundA _ behind r hr s hs
    have spans := spans_of_replacement? (show a ∈ find specifier code from foundA) hr
    obtain ⟨_, _, _, stop, _⟩ := exists_statement_of_replacement? hr
    obtain ⟨_, _, start, _⟩ := exists_statement_of_replacement? hs
    have filled := spans.start_lt_stop
    constructor <;> omega

/-- **The rewrite for one module.** It succeeds where the routing fails on no statement, and leaves
the text as it is but for the readable statements of the module, which give way to their
renderings. -/
theorem rewriteModule_eq_ok (applies : routing.Applies) (code : List Char) (specifier : String) :
    (rewriteModule code specifier routing).result =
      .ok (revise rendering? (pieces [(specifier, routing)] 0 true code)) := by
  have replacements : edits (placed (pieces [(specifier, routing)] 0 true code)) =
      (find specifier code).filterMap (replacement? routing) := by
    rw [placed_pieces_singleton, edits, List.filterMap_map]
    rfl
  have order := inOrder_replacements code specifier routing
  have woven : weave code render 0 ((find specifier code).filterMap (replacement? routing)) =
      revise rendering? (pieces [(specifier, routing)] 0 true code) := by
    rw [← replacements]
    exact weave_edits (show code = [] ++ code from rfl) (Nat.le_refl 0)
  have computed := compute_eq_ok applies code specifier
  simp only [rewriteModule, Attempt.map, computed, Except.map,
    applyAll_eq_weave (List.Perm.refl _) order, woven]

end VirtualImports
