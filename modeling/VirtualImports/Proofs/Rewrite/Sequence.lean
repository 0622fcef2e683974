import VirtualImports.Proofs.Rewrite.OneModule

/-!
A pass made module by module.

* `rewriteEach_revise`: rewrites for some modules take a text in which the statements of others
  have given way to the text in which theirs have too;
* `run_sequential`: the rewrites for all mapped modules, one after the other in whatever order,
  come to one pass.
-/
namespace VirtualImports.Engine

open Text Statement ModuleRewrite Replacement

variable {engine : Engine} {code : List Char}

/-! ## Turns -/

/-- The renderings for the modules that have had their turn. -/
def turned? (turns : List String) (module : String × Routing) (occurrence : Occurrence) :
    Option (List Char) :=
  if module.1 ∈ turns then rendering? module occurrence else none

theorem foreign_turned? (sound : engine.configuration.Sound) (settled : engine.Settled)
    (turns : List String) : ∀ module ∈ engine.mapped, ∀ cut position text,
      cut? module.1.toList cut.text = some cut →
      turned? turns module (cut.occurrence position) = some text →
      Foreign engine.mapped text := by
  intro module mapped cut position text found given
  rw [turned?, Option.ite_none_right_eq_some] at given
  exact foreign_render sound settled mapped found given.2

/-- A turn adds the renderings of its module. -/
theorem turned?_cons (sound : engine.configuration.Sound) {key module : String × Routing}
    (turn : key ∈ engine.mapped) (mapped : module ∈ engine.mapped) (turns : List String)
    (occurrence : Occurrence) :
    (turned? turns module occurrence).or
        (if module.1 = key.1 then rendering? key occurrence else none) =
      turned? (key.1 :: turns) module occurrence := by
  unfold turned?
  by_cases same : module.1 = key.1
  · obtain rfl := eq_of_mem_mapped sound mapped turn same
    by_cases before : module.1 ∈ turns
    · simp [before]
    · simp [before]
  · by_cases before : module.1 ∈ turns
    · simp [same, before]
    · simp [same, before]

/-- The rewrites of a text for one module after the other. -/
def rewriteEach (code : List Char) (modules : List (String × Routing)) :
    Except Invalid (List Char) :=
  modules.foldlM (fun code module => (rewriteModule code module.1 module.2).result) code

/-- One rewrite more is one turn more. -/
theorem rewriteModule_revise (sound : engine.configuration.Sound) (settled : engine.Settled)
    {module : String × Routing} (mapped : module ∈ engine.mapped) (turns : List String)
    (code : List Char) :
    (rewriteModule (revise (turned? turns) (pieces engine.mapped 0 true code)) module.1
        module.2).result =
      .ok (revise (turned? (module.1 :: turns)) (pieces engine.mapped 0 true code)) := by
  have again := revise_revise settled.specifiers (foreign_turned? sound settled turns)
    placeless_rendering? mapped 0 0 true code
  rw [rewriteModule_eq_ok (valid_of_mem_mapped sound mapped).applies, again]
  congr 1
  apply revise_congr
  intro x placed
  exact turned?_cons sound mapped (start_le_of_mem_placed placed).1 turns x.2

/-- Rewrites for some modules take a text in which the statements of others have given way to the
text in which theirs have too. -/
theorem rewriteEach_revise (sound : engine.configuration.Sound) (settled : engine.Settled)
    {order : List (String × Routing)} (mapped : ∀ module ∈ order, module ∈ engine.mapped)
    (turns : List String) (code : List Char) :
    rewriteEach (revise (turned? turns) (pieces engine.mapped 0 true code)) order =
      .ok (revise (turned? ((order.map Prod.fst).reverse ++ turns))
        (pieces engine.mapped 0 true code)) := by
  induction order generalizing turns with
  | nil => rfl
  | cons module order ih =>
    have first := rewriteModule_revise sound settled (mapped module (by simp)) turns code
    have later := ih (fun other mem => mapped other (by simp [mem])) (module.1 :: turns)
    rw [rewriteEach, List.foldlM_cons, first]
    rw [List.map_cons, List.reverse_cons, List.append_assoc, List.singleton_append]
    exact later

/-- **Modules may take turns.** Where the names of an accepted configuration hold no quotes and
line breaks, and nothing is routed to a module that has a routing itself, the text can be rewritten
for one mapped module after the other, in whatever order: each rewrite succeeds, and they come to
the text of one pass. -/
theorem run_sequential {raw : Value} {configuration : Configuration} {target : Option String}
    {engine : Engine} (accepted : Configuration.ofValue raw = .ok configuration)
    (made : make? configuration target = some engine) (settled : engine.Settled)
    {order : List (String × Routing)} (perm : order.Perm engine.mapped) (code : List Char) :
    ∃ rewritten, (engine.run code).result = .ok rewritten ∧
      rewriteEach code order = .ok rewritten.code := by
  obtain ⟨name, _, rfl⟩ := Option.map_eq_some_iff.1 made
  have sound : Configuration.Sound (Engine.mk configuration name).configuration :=
    Configuration.sound_of_ofValue accepted
  generalize Engine.mk configuration name = engine at sound settled perm
  refine ⟨_, run_eq_ok sound code, ?_⟩
  have untouched : revise (turned? []) (pieces engine.mapped 0 true code) = code := by
    have none_turned : turned? [] = fun _ _ => none := by
      funext module occurrence
      simp [turned?]
    rw [none_turned, revise_none]
  have all := rewriteEach_revise sound settled (fun module mem => perm.subset mem) [] code
  have complete : revise (turned? ((order.map Prod.fst).reverse ++ []))
      (pieces engine.mapped 0 true code) =
        revise rendering? (pieces engine.mapped 0 true code) := by
    apply revise_congr
    intro x placed
    have turn : x.1.1 ∈ (order.map Prod.fst).reverse ++ [] := by
      have mem := perm.symm.subset (start_le_of_mem_placed placed).1
      rw [List.append_nil, List.mem_reverse]
      exact List.mem_map_of_mem mem
    rw [turned?, if_pos turn]
  rw [untouched, complete] at all
  rw [all, code_eq_revise sound settled.specifiers]

theorem run_sequential_sample :
    Configuration.ofValue sampleTable = .ok sampleConfiguration ∧
      make? sampleConfiguration (some "react") = some ⟨sampleConfiguration, "react"⟩ ∧
      (mapped ⟨sampleConfiguration, "react"⟩).reverse.Perm
        (mapped ⟨sampleConfiguration, "react"⟩) ∧
      ∃ rewritten, (run ⟨sampleConfiguration, "react"⟩ sampleText).result = .ok rewritten ∧
        rewriteEach sampleText (mapped ⟨sampleConfiguration, "react"⟩).reverse =
          .ok rewritten.code := by
  have accepted : Configuration.ofValue sampleTable = .ok sampleConfiguration := rfl
  have made : make? sampleConfiguration (some "react") = some ⟨sampleConfiguration, "react"⟩ := rfl
  have perm := List.reverse_perm (mapped ⟨sampleConfiguration, "react"⟩)
  exact ⟨accepted, made, perm, run_sequential accepted made settled_sample perm sampleText⟩

end VirtualImports.Engine
