import VirtualImports.Command.Plain
import VirtualImports.Proofs.Data.Entries
import VirtualImports.Proofs.Rewrite.Notes

/-!
The order of the modules in a configuration.

* `mapped_rearranged`: modules that change their places, and modules without a routing for the
  target that are left out, leave the mapped modules as they were, in some order;
* `ordered_rearranged`: so the replacements are the same, since no two of them start at one place;
* `diagnostics_of_module`: the diagnostics of one module do not depend on the others;
* `run_rearranged`: a pass has the same result, with its diagnostics in some order;
* `run_left_out`: a module that is left out may be one that ends the pass.
-/
namespace VirtualImports

open Statement ModuleRewrite Replacement

/-- The modules of a configuration in any order, without some of those that have no routing for a
target. -/
def Rearranged (target : String) (old new : Entries VirtualModule) : Prop :=
  ∃ keeps : String × VirtualModule → Bool,
    (∀ module ∈ old, keeps module = false → module.2.targets.get? target = none) ∧
      new.Perm (old.filter keeps)

theorem Rearranged.subset {target : String} {old new : Entries VirtualModule}
    (h : Rearranged target old new) : new ⊆ old := by
  obtain ⟨keeps, _, perm⟩ := h
  intro module mem
  exact List.mem_of_mem_filter (perm.subset mem)

theorem Configuration.Sound.rearranged {configuration : Configuration} {target : String}
    {modules : Entries VirtualModule} (sound : configuration.Sound)
    (h : Rearranged target configuration.modules modules) :
    Configuration.Sound { configuration with modules := modules } where
  distinct := by
    obtain ⟨keeps, _, perm⟩ := h
    have fewer : ((configuration.modules.filter keeps).map Prod.fst).Nodup :=
      sound.distinct.sublist (List.filter_sublist.map Prod.fst)
    exact (perm.map Prod.fst).nodup_iff.2 fewer
  started := by
    intro specifier mem
    obtain ⟨module, here, rfl⟩ := List.mem_map.1 mem
    exact sound.started module.1 (List.mem_map_of_mem (h.subset here))
  valid := by
    intro module mem
    exact sound.valid module (h.subset mem)

namespace Engine

variable {engine : Engine} {code : List Char}

/-- The engine with other modules. -/
def withModules (engine : Engine) (modules : Entries VirtualModule) : Engine :=
  { engine with configuration := { engine.configuration with modules := modules } }

theorem mapped_rearranged {modules : Entries VirtualModule}
    (h : Rearranged engine.target engine.configuration.modules modules) :
    (engine.withModules modules).mapped.Perm engine.mapped := by
  obtain ⟨keeps, unmapped, perm⟩ := h
  have kept : (engine.configuration.modules.filter keeps).filterMap
      (fun module => (module.2.targets.get? engine.target).map (module.1, ·)) =
        engine.mapped := by
    rw [mapped, List.filterMap_filter]
    apply List.filterMap_congr
    rintro ⟨specifier, module⟩ mem
    by_cases keep : keeps (specifier, module) = true
    · rw [if_pos keep]
    · have absent := unmapped (specifier, module) mem (Bool.eq_false_iff.2 keep)
      dsimp only at absent ⊢
      rw [if_neg keep, absent]
      rfl
  rw [← kept]
  exact perm.filterMap _

theorem pooled_rearranged {modules : Entries VirtualModule}
    (h : Rearranged engine.target engine.configuration.modules modules) :
    ((engine.withModules modules).pooled code).Perm (engine.pooled code) :=
  (mapped_rearranged h).flatMap_right _

/-- The replacements are the same: no two of them start at one place. -/
theorem ordered_rearranged (sound : engine.configuration.Sound) {modules : Entries VirtualModule}
    (h : Rearranged engine.target engine.configuration.modules modules) :
    (engine.withModules modules).ordered code = engine.ordered code := by
  have soundNew : (engine.withModules modules).configuration.Sound := sound.rearranged h
  have new : InOrder code ((engine.withModules modules).ordered code) := inOrder_ordered soundNew
  have old : InOrder code (engine.ordered code) := inOrder_ordered sound
  have perm : ((engine.withModules modules).ordered code).Perm (engine.ordered code) :=
    (List.mergeSort_perm _ _).trans ((pooled_rearranged h).trans (List.mergeSort_perm _ _).symm)
  apply perm.eq_of_pairwise _ new.apart old.apart
  intro a b _ _ first second
  have := first.1
  have := second.1
  omega

/-! ## Diagnostics -/

/-- The diagnostics that stand under the specifier of a module, in their order. -/
def diagnosticsUnder (specifier : String) (diagnostics : List Diagnostic) : List Diagnostic :=
  diagnostics.filter fun diagnostic => diagnostic.module = specifier

theorem module_of_mem_diagnosticsOf {specifier : String} {routing : Routing}
    {occurrence : Occurrence} {diagnostic : Diagnostic}
    (mem : diagnostic ∈ diagnosticsOf specifier routing occurrence) :
    diagnostic.module = specifier := by
  unfold diagnosticsOf at mem
  split at mem
  · rw [List.mem_singleton.1 mem]
  · obtain ⟨binding, _, rfl⟩ := List.mem_map.1 mem
    rfl

/-- A module's own diagnostics are all that stands under its specifier. -/
theorem diagnosticsUnder_occurrences (specifier other : String) (routing : Routing)
    (occurrences : List Occurrence) :
    diagnosticsUnder specifier (occurrences.flatMap (diagnosticsOf other routing)) =
      if other = specifier then occurrences.flatMap (diagnosticsOf other routing) else [] := by
  have module : ∀ diagnostic ∈ occurrences.flatMap (diagnosticsOf other routing),
      diagnostic.module = other := by
    intro diagnostic mem
    obtain ⟨occurrence, _, here⟩ := List.mem_flatMap.1 mem
    exact module_of_mem_diagnosticsOf here
  by_cases same : other = specifier
  · rw [if_pos same, diagnosticsUnder, List.filter_eq_self]
    intro diagnostic mem
    rw [decide_eq_true_eq, module diagnostic mem]
    exact same
  · rw [if_neg same, diagnosticsUnder, List.filter_eq_nil_iff]
    intro diagnostic mem
    rw [decide_eq_true_eq, module diagnostic mem]
    exact same

/-- Under the specifier of a module stand the diagnostics that it has by itself. -/
theorem diagnostics_of_module (sound : engine.configuration.Sound) {module : String × Routing}
    (mapped : module ∈ engine.mapped) :
    diagnosticsUnder module.1 (engine.diagnostics code) =
      (find module.1 code).flatMap (diagnosticsOf module.1 module.2) := by
  have one (other : String × Routing) := diagnosticsUnder_occurrences module.1 other.1 other.2
    (find other.1 code)
  have each : diagnosticsUnder module.1 (engine.diagnostics code) =
      engine.mapped.flatMap fun other =>
        diagnosticsUnder module.1 ((find other.1 code).flatMap (diagnosticsOf other.1 other.2)) := by
    rw [diagnosticsUnder, diagnostics, List.filter_flatMap]
    rfl
  rw [each]
  simp only [one]
  exact Entries.flatMap_of_distinct (pairwise_mapped sound) mapped
    fun other => (find other.1 code).flatMap (diagnosticsOf other.1 other.2)

/-- Under a specifier that no mapped module has stands nothing. -/
theorem diagnostics_of_unmapped {specifier : String}
    (unmapped : ∀ module ∈ engine.mapped, module.1 ≠ specifier) :
    diagnosticsUnder specifier (engine.diagnostics code) = [] := by
  rw [diagnosticsUnder, List.filter_eq_nil_iff]
  intro diagnostic mem
  obtain ⟨module, mapped, here⟩ := List.mem_flatMap.1 mem
  obtain ⟨occurrence, _, given⟩ := List.mem_flatMap.1 here
  rw [decide_eq_true_eq, module_of_mem_diagnosticsOf given]
  exact unmapped module mapped

theorem diagnosticsUnder_rearranged (sound : engine.configuration.Sound)
    {modules : Entries VirtualModule}
    (h : Rearranged engine.target engine.configuration.modules modules) (specifier : String) :
    diagnosticsUnder specifier ((engine.withModules modules).diagnostics code) =
      diagnosticsUnder specifier (engine.diagnostics code) := by
  have soundNew : (engine.withModules modules).configuration.Sound := sound.rearranged h
  have perm := mapped_rearranged h
  by_cases present : ∃ module ∈ engine.mapped, module.1 = specifier
  · obtain ⟨module, mapped, rfl⟩ := present
    rw [diagnostics_of_module sound mapped,
      diagnostics_of_module soundNew (perm.symm.subset mapped)]
  · have unmapped : ∀ module ∈ engine.mapped, module.1 ≠ specifier := by
      intro module mem same
      exact present ⟨module, mem, same⟩
    rw [diagnostics_of_unmapped unmapped,
      diagnostics_of_unmapped fun module mem => unmapped module (perm.subset mem)]

/-! ## Passes -/

/-- The notes on rearranged modules are among those on all modules. -/
theorem notes_rearranged {modules : Entries VirtualModule}
    (h : Rearranged engine.target engine.configuration.modules modules) {note : LogEntry}
    (mem : note ∈ (engine.withModules modules).notes code) : note ∈ engine.notes code := by
  obtain ⟨module, listed, said⟩ := List.mem_filterMap.1 mem
  exact List.mem_filterMap.2 ⟨module, h.subset listed, said⟩

/-- **The order of the modules does not matter.** For an accepted configuration and a target, the
modules may change their places, and those without a routing for the target may be left out: a pass
works out the same text and the same replacements. Its diagnostics are the same in some order, and
under each specifier they keep their order. Where the pass over all modules comes out, so does the
other. Where the other comes out, that over all modules does, unless it ends at the note on a module
that was left out, which cannot be drawn. -/
theorem run_rearranged [Markup] {raw : Value} {configuration : Configuration} {target : Option String}
    {engine : Engine} (accepted : Configuration.ofValue raw = .ok configuration)
    (made : make? configuration target = some engine) {modules : Entries VirtualModule}
    (rearranged : Rearranged engine.target configuration.modules modules) (code : List Char) :
    ∃ other first second,
      make? { configuration with modules := modules } target = some other ∧
      (engine.run code).result = .ok first ∧ (other.run code).result = .ok second ∧
      second.code = first.code ∧ second.replacements = first.replacements ∧
      second.diagnostics.Perm first.diagnostics ∧
      (∀ specifier, second.diagnostics.filter (fun diagnostic => diagnostic.module = specifier) =
        first.diagnostics.filter fun diagnostic => diagnostic.module = specifier) ∧
      ((engine.run code).outcome = .ok first → (other.run code).outcome = .ok second) ∧
      ((other.run code).outcome = .ok second → (engine.run code).outcome = .ok first ∨
        ∃ module ∈ configuration.modules, module ∉ modules ∧ find module.1 code ≠ [] ∧
          (noMapping module.1 engine.target).isDrawable = false ∧
          (engine.run code).outcome = .error (.undrawable (noMapping module.1 engine.target))) := by
  obtain ⟨name, asked, rfl⟩ := Option.map_eq_some_iff.1 made
  have sound : Configuration.Sound (Engine.mk configuration name).configuration :=
    Configuration.sound_of_ofValue accepted
  have soundNew : ((Engine.mk configuration name).withModules modules).configuration.Sound :=
    sound.rearranged rearranged
  have makes : make? { configuration with modules := modules } target =
      some ((Engine.mk configuration name).withModules modules) :=
    Option.map_eq_some_iff.2 ⟨name, asked, rfl⟩
  have same : (Engine.withModules ⟨configuration, name⟩ modules).ordered code =
      Engine.ordered ⟨configuration, name⟩ code := ordered_rearranged sound rearranged
  have old := run_eq_ok sound code
  have new := run_eq_ok soundNew code
  refine ⟨_, _, _, makes, old, new, ?_, same, (mapped_rearranged rearranged).flatMap_right _,
    diagnosticsUnder_rearranged sound rearranged, fun outcome => ?_, fun outcome => ?_⟩
  · change applyAll code _ = applyAll code _
    rw [same]
  · have drawable := ((outcome_eq_ok_iff sound).1 outcome).2
    refine (outcome_eq_ok_iff soundNew).2 ⟨new, fun note mem => drawable note ?_⟩
    exact @notes_rearranged ⟨configuration, name⟩ _ _ rearranged _ mem
  · have drawable := ((outcome_eq_ok_iff soundNew).1 outcome).2
    rcases outcome_cases sound code with ⟨_, outcome⟩ | ⟨note, mem, undrawable, outcome⟩
    · rw [old] at outcome
      exact .inl outcome
    · -- a note on a module that was kept could be drawn
      obtain ⟨module, listed, said⟩ := List.mem_filterMap.1 mem
      obtain ⟨⟨_, located⟩, same⟩ := Option.ite_none_right_eq_some.1 said
      obtain rfl := Option.some.inj same
      refine .inr ⟨module, listed, fun kept => ?_, located, undrawable, outcome⟩
      rw [drawable _ (List.mem_filterMap.2 ⟨module, kept, said⟩)] at undrawable
      cases undrawable

/-- The modules of `sampleConfiguration` with one more between them, which has no routing for its
target. -/
def widerTable : Value :=
  .table [("modules", .table
    [("flow", .table [("targets", .table [("react", .text "@xyflow/react")])]),
      ("forms", .table [("targets", .table [("vue", .text "forms-vue")])]),
      ("icons", .table [("targets", .table [("react", .table [("*", .text "icons-react")])])])])]

def widerModules : Entries VirtualModule :=
  [("virtual:flow", ⟨none, [("react", .module "@xyflow/react")]⟩),
    ("virtual:forms", ⟨none, [("vue", .module "forms-vue")]⟩),
    ("virtual:icons", ⟨none, [("react", .symbols [("*", .shorthand "icons-react")])]⟩)]

theorem rearranged_sample : Rearranged "react" widerModules sampleConfiguration.modules.reverse := by
  refine ⟨fun module => module.1 != "virtual:forms", ?_, List.reverse_perm _⟩
  intro module mem left
  simp only [widerModules, List.mem_cons, List.not_mem_nil, or_false] at mem
  rcases mem with rfl | rfl | rfl
  · cases left
  · rfl
  · cases left

theorem run_rearranged_sample :
    Configuration.ofValue widerTable = .ok { sampleConfiguration with modules := widerModules } ∧
      Rearranged "react" widerModules sampleConfiguration.modules.reverse ∧
      ∃ other first second,
        make? { sampleConfiguration with modules := sampleConfiguration.modules.reverse }
          (some "react") = some other ∧
        @Attempt.outcome _ _ Libraries.plain.toMarkup
          (run ⟨{ sampleConfiguration with modules := widerModules }, "react"⟩ sampleText) =
            .ok first ∧
        @Attempt.outcome _ _ Libraries.plain.toMarkup (other.run sampleText) = .ok second ∧
        second.code = first.code ∧ second.replacements = first.replacements := by
  have accepted : Configuration.ofValue widerTable =
      .ok { sampleConfiguration with modules := widerModules } := rfl
  have made : make? { sampleConfiguration with modules := widerModules } (some "react") =
      some ⟨{ sampleConfiguration with modules := widerModules }, "react"⟩ := rfl
  obtain ⟨other, first, second, makes, old, new, code, replacements, _, _, comesOut, _⟩ :=
    @run_rearranged Libraries.plain.toMarkup _ _ _ _ accepted made _ rearranged_sample sampleText
  have outcome : @Attempt.outcome _ _ Libraries.plain.toMarkup
      (run ⟨{ sampleConfiguration with modules := widerModules }, "react"⟩ sampleText) =
        .ok first := by
    refine (@outcome_eq_ok_iff _ _ Libraries.plain.toMarkup
      (Configuration.sound_of_ofValue accepted) _).2 ⟨old, ?_⟩
    decide +kernel
  exact ⟨accepted, rearranged_sample, other, first, second, makes, outcome, comesOut outcome, code,
    replacements⟩

/-- A module without a routing whose name is a closing tag. -/
def closingTable : Value :=
  .table [("modules", .table [("[/x]", .table [("targets", .table [("vue", .text "v")])])])]

def closingConfiguration : Configuration where
  modules := [("virtual:[/x]", ⟨none, [("vue", .module "v")]⟩)]
  declarationFile := some Configuration.defaultDeclarationFile
  target := none

/-- The note on the module ends the pass, which comes out where the module is left out. -/
theorem run_left_out :
    Configuration.ofValue closingTable = .ok closingConfiguration ∧
      Rearranged "react" closingConfiguration.modules [] ∧
      @Attempt.outcome _ _ Libraries.plain.toMarkup
        (run ⟨closingConfiguration, "react"⟩ "import { A } from 'virtual:[/x]'".toList) =
          .error (.undrawable (noMapping "virtual:[/x]" "react")) ∧
      @Attempt.outcome _ _ Libraries.plain.toMarkup
        (run ⟨{ closingConfiguration with modules := [] }, "react"⟩
          "import { A } from 'virtual:[/x]'".toList) =
            .ok ⟨"import { A } from 'virtual:[/x]'".toList, [], []⟩ := by
  refine ⟨rfl, ⟨fun _ => false, ?_, .refl _⟩, by decide +kernel, by decide +kernel⟩
  intro module mem _
  rw [List.mem_singleton.1 mem]
  rfl

end Engine

end VirtualImports
