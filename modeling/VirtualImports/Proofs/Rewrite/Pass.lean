import VirtualImports.Proofs.Routing.Resolving
import VirtualImports.Rewrite.Engine

/-!
A pass whose look-ups do not fail.

* `compute_eq_ok_iff`: the part of one module succeeds if its routing fails on no statement that is
  found;
* `compute_congr`: it comes to the same under any routing that routes these statements alike;
* `compute_eq_ok`: it succeeds if the routing fails on no statement at all;
* `run_eq_ok`: for a sound configuration a pass succeeds, and its replacements are those of the
  mapped modules, sorted by their starts.
-/
namespace VirtualImports

namespace ModuleRewrite

open Statement

/-- The replacement of an occurrence, if its statement can be read. -/
def replacement? (routing : Routing) (occurrence : Occurrence) : Option Replacement :=
  match ImportStatement.read occurrence.statement with
  | .error _ => none
  | .ok statement =>
    some
      { original := occurrence.original
        start := occurrence.start
        stop := occurrence.stop
        statements := (routing.routed statement).statements
        indent := occurrence.indent
        newline := occurrence.newline }

def diagnosticsOf (specifier : String) (routing : Routing) (occurrence : Occurrence) :
    List Diagnostic :=
  match ImportStatement.read occurrence.statement with
  | .error cause => [⟨specifier, occurrence.original, .unreadable cause⟩]
  | .ok statement =>
    (routing.routed statement).unresolved.map fun binding =>
      ⟨specifier, occurrence.original, .unresolved binding⟩

/-- The statement of an occurrence can be routed, if it can be read. -/
def Routable (routing : Routing) (occurrence : Occurrence) : Prop :=
  ∀ statement, ImportStatement.read occurrence.statement = .ok statement →
    (routing.apply statement).result = .ok (routing.routed statement)

theorem ofOccurrence_eq_ok_iff {specifier : String} {routing : Routing} {occurrence : Occurrence}
    {rewrite : ModuleRewrite} :
    (ofOccurrence specifier routing occurrence).result = .ok rewrite ↔
      Routable routing occurrence ∧
        ⟨(replacement? routing occurrence).toList, diagnosticsOf specifier routing occurrence⟩ =
          rewrite := by
  unfold ofOccurrence Routable replacement? diagnosticsOf
  cases ImportStatement.read occurrence.statement with
  | error cause => simp
  | ok statement =>
    cases applied : (routing.apply statement).result with
    | error invalid => simp [Attempt.map, applied, Except.map]
    | ok routed => simp [Attempt.map, applied, Except.map, Routing.routed_of_apply applied]

theorem compute_eq_ok_iff {code : List Char} {specifier : String} {routing : Routing}
    {rewrite : ModuleRewrite} :
    (compute code specifier routing).result = .ok rewrite ↔
      (∀ occurrence ∈ find specifier code, Routable routing occurrence) ∧
        ⟨(find specifier code).filterMap (replacement? routing),
          (find specifier code).flatMap (diagnosticsOf specifier routing)⟩ = rewrite := by
  have joined : join ((find specifier code).map fun occurrence =>
      ⟨(replacement? routing occurrence).toList, diagnosticsOf specifier routing occurrence⟩) =
      ⟨(find specifier code).filterMap (replacement? routing),
        (find specifier code).flatMap (diagnosticsOf specifier routing)⟩ := by
    simp only [join, List.flatMap_map, List.filterMap_eq_flatMap_toList]
  simp only [compute, Attempt.map, Except.map_eq_ok, Attempt.all_eq_ok, List.forall₂_map_left_iff,
    ofOccurrence_eq_ok_iff, List.forall₂_and_left]
  rw [← joined]
  constructor
  · rintro ⟨rewrites, ⟨routable, each⟩, rfl⟩
    rw [← List.forall₂_map_left_iff, List.forall₂_eq_eq_eq] at each
    exact ⟨routable, by rw [each]⟩
  · rintro ⟨routable, rfl⟩
    refine ⟨_, ⟨routable, ?_⟩, rfl⟩
    rw [List.forall₂_map_right_iff, List.forall₂_same]
    exact fun _ _ => rfl

/-- Routings that route the readable statements of a module alike come to the same in a text. -/
theorem compute_congr {code : List Char} {specifier : String} {first second : Routing}
    (alike : ∀ occurrence ∈ find specifier code, ∀ statement,
      ImportStatement.read occurrence.statement = .ok statement →
        first.apply statement = second.apply statement) :
    compute code specifier first = compute code specifier second := by
  have each : ∀ occurrence ∈ find specifier code,
      ofOccurrence specifier first occurrence = ofOccurrence specifier second occurrence := by
    intro occurrence found
    unfold ofOccurrence
    cases read : ImportStatement.read occurrence.statement with
    | error cause => rfl
    | ok statement => simp only [alike occurrence found statement read]
  rw [compute, List.map_congr_left each, compute]

theorem compute_eq_ok {routing : Routing} (applies : routing.Applies) (code : List Char)
    (specifier : String) :
    (compute code specifier routing).result =
      .ok ⟨(find specifier code).filterMap (replacement? routing),
        (find specifier code).flatMap (diagnosticsOf specifier routing)⟩ :=
  compute_eq_ok_iff.2 ⟨fun _ _ statement _ => applies statement, rfl⟩

end ModuleRewrite

namespace Engine

open Statement ModuleRewrite

/-- The modules that have a routing for the target, in their order. -/
def mapped (engine : Engine) : List (String × Routing) :=
  engine.configuration.modules.filterMap fun (specifier, module) =>
    (module.targets.get? engine.target).map (specifier, ·)

/-- The replacements of all mapped modules, module by module. -/
def pooled (engine : Engine) (code : List Char) : List Replacement :=
  engine.mapped.flatMap fun (specifier, routing) =>
    (find specifier code).filterMap (replacement? routing)

def diagnostics (engine : Engine) (code : List Char) : List Diagnostic :=
  engine.mapped.flatMap fun (specifier, routing) =>
    (find specifier code).flatMap (diagnosticsOf specifier routing)

/-- The pooled replacements in the order of the text. -/
def ordered (engine : Engine) (code : List Char) : List Replacement :=
  (engine.pooled code).mergeSort fun a b => decide (a.start ≤ b.start)

theorem valid_of_mem_mapped {engine : Engine} (sound : engine.configuration.Sound)
    {module : String × Routing} (mem : module ∈ engine.mapped) : module.2.Valid := by
  obtain ⟨⟨specifier, virtual⟩, hv, found⟩ := List.mem_filterMap.1 mem
  obtain ⟨routing, target, rfl⟩ := Option.map_eq_some_iff.1 found
  exact sound.valid (specifier, virtual) hv (engine.target, routing) (Entries.mem_of_get? target)

/-- What one module adds to a pass: nothing without a routing for the target. -/
def addition (engine : Engine) (code : List Char) (module : String × VirtualModule) :
    ModuleRewrite :=
  match module.2.targets.get? engine.target with
  | none => ⟨[], []⟩
  | some routing =>
    ⟨(find module.1 code).filterMap (replacement? routing),
      (find module.1 code).flatMap (diagnosticsOf module.1 routing)⟩

theorem moduleRewrite_eq_ok {engine : Engine} (sound : engine.configuration.Sound)
    (code : List Char) {module : String × VirtualModule}
    (mem : module ∈ engine.configuration.modules) :
    (engine.moduleRewrite code module.1 module.2).result = .ok (engine.addition code module) := by
  unfold moduleRewrite addition
  split
  · rename_i routing found
    rw [found]
    have valid := sound.valid module mem (engine.target, routing) (Entries.mem_of_get? found)
    exact compute_eq_ok valid.applies code module.1
  · rename_i absent
    rw [absent]

theorem join_additions (engine : Engine) (code : List Char) :
    join (engine.configuration.modules.map (engine.addition code)) =
      ⟨engine.pooled code, engine.diagnostics code⟩ := by
  simp only [join, pooled, diagnostics, mapped, List.flatMap_map]
  generalize engine.configuration.modules = modules
  induction modules with
  | nil => rfl
  | cons module modules ih =>
    rw [ModuleRewrite.mk.injEq] at ih
    rw [List.flatMap_cons, List.flatMap_cons, ih.1, ih.2, List.filterMap_cons, addition]
    cases module.2.targets.get? engine.target <;> rfl

/-- **A pass succeeds.** Its replacements are those of the mapped modules in the order of the
text, and its diagnostics theirs, module by module. -/
theorem run_eq_ok {engine : Engine} (sound : engine.configuration.Sound) (code : List Char) :
    (engine.run code).result =
      .ok ⟨Replacement.applyAll code (engine.ordered code), engine.ordered code,
        engine.diagnostics code⟩ := by
  have all := Attempt.all_map_eq_ok engine.configuration.modules
    fun module mem => moduleRewrite_eq_ok sound code mem
  have joined := join_additions engine code
  simp only [run, Attempt.map, all, Except.map, joined, ordered]

end Engine

end VirtualImports
