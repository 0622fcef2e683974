import VirtualImports.Proofs.Rewrite.Simultaneity

/-!
What a pass reports, and whether it can be drawn.

* `Attempt.outcome_cases`: an attempt comes out as its result, or ends at a report that cannot be drawn;
* `ModuleRewrite.warning_of_mem_logs`: the rewrite of a module gives warnings and nothing else;
* `Engine.cases_of_mem_logs`: a pass also gives the notes on the modules without a routing;
* `Engine.outcome_cases`: it comes out as its result, unless one of these notes cannot be drawn.

Warnings quote the source text and are shown as they stand. What is said of a module without a
routing has tags in it.
-/
namespace VirtualImports

/-- What attempts report, one of them reports. -/
theorem Attempt.exists_of_mem_logs_all {ε α : Type} {attempts : List (Attempt ε α)}
    {entry : LogEntry} (mem : entry ∈ (all attempts).logs) :
    ∃ attempt ∈ attempts, entry ∈ attempt.logs := by
  induction attempts with
  | nil => cases mem
  | cons attempt rest ih =>
    rw [all] at mem
    split at mem
    · exact ⟨attempt, List.mem_cons_self, mem⟩
    · rcases List.mem_append.1 mem with mem | mem
      · exact ⟨attempt, List.mem_cons_self, mem⟩
      · obtain ⟨other, later, mem⟩ := ih mem
        exact ⟨other, List.mem_cons_of_mem _ later, mem⟩

/-- An attempt comes out as its result if all that it reports can be drawn. -/
theorem Attempt.outcome_cases [Markup] {ε α : Type} (attempt : Attempt ε α) :
    ((∀ entry ∈ attempt.logs, entry.isDrawable = true) ∧
      attempt.outcome = attempt.result.mapError .failed) ∨
      ∃ entry, attempt.logs.find? (fun entry => !entry.isDrawable) = some entry ∧
        attempt.outcome = .error (.undrawable entry) := by
  unfold outcome
  cases found : attempt.logs.find? fun entry => !entry.isDrawable with
  | none =>
    rw [List.find?_eq_none] at found
    exact .inl ⟨fun entry mem => by simpa using found entry mem, rfl⟩
  | some entry => exact .inr ⟨entry, rfl, rfl⟩

/-- Of entries that are shown as messages, the first that cannot be drawn is the same. -/
theorem Message.find?_map_log [Markup] (entries : List LogEntry) :
    (entries.map log).find? (fun message => !message.isDrawable) =
      (entries.find? fun entry => !entry.isDrawable).map log :=
  List.find?_map ..

variable {entry : LogEntry}

theorem SymbolMap.warning_of_mem_logs {map : SymbolMap} {specifier : String} {request : Request}
    (mem : entry ∈ (map.attempt specifier request).logs) : entry.level = .warning := by
  unfold attempt at mem
  split at mem
  · cases mem
  · cases mem
  · rw [List.mem_singleton.1 mem]
    rfl

theorem Routing.warning_of_mem_logs {routing : Routing} {statement : ImportStatement}
    (mem : entry ∈ (routing.apply statement).logs) : entry.level = .warning := by
  cases routing with
  | module destination => cases mem
  | symbols entries =>
    rw [apply] at mem
    split at mem
    · cases mem
    · obtain ⟨_, asked, mem⟩ := Attempt.exists_of_mem_logs_all mem
      obtain ⟨request, _, rfl⟩ := List.mem_map.1 asked
      exact SymbolMap.warning_of_mem_logs mem

theorem ModuleRewrite.warning_of_mem_logs {code : List Char} {specifier : String}
    {routing : Routing} (mem : entry ∈ (compute code specifier routing).logs) :
    entry.level = .warning := by
  obtain ⟨_, found, mem⟩ := Attempt.exists_of_mem_logs_all mem
  obtain ⟨occurrence, _, rfl⟩ := List.mem_map.1 found
  unfold ofOccurrence at mem
  split at mem
  · rw [List.mem_singleton.1 mem]
    rfl
  · exact Routing.warning_of_mem_logs mem

theorem LogEntry.isDrawable_of_warning [Markup] (warning : entry.level = .warning) :
    entry.isDrawable = true := by
  rw [isDrawable, warning]

namespace Engine

variable {engine : Engine} {code : List Char}

/-- What a pass says of a module: that it has statements in the text, but no routing for the target. -/
def note? (engine : Engine) (code : List Char) (module : String × VirtualModule) : Option LogEntry :=
  if module.2.targets.get? engine.target = none ∧ Statement.find module.1 code ≠ [] then
    some (noMapping module.1 engine.target)
  else none

/-- The notes of a pass, in the order of the modules. -/
def notes (engine : Engine) (code : List Char) : List LogEntry :=
  engine.configuration.modules.filterMap (engine.note? code)

theorem mem_notes : entry ∈ engine.notes code ↔
    ∃ module ∈ engine.configuration.modules, module.2.targets.get? engine.target = none ∧
      Statement.find module.1 code ≠ [] ∧ entry = noMapping module.1 engine.target := by
  simp only [notes, List.mem_filterMap, note?, Option.ite_none_right_eq_some, Option.some.injEq,
    and_assoc, eq_comm (a := entry)]

theorem moduleRewrite_logs_of_unmapped {module : String × VirtualModule}
    (unmapped : module.2.targets.get? engine.target = none) :
    (engine.moduleRewrite code module.1 module.2).logs = (engine.note? code module).toList := by
  unfold moduleRewrite note?
  rw [unmapped]
  cases Statement.find module.1 code <;> rfl

/-- What a pass reports: warnings and notes. -/
theorem cases_of_mem_logs (mem : entry ∈ (engine.run code).logs) :
    entry.level = .warning ∨ entry ∈ engine.notes code := by
  obtain ⟨_, listed, mem⟩ := Attempt.exists_of_mem_logs_all mem
  obtain ⟨module, hm, rfl⟩ := List.mem_map.1 listed
  replace mem : entry ∈ (engine.moduleRewrite code module.1 module.2).logs := mem
  cases mapped : module.2.targets.get? engine.target with
  | none =>
    rw [moduleRewrite_logs_of_unmapped mapped, Option.mem_toList] at mem
    exact .inr (List.mem_filterMap.2 ⟨module, hm, mem⟩)
  | some routing =>
    rw [moduleRewrite, mapped] at mem
    exact .inl (ModuleRewrite.warning_of_mem_logs mem)

section
variable [Markup]

/-- What cannot be drawn among the reports of a pass are notes. -/
theorem filter_logs_run (sound : engine.configuration.Sound) (code : List Char) :
    (engine.run code).logs.filter (fun entry => !entry.isDrawable) =
      (engine.notes code).filter fun entry => !entry.isDrawable := by
  have each : ∀ module ∈ engine.configuration.modules,
      (engine.moduleRewrite code module.1 module.2).logs.filter (fun entry => !entry.isDrawable) =
        (engine.note? code module).toList.filter fun entry => !entry.isDrawable := by
    intro module _
    cases mapped : module.2.targets.get? engine.target with
    | none => rw [moduleRewrite_logs_of_unmapped mapped]
    | some routing =>
      have quiet : engine.note? code module = none := by simp [note?, mapped]
      rw [quiet, moduleRewrite, mapped, Option.toList_none, List.filter_nil, List.filter_eq_nil_iff]
      intro entry mem
      simp [LogEntry.isDrawable_of_warning (ModuleRewrite.warning_of_mem_logs mem)]
  have all := Attempt.all_map_eq_ok engine.configuration.modules
    fun module mem => moduleRewrite_eq_ok sound code mem
  have logs : (engine.run code).logs = engine.configuration.modules.flatMap fun module =>
      (engine.moduleRewrite code module.1 module.2).logs :=
    (Attempt.logs_all all).trans (List.flatMap_map ..)
  rw [logs, notes, List.filterMap_eq_flatMap_toList, List.filter_flatMap, List.filter_flatMap]
  exact List.flatMap_congr each

/-- **How a pass comes out:** as its result, if the notes can be drawn, and else the first that cannot be
drawn ends it. -/
theorem outcome_cases (sound : engine.configuration.Sound) (code : List Char) :
    ((∀ note ∈ engine.notes code, note.isDrawable = true) ∧
      (engine.run code).outcome = (engine.run code).result.mapError .failed) ∨
      ∃ note ∈ engine.notes code, note.isDrawable = false ∧
        (engine.run code).outcome = .error (.undrawable note) := by
  have same := filter_logs_run sound code
  rcases (engine.run code).outcome_cases with ⟨drawable, outcome⟩ | ⟨note, found, outcome⟩
  · refine .inl ⟨fun note mem => ?_, outcome⟩
    rw [List.filter_eq_nil_iff.2 fun entry mem => by simp [drawable entry mem], eq_comm,
      List.filter_eq_nil_iff] at same
    simpa using same note mem
  · rw [← List.head?_filter, same, List.head?_filter] at found
    have undrawable := List.find?_some found
    exact .inr ⟨note, List.mem_of_find?_eq_some found, by simpa using undrawable, outcome⟩

theorem outcome_eq_ok_iff (sound : engine.configuration.Sound) {rewritten : Rewritten} :
    (engine.run code).outcome = .ok rewritten ↔
      (engine.run code).result = .ok rewritten ∧
        ∀ note ∈ engine.notes code, note.isDrawable = true := by
  rcases outcome_cases sound code with ⟨drawable, outcome⟩ | ⟨note, mem, undrawable, outcome⟩
  · rw [outcome, and_iff_left drawable]
    cases (engine.run code).result <;> simp [Except.mapError]
  · rw [outcome]
    refine iff_of_false nofun fun ⟨_, drawable⟩ => ?_
    rw [drawable note mem] at undrawable
    cases undrawable

end

end Engine

end VirtualImports
