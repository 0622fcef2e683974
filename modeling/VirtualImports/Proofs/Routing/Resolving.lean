import Mathlib.Data.List.Forall2
import VirtualImports.Proofs.Configuration.Acceptance
import VirtualImports.Proofs.Data.Entries
import VirtualImports.Routing.Routed

/-!
Look-ups that cannot fail.

* `all_eq_ok`: attempts made one after the other succeed when each of them does;
* `resolve_cases`: a binding goes by the entry for its name, or else by the catch-all;
* `exists_resolve`: in a valid symbol map every binding has a resolution;
* `apply_eq_ok`: a valid routing routes every statement.
-/
namespace VirtualImports

/-- Attempts made one after the other succeed when each of them does. -/
theorem Attempt.all_eq_ok {ε α : Type} {attempts : List (Attempt ε α)} {values : List α} :
    (all attempts).result = .ok values ↔
      List.Forall₂ (fun attempt value => attempt.result = .ok value) attempts values := by
  induction attempts generalizing values with
  | nil => cases values <;> simp [all, done]
  | cons attempt rest ih =>
    rw [all, List.forall₂_cons_left_iff]
    split
    · rename_i error found
      simp [found]
    · rename_i value found
      simp only [Except.map_eq_ok, ih, found, Except.ok.injEq]
      constructor
      · rintro ⟨later, hl, rfl⟩
        exact ⟨value, later, rfl, hl, rfl⟩
      · rintro ⟨_, later, rfl, hl, rfl⟩
        exact ⟨later, hl, rfl⟩

theorem Attempt.all_map_eq_ok {ε α β : Type} {f : β → Attempt ε α} {value : β → α} (items : List β)
    (h : ∀ item ∈ items, (f item).result = .ok (value item)) :
    (all (items.map f)).result = .ok (items.map value) := by
  rw [all_eq_ok, List.forall₂_map_left_iff, List.forall₂_map_right_iff, List.forall₂_same]
  exact h

/-- What attempts report that all succeed. -/
theorem Attempt.logs_all {ε α : Type} {attempts : List (Attempt ε α)} {values : List α}
    (done : (all attempts).result = .ok values) :
    (all attempts).logs = attempts.flatMap Attempt.logs := by
  induction attempts generalizing values with
  | nil => rfl
  | cons attempt rest ih =>
    obtain ⟨value, later, first, others, _⟩ := List.forall₂_cons_left_iff.1 (all_eq_ok.1 done)
    simp only [all, first, List.flatMap_cons, ih (all_eq_ok.2 others)]

theorem ne_empty_of_isBlankName {name : String} (h : isBlankName name = false) : name ≠ "" := by
  rintro rfl
  exact absurd h (by decide)

theorem SymbolEntry.toSource_shorthand {destination : String} (named : destination ≠ "") :
    (shorthand destination).toSource = .ok ⟨destination, none⟩ := by
  rw [toSource]
  exact named

/-- An entry that passed the checks stands for a source with a module. -/
theorem SymbolEntry.Valid.exists_source {entry : SymbolEntry} (h : entry.Valid) :
    ∃ source, entry.toSource = .ok source ∧ source.destination ≠ "" := by
  cases entry with
  | shorthand destination =>
    have named := ne_empty_of_isBlankName h
    exact ⟨⟨destination, none⟩, toSource_shorthand named, named⟩
  | checked source => exact ⟨source, rfl, h.1⟩
  | raw value => cases h

theorem SymbolEntry.Valid.isPresent {entry : SymbolEntry} (h : entry.Valid) :
    entry.isPresent = true := by
  cases entry with
  | shorthand destination => exact bne_iff_ne.2 (ne_empty_of_isBlankName h)
  | checked source => rfl
  | raw value => cases h

theorem SymbolMap.mem_of_entry {entries : Entries SymbolEntry} {name : String}
    {entry : SymbolEntry} (h : entry? entries name = some entry) : (name, entry) ∈ entries := by
  unfold entry? at h
  rw [Option.filter_eq_some_iff] at h
  exact Entries.mem_of_get? h.1

theorem SymbolMap.exists_ofEntries {entries : Entries SymbolEntry}
    (lookUp : ∀ entry ∈ entries, ∃ source, entry.2.toSource = .ok source) :
    ∃ map, ofEntries entries = .ok map ∧ map.entries = entries := by
  unfold ofEntries
  split
  · exact ⟨_, rfl, rfl⟩
  · rename_i entry found
    obtain ⟨source, hs⟩ := lookUp _ (mem_of_entry found)
    exact ⟨⟨entries, some source⟩, by rw [hs]; rfl, rfl⟩

/-- A binding of a name goes by the entry for it. Where there is none, and for other bindings, it
goes by the catch-all. -/
theorem SymbolMap.resolve_cases (map : SymbolMap) (request : Request) :
    (∃ entry, (request.kind = .named ∨ request.kind = .typed) ∧
      entry? map.entries request.imported = some entry ∧
      map.resolve request =
        entry.toSource.map fun source => .resolved (routeTo source request)) ∨
    ((request.kind = .named ∨ request.kind = .typed →
        entry? map.entries request.imported = none) ∧
      map.resolve request = .ok (map.resolveByCatchAll request)) := by
  unfold resolve
  cases found : entry? map.entries request.imported with
  | none =>
    refine .inr ⟨fun _ => rfl, ?_⟩
    cases request.kind <;> rfl
  | some entry =>
    cases kind : request.kind with
    | named => exact .inl ⟨entry, .inl rfl, rfl, rfl⟩
    | typed => exact .inl ⟨entry, .inr rfl, rfl, rfl⟩
    | default => exact .inr ⟨by simp, rfl⟩
    | wholeModule => exact .inr ⟨by simp, rfl⟩

theorem SymbolMap.exists_resolve {map : SymbolMap}
    (lookUp : ∀ entry ∈ map.entries, ∃ source, entry.2.toSource = .ok source)
    (request : Request) : ∃ resolution, map.resolve request = .ok resolution := by
  rcases map.resolve_cases request with ⟨entry, _, found, eq⟩ | ⟨_, eq⟩
  · obtain ⟨source, hs⟩ := lookUp _ (mem_of_entry found)
    exact ⟨_, by rw [eq, hs]; rfl⟩
  · exact ⟨_, eq⟩

theorem SymbolMap.attempt_result (map : SymbolMap) (specifier : String) (request : Request) :
    (map.attempt specifier request).result = map.resolve request := by
  unfold attempt
  split <;> rename_i found <;> rw [found] <;> rfl

/-- A symbol map whose entries all stand for sources resolves every binding of a statement. -/
theorem Routing.exists_resolution {entries : Entries SymbolEntry}
    (lookUp : ∀ entry ∈ entries, ∃ source, entry.2.toSource = .ok source)
    (statement : ImportStatement) :
    ∃ map resolution, SymbolMap.ofEntries entries = .ok map ∧
      (∀ request, map.resolve request = .ok (resolution request)) ∧
      ((symbols entries).apply statement).result =
        .ok (Routed.ofResolutions statement.typeOnly (statement.requests.map resolution)) := by
  obtain ⟨map, found, rfl⟩ := SymbolMap.exists_ofEntries lookUp
  obtain ⟨resolution, resolves⟩ := Classical.axiomOfChoice (SymbolMap.exists_resolve lookUp)
  have all : (Attempt.all (statement.requests.map
      (map.attempt statement.specifier))).result = .ok (statement.requests.map resolution) :=
    Attempt.all_map_eq_ok _ fun request _ =>
      (map.attempt_result _ request).trans (resolves request)
  exact ⟨map, resolution, found, resolves, by
    simp only [apply, found, Attempt.map, all, Except.map]⟩

namespace Routing

/-- In a valid symbol map no look-up fails. -/
theorem Valid.lookUp {entries : Entries SymbolEntry} (valid : (symbols entries).Valid) :
    ∀ entry ∈ entries, ∃ source, entry.2.toSource = .ok source := by
  intro entry mem
  obtain ⟨source, checked, _⟩ := (valid entry mem).exists_source
  exact ⟨source, checked⟩

/-- A statement routed, where no look-up fails. -/
def routed (routing : Routing) (statement : ImportStatement) : Routed :=
  match (routing.apply statement).result with
  | .ok routed => routed
  | .error _ => ⟨[], []⟩

theorem routed_of_apply {routing : Routing} {statement : ImportStatement} {result : Routed}
    (h : (routing.apply statement).result = .ok result) : routing.routed statement = result := by
  rw [routed, h]

/-- A valid routing routes every statement. -/
theorem apply_eq_ok {routing : Routing} (valid : routing.Valid) (statement : ImportStatement) :
    (routing.apply statement).result = .ok (routing.routed statement) := by
  cases routing with
  | module destination => rfl
  | symbols entries =>
    obtain ⟨_, _, _, _, result⟩ :=
      exists_resolution valid.lookUp statement
    rw [result, routed_of_apply result]

/-- No statement fails to be routed. -/
def Applies (routing : Routing) : Prop :=
  ∀ statement, (routing.apply statement).result = .ok (routing.routed statement)

theorem Valid.applies {routing : Routing} (valid : routing.Valid) : routing.Applies :=
  apply_eq_ok valid

/-- A routing to one module fails on no statement, whatever the module is called. -/
theorem applies_module (destination : String) : (module destination).Applies :=
  fun _ => rfl

end Routing

end VirtualImports
