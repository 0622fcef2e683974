import VirtualImports.Proofs.Configuration.Acceptance
import VirtualImports.Proofs.Text.Runs

/-!
The names of modules and the specifiers made of them.

* `solid_specifierOf`, `specifierOf_eq_self`: a specifier has no white space around it, and is its own
  specifier;
* `ofValue_modulesOnly_iff`: modules without settings beside them are accepted exactly if no two of
  them have one specifier and each passes on its own, and then nothing else has become of them;
* `modules_kept`: so none of them gets lost.
-/
namespace VirtualImports

open Text

/-! ## Specifiers -/

theorem solid_specifierStart : Solid specifierStart := by decide

/-- A specifier begins and ends with something other than white space. -/
theorem solid_specifierOf (name : String) : Solid (specifierOf name).toList := by
  unfold specifierOf
  dsimp only
  split
  · rename_i start
    rw [String.toList_ofList]
    rcases trim_eq_nil_or_solid name.toList with empty | solid
    · rw [empty] at start
      cases start
    · exact solid
  · rw [String.toList_ofList]
    rcases trim_eq_nil_or_solid name.toList with empty | solid
    · rw [empty, List.append_nil]
      exact solid_specifierStart
    · simpa using solid_specifierStart.join solid []

theorem specifierOf_eq_self {name : String} (start : specifierStart <+: name.toList)
    (solid : Solid name.toList) : specifierOf name = name := by
  unfold specifierOf
  dsimp only
  rw [solid.trim, if_pos (List.isPrefixOf_iff_prefix.2 start), String.ofList_toList]

/-- A specifier is its own specifier. -/
theorem specifierOf_specifierOf (name : String) :
    specifierOf (specifierOf name) = specifierOf name :=
  specifierOf_eq_self (specifierStart_isPrefix name) (solid_specifierOf name)

/-! ## Modules -/

namespace Configuration

/-- Raw data with modules and no other settings. -/
def modulesOnly (fields : List (String × Value)) : Value :=
  .table [("modules", .table fields)]

/-- An accepted module, under the specifier for the name that it was given. -/
def Keeps (field : String × Value) (module : String × VirtualModule) : Prop :=
  specifierOf field.1 = module.1 ∧ VirtualModule.check field.2 = .ok module.2

variable {fields : List (String × Value)} {configuration : Configuration}

theorem checkModules_eq_ok_iff {modules : Entries VirtualModule} :
    checkModules (.table fields) = .ok modules ↔
      (fields.map fun field => specifierOf field.1).Nodup ∧ List.Forall₂ Keeps fields modules := by
  have renamed : (fields.map fun field => (specifierOf field.1, field.2)).map Prod.fst =
      fields.map fun field => specifierOf field.1 := by
    rw [List.map_map]
    rfl
  have each : List.Forall₂ Keeps fields modules ↔
      Checked.entries VirtualModule.check
        (fields.map fun field => (specifierOf field.1, field.2)) = .ok modules := by
    rw [Checked.entries_eq_ok_iff, List.forall₂_map_left_iff]
    rfl
  rw [each, ← renamed, checkModules]
  split
  · rename_i issues refused
    constructor
    · intro passed
      cases passed
    · rintro ⟨distinct, _⟩
      rw [specifiers_eq_ok_iff.2 ⟨rfl, distinct, by simp⟩] at refused
      cases refused
  · rename_i found
    obtain ⟨rfl, distinct, _⟩ := specifiers_eq_ok_iff.1 found
    exact ⟨fun passed => ⟨distinct, passed⟩, fun h => h.2⟩

/-- Modules without settings beside them are accepted exactly if no two of them have one specifier
and each passes on its own. -/
theorem ofValue_modulesOnly_iff :
    ofValue (modulesOnly fields) = .ok configuration ↔
      (fields.map fun field => specifierOf field.1).Nodup ∧
        List.Forall₂ Keeps fields configuration.modules ∧
        configuration.declarationFile = some defaultDeclarationFile ∧
        configuration.target = none := by
  obtain ⟨modules, declarationFile, target⟩ := configuration
  have checked : check (modulesOnly fields) =
      ((Checked.within "modules" (checkModules (.table fields))).both
        (.ok (some defaultDeclarationFile, none))).map
          fun (modules, declarationFile, target) => ⟨modules, declarationFile, target⟩ := rfl
  rw [ofValue, Checked.orInvalid_eq_ok, checked, Except.map_eq_ok, ← and_assoc,
    ← checkModules_eq_ok_iff]
  constructor
  · rintro ⟨⟨found, file, target⟩, passed, same⟩
    obtain ⟨first, rest⟩ := Checked.both_eq_ok.1 passed
    cases rest
    cases same
    exact ⟨Checked.within_eq_ok.1 first, rfl, rfl⟩
  · rintro ⟨first, rfl, rfl⟩
    exact ⟨(modules, _, _), Checked.both_eq_ok.2 ⟨Checked.within_eq_ok.2 first, rfl⟩, rfl⟩

theorem exists_keeps
    (valid : ∀ field ∈ fields, ∃ module, VirtualModule.check field.2 = .ok module) :
    ∃ modules, List.Forall₂ Keeps fields modules := by
  induction fields with
  | nil => exact ⟨[], .nil⟩
  | cons field fields ih =>
    obtain ⟨module, passed⟩ := valid field (by simp)
    obtain ⟨modules, each⟩ := ih fun other mem => valid other (by simp [mem])
    exact ⟨(specifierOf field.1, module) :: modules, .cons ⟨rfl, passed⟩ each⟩

theorem keys_of_keeps {modules : Entries VirtualModule} (each : List.Forall₂ Keeps fields modules) :
    modules.keys = fields.map fun field => specifierOf field.1 :=
  (map_eq_map_of_forall₂ (each.imp fun _ _ keeps => keeps.1)).symm

/-- A module that stands under a specifier already is kept there. -/
theorem Keeps.renamed {field : String × Value} {module : String × VirtualModule}
    (keeps : Keeps field module) : Keeps (specifierOf field.1, field.2) module :=
  ⟨(specifierOf_specifierOf field.1).trans keeps.1, keeps.2⟩

/-- Modules put under their specifiers beforehand come to the same configuration. -/
theorem ofValue_renamed (accepted : ofValue (modulesOnly fields) = .ok configuration) :
    ofValue (modulesOnly (fields.map fun field => (specifierOf field.1, field.2))) =
      .ok configuration := by
  obtain ⟨distinct, each, rest⟩ := ofValue_modulesOnly_iff.1 accepted
  refine ofValue_modulesOnly_iff.2 ⟨?_, ?_, rest⟩
  · have same : (fields.map fun field => (specifierOf field.1, field.2)).map
        (fun field => specifierOf field.1) = fields.map fun field => specifierOf field.1 := by
      simp only [List.map_map, Function.comp_def, specifierOf_specifierOf]
    rwa [same]
  · rw [List.forall₂_map_left_iff]
    exact each.imp fun _ _ keeps => keeps.renamed

/-- **No module gets lost.** Modules that each pass on their own, without settings beside them, are
accepted exactly if no two names have one specifier. Then each is kept under the specifier for its
name, in the order given. All of these start as specifiers do, have no white space around them and
stand for themselves, and with them in the place of the names the same is accepted again. -/
theorem modules_kept
    (valid : ∀ field ∈ fields, ∃ module, VirtualModule.check field.2 = .ok module) :
    ((∃ configuration, ofValue (modulesOnly fields) = .ok configuration) ↔
        (fields.map fun field => specifierOf field.1).Nodup) ∧
      ∀ configuration, ofValue (modulesOnly fields) = .ok configuration →
        configuration.modules.keys = fields.map (fun field => specifierOf field.1) ∧
        List.Forall₂ (fun field module => VirtualModule.check field.2 = .ok module.2) fields
          configuration.modules ∧
        (∀ specifier ∈ configuration.modules.keys, specifierStart <+: specifier.toList ∧
          Solid specifier.toList ∧ specifierOf specifier = specifier) ∧
        ofValue (modulesOnly (configuration.modules.keys.zip (fields.map Prod.snd))) =
          .ok configuration := by
  constructor
  · constructor
    · rintro ⟨configuration, accepted⟩
      exact (ofValue_modulesOnly_iff.1 accepted).1
    · intro distinct
      obtain ⟨modules, each⟩ := exists_keeps valid
      exact ⟨⟨modules, _, _⟩, ofValue_modulesOnly_iff.2 ⟨distinct, each, rfl, rfl⟩⟩
  · intro configuration accepted
    obtain ⟨_, each, _⟩ := ofValue_modulesOnly_iff.1 accepted
    have keys := keys_of_keeps each
    refine ⟨keys, each.imp fun _ _ keeps => keeps.2, ?_, ?_⟩
    · intro specifier mem
      rw [keys] at mem
      obtain ⟨field, _, rfl⟩ := List.mem_map.1 mem
      exact ⟨specifierStart_isPrefix field.1, solid_specifierOf field.1,
        specifierOf_specifierOf field.1⟩
    · rw [keys, List.zip_map']
      exact ofValue_renamed accepted

/-- Names with white space around them, one of them with the start of specifiers, and a blank one. -/
def spacedModules : List (String × Value) :=
  [("\u00a0flow\t", .table [("targets", .table [("react", .text "flow-react")])]),
    ("virtual: icons\u2003", .table []), (" ", .table [])]

theorem modules_kept_sample :
    (∀ field ∈ spacedModules, ∃ module, VirtualModule.check field.2 = .ok module) ∧
      ∃ configuration, ofValue (modulesOnly spacedModules) = .ok configuration ∧
        configuration.modules.keys = ["virtual:flow", "virtual: icons", "virtual:"] ∧
        ofValue (modulesOnly (configuration.modules.keys.zip (spacedModules.map Prod.snd))) =
          .ok configuration := by
  have valid : ∀ field ∈ spacedModules, ∃ module, VirtualModule.check field.2 = .ok module := by
    intro field mem
    simp only [spacedModules, List.mem_cons, List.not_mem_nil, or_false] at mem
    rcases mem with rfl | rfl | rfl
    · exact ⟨⟨none, [("react", .module "flow-react")]⟩, rfl⟩
    · exact ⟨⟨none, []⟩, rfl⟩
    · exact ⟨⟨none, []⟩, rfl⟩
  have specifiers : spacedModules.map (fun field => specifierOf field.1) =
      ["virtual:flow", "virtual: icons", "virtual:"] := by decide +kernel
  have distinct : (spacedModules.map fun field => specifierOf field.1).Nodup := by
    rw [specifiers]
    decide
  obtain ⟨accepted, kept⟩ := modules_kept valid
  obtain ⟨configuration, found⟩ := accepted.2 distinct
  obtain ⟨keys, _, _, again⟩ := kept configuration found
  exact ⟨valid, configuration, found, keys.trans specifiers, again⟩

end Configuration

end VirtualImports
