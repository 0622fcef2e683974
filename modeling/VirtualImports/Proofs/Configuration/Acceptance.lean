import Mathlib.Data.List.Forall2
import VirtualImports.Configuration.Basic

/-!
What holds of a configuration that passed its checks.

* `entries_eq_ok_iff`: each entry of a checked table comes from a field that passed;
* `valid_of_check`: every entry of a checked symbol map stands for a source;
* `specifiers_eq_ok_iff`: modules are put under their specifiers, if no two have the same;
* `sound_of_ofValue`: an accepted configuration has distinct specifiers, each with the start that
  all specifiers have, and routings whose look-ups cannot fail.
-/
namespace VirtualImports

open Text

theorem Except.map_eq_ok {ε α β : Type} {f : α → β} {x : Except ε α} {b : β} :
    x.map f = .ok b ↔ ∃ a, x = .ok a ∧ f a = b := by
  cases x <;> simp [Except.map]

theorem Except.toOption_eq_some {ε α : Type} {result : Except ε α} {value : α} :
    result.toOption = some value ↔ result = .ok value := by
  cases result <;> simp [Except.toOption]

theorem Except.toOption_eq_none {ε α : Type} {result : Except ε α} :
    result.toOption = none ↔ ¬ ∃ value, result = .ok value := by
  cases result <;> simp [Except.toOption]

theorem map_eq_map_of_forall₂ {α β γ : Type} {f : α → γ} {g : β → γ} {l : List α} {m : List β}
    (each : List.Forall₂ (fun a b => f a = g b) l m) : l.map f = m.map g := by
  rw [← List.forall₂_eq_eq_eq, List.forall₂_map_left_iff, List.forall₂_map_right_iff]
  exact each

namespace Checked

variable {α β γ : Type}

theorem within_eq_ok {key : String} {x : Checked α} {a : α} :
    within key x = .ok a ↔ x = .ok a := by
  cases x <;> simp [within]

theorem both_eq_ok {x : Checked α} {y : Checked β} {pair : α × β} :
    both x y = .ok pair ↔ x = .ok pair.1 ∧ y = .ok pair.2 := by
  obtain ⟨a, b⟩ := pair
  cases x <;> cases y <;> simp [both]

theorem eq_ok_of_either {x y : Checked α} {a : α} (h : either x y = .ok a) :
    x = .ok a ∨ y = .ok a := by
  cases x <;> cases y <;> simp_all [either]

theorem orInvalid_eq_ok {model : Model} {x : Checked α} {a : α} :
    x.orInvalid model = .ok a ↔ x = .ok a := by
  cases x <;> simp [orInvalid]

/-- A table is checked field by field: each keeps its key, and its value passes. -/
theorem entries_eq_ok_iff {check : γ → Checked α} {fields : List (String × γ)}
    {entries : Entries α} : Checked.entries check fields = .ok entries ↔
      List.Forall₂ (fun field entry => field.1 = entry.1 ∧ check field.2 = .ok entry.2)
        fields entries := by
  induction fields generalizing entries with
  | nil =>
    rw [List.forall₂_nil_left_iff]
    exact ⟨fun h => (Except.ok.inj h).symm, fun h => h ▸ rfl⟩
  | cons field fields ih =>
    rw [Checked.entries, Except.map_eq_ok, List.forall₂_cons_left_iff]
    constructor
    · rintro ⟨⟨a, more⟩, found, rfl⟩
      obtain ⟨first, rest⟩ := both_eq_ok.1 found
      exact ⟨_, more, ⟨rfl, within_eq_ok.1 first⟩, ih.1 rest, rfl⟩
    · rintro ⟨⟨key, a⟩, more, ⟨rfl, first⟩, rest, rfl⟩
      exact ⟨(a, more), both_eq_ok.2 ⟨within_eq_ok.2 first, ih.2 rest⟩, rfl⟩

theorem keys_of_entries {check : γ → Checked α} {fields : List (String × γ)}
    {entries : Entries α} (h : Checked.entries check fields = .ok entries) :
    entries.keys = fields.map Prod.fst :=
  (map_eq_map_of_forall₂ ((entries_eq_ok_iff.1 h).imp fun _ _ each => each.1)).symm

/-- Each entry of a checked table comes from a field that passed. -/
theorem exists_value_of_mem_entries {check : γ → Checked α} {fields : List (String × γ)}
    {entries : Entries α} (h : Checked.entries check fields = .ok entries) {entry : String × α}
    (mem : entry ∈ entries) : ∃ value, check value = .ok entry.2 := by
  have each := entries_eq_ok_iff.1 h
  clear h
  induction each with
  | nil => cases mem
  | @cons field other _ _ first _ ih =>
    rcases List.mem_cons.1 mem with rfl | mem
    · exact ⟨field.2, first.2⟩
    · exact ih mem

end Checked

/-- A checked table is a table whose fields passed. -/
theorem exists_fields_of_checkTable {α : Type} {check : Value → Checked α} {value : Value}
    {entries : Entries α} (h : checkTable check value = .ok entries) :
    ∃ fields, value = .table fields ∧ Checked.entries check fields = .ok entries := by
  cases value with
  | table fields => exact ⟨fields, rfl, h⟩
  | _ => cases h

/-! ## Sources and routings -/

/-- An entry that passed the checks: a module name that is not blank, or a source whose names are
not empty. -/
def SymbolEntry.Valid : SymbolEntry → Prop
  | shorthand destination => isBlankName destination = false
  | checked source => source.destination ≠ "" ∧ source.symbol ≠ some ""
  | raw _ => False

def Routing.Valid : Routing → Prop
  | module destination => isBlankName destination = false
  | symbols entries => ∀ entry ∈ entries, entry.2.Valid

theorem checkFilledText_eq_ok {value : Value} {text : String}
    (h : checkFilledText value = .ok text) : text ≠ "" := by
  rintro rfl
  unfold checkFilledText at h
  split at h
  · cases h
  · rename_i filled
    exact filled h

theorem SymbolSource.valid_of_check {value : Value} {source : SymbolSource}
    (h : SymbolSource.check value = .ok source) : (SymbolEntry.checked source).Valid := by
  cases value with
  | table fields =>
    obtain ⟨⟨destination, symbol⟩, found, rfl⟩ := Except.map_eq_ok.1 h
    obtain ⟨from', with'⟩ := Checked.both_eq_ok.1 found
    refine ⟨?_, ?_⟩
    · have required {x : Option Value} (hx : checkRequired checkFilledText x = .ok destination) :
          destination ≠ "" := by
        cases x with
        | none => cases hx
        | some value => exact checkFilledText_eq_ok hx
      unfold checkEither at from'
      split at from' <;> exact required (Checked.within_eq_ok.1 from')
    · have optional := Checked.within_eq_ok.1 with'
      rintro rfl
      unfold checkOptional at optional
      split at optional
      · cases optional
      · cases optional
      · obtain ⟨text, filled, same⟩ := Except.map_eq_ok.1 optional
        cases same
        exact checkFilledText_eq_ok filled rfl
  | _ => cases h

theorem SymbolEntry.cases_of_check {value : Value} {entry : SymbolEntry}
    (h : SymbolEntry.check value = .ok entry) :
    (∃ destination, entry = .shorthand destination) ∨
      ∃ source, entry = .checked source ∧ entry.Valid := by
  rcases Checked.eq_ok_of_either h with h | h
  · obtain ⟨destination, _, rfl⟩ := Except.map_eq_ok.1 (Checked.within_eq_ok.1 h)
    exact .inl ⟨destination, rfl⟩
  · obtain ⟨source, found, rfl⟩ := Except.map_eq_ok.1 (Checked.within_eq_ok.1 h)
    exact .inr ⟨source, rfl, SymbolSource.valid_of_check found⟩

/-- A checked routing none of whose module names is blank. -/
theorem Routing.valid_of_check {value : Value} {routing : Routing} {target : String}
    (h : Routing.check value = .ok routing) (named : routing.blankName? target = none) :
    routing.Valid := by
  rcases Checked.eq_ok_of_either h with h | h
  · obtain ⟨destination, _, rfl⟩ := Except.map_eq_ok.1 (Checked.within_eq_ok.1 h)
    simpa [blankName?, Valid] using named
  · replace h := Checked.within_eq_ok.1 h
    cases value with
    | table fields =>
      obtain ⟨entries, found, rfl⟩ := Except.map_eq_ok.1 h
      intro entry mem
      obtain ⟨value, checked⟩ := Checked.exists_value_of_mem_entries found mem
      rcases SymbolEntry.cases_of_check checked with ⟨destination, he⟩ | ⟨source, he, valid⟩
      · have := List.findSome?_eq_none_iff.1 named entry mem
        simp only [he] at this
        rw [he, SymbolEntry.Valid]
        simpa using this
      · exact valid
    | _ => cases h

theorem valid_of_checkTargets {value : Value} {targets : Entries Routing}
    (h : checkTargets value = .ok targets) : ∀ target ∈ targets, target.2.Valid := by
  intro target mem
  unfold checkTargets at h
  split at h
  · cases h
  rename_i checked found
  split at h
  · cases h
  · rename_i named
    cases h
    obtain ⟨fields, _, entries⟩ := exists_fields_of_checkTable found
    obtain ⟨value, passed⟩ := Checked.exists_value_of_mem_entries entries mem
    exact Routing.valid_of_check passed (List.findSome?_eq_none_iff.1 named target mem)

theorem VirtualModule.valid_of_check {value : Value} {module : VirtualModule}
    (h : VirtualModule.check value = .ok module) :
    ∀ target ∈ module.targets, target.2.Valid := by
  cases value with
  | table fields =>
    obtain ⟨⟨declaration, targets⟩, found, rfl⟩ := Except.map_eq_ok.1 h
    have checked := Checked.within_eq_ok.1 (Checked.both_eq_ok.1 found).2
    dsimp only at checked ⊢
    generalize Entries.get? "targets" fields = field at checked
    cases field with
    | none => cases checked; simp
    | some value => exact valid_of_checkTargets checked
  | _ => cases h

/-! ## Specifiers -/

theorem specifierStart_isPrefix (name : String) : specifierStart <+: (specifierOf name).toList := by
  unfold specifierOf
  dsimp only
  split
  · rename_i start
    rw [String.toList_ofList]
    exact List.isPrefixOf_iff_prefix.1 start
  · rw [String.toList_ofList]
    exact List.prefix_append _ _

namespace Configuration

/-- Modules are put under their specifiers, if these are new and no two of them the same. -/
theorem specifiers_eq_ok_iff {seen : List String} {fields renamed : List (String × Value)} :
    specifiers seen fields = .ok renamed ↔
      renamed = fields.map (fun field => (specifierOf field.1, field.2)) ∧
        (renamed.map Prod.fst).Nodup ∧ ∀ key ∈ renamed.map Prod.fst, key ∉ seen := by
  induction fields generalizing seen renamed with
  | nil =>
    constructor
    · intro h
      cases h
      simp
    · rintro ⟨rfl, _⟩
      rfl
  | cons field fields ih =>
    obtain ⟨name, value⟩ := field
    rw [specifiers]
    split
    · rename_i old
      refine ⟨nofun, ?_⟩
      rintro ⟨rfl, _, unseen⟩
      exact absurd (List.contains_iff_mem.1 old) (unseen _ (by simp))
    · rename_i new
      rw [List.contains_iff_mem] at new
      rw [Except.map_eq_ok]
      constructor
      · rintro ⟨later, found, rfl⟩
        obtain ⟨rfl, distinct, unseen⟩ := ih.1 found
        refine ⟨rfl, List.nodup_cons.2 ⟨fun mem => unseen _ mem (by simp), distinct⟩, ?_⟩
        intro key mem
        rcases List.mem_cons.1 mem with rfl | mem
        · exact new
        · exact fun old => unseen key mem (by simp [old])
      · rintro ⟨rfl, distinct, unseen⟩
        obtain ⟨single, distinct⟩ := List.nodup_cons.1 distinct
        refine ⟨_, ih.2 ⟨rfl, distinct, fun key mem old => ?_⟩, rfl⟩
        -- a key seen by then is this field's or was seen before it
        rcases List.mem_cons.1 old with rfl | old
        · exact single mem
        · exact unseen key (List.mem_cons_of_mem _ mem) old

/-- What holds of every configuration that is accepted. -/
structure Sound (configuration : Configuration) : Prop where
  distinct : configuration.modules.keys.Nodup
  started : ∀ specifier ∈ configuration.modules.keys, specifierStart <+: specifier.toList
  valid : ∀ module ∈ configuration.modules, ∀ target ∈ module.2.targets, target.2.Valid

/-- **An accepted configuration is sound.** -/
theorem sound_of_ofValue {raw : Value} {configuration : Configuration}
    (h : ofValue raw = .ok configuration) : configuration.Sound := by
  have checked := Checked.orInvalid_eq_ok.1 h
  cases raw with
  | table fields =>
    obtain ⟨⟨modules, file, target⟩, found, rfl⟩ := Except.map_eq_ok.1 checked
    have part := Checked.within_eq_ok.1 (Checked.both_eq_ok.1 found).1
    clear h checked found
    dsimp only at part
    generalize Entries.get? "modules" fields = field at part
    cases field with
    | none => cases part; exact ⟨by simp [Entries.keys], by simp [Entries.keys], by simp⟩
    | some value =>
      cases value with
      | table fields =>
        simp only [checkDefault, checkModules] at part
        split at part
        · cases part
        rename_i renamed names
        obtain ⟨rfl, distinct, _⟩ := specifiers_eq_ok_iff.1 names
        have keys := Checked.keys_of_entries part
        refine ⟨?_, ?_, ?_⟩
        · rw [keys]; exact distinct
        · intro key mem
          rw [keys, List.map_map] at mem
          obtain ⟨field, _, rfl⟩ := List.mem_map.1 mem
          exact specifierStart_isPrefix field.1
        · intro module mem
          obtain ⟨value, passed⟩ := Checked.exists_value_of_mem_entries part mem
          exact VirtualModule.valid_of_check passed
      | _ => cases part
  | _ => cases checked

end Configuration

end VirtualImports
