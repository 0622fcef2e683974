import VirtualImports.Configuration.Loading

/-!
Which data are no settings, and what comes of loading them.

* `settingsOf_notSettings`: data without the shape of settings are refused as such, and no others;
* `unexpected_loadRaw`: raw data are not got at where a TOML file has a value `tool` that is no
  table;
* `unexpected_load`: a load ends in a fault that no command expects if and only if the data are
  misshapen.

Everything else that can be wrong with a configuration file, from its bytes to a wrong setting, is a
fault that commands expect.
-/
namespace VirtualImports

/-! ## Settings -/

/-- A key with a value. -/
def IsPair (item : Value) : Prop :=
  ∃ key value, sequence? item = some [key, value] ∧ isKey key = true

/-- Not a sequence, or a sequence of two of which the first is no key. -/
def Unpairable (item : Value) : Prop :=
  sequence? item = none ∨ ∃ key value, sequence? item = some [key, value] ∧ isKey key = false

/-- Pairs up to an item that can be none. -/
inductive BreaksOff : List Value → Prop
  | here {item : Value} {rest : List Value} : Unpairable item → BreaksOff (item :: rest)
  | later {item : Value} {rest : List Value} : IsPair item → BreaksOff rest →
      BreaksOff (item :: rest)

/-- Data without the shape of settings: neither a table nor a sequence, or a list whose pairs break
off. -/
def Shapeless : Value → Prop
  | .table _ | .text _ => False
  | .list items => BreaksOff items
  | _ => True

theorem cases_of_item (item : Value) :
    Unpairable item ∨ IsPair item ∨ ∃ parts, sequence? item = some parts ∧ parts.length ≠ 2 := by
  match found : sequence? item with
  | none => exact .inl (.inl found)
  | some [key, value] =>
    cases hk : isKey key with
    | true => exact .inr (.inl ⟨key, value, found, hk⟩)
    | false => exact .inl (.inr ⟨key, value, found, hk⟩)
  | some [] | some [_] | some (_ :: _ :: _ :: _) => exact .inr (.inr ⟨_, rfl, by simp⟩)

section Items

variable {index : Nat} {settings : Entries Value} {item : Value} {rest : List Value}

theorem pairSettings_unpairable (h : Unpairable item) :
    pairSettings index settings (item :: rest) = .error (.settings .notSettings) := by
  rcases h with none | ⟨key, value, found, noKey⟩
  · simp only [pairSettings, none]
  · cases key with
    | list items => simp only [pairSettings, found, isKey, Bool.false_eq_true, if_false]
    | table fields => simp only [pairSettings, found, isKey, Bool.false_eq_true, if_false]
    | _ => cases noKey

variable (index settings rest) in
theorem pairSettings_pair (h : IsPair item) :
    ∃ more, pairSettings index settings (item :: rest) = pairSettings (index + 1) more rest := by
  obtain ⟨key, value, found, isKey⟩ := h
  cases key with
  | list items => cases isKey
  | table fields => cases isKey
  | text key => exact ⟨settings.set key value, by simp only [pairSettings, found]⟩
  | _ => exact ⟨settings, by simp only [pairSettings, found, isKey, if_true]⟩

theorem pairSettings_length {parts : List Value} (found : sequence? item = some parts)
    (length : parts.length ≠ 2) :
    pairSettings index settings (item :: rest) =
      .error (.settings (.notPair index parts.length)) := by
  match parts, length with
  | [], _ | [_], _ | _ :: _ :: _ :: _, _ => simp only [pairSettings, found]

end Items

theorem pairSettings_notSettings {index : Nat} {settings : Entries Value} {items : List Value} :
    pairSettings index settings items = .error (.settings .notSettings) ↔ BreaksOff items := by
  induction items generalizing index settings with
  | nil => exact ⟨nofun, nofun⟩
  | cons item rest ih =>
    constructor
    · intro h
      rcases cases_of_item item with unpairable | pair | ⟨parts, found, length⟩
      · exact .here unpairable
      · obtain ⟨more, step⟩ := pairSettings_pair index settings rest pair
        exact .later pair (ih.1 (step ▸ h))
      · rw [pairSettings_length found length] at h
        cases h
    · intro h
      cases h with
      | here unpairable => exact pairSettings_unpairable unpairable
      | later pair breaks =>
        obtain ⟨more, step⟩ := pairSettings_pair index settings rest pair
        exact step.trans (ih.2 breaks)

/-- A text is a sequence of texts of one character. None of them is a pair, for its length. -/
theorem not_breaksOff_text (s : List Char) :
    ¬ BreaksOff (s.map fun c => .text (String.ofList [c])) := by
  have single (c : Char) : sequence? (.text (String.ofList [c])) =
      some [.text (String.ofList [c])] := by
    simp [sequence?]
  cases s with
  | nil => exact nofun
  | cons c s =>
    intro h
    cases h with
    | here unpairable =>
      rcases unpairable with none | ⟨_, _, two, _⟩
      · cases (single c).symm.trans none
      · cases (single c).symm.trans two
    | later pair _ =>
      obtain ⟨_, _, two, _⟩ := pair
      cases (single c).symm.trans two

/-- **What is refused as settings.** -/
theorem settingsOf_notSettings {raw : Value} :
    settingsOf raw = .error (.settings .notSettings) ↔ Shapeless raw := by
  cases raw with
  | table fields => exact ⟨nofun, nofun⟩
  | text s => exact pairSettings_notSettings.trans ⟨not_breaksOff_text s.toList, nofun⟩
  | list items => exact pairSettings_notSettings
  | _ => exact ⟨fun _ => trivial, fun _ => rfl⟩

theorem pairSettings_fault {index : Nat} {settings : Entries Value} {items : List Value}
    {fault : LoadFault} (h : pairSettings index settings items = .error fault) :
    ∃ found, fault = .settings found := by
  induction items generalizing index settings with
  | nil => cases h
  | cons item rest ih =>
    rcases cases_of_item item with unpairable | pair | ⟨parts, found, length⟩
    · rw [pairSettings_unpairable unpairable] at h
      cases h
      exact ⟨_, rfl⟩
    · obtain ⟨more, step⟩ := pairSettings_pair index settings rest pair
      exact ih (step ▸ h)
    · rw [pairSettings_length found length] at h
      cases h
      exact ⟨_, rfl⟩

theorem settingsOf_fault {raw : Value} {fault : LoadFault} (h : settingsOf raw = .error fault) :
    ∃ found, fault = .settings found := by
  unfold settingsOf at h
  split at h
  · cases h
  · split at h
    · cases h
      exact ⟨_, rfl⟩
    · exact pairSettings_fault h

/-! ## Loads -/

/-- Ended by a fault that no command expects. -/
def Unexpected {α : Type} (outcome : Except LoadFault α) : Prop :=
  ∃ fault, outcome = .error fault ∧ fault.isExpected = false

theorem unexpected_settingsOf {raw : Value} : Unexpected (settingsOf raw) ↔ Shapeless raw := by
  rw [← settingsOf_notSettings]
  constructor
  · rintro ⟨fault, refused, unexpected⟩
    obtain ⟨found, rfl⟩ := settingsOf_fault refused
    cases found with
    | notSettings => exact refused
    | notPair index length => cases unexpected
  · exact fun refused => ⟨_, refused, rfl⟩

section Files

variable {tree : FileTree} {cwd : Location} {path start : Path} {bytes : List UInt8}
  {fault : LoadFault}

theorem expected_of_readFile (h : readFile tree cwd path = .error fault) :
    fault.isExpected = true := by
  unfold readFile at h
  split at h
  · cases h
  · cases h
    rfl

theorem expected_of_decodeText (h : decodeText bytes = .error fault) : fault.isExpected = true := by
  unfold decodeText at h
  split at h
  · cases h
  · cases h
    rfl

theorem expected_of_mapError {α : Type} {format : ConfigurationFormat} {read : Except ReadFault α}
    (h : read.mapError (LoadFault.ofReadFault format) = .error fault) :
    fault.isExpected = true := by
  cases read with
  | ok value => cases h
  | error found => cases found <;> cases h <;> rfl

theorem expected_of_readToml (h : readToml bytes = .error fault) : fault.isExpected = true := by
  unfold readToml at h
  split at h
  · rename_i decoded
    cases h
    exact expected_of_decodeText decoded
  · exact expected_of_mapError h

theorem expected_of_readJson (h : readJson bytes = .error fault) : fault.isExpected = true := by
  unfold readJson at h
  split at h
  · rename_i decoded
    cases h
    exact expected_of_decodeText decoded
  · exact expected_of_mapError h

theorem not_unexpected_readJson : ¬ Unexpected (readJson bytes) := by
  rintro ⟨fault, failed, unexpected⟩
  rw [expected_of_readJson failed] at unexpected
  cases unexpected

/-- A document whose value `tool` is there and is no table. -/
def ToolMisshapen (document : List (String × Value)) : Prop :=
  ∃ tool, Entries.get? "tool" document = some tool ∧ ∀ tools, tool ≠ .table tools

theorem unexpected_sectionOf {missing : Value} {document : List (String × Value)} :
    Unexpected (sectionOf missing document) ↔ ToolMisshapen document := by
  unfold Unexpected sectionOf ToolMisshapen
  cases found : Entries.get? "tool" document with
  | none => simp
  | some tool => cases tool <;> simp [LoadFault.isExpected]

/-- Of what stops the reading of a configuration file, only a misshapen value `tool` of a TOML file
is unexpected. -/
theorem unexpected_loadFile :
    Unexpected (loadFile tree cwd path) ↔ path.suffix ≠ ".json" ∧ ∃ bytes document,
      readFile tree cwd path = .ok bytes ∧ readToml bytes = .ok document ∧
      ToolMisshapen document := by
  unfold loadFile
  cases read : readFile tree cwd path with
  | error fault => simp [Unexpected, expected_of_readFile read]
  | ok bytes =>
    by_cases json : path.suffix = ".json"
    · simp [json, not_unexpected_readJson]
    · cases holds : readToml bytes with
      | error fault => simp [json, holds, Unexpected, expected_of_readToml holds]
      | ok document => simp [json, holds, unexpected_sectionOf]

theorem unexpected_map {α β : Type} {f : α → β} {outcome : Except LoadFault α} :
    Unexpected (outcome.map f) ↔ Unexpected outcome := by
  cases outcome <;> simp [Unexpected, Except.map]

theorem unexpected_findSettings :
    Unexpected (findSettings tree cwd start) ↔ searchFault? tree cwd start = none ∧
      ∃ directory bytes document, projectDirectory? tree (start.resolve cwd) = some directory ∧
        readFile tree [] (absolutePath (directory ++ [projectFileName])) = .ok bytes ∧
        readToml bytes = .ok document ∧ ToolMisshapen document := by
  unfold findSettings searchSettings
  cases search : searchFault? tree cwd start with
  | some error => simp [Unexpected, LoadFault.isExpected]
  | none =>
    cases nearest : projectDirectory? tree (start.resolve cwd) with
    | none => simp [Unexpected]
    | some directory =>
      cases read : readFile tree [] (absolutePath (directory ++ [projectFileName])) with
      | error fault => simp [read, Unexpected, expected_of_readFile read]
      | ok bytes =>
        cases holds : readToml bytes with
        | error fault => simp [read, holds, Unexpected, expected_of_readToml holds]
        | ok document => simp [read, holds, unexpected_map, unexpected_sectionOf]

end Files

/-- The document of the TOML file that settings are taken from: the file that is named, or else the
nearest project file from `start` upwards. -/
inductive LeadsTo (tree : FileTree) (cwd : Location) (start : Path)
    (document : List (String × Value)) : Option Path → Prop
  | named (path : Path) (bytes : List UInt8) : path.suffix ≠ ".json" →
      readFile tree cwd path = .ok bytes → readToml bytes = .ok document →
      LeadsTo tree cwd start document (some path)
  | nearest (directory : Location) (bytes : List UInt8) : searchFault? tree cwd start = none →
      projectDirectory? tree (start.resolve cwd) = some directory →
      readFile tree [] (absolutePath (directory ++ [projectFileName])) = .ok bytes →
      readToml bytes = .ok document → LeadsTo tree cwd start document none

/-- Data that can be read but are misshapen: a value `tool` that is no table, or no settings. -/
def Misshapen (tree : FileTree) (cwd : Location) (start : Path) (file : Option Path) : Prop :=
  (∃ document, LeadsTo tree cwd start document file ∧ ToolMisshapen document) ∨
    ∃ raw, loadRaw tree cwd ⟨some start, none, none, file⟩ = .ok raw ∧ Shapeless raw

section Loads

variable {tree : FileTree} {cwd : Location}

theorem unexpected_loadRaw {start : Path} {file : Option Path} :
    Unexpected (loadRaw tree cwd ⟨some start, none, none, file⟩) ↔
      ∃ document, LeadsTo tree cwd start document file ∧ ToolMisshapen document := by
  cases file with
  | some path =>
    refine unexpected_loadFile.trans ⟨?_, ?_⟩
    · rintro ⟨suffix, bytes, document, read, holds, misshapen⟩
      exact ⟨document, .named path bytes suffix read holds, misshapen⟩
    · rintro ⟨document, leads, misshapen⟩
      cases leads with
      | named _ bytes suffix read holds => exact ⟨suffix, bytes, document, read, holds, misshapen⟩
  | none =>
    refine (unexpected_map.trans unexpected_findSettings).trans ⟨?_, ?_⟩
    · rintro ⟨search, directory, bytes, document, found, read, holds, misshapen⟩
      exact ⟨document, .nearest directory bytes search found read holds, misshapen⟩
    · rintro ⟨document, leads, misshapen⟩
      cases leads with
      | nearest directory bytes search found read holds =>
        exact ⟨search, directory, bytes, document, found, read, holds, misshapen⟩

/-- **What no command expects of a load.** -/
theorem unexpected_load {request : LoadRequest} :
    Unexpected (load tree cwd request) ↔ Misshapen tree cwd
      (request.searchPath.getD (absolutePath cwd)) request.configurationFile := by
  have same : loadRaw tree cwd request = loadRaw tree cwd
      ⟨some (request.searchPath.getD (absolutePath cwd)), none, none,
        request.configurationFile⟩ := rfl
  rw [load, Misshapen, ← unexpected_loadRaw, ← same]
  cases loadRaw tree cwd request with
  | error fault => simp [Unexpected]
  | ok raw =>
    have read : ¬ Unexpected (.ok raw : Except LoadFault Value) := by simp [Unexpected]
    simp only [read, false_or, Except.ok.injEq, exists_eq_left', ← unexpected_settingsOf]
    cases settingsOf raw with
    | error fault => simp [Unexpected]
    | ok settings =>
      -- From here on the load can fail by the checks only.
      dsimp only
      split <;> simp [Unexpected, LoadFault.isExpected]

theorem exists_raw_of_load {request : LoadRequest} {configuration : Configuration}
    (h : load tree cwd request = .ok configuration) :
    ∃ raw, Configuration.ofValue raw = .ok configuration := by
  unfold load at h
  split at h
  · cases h
  · split at h
    · cases h
    · dsimp only at h
      split at h
      · cases h
        exact ⟨_, ‹_›⟩
      · cases h

end Loads

end VirtualImports
