import VirtualImports.Proofs.Routing.Grouping

/-!
The destinations of the bindings of a statement.

* `destination?_symbols`: a binding goes where the entry that decides on it points;
* `mem_keys_routed`: the records of a routed statement are for the destinations of its bindings;
* `destination_filled`: these have names that are not blank, but for the blank names that an entry
  gives as a source.

A name that stands for itself is checked for white space. The module of a source is only checked
for being empty.
-/
namespace VirtualImports

open Text

theorem isBlankName_eq_false_iff {name : String} :
    isBlankName name = false ↔ ∃ c ∈ name.toList, isBlank c = false := by
  simp [isBlankName]

/-- The module that an entry points to, unless it is invalid. -/
def SymbolEntry.destination? (entry : SymbolEntry) : Option String :=
  entry.toSource.toOption.map SymbolSource.destination

namespace Routing

/-- The module that a binding is taken to. A target that is one module takes all of them. -/
def destination? (routing : Routing) (request : Request) : Option String :=
  match routing with
  | module destination => some destination
  | symbols entries =>
    match SymbolMap.ofEntries entries with
    | .error _ => none
    | .ok map =>
      match map.resolve request with
      | .ok (.resolved route) => some route.destination
      | .ok (.unresolved _) | .error _ => none

/-- The entry of a symbol map that a binding goes by: the one for the name that it imports, or else
the catch-all. -/
def deciding? (routing : Routing) (request : Request) : Option SymbolEntry :=
  match routing with
  | module _ => none
  | symbols entries =>
    match request.kind with
    | .named | .typed => (entries.get? request.imported).or (entries.get? catchAllKey)
    | .default | .wholeModule => entries.get? catchAllKey

variable {routing : Routing} {request : Request}

theorem mem_of_deciding? {entries : Entries SymbolEntry} {entry : SymbolEntry}
    (h : (symbols entries).deciding? request = some entry) : ∃ key, (key, entry) ∈ entries := by
  have catchAll (found : entries.get? catchAllKey = some entry) : ∃ key, (key, entry) ∈ entries :=
    ⟨_, Entries.mem_of_get? found⟩
  have either (found : (entries.get? request.imported).or (entries.get? catchAllKey) = some entry) :
      ∃ key, (key, entry) ∈ entries := by
    rcases Option.or_eq_some_iff.1 found with found | ⟨_, found⟩
    · exact ⟨_, Entries.mem_of_get? found⟩
    · exact catchAll found
  unfold deciding? at h
  cases kind : request.kind <;> simp only [kind] at h
  · exact either h
  · exact either h
  · exact catchAll h
  · exact catchAll h

theorem destination?_of_resolve {map : SymbolMap} {entries : Entries SymbolEntry}
    (built : SymbolMap.ofEntries entries = .ok map) {resolution : Resolution}
    (resolved : map.resolve request = .ok resolution) :
    (symbols entries).destination? request = resolution.route?.map Route.destination := by
  simp only [destination?, built, resolved]
  cases resolution <;> rfl

theorem destination_routeTo (source : SymbolSource) (request : Request) :
    (SymbolMap.routeTo source request).destination = source.destination := by
  unfold SymbolMap.routeTo
  cases source.symbol <;> rfl

/-- What the catch-all takes goes to the module of its entry. -/
theorem destination_resolveByCatchAll {map : SymbolMap} {entries : Entries SymbolEntry}
    (valid : (symbols entries).Valid) (built : SymbolMap.ofEntries entries = .ok map) :
    (map.resolveByCatchAll request).route?.map Route.destination =
      (entries.get? catchAllKey).bind SymbolEntry.destination? := by
  have found : map.catchAll =
      (entries.get? catchAllKey).bind fun entry => entry.toSource.toOption :=
    SymbolMap.catchAll_of_valid valid built
  rw [SymbolMap.resolveByCatchAll, found]
  cases entries.get? catchAllKey with
  | none => rfl
  | some entry =>
    rw [Option.bind_some, Option.bind_some, SymbolEntry.destination?]
    cases entry.toSource.toOption <;> rfl

/-- **Where a binding goes.** In a valid symbol map a binding goes to the module of the entry that
decides on it, and nowhere if there is none. -/
theorem destination?_symbols {entries : Entries SymbolEntry} (valid : (symbols entries).Valid) :
    (symbols entries).destination? request =
      ((symbols entries).deciding? request).bind SymbolEntry.destination? := by
  obtain ⟨map, built, same⟩ := SymbolMap.exists_ofEntries valid.lookUp
  have lookUp (name : String) : SymbolMap.entry? map.entries name = entries.get? name := by
    rw [same, SymbolMap.entry?_of_valid valid]
  rcases map.resolve_cases request with ⟨entry, kind, present, eq⟩ | ⟨absent, eq⟩
  · rw [lookUp] at present
    obtain ⟨source, checked⟩ := valid.lookUp _ (Entries.mem_of_get? present)
    have decides : (symbols entries).deciding? request = some entry := by
      rcases kind with kind | kind <;> simp [deciding?, kind, present]
    rw [checked] at eq
    rw [destination?_of_resolve built eq, decides, Option.bind_some, SymbolEntry.destination?,
      checked]
    exact congrArg some (destination_routeTo source request)
  · have decides : (symbols entries).deciding? request = entries.get? catchAllKey := by
      cases kind : request.kind with
      | named | typed =>
        have missing := absent (by simp [kind])
        rw [lookUp] at missing
        simp [deciding?, kind, missing]
      | default | wholeModule => simp [deciding?, kind]
    rw [destination?_of_resolve built eq, decides]
    exact destination_resolveByCatchAll valid built

/-- The records of a routed statement are for the destinations of its bindings. -/
theorem mem_keys_routed (valid : routing.Valid) {statement : ImportStatement}
    (filled : statement.bindings.isEmpty = false) {destination : String} :
    destination ∈ (routing.routed statement).records.keys ↔
      ∃ request ∈ statement.requests, routing.destination? request = some destination := by
  cases routing with
  | module name =>
    have one : ((module name).routed statement).records.keys = [name] := rfl
    obtain ⟨request, mem⟩ := List.exists_mem_of_ne_nil _ (ImportStatement.requests_ne_nil filled)
    rw [one, List.mem_singleton]
    constructor
    · rintro rfl
      exact ⟨request, mem, rfl⟩
    · rintro ⟨_, _, same⟩
      exact (Option.some.inj same).symm
  | symbols entries =>
    obtain ⟨map, resolution, built, resolves, result⟩ := exists_resolution valid.lookUp statement
    rw [routed_of_apply result]
    have step (request : Request) : (symbols entries).destination? request =
        (resolution request).route?.map Route.destination :=
      destination?_of_resolve built (resolves request)
    simp only [Routed.ofResolutions, Routed.mem_keys_group, Routed.routes_map, List.mem_filterMap,
      step, Option.map_eq_some_iff]
    constructor
    · rintro ⟨route, ⟨request, mem, made⟩, same⟩
      exact ⟨request, mem, route, made, same⟩
    · rintro ⟨request, mem, route, made, same⟩
      exact ⟨route, ⟨request, mem, made⟩, same⟩

/-- A valid entry leads to a blank module only as a source that is given so. -/
theorem isBlankName_of_valid {entry : SymbolEntry} (valid : entry.Valid) {source : SymbolSource}
    (checked : entry.toSource = .ok source) :
    isBlankName source.destination = true ↔
      ∃ given, entry = .checked given ∧ isBlankName given.destination = true := by
  cases entry with
  | shorthand destination =>
    rw [SymbolEntry.toSource_shorthand (ne_empty_of_isBlankName valid)] at checked
    cases checked
    have filled : isBlankName destination = false := valid
    simp [filled]
  | checked given =>
    cases checked
    simp
  | raw value => cases valid

/-- A binding is taken to a module with a name, and to a blank one only by a source. -/
theorem filled_of_destination? (valid : routing.Valid) {destination : String}
    (h : routing.destination? request = some destination) :
    destination ≠ "" ∧ (isBlankName destination = true ↔
      ∃ source, routing.deciding? request = some (.checked source) ∧
        isBlankName source.destination = true) := by
  cases routing with
  | module name =>
    obtain rfl : name = destination := Option.some.inj h
    have filled : isBlankName name = false := valid
    exact ⟨ne_empty_of_isBlankName filled, by simp [filled, deciding?]⟩
  | symbols entries =>
    rw [destination?_symbols valid] at h
    obtain ⟨entry, decides, pointed⟩ := Option.bind_eq_some_iff.1 h
    obtain ⟨key, mem⟩ := mem_of_deciding? decides
    have fits : entry.Valid := valid _ mem
    obtain ⟨source, checked, named⟩ := fits.exists_source
    rw [SymbolEntry.destination?, checked] at pointed
    cases pointed
    refine ⟨named, ?_⟩
    rw [isBlankName_of_valid fits checked, decides]
    simp

/-- **No blank modules but of sources.** Take an accepted configuration, one of its modules with a
target, and a statement that can be read. The statement is routed to the destinations of its
bindings. None of these is empty, and each of them has a character that is not blank, unless the
entry that decides on the binding is a source with a blank module. -/
theorem destination_filled {raw : Value} {configuration : Configuration}
    (accepted : Configuration.ofValue raw = .ok configuration) {module : String × VirtualModule}
    (listed : module ∈ configuration.modules) {target : String}
    (chosen : module.2.targets.get? target = some routing) {text : List Char}
    {statement : ImportStatement} (readable : ImportStatement.read text = .ok statement) :
    ∃ routed, (routing.apply statement).result = .ok routed ∧
      (∀ destination, destination ∈ routed.records.keys ↔
        ∃ request ∈ statement.requests, routing.destination? request = some destination) ∧
      ∀ request ∈ statement.requests, ∀ destination,
        routing.destination? request = some destination → destination ≠ "" ∧
          ((∃ c ∈ destination.toList, isBlank c = false) ↔
            ∀ source, routing.deciding? request = some (.checked source) →
              ∃ c ∈ source.destination.toList, isBlank c = false) := by
  have valid : routing.Valid := (Configuration.sound_of_ofValue accepted).valid module listed
    (target, routing) (Entries.mem_of_get? chosen)
  have filled : statement.bindings.isEmpty = false := by
    obtain ⟨_, _, clause, _⟩ := ImportStatement.exists_header_of_read readable
    exact (ImportStatement.scan_of_readClause clause).2.2
  refine ⟨_, apply_eq_ok valid statement, fun destination => mem_keys_routed valid filled, ?_⟩
  intro request mem destination taken
  obtain ⟨named, blank⟩ := filled_of_destination? valid taken
  refine ⟨named, ?_⟩
  simp only [← isBlankName_eq_false_iff]
  rw [← Bool.not_eq_true, blank, not_exists]
  simp only [not_and, Bool.not_eq_true]

/-- A target that routes one symbol by a module name, one by a source and the others by a
catch-all. -/
def threeWayEntries : Entries SymbolEntry :=
  [("A", .shorthand "ui"), ("B", .checked ⟨"types", some "Bee"⟩), ("*", .shorthand "rest")]

def threeWayTargets : Entries Routing :=
  [("react", .symbols threeWayEntries)]

def threeWayTable : Value :=
  .table [("modules", .table [("ui", .table [("targets", .table [("react", .table
    [("A", .text "ui"), ("B", .table [("from", .text "types"), ("symbol", .text "Bee")]),
      ("*", .text "rest")])])])])]

def threeWayConfiguration : Configuration where
  modules := [("virtual:ui", ⟨none, threeWayTargets⟩)]
  declarationFile := some Configuration.defaultDeclarationFile
  target := none

def threeWayStatement : ImportStatement where
  original := "import All, { A, type B } from 'virtual:ui'".toList
  specifier := "virtual:ui"
  typeOnly := false
  bindings := ⟨[("A", "A")], [("B", "B")], some "All", none⟩

theorem destination_filled_sample :
    Configuration.ofValue threeWayTable = .ok threeWayConfiguration ∧
      ("virtual:ui", ⟨none, threeWayTargets⟩) ∈ threeWayConfiguration.modules ∧
      threeWayTargets.get? "react" = some (.symbols threeWayEntries) ∧
      ImportStatement.read threeWayStatement.original = .ok threeWayStatement ∧
      ∃ routed, ((symbols threeWayEntries).apply threeWayStatement).result = .ok routed ∧
        routed.records.keys = ["ui", "types", "rest"] ∧
        ∀ destination ∈ routed.records.keys, ∃ c ∈ destination.toList, isBlank c = false := by
  have accepted : Configuration.ofValue threeWayTable = .ok threeWayConfiguration := rfl
  have listed : ("virtual:ui", ⟨none, threeWayTargets⟩) ∈ threeWayConfiguration.modules :=
    List.mem_singleton_self _
  have readable : ImportStatement.read threeWayStatement.original = .ok threeWayStatement := by
    decide +kernel
  have chosen : threeWayTargets.get? "react" = some (.symbols threeWayEntries) := rfl
  obtain ⟨routed, result, keys, filled⟩ := destination_filled accepted listed chosen readable
  refine ⟨accepted, listed, chosen, readable, routed, result, ?_, fun destination mem => ?_⟩
  · have shown : ((symbols threeWayEntries).apply threeWayStatement).result.toOption.map
        (fun routed => routed.records.keys) = some ["ui", "types", "rest"] := by decide +kernel
    rw [result] at shown
    exact Option.some.inj shown
  · obtain ⟨request, asked, taken⟩ := (keys destination).1 mem
    refine (filled request asked destination taken).2.2 fun source decides => ?_
    obtain ⟨key, given⟩ := mem_of_deciding? decides
    simp only [threeWayEntries, List.mem_cons, Prod.mk.injEq, SymbolEntry.checked.injEq,
      reduceCtorEq, and_false, List.not_mem_nil, or_false, false_or] at given
    obtain ⟨_, rfl⟩ := given
    exact isBlankName_eq_false_iff.1 (by decide +kernel)

/-- A source may have a module of nothing but white space. The configuration is accepted, and the
symbol is routed there. -/
theorem blank_routed :
    Configuration.ofValue (.table [("modules", .table [("ui", .table [("targets", .table
        [("react", .table [("A", .table [("from", .text " ")])])])])])]) =
      .ok ⟨[("virtual:ui", ⟨none, [("react", .symbols [("A", .checked ⟨" ", none⟩)])]⟩)],
        some Configuration.defaultDeclarationFile, none⟩ ∧
      ∃ statement routed,
        ImportStatement.read "import { A } from 'virtual:ui'".toList = .ok statement ∧
        ((symbols [("A", .checked ⟨" ", none⟩)]).apply statement).result = .ok routed ∧
        routed.records.keys = [" "] ∧ ¬ ∃ c ∈ " ".toList, isBlank c = false :=
  ⟨rfl, ⟨"import { A } from 'virtual:ui'".toList, "virtual:ui", false,
      ⟨[("A", "A")], [], none, none⟩⟩,
    ⟨[(" ", ⟨[⟨"A", "A", false⟩], none, none, false⟩)], []⟩,
    by decide +kernel, by decide +kernel, rfl,
    fun filled => absurd (isBlankName_eq_false_iff.2 filled) (by decide)⟩

end Routing

end VirtualImports
