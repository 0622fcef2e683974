import VirtualImports.Configuration.Loading
import VirtualImports.Proofs.Files.Places

/-!
The nearest project file.

* `exists_nearest`: from any place there is a nearest project file on the way up to the root, or none;
* `searchSettings_of_nearest`: the settings are those of that file, whatever else there is;
* `searchFault?_eq_none`: from a directory nothing keeps one from looking;
* `findSettings_nearest`: so only the nearest project file counts.
-/
namespace VirtualImports

/-! ## The nearest file -/

/-- The project file of a directory. -/
def projectPath (directory : Location) : Path :=
  absolutePath (directory ++ [projectFileName])

/-- The nearest project file on the way up from a place, with its directory, if there is any. What is no
file, like a directory of that name, is none. -/
inductive Nearest (tree : FileTree) (start : Location) : Option (Location × List UInt8) → Prop
  | found {directory : Location} {bytes : List UInt8} (above : directory <+: start)
      (file : tree.read [] (projectPath directory) = .ok bytes)
      (nearer : ∀ other, other <+: start → directory.length < other.length →
        ∀ bytes, tree.read [] (projectPath other) ≠ .ok bytes) :
      Nearest tree start (some (directory, bytes))
  | missing (nothing : ∀ directory, directory <+: start →
      ∀ bytes, tree.read [] (projectPath directory) ≠ .ok bytes) : Nearest tree start none

section Search

variable {tree : FileTree} {start : Location} {name : String}
  {found : Option (Location × List UInt8)}

theorem upward_concat (start : Location) (name : String) :
    upward (start ++ [name]) = (start ++ [name]) :: upward start := by
  rw [upward, upward, List.length_append, List.length_singleton, List.range_succ_eq_map,
    List.map_cons, List.map_map, Nat.sub_zero, List.take_of_length_le (by simp)]
  refine congrArg _ (List.map_congr_left fun n mem => ?_)
  have : start.length + 1 - n.succ = start.length - n := by omega
  rw [Function.comp_apply, this, List.take_append_of_le_length (Nat.sub_le _ _)]

/-- Where the own directory has a project file, this is the nearest. -/
theorem nearest_own {bytes : List UInt8} (file : tree.read [] (projectPath start) = .ok bytes) :
    Nearest tree start found ↔ found = some (start, bytes) := by
  constructor
  · intro nearest
    cases nearest with
    | @found directory other above read nearer =>
      by_cases shorter : directory.length < start.length
      · exact absurd file (nearer start (List.prefix_refl _) shorter bytes)
      · obtain rfl := above.eq_of_length_le (Nat.not_lt.1 shorter)
        rw [file] at read
        cases read
        rfl
    | missing nothing => exact absurd file (nothing start (List.prefix_refl _) bytes)
  · rintro rfl
    exact .found (List.prefix_refl _) file fun other below longer =>
      absurd below.length_le (Nat.not_le.2 longer)

/-- Where it has none, the nearest is that of the directory above. -/
theorem nearest_concat
    (nothing : ∀ bytes, tree.read [] (projectPath (start ++ [name])) ≠ .ok bytes) :
    Nearest tree (start ++ [name]) found ↔ Nearest tree start found := by
  have up {directory : Location} (above : directory <+: start) : directory <+: start ++ [name] :=
    above.trans (List.prefix_append _ _)
  constructor
  · rintro (⟨above, file, nearer⟩ | none)
    · rcases List.prefix_concat_iff.1 above with rfl | above
      · exact absurd file (nothing _)
      · exact .found above file fun other below => nearer other (up below)
    · exact .missing fun directory above => none directory (up above)
  · rintro (⟨above, file, nearer⟩ | none)
    · refine .found (up above) file fun other below longer => ?_
      rcases List.prefix_concat_iff.1 below with rfl | below
      · exact nothing
      · exact nearer other below longer
    · refine .missing fun directory above => ?_
      rcases List.prefix_concat_iff.1 above with rfl | above
      · exact nothing
      · exact none directory above

theorem nearest_root (nothing : ∀ bytes, tree.read [] (projectPath []) ≠ .ok bytes) :
    Nearest tree [] found ↔ found = none := by
  constructor
  · rintro (⟨above, file, _⟩ | _)
    · rw [List.prefix_nil] at above
      subst above
      exact absurd file (nothing _)
    · rfl
  · rintro rfl
    refine .missing fun directory above => ?_
    rw [List.prefix_nil] at above
    subst above
    exact nothing

/-- The own directory has a project file, or nothing can be read as one. -/
theorem own_cases (tree : FileTree) (start : Location) :
    (∃ bytes, tree.read [] (projectPath start) = .ok bytes ∧
      tree.isFile [] (projectPath start) = true) ∨
    ((∀ bytes, tree.read [] (projectPath start) ≠ .ok bytes) ∧
      tree.isFile [] (projectPath start) = false) := by
  cases own : tree.isFile [] (projectPath start) with
  | true =>
    obtain ⟨bytes, file⟩ := FileTree.isFile_iff.1 own
    exact .inl ⟨bytes, file, rfl⟩
  | false =>
    refine .inr ⟨fun bytes file => ?_, rfl⟩
    rw [FileTree.isFile_iff.2 ⟨bytes, file⟩] at own
    cases own

/-- **There is a nearest file, or none, and the search comes upon it.** -/
theorem exists_nearest (tree : FileTree) (start : Location) :
    ∃ found, Nearest tree start found ∧ projectDirectory? tree start = found.map Prod.fst ∧
      ∀ other, Nearest tree start other → other = found := by
  induction start using List.reverseRecOn with
  | nil =>
    rcases own_cases tree [] with ⟨bytes, file, own⟩ | ⟨nothing, own⟩
    · refine ⟨some ([], bytes), (nearest_own file).2 rfl, ?_, fun _ => (nearest_own file).1⟩
      exact List.find?_cons_of_pos own
    · refine ⟨none, (nearest_root nothing).2 rfl, ?_, fun _ => (nearest_root nothing).1⟩
      exact List.find?_cons_of_neg (Bool.eq_false_iff.1 own)
  | append_singleton start name ih =>
    unfold projectDirectory?
    rw [upward_concat]
    rcases own_cases tree (start ++ [name]) with ⟨bytes, file, own⟩ | ⟨nothing, own⟩
    · refine ⟨some (start ++ [name], bytes), (nearest_own file).2 rfl, ?_,
        fun _ => (nearest_own file).1⟩
      exact List.find?_cons_of_pos own
    · obtain ⟨found, nearest, searched, unique⟩ := ih
      refine ⟨found, (nearest_concat nothing).2 nearest, ?_, fun other h =>
        unique other ((nearest_concat nothing).1 h)⟩
      refine Eq.trans (List.find?_cons_of_neg ?_) searched
      exact Bool.eq_false_iff.1 own

end Search

/-! ## Its settings -/

/-- The value of the section for this program in a document, or no settings where it has none. -/
inductive Provides (document : Entries Value) : Value → Prop
  | noTools (absent : Entries.get? "tool" document = none) : Provides document (.table [])
  | noSection {tools : Entries Value} (table : Entries.get? "tool" document = some (.table tools))
      (absent : Entries.get? sectionName tools = none) : Provides document (.table [])
  | given {tools : Entries Value} {raw : Value}
      (table : Entries.get? "tool" document = some (.table tools))
      (present : Entries.get? sectionName tools = some raw) : Provides document raw

theorem Provides.sectionOf {document : Entries Value} {raw : Value} (h : Provides document raw) :
    sectionOf (.table []) document = .ok raw := by
  unfold VirtualImports.sectionOf
  cases h with
  | noTools absent => simp only [absent]
  | noSection table absent => simp only [table, absent, Option.getD_none]
  | given table present => simp only [table, present, Option.getD_some]

/-- The settings of a project file, and its directory. -/
def settingsIn : Option (Location × List UInt8) → Except LoadFault (Value × Option Location)
  | none => .ok (.table [], none)
  | some (directory, bytes) =>
    match readToml bytes with
    | .error fault => .error fault
    | .ok document => (sectionOf (.table []) document).map fun raw => (raw, some directory)

section Searches

variable {tree : FileTree} {cwd : Location} {start : Path}

/-- **The settings are those of the nearest file.** -/
theorem searchSettings_of_nearest {place : Location} {found : Option (Location × List UInt8)}
    (nearest : Nearest tree place found) : searchSettings tree place = settingsIn found := by
  obtain ⟨_, _, searched, unique⟩ := exists_nearest tree place
  obtain rfl := unique found nearest
  rw [searchSettings, searched]
  cases nearest with
  | missing => rfl
  | @found directory bytes above file nearer =>
    have read : readFile tree [] (absolutePath (directory ++ [projectFileName])) = .ok bytes := by
      unfold readFile
      rw [projectPath] at file
      rw [file]
    simp only [Option.map_some, read]
    rfl

/-- From a directory nothing keeps one from looking for a project file, in any tree. -/
theorem searchFault?_eq_none (running : tree.isDirectory [] (absolutePath cwd) = true)
    (there : tree.isDirectory cwd start = true) (other : FileTree) :
    searchFault? other cwd start = none := by
  obtain ⟨_, _, wayHere, _⟩ := FileTree.exists_place_of_isDirectory running
  obtain ⟨named, _, way, _⟩ := FileTree.exists_place_of_isDirectory there
  have short : ∀ part ∈ start.place cwd, part.utf8ByteSize ≤ FileTree.maxNameBytes := by
    intro part mem
    rcases FileTree.mem_follow mem with mem | mem
    · unfold Path.start at mem
      split at mem
      · cases mem
      · exact wayHere.short part mem
    · exact way.short part mem
  have fits : other.nameTooLong [] (absolutePath (start.resolve cwd ++ [projectFileName])) = false := by
    refine FileTree.nameTooLong_of_short other [] fun part mem => ?_
    rcases List.mem_append.1 mem with mem | mem
    · exact short part mem
    · rw [List.mem_singleton.1 mem]
      decide
  simp only [searchFault?, named, fits, Bool.false_eq_true, if_false]

theorem findSettings_of_nearest (running : tree.isDirectory [] (absolutePath cwd) = true)
    (there : tree.isDirectory cwd start = true) {other : FileTree}
    {found : Option (Location × List UInt8)} (nearest : Nearest other (start.place cwd) found) :
    findSettings other cwd start = settingsIn found := by
  rw [findSettings, searchFault?_eq_none running there]
  exact searchSettings_of_nearest nearest

/-- A load without a named file depends on the settings that are found. -/
theorem load_congr {other : FileTree} {request : LoadRequest}
    (unnamed : request.configurationFile = none)
    (same : findSettings tree cwd (request.searchPath.getD (absolutePath cwd)) =
      findSettings other cwd (request.searchPath.getD (absolutePath cwd))) :
    load tree cwd request = load other cwd request := by
  simp only [load, loadRaw, unnamed, same]

/-- **Only the nearest project file counts.** Let the search start in a directory. The file is read that
is the nearest on the way up to the root, past directories of its name, and what it says is found, with
its directory. Where there is none, no settings are found. So in all trees with the same nearest file a
load comes to the same, whatever else is in them. -/
theorem findSettings_nearest (running : tree.isDirectory [] (absolutePath cwd) = true)
    (there : tree.isDirectory cwd start = true) :
    (∃ found, Nearest tree (start.place cwd) found) ∧
    ∀ found, Nearest tree (start.place cwd) found →
      (found = none → findSettings tree cwd start = .ok (.table [], none)) ∧
      (∀ directory bytes, found = some (directory, bytes) →
        (∀ fault, readToml bytes = .error fault → findSettings tree cwd start = .error fault) ∧
        ∀ document raw, readToml bytes = .ok document → Provides document raw →
          findSettings tree cwd start = .ok (raw, some directory)) ∧
      ∀ other, Nearest other (start.place cwd) found → ∀ request : LoadRequest,
        request.configurationFile = none →
        request.searchPath.getD (absolutePath cwd) = start →
          load tree cwd request = load other cwd request := by
  obtain ⟨first, nearest, _⟩ := exists_nearest tree (start.place cwd)
  refine ⟨⟨first, nearest⟩, fun found nearest => ⟨?_, ?_, fun other same request unnamed begins => ?_⟩⟩
  · rintro rfl
    exact findSettings_of_nearest running there nearest
  · rintro directory bytes rfl
    have settings := findSettings_of_nearest running there nearest
    refine ⟨fun fault malformed => ?_, fun document raw reads provides => ?_⟩
    · rw [settings, settingsIn, malformed]
    · rw [settings, settingsIn, reads]
      simp only [provides.sectionOf, Except.map]
  · refine load_congr unnamed ?_
    rw [begins, findSettings_of_nearest running there nearest,
      findSettings_of_nearest running there same]

end Searches

/-- Three project files in a row: a directory of that name, an empty file, and at the root one that is
no TOML. -/
def rowOfProjects : FileTree :=
  ⟨[(["a"], .directory), (["a", "b"], .directory), (["a", "b", "pyproject.toml"], .directory),
    (["a", "pyproject.toml"], .file []), (["pyproject.toml"], .file (Text.Utf8.encode ['[']))]⟩

/-- Only the empty one of them. -/
def emptyProject : FileTree :=
  ⟨[(["a"], .directory), (["a", "pyproject.toml"], .file [])]⟩

theorem nearest_above {tree : FileTree} (nothing : tree.isFile [] (projectPath ["a", "b"]) = false)
    (file : tree.read [] (projectPath ["a"]) = .ok []) :
    Nearest tree ["a", "b"] (some (["a"], [])) := by
  have own : ∀ bytes, tree.read [] (projectPath (["a"] ++ ["b"])) ≠ .ok bytes := by
    intro bytes read
    exact absurd (FileTree.isFile_iff.2 ⟨bytes, read⟩) (Bool.eq_false_iff.1 nothing)
  exact (nearest_concat own).2 ((nearest_own file).2 rfl)

theorem findSettings_nearest_sample :
    rowOfProjects.isDirectory [] (absolutePath ["a", "b"]) = true ∧
      rowOfProjects.isDirectory ["a", "b"] ⟨"", []⟩ = true ∧
      findSettings rowOfProjects ["a", "b"] ⟨"", []⟩ = .ok (.table [], some ["a"]) ∧
      load rowOfProjects ["a", "b"] ⟨some ⟨"", []⟩, none, none, none⟩ =
        load emptyProject ["a", "b"] ⟨some ⟨"", []⟩, none, none, none⟩ := by
  have running : rowOfProjects.isDirectory [] (absolutePath ["a", "b"]) = true := by decide
  have there : rowOfProjects.isDirectory ["a", "b"] ⟨"", []⟩ = true := by decide
  have nearest : Nearest rowOfProjects ["a", "b"] (some (["a"], [])) :=
    nearest_above (by decide +kernel) (by decide +kernel)
  have other : Nearest emptyProject ["a", "b"] (some (["a"], [])) :=
    nearest_above (by decide +kernel) (by decide +kernel)
  have empty : readToml [] = .ok [] := rfl
  obtain ⟨_, counts⟩ := findSettings_nearest running there
  obtain ⟨_, found, same⟩ := counts _ nearest
  exact ⟨running, there, (found _ _ rfl).2 [] (.table []) empty (.noTools rfl),
    same emptyProject other _ rfl rfl⟩

end VirtualImports
