import VirtualImports.Proofs.Files.Places

/-!
What the writing of a file does to a tree.

* `Grows`: a tree comes out of another one by directories that are made and files that are written;
* `ensures_ensureDirectories`: making directories fails if and only if a file stands in the way or a
  name is too long, and only fills places of the way where nothing was;
* `writes_writeBelow`: writing a file fails if and only if the directories above it cannot be made, or
  a name is too long, or a directory is in its place;
* `grows_writeBelow`: in any case directories are only made on the way, and only the file is written.
-/
namespace VirtualImports.FileTree

variable {tree after : FileTree} {cwd place : Location} {path : Path} {bytes : List UInt8}

/-! ## Growing trees -/

/-- Directories have been made where nothing was, and files have been written where no directory
was. -/
def Grows (made written : Location → Prop) (before after : FileTree) : Prop :=
  ∀ place, after.get? place = before.get? place ∨
    (made place ∧ before.get? place = none ∧ after.get? place = some .directory) ∨
    (written place ∧ before.get? place ≠ some .directory ∧
      ∃ bytes, after.get? place = some (.file bytes))

namespace Grows

variable {made written made' written' : Location → Prop} {before : FileTree}

theorem refl (tree : FileTree) : Grows made written tree tree :=
  fun _ => .inl rfl

theorem mono (h : Grows made written before after) (more : ∀ place, made place → made' place)
    (moreWritten : ∀ place, written place → written' place) : Grows made' written' before after := by
  intro place
  rcases h place with same | ⟨isMade, rest⟩ | ⟨isWritten, rest⟩
  · exact .inl same
  · exact .inr (.inl ⟨more place isMade, rest⟩)
  · exact .inr (.inr ⟨moreWritten place isWritten, rest⟩)

theorem trans (first : Grows made written before tree) (second : Grows made written tree after) :
    Grows made written before after := by
  intro place
  rcases second place with same | ⟨isMade, empty, directory⟩ | ⟨isWritten, noDirectory, file⟩
  · rw [same]
    exact first place
  · rcases first place with same | ⟨_, _, other⟩ | ⟨_, _, _, other⟩
    · exact .inr (.inl ⟨isMade, same ▸ empty, directory⟩)
    · rw [other] at empty
      cases empty
    · rw [other] at empty
      cases empty
  · rcases first place with same | ⟨_, _, other⟩ | ⟨_, earlier, _⟩
    · exact .inr (.inr ⟨isWritten, same ▸ noDirectory, file⟩)
    · exact absurd other noDirectory
    · exact .inr (.inr ⟨isWritten, earlier, file⟩)

theorem directory (h : Grows made written before after)
    (there : before.get? place = some .directory) : after.get? place = some .directory := by
  rcases h place with same | ⟨_, empty, _⟩ | ⟨_, noDirectory, _⟩
  · rw [same, there]
  · rw [there] at empty
    cases empty
  · exact absurd there noDirectory

theorem file (h : Grows made written before after)
    (there : before.get? place = some (.file bytes)) :
    ∃ now, after.get? place = some (.file now) := by
  rcases h place with same | ⟨_, empty, _⟩ | ⟨_, _, file⟩
  · exact ⟨bytes, same.trans there⟩
  · rw [there] at empty
    cases empty
  · exact file

/-- Files come and change only where they are written. -/
theorem file_iff (h : Grows made written before after) (unwritten : ¬ written place) :
    after.get? place = some (.file bytes) ↔ before.get? place = some (.file bytes) := by
  rcases h place with same | ⟨_, empty, directory⟩ | ⟨isWritten, _⟩
  · rw [same]
  · simp [empty, directory]
  · exact absurd isWritten unwritten

/-- Directories come only where they are made. -/
theorem directory_iff (h : Grows made written before after) (unmade : ¬ made place) :
    after.get? place = some .directory ↔ before.get? place = some .directory := by
  refine ⟨fun there => ?_, h.directory⟩
  rcases h place with same | ⟨isMade, _⟩ | ⟨_, _, _, file⟩
  · rw [← same, there]
  · exact absurd isMade unmade
  · rw [file] at there
    cases there

theorem passes (h : Grows made written before after) {here : Location} {parts : List String}
    (way : before.Passes here parts) : after.Passes here parts :=
  ⟨fun place mem => h.directory (way.directories place mem), way.short⟩

/-- A way stays open, or is not, where no files are written on it. -/
theorem isOpen_iff (h : Grows made written before after) {here : Location} {parts : List String}
    (unwritten : ∀ place ∈ FileTree.passed here parts, ¬ written place) :
    after.IsOpen here parts ↔ before.IsOpen here parts := by
  constructor
  · rintro ⟨clear, short⟩
    exact ⟨fun place mem bytes file =>
      clear place mem bytes ((h.file_iff (unwritten place mem)).2 file), short⟩
  · rintro ⟨clear, short⟩
    exact ⟨fun place mem bytes file =>
      clear place mem bytes ((h.file_iff (unwritten place mem)).1 file), short⟩

end Grows

theorem grows_set_directory (empty : tree.get? place = none) {made written : Location → Prop}
    (isMade : made place) : Grows made written tree (tree.set place .directory) := by
  intro other
  have noDirectory : tree.get? place ≠ some .directory := by simp [empty]
  have below := ne_nil_of_get? noDirectory
  rw [get?_set below]
  split
  · rename_i same
    subst same
    exact .inr (.inl ⟨isMade, empty, rfl⟩)
  · exact .inl rfl

theorem grows_set_file (noDirectory : tree.get? place ≠ some .directory)
    {made written : Location → Prop} (isWritten : written place) (bytes : List UInt8) :
    Grows made written tree (tree.set place (.file bytes)) := by
  intro other
  rw [get?_set (ne_nil_of_get? noDirectory)]
  split
  · rename_i same
    subst same
    exact .inr (.inr ⟨isWritten, noDirectory, bytes, rfl⟩)
  · exact .inl rfl

/-! ## Making directories -/

theorem ensureDirectory_of_error {fault : FileFault} (h : tree.locate cwd path = .error fault) :
    tree.ensureDirectory cwd path = (tree, some ⟨fault, path⟩) := by
  simp [ensureDirectory, makeDirectory, isDirectory, node?, h]

theorem ensureDirectory_of_ok (h : tree.locate cwd path = .ok place) :
    tree.ensureDirectory cwd path =
      match tree.get? place with
      | none => (tree.set place .directory, none)
      | some .directory => (tree, none)
      | some (.file _) => (tree, some ⟨.alreadyExists, path⟩) := by
  unfold ensureDirectory makeDirectory isDirectory node?
  rw [h]
  cases found : tree.get? place with
  | none => simp [found]
  | some node => cases node <;> simp [found]

/-- Nothing is written. -/
def nowhere (_ : Location) : Prop := False

/-- What comes of making the directories of a way. -/
structure Ensures (tree : FileTree) (here : Location) (parts : List String)
    (result : FileTree × Option FileError) : Prop where
  done_iff : result.2 = none ↔ tree.IsOpen here parts
  filled : result.2 = none → ∀ place ∈ passed here parts, result.1.get? place = some .directory
  grows : Grows (· ∈ passed here parts) nowhere tree result.1

/-- Making directories has to fail where the way is blocked. -/
theorem Ensures.of_blocked {here : Location} {parts : List String} {error : FileError}
    (blocked : ¬ tree.IsOpen here parts)
    (grows : Grows (· ∈ passed here parts) nowhere tree after) :
    tree.Ensures here parts (after, some error) :=
  ⟨iff_of_false (Option.some_ne_none _) blocked,
    fun done => absurd done (Option.some_ne_none _), grows⟩

/-- The way to the directory above is part of the way. -/
theorem passed_parent_subset {last : String} (here : Location)
    (split : path.parts = path.parent.parts ++ [last]) :
    ∀ place ∈ passed here path.parent.parts, place ∈ passed here path.parts := by
  intro place mem
  rw [split, passed_concat]
  exact List.mem_append_left _ mem

/-- Making one directory, where the way to it can be gone. -/
theorem ensures_of_passes (named : path.holdsNull = false)
    (way : tree.Passes (path.start cwd) path.parts) :
    tree.Ensures (path.start cwd) path.parts (tree.ensureDirectory cwd path) := by
  have located : tree.locate cwd path = .ok (path.place cwd) := (locate_eq_ok named).2 ⟨way, rfl⟩
  have places : passed (path.start cwd) path.parts =
      (passed (path.start cwd) path.parts).dropLast ++ [path.place cwd] := passed_eq_concat _ _
  have above {bytes : List UInt8} {place : Location}
      (mem : place ∈ (passed (path.start cwd) path.parts).dropLast) :
      tree.get? place ≠ some (.file bytes) := by
    rw [way.directories place mem]
    nofun
  rw [ensureDirectory_of_ok located]
  cases found : tree.get? (path.place cwd) with
  | none =>
    have isOpen : tree.IsOpen (path.start cwd) path.parts := by
      refine ⟨fun place mem bytes file => ?_, way.short⟩
      rw [places, List.mem_append, List.mem_singleton] at mem
      rcases mem with mem | rfl
      · exact above mem file
      · rw [found] at file
        cases file
    refine ⟨iff_of_true rfl isOpen, fun _ place mem => ?_,
      grows_set_directory found (follow_mem_passed _ _)⟩
    rw [places, List.mem_append, List.mem_singleton] at mem
    have noDirectory : tree.get? (path.place cwd) ≠ some .directory := by simp [found]
    have below := ne_nil_of_get? noDirectory
    dsimp only
    rw [get?_set below]
    split
    · rfl
    · exact mem.elim (way.directories place) fun same => absurd same ‹_›
  | some node =>
    cases node with
    | file bytes =>
      refine .of_blocked (fun isOpen => ?_) (.refl tree)
      exact isOpen.clear _ (follow_mem_passed _ _) bytes found
    | directory =>
      have directories : ∀ place ∈ passed (path.start cwd) path.parts,
          tree.get? place = some .directory := by
        intro place mem
        rw [places, List.mem_append, List.mem_singleton] at mem
        exact mem.elim (way.directories place) fun same => same ▸ found
      refine ⟨iff_of_true rfl ⟨fun place mem bytes file => ?_, way.short⟩,
        fun _ => directories, .refl tree⟩
      rw [directories place mem] at file
      cases file

/-- Directories that could be made above leave only the last one to be made. -/
theorem Ensures.concat {parent : FileTree} (named : path.holdsNull = false) {last : String}
    (split : path.parts = path.parent.parts ++ [last])
    (above : tree.Ensures (path.start cwd) path.parent.parts (parent, none)) :
    tree.Ensures (path.start cwd) path.parts (parent.ensureDirectory cwd path) := by
  have unwritten : ∀ place ∈ passed (path.start cwd) path.parts, ¬ nowhere place := fun _ _ => id
  have grown : Grows (· ∈ passed (path.start cwd) path.parts) nowhere tree parent :=
    above.grows.mono (passed_parent_subset _ split) fun _ => id
  cases walked : parent.walk (path.start cwd) path.parts with
  | ok place =>
    have step := ensures_of_passes named (walk_eq_ok.1 walked).1
    exact ⟨step.done_iff.trans (grown.isOpen_iff unwritten), step.filled, grown.trans step.grows⟩
  | error fault =>
    rw [ensureDirectory_of_error ((locate_eq_walk named).trans walked)]
    refine .of_blocked (fun isOpen => ?_) grown
    have way : parent.Passes (path.start cwd) path.parts := by
      refine ⟨fun place mem => above.filled rfl place ?_, isOpen.short⟩
      rwa [split, passed_concat, List.dropLast_concat] at mem
    rw [walk_eq_ok.2 ⟨way, rfl⟩] at walked
    cases walked

theorem holdsNull_parent (named : path.holdsNull = false) : path.parent.holdsNull = false := by
  rw [← Bool.not_eq_true] at named ⊢
  exact fun null => named (Path.holdsNull_of_parent null)

/-- Directories are made from the top: first the missing ones above, then the last one. -/
theorem ensures_ensureFrom (tree : FileTree) (cwd : Location) {path : Path}
    (named : path.holdsNull = false) {count : Nat} (length : path.parts.length = count) :
    tree.Ensures (path.start cwd) path.parts (ensureFrom cwd count tree path) := by
  induction count generalizing path with
  | zero =>
    rw [ensureFrom]
    have none : path.parts = [] := List.length_eq_zero_iff.1 length
    exact ensures_of_passes named ⟨by simp [none, passed], by simp [none]⟩
  | succ count ih =>
    have ne : path.parts ≠ [] := by
      intro none
      simp [none] at length
    have split : path.parts = path.parent.parts ++ [path.parts.getLast ne] :=
      (List.dropLast_concat_getLast ne).symm
    have above : tree.Ensures (path.start cwd) path.parent.parts
        (ensureFrom cwd count tree path.parent) :=
      ih (holdsNull_parent named) (by simp [Path.parent, length])
    rw [ensureFrom]
    cases walked : tree.walk (path.start cwd) path.parts with
    | ok place =>
      have done := ensures_of_passes named (walk_eq_ok.1 walked).1
      have located : tree.locate cwd path = .ok place := (locate_eq_walk named).trans walked
      rw [ensureDirectory_of_ok located] at done ⊢
      cases found : tree.get? place with
      | none => simpa only [found] using done
      | some node => cases node <;> simpa [found] using done
    | error fault =>
      rw [ensureDirectory_of_error ((locate_eq_walk named).trans walked)]
      dsimp only
      split
      · cases made : ensureFrom cwd count tree path.parent with
        | mk parent error =>
          rw [made] at above
          cases error with
          | none => exact above.concat named split
          | some error =>
            have part := passed_parent_subset (path.start cwd) split
            refine .of_blocked (fun isOpen => ?_) (above.grows.mono part fun _ => id)
            have openAbove : tree.IsOpen (path.start cwd) path.parent.parts :=
              ⟨fun place mem => isOpen.clear place (part place mem),
                fun name mem => isOpen.short name (List.dropLast_subset _ mem)⟩
            cases above.done_iff.2 openAbove
      · rename_i other
        exact .of_blocked (fun isOpen => other (isOpen.fault_of_walk walked)) (.refl tree)

/-- **Making directories.** It fails if and only if a file stands in the way or a name is too long, and
otherwise there are directories all the way. In any case it only makes directories where nothing
was. -/
theorem ensures_ensureDirectories (tree : FileTree) (cwd : Location) {path : Path}
    (named : path.holdsNull = false) :
    tree.Ensures (path.start cwd) path.parts (tree.ensureDirectories cwd path) :=
  ensures_ensureFrom tree cwd named rfl

/-! ## Writing files -/

/-- A file can be written at the path, once the directories above it are made. -/
structure Writable (tree : FileTree) (cwd : Location) (path : Path) : Prop where
  isOpen : tree.IsOpen (path.start cwd) path.parent.parts
  short : ∀ part ∈ path.parts, part.utf8ByteSize ≤ maxNameBytes
  noDirectory : tree.get? (path.place cwd) ≠ some .directory
  unpassed : path.place cwd ∉ path.parent.passed cwd

/-- What comes of writing a file below directories. -/
structure Writes (tree : FileTree) (cwd : Location) (path : Path) (bytes : List UInt8)
    (result : FileTree × Option FileError) : Prop where
  done_iff : result.2 = none ↔ tree.Writable cwd path
  file : result.2 = none → result.1.get? (path.place cwd) = some (.file bytes)
  passes : result.2 = none → result.1.Passes (path.start cwd) path.parts
  grows : Grows (· ∈ path.parent.passed cwd)
    (fun place => tree.Writable cwd path ∧ place = path.place cwd) tree result.1

/-- Writing has to fail where the file is not writable. -/
theorem Writes.of_blocked {error : FileError} (blocked : ¬ tree.Writable cwd path)
    (grows : Grows (· ∈ path.parent.passed cwd)
      (fun place => tree.Writable cwd path ∧ place = path.place cwd) tree after) :
    tree.Writes cwd path bytes (after, some error) :=
  ⟨iff_of_false (Option.some_ne_none _) blocked, fun done => absurd done (Option.some_ne_none _),
    fun done => absurd done (Option.some_ne_none _), grows⟩

theorem mem_passed_parent (path : Path) (cwd : Location)
    (mem : place ∈ (passed (path.start cwd) path.parts).dropLast) :
    place ∈ path.parent.passed cwd := by
  rcases List.eq_nil_or_concat path.parts with none | ⟨init, last, split⟩
  · simp [none, passed] at mem
  · rw [List.concat_eq_append] at split
    rw [split, passed_concat, List.dropLast_concat] at mem
    have above : path.parent.parts = init := by simp [Path.parent, split]
    rw [Path.passed, Path.start_parent, above]
    exact mem

/-- **Writing a file.** It succeeds if and only if the file is writable, and then it is there. In any
case directories are only made on the way, and nothing else is changed. -/
theorem writes_writeBelow (tree : FileTree) (cwd : Location) {path : Path}
    (named : path.holdsNull = false) (bytes : List UInt8) :
    tree.Writes cwd path bytes (tree.writeBelow cwd path bytes) := by
  have above := ensures_ensureDirectories tree cwd (holdsNull_parent named)
  rw [writeBelow]
  cases made : tree.ensureDirectories cwd path.parent with
  | mk parent error =>
  rw [made] at above
  have grown : Grows (· ∈ path.parent.passed cwd)
      (fun place => tree.Writable cwd path ∧ place = path.place cwd) tree parent :=
    above.grows.mono (fun _ => id) nofun
  cases error with
  | some error =>
    refine .of_blocked (fun writable => ?_) grown
    cases above.done_iff.2 writable.isOpen
  | none =>
    have isOpen := above.done_iff.1 rfl
    have filled : ∀ place ∈ path.parent.passed cwd, parent.get? place = some .directory :=
      above.filled rfl
    dsimp only
    rw [write, locate_eq_walk named]
    cases walked : parent.walk (path.start cwd) path.parts with
    | error fault =>
      refine .of_blocked (fun writable => ?_) grown
      have way : parent.Passes (path.start cwd) path.parts :=
        ⟨fun place mem => filled place (mem_passed_parent path cwd mem), writable.short⟩
      rw [walk_eq_ok.2 ⟨way, rfl⟩] at walked
      cases walked
    | ok place =>
      obtain ⟨way, same⟩ : _ ∧ place = path.place cwd := walk_eq_ok.1 walked
      subst same
      dsimp only
      by_cases directory : parent.get? (path.place cwd) = some .directory
      · rw [directory]
        refine .of_blocked (fun writable => writable.noDirectory ?_) grown
        exact (grown.directory_iff writable.unpassed).1 directory
      · have writable : tree.Writable cwd path :=
          ⟨isOpen, way.short, fun there => directory (grown.directory there),
            fun mem => directory (filled _ mem)⟩
        have written : Grows (· ∈ path.parent.passed cwd)
            (fun place => tree.Writable cwd path ∧ place = path.place cwd) parent
            (parent.set (path.place cwd) (.file bytes)) :=
          grows_set_file directory ⟨writable, rfl⟩ bytes
        have there : (parent.set (path.place cwd) (.file bytes)).get? (path.place cwd) =
            some (.file bytes) := by
          rw [get?_set (ne_nil_of_get? directory), if_pos rfl]
        split
        · rename_i result done
          split at done
          · exact absurd ‹_› directory
          · cases done
            exact ⟨iff_of_true rfl writable, fun _ => there, fun _ => written.passes way,
              grown.trans written⟩
        · rename_i error failed
          split at failed
          · exact absurd ‹_› directory
          · cases failed

/-- Whether a file could be written there now. -/
def canWrite (tree : FileTree) (cwd : Location) (path : Path) : Bool :=
  (tree.writeBelow cwd path []).2.isNone

theorem canWrite_iff (named : path.holdsNull = false) :
    tree.canWrite cwd path = true ↔ tree.Writable cwd path := by
  rw [canWrite, Option.isNone_iff_eq_none]
  exact (writes_writeBelow tree cwd named []).done_iff

/-! ## Paths that name nothing -/

/-- Directories are not made for a path that names nothing, not even those above it. -/
theorem ensureDirectories_of_holdsNull (tree : FileTree) (cwd : Location)
    (null : path.holdsNull = true) :
    tree.ensureDirectories cwd path = (tree, some ⟨.nullCharacter, path⟩) := by
  have refused := ensureDirectory_of_error ((locate_eq_nullCharacter tree cwd).2 null)
  unfold ensureDirectories
  cases path.parts.length with
  | zero => exact refused
  | succ count =>
    rw [ensureFrom, refused]
    rfl

/-- Making directories only makes those of the way. -/
theorem grows_ensureDirectories (tree : FileTree) (cwd : Location) (path : Path) :
    Grows (· ∈ path.passed cwd) nowhere tree (tree.ensureDirectories cwd path).1 := by
  cases null : path.holdsNull with
  | false => exact (ensures_ensureDirectories tree cwd null).grows
  | true =>
    rw [ensureDirectories_of_holdsNull tree cwd null]
    exact .refl tree

theorem writeBelow_of_holdsNull (tree : FileTree) (cwd : Location) (null : path.holdsNull = true)
    (bytes : List UInt8) :
    ∃ error, tree.writeBelow cwd path bytes =
      ((tree.ensureDirectories cwd path.parent).1, some error) := by
  rw [writeBelow]
  generalize tree.ensureDirectories cwd path.parent = made
  obtain ⟨parent, _ | error⟩ := made
  · have refused : parent.write cwd path bytes = .error ⟨.nullCharacter, path⟩ := by
      rw [write, (locate_eq_nullCharacter parent cwd).2 null]
    simp only [refused]
    exact ⟨_, rfl⟩
  · exact ⟨error, rfl⟩

/-- A file is written where the path names something and can be written to. -/
theorem writeBelow_eq_none (tree : FileTree) (cwd : Location) (path : Path) (bytes : List UInt8) :
    (tree.writeBelow cwd path bytes).2 = none ↔
      path.holdsNull = false ∧ tree.Writable cwd path := by
  cases null : path.holdsNull with
  | false => simpa using (writes_writeBelow tree cwd null bytes).done_iff
  | true =>
    obtain ⟨error, failed⟩ := writeBelow_of_holdsNull tree cwd null bytes
    simp [failed]

/-- **What is touched.** Whatever comes of writing a file, directories are only made on the way to it,
and only the file itself is written, if it can be. -/
theorem grows_writeBelow (tree : FileTree) (cwd : Location) (path : Path) (bytes : List UInt8) :
    Grows (· ∈ path.parent.passed cwd)
      (fun place => (tree.writeBelow cwd path bytes).2 = none ∧ place = path.place cwd) tree
      (tree.writeBelow cwd path bytes).1 := by
  cases null : path.holdsNull with
  | false =>
    have writes := writes_writeBelow tree cwd null bytes
    exact writes.grows.mono (fun _ => id) fun _ written => written.imp_left writes.done_iff.2
  | true =>
    obtain ⟨error, failed⟩ := writeBelow_of_holdsNull tree cwd null bytes
    rw [failed]
    exact (grows_ensureDirectories tree cwd path.parent).mono (fun _ => id) nofun

end VirtualImports.FileTree
