import VirtualImports.Files.FileTree

/-!
Paths that name nothing, and the writing of files.

* `locate_eq_nullCharacter`: no part of the tree is asked about a path with the character U+0000,
  and nothing else is taken for one;
* `ensureDirectories_isNull`, `write_isNull`: making directories and writing a file do so too;
* `exists_foreign_writeBelow`: writing a file below directories that may have to be made ends in an
  error that is not from the system if and only if the path holds the character, and the directories
  above do not fail before it is come upon.
-/
namespace VirtualImports

/-- The error of a path that names nothing. -/
def FileError.isNull (error : FileError) : Prop :=
  error.fault = .nullCharacter

/-- All errors are from the system but for those of paths that name nothing. -/
theorem FileError.isSystem_eq_false {error : FileError} :
    error.isSystem = false ↔ error.isNull := by
  obtain ⟨fault, path⟩ := error
  cases fault <;> simp [isSystem, isNull, FileFault.number?]

namespace Path

variable {path other : Path}

theorem holdsNull_eq_true : path.holdsNull = true ↔ ∃ part ∈ path.parts, '\x00' ∈ part.toList := by
  simp [holdsNull]

theorem holdsNull_of_parent (h : path.parent.holdsNull = true) : path.holdsNull = true := by
  rw [holdsNull_eq_true] at h ⊢
  obtain ⟨part, mem, null⟩ := h
  exact ⟨part, List.dropLast_subset _ mem, null⟩

/-- A relative path joined to another holds the character if one of the two does. -/
theorem holdsNull_join {parts : List String} :
    (path.join ⟨"", parts⟩).holdsNull = (path.holdsNull || holdsNull ⟨"", parts⟩) := by
  simp [join, isAbsolute, holdsNull]

end Path

namespace FileTree

theorem walk_ne_nullCharacter (tree : FileTree) (here : Location) (parts : List String) :
    tree.walk here parts ≠ .error .nullCharacter := by
  induction parts generalizing here with
  | nil => exact nofun
  | cons part parts ih =>
    rw [walk]
    split
    · exact nofun
    · exact nofun
    · split
      · exact nofun
      · exact ih _

variable (tree : FileTree) (cwd : Location) {path : Path} {bytes : List UInt8}

theorem locate_eq_nullCharacter :
    tree.locate cwd path = .error .nullCharacter ↔ path.holdsNull = true := by
  unfold locate
  split
  · rename_i null
    simp [null]
  · rename_i null
    simp [null, walk_ne_nullCharacter]

variable {tree cwd} in
theorem holdsNull_of_read (h : tree.read cwd path = .ok bytes) : path.holdsNull = false := by
  rw [← Bool.not_eq_true, ← locate_eq_nullCharacter tree cwd]
  intro null
  simp [read, null] at h

variable {tree cwd} in
/-- What is there was found by names that are not too long. -/
theorem nameTooLong_of_pathExists (h : tree.pathExists cwd path = true) :
    tree.nameTooLong cwd path = false := by
  unfold pathExists node? at h
  unfold nameTooLong
  split
  · rename_i located
    rw [located] at h
    cases h
  · rfl

theorem write_isNull (bytes : List UInt8) :
    (∃ error, tree.write cwd path bytes = .error error ∧ error.isNull) ↔
      path.holdsNull = true := by
  rw [← locate_eq_nullCharacter tree cwd]
  unfold write
  split
  · rename_i fault located
    simp [located, FileError.isNull]
  · rename_i location located
    split <;> simp [located, FileError.isNull]

theorem makeDirectory_isNull :
    (∃ error, tree.makeDirectory cwd path = .error error ∧ error.isNull) ↔
      path.holdsNull = true := by
  rw [← locate_eq_nullCharacter tree cwd]
  unfold makeDirectory
  split
  · rename_i fault located
    simp [located, FileError.isNull]
  · rename_i location located
    split <;> simp [located, FileError.isNull]

theorem not_isDirectory_of_holdsNull (h : path.holdsNull = true) :
    tree.isDirectory cwd path = false := by
  simp [isDirectory, node?, (locate_eq_nullCharacter tree cwd).2 h]

theorem ensureDirectory_isNull :
    (∃ error, (tree.ensureDirectory cwd path).2 = some error ∧ error.isNull) ↔
      path.holdsNull = true := by
  constructor
  · rintro ⟨error, failed, null⟩
    unfold ensureDirectory at failed
    split at failed
    · cases failed
    · rename_i found made
      split at failed
      · cases failed
      · cases failed
        exact (makeDirectory_isNull tree cwd).1 ⟨error, made, null⟩
  · intro null
    obtain ⟨error, made, isNull⟩ := (makeDirectory_isNull tree cwd).2 null
    exact ⟨error, by simp [ensureDirectory, made, not_isDirectory_of_holdsNull tree cwd null], isNull⟩

/-- Directories are made from the top. On the way up no path comes to hold the character, and a path
that holds it is refused at once. -/
theorem ensureFrom_isNull (path : Path) (count : Nat) :
    (∃ error, (ensureFrom cwd count tree path).2 = some error ∧ error.isNull) ↔
      path.holdsNull = true := by
  induction count generalizing tree path with
  | zero => exact ensureDirectory_isNull _ cwd
  | succ count ih =>
    rw [ensureFrom]
    split
    · rename_i made
      rw [← ensureDirectory_isNull tree cwd, made]
    rename_i first error made
    split
    -- A directory above is missing, so the path itself was looked up and is plain.
    · rename_i missing
      have plain : ¬ path.holdsNull = true := by
        rw [← ensureDirectory_isNull tree cwd, made]
        rintro ⟨other, same, null⟩
        cases same
        cases missing.symm.trans null
      split
      · exact ensureDirectory_isNull _ cwd
      · rename_i failed
        have above := ih first (path.parent)
        rw [failed] at above
        exact iff_of_false (fun null => plain (Path.holdsNull_of_parent (above.1 null))) plain
    · rw [← ensureDirectory_isNull tree cwd, made]

theorem ensureDirectories_isNull (path : Path) :
    (∃ error, (tree.ensureDirectories cwd path).2 = some error ∧ error.isNull) ↔
      path.holdsNull = true :=
  ensureFrom_isNull tree cwd path path.parts.length

/-- **What stops the writing of a file.** An error that is not from the system comes of a path that
holds the character U+0000, in a part above the last or, where the directories could be made, in the
last. -/
theorem exists_foreign_writeBelow (path : Path) (bytes : List UInt8) :
    (∃ error, (tree.writeBelow cwd path bytes).2 = some error ∧ error.isSystem = false) ↔
      path.holdsNull = true ∧ (path.parent.holdsNull = true ∨
        (tree.ensureDirectories cwd path.parent).2 = none) := by
  simp only [FileError.isSystem_eq_false]
  have directories := ensureDirectories_isNull tree cwd path.parent
  unfold writeBelow
  split
  · rename_i first error failed
    rw [failed] at directories
    rw [failed]
    simp only [reduceCtorEq, or_false]
    exact directories.trans ⟨fun h => ⟨Path.holdsNull_of_parent h, h⟩, And.right⟩
  · rename_i first made
    rw [made]
    have written : _ ↔ path.holdsNull = true := write_isNull first cwd bytes
    split
    · rename_i failed
      rw [failed] at written
      simpa using written
    · rename_i error failed
      rw [failed] at written
      simpa using written

end FileTree

end VirtualImports
