import Mathlib.Data.List.Induction
import VirtualImports.Proofs.Files.Writing

/-!
Where paths lead.

* `get?_set`: setting one place changes no other;
* `walk_eq_ok`: a way can be gone if there is a directory at each of its places but the last, and it
  leads where its parts say;
* `IsOpen.fault_of_walk`: where no file stands in the way and no name is too long, only a missing
  place can stop one;
* `mem_passed`: without `..` a way leads down, through all the places above its last one.
-/
namespace VirtualImports

namespace FileTree

variable {tree : FileTree} {here place other : Location} {part : String} {parts : List String}

/-! ## What is at a place -/

theorem get?_nil (tree : FileTree) : tree.get? [] = some .directory := rfl

theorem find?_setEntry (node : Node) (entries : List (Location × Node)) :
    find? other (setEntry place node entries) =
      if other = place then some node else find? other entries := by
  induction entries with
  | nil =>
    rw [setEntry, find?, find?, find?]
    simp only [eq_comm]
  | cons entry entries ih =>
    obtain ⟨at_, old⟩ := entry
    rw [setEntry]
    by_cases same : at_ = place
    · subst same
      rw [if_pos rfl, find?, find?]
      by_cases here : other = at_
      · simp [here]
      · simp [here, Ne.symm here]
    · rw [if_neg same, find?, find?, ih]
      by_cases here : at_ = other
      · subst here
        simp [same]
      · simp [here]

/-- Nothing but the place is changed. The root is always a directory, and nothing is set there. -/
theorem get?_set (below : place ≠ []) (node : Node) :
    (tree.set place node).get? other = if other = place then some node else tree.get? other := by
  unfold get? set
  by_cases root : other = []
  · rw [if_pos root, if_pos root, if_neg fun same => below (same.symm.trans root)]
  · rw [if_neg root, if_neg root]
    exact find?_setEntry node tree.entries

theorem ne_nil_of_get? (h : tree.get? place ≠ some .directory) : place ≠ [] := by
  rintro rfl
  exact h (get?_nil tree)

/-! ## Ways -/

/-- Where a part leads from a place. -/
def stepTo (here : Location) (part : String) : Location :=
  if part = ".." then here.dropLast else here ++ [part]

/-- Where parts lead from a place. -/
def follow (here : Location) (parts : List String) : Location :=
  parts.foldl stepTo here

/-- The places on the way, from the first to the last. -/
def passed (here : Location) : List String → List Location
  | [] => [here]
  | part :: parts => here :: passed (stepTo here part) parts

theorem follow_append (more : List String) :
    follow here (parts ++ more) = follow (follow here parts) more :=
  List.foldl_append

theorem passed_ne_nil (here : Location) (parts : List String) : passed here parts ≠ [] := by
  cases parts <;> exact List.cons_ne_nil _ _

theorem passed_append (more : List String) :
    passed here (parts ++ more) =
      (passed here parts).dropLast ++ passed (follow here parts) more := by
  induction parts generalizing here with
  | nil => rfl
  | cons part parts ih =>
    rw [List.cons_append, passed, passed, List.dropLast_cons_of_ne_nil (passed_ne_nil _ _),
      List.cons_append, ih]
    rfl

theorem passed_eq_concat (here : Location) (parts : List String) :
    passed here parts = (passed here parts).dropLast ++ [follow here parts] := by
  have whole : passed here (parts ++ []) = _ := passed_append []
  rwa [List.append_nil, passed] at whole

theorem passed_concat (here : Location) (parts : List String) (part : String) :
    passed here (parts ++ [part]) = passed here parts ++ [follow here (parts ++ [part])] := by
  rw [passed_append, passed, passed, follow_append, passed_eq_concat here parts]
  simp [follow]

theorem follow_mem_passed (here : Location) (parts : List String) :
    follow here parts ∈ passed here parts := by
  rw [passed_eq_concat]
  simp

/-- Names on a way come from where it starts or from its parts. -/
theorem mem_follow (h : part ∈ follow here parts) : part ∈ here ∨ part ∈ parts := by
  induction parts generalizing here with
  | nil => exact .inl h
  | cons first parts ih =>
    rw [List.mem_cons]
    rcases ih (h : part ∈ follow (stepTo here first) parts) with mem | mem
    · unfold stepTo at mem
      split at mem
      · exact .inl (List.dropLast_subset _ mem)
      · rw [List.mem_append, List.mem_singleton] at mem
        exact mem.imp_right .inl
    · exact .inr (.inr mem)

/-- Without `..` a way leads down. -/
theorem follow_eq_append (plain : ".." ∉ parts) : follow here parts = here ++ parts := by
  induction parts generalizing here with
  | nil => simp [follow]
  | cons part parts ih =>
    rw [List.mem_cons, not_or] at plain
    have down : stepTo here part = here ++ [part] := if_neg (Ne.symm plain.1)
    rw [follow, List.foldl_cons, down]
    exact (ih plain.2).trans (by simp)

theorem mem_passed (plain : ".." ∉ parts) :
    place ∈ passed here parts ↔ ∃ lead, lead <+: parts ∧ place = here ++ lead := by
  induction parts generalizing here with
  | nil => simp [passed]
  | cons part parts ih =>
    rw [List.mem_cons, not_or] at plain
    have down : stepTo here part = here ++ [part] := if_neg (Ne.symm plain.1)
    rw [passed, List.mem_cons, down, ih plain.2]
    constructor
    · rintro (rfl | ⟨lead, leads, rfl⟩)
      · exact ⟨[], List.nil_prefix, by simp⟩
      · exact ⟨part :: lead, List.cons_prefix_cons.2 ⟨rfl, leads⟩, by simp⟩
    · rintro ⟨lead, leads, rfl⟩
      cases lead with
      | nil => exact .inl (by simp)
      | cons first lead =>
        obtain ⟨rfl, rest⟩ := List.cons_prefix_cons.1 leads
        exact .inr ⟨lead, rest, by simp⟩

/-- The way leads through directories, by names that are not too long. -/
structure Passes (tree : FileTree) (here : Location) (parts : List String) : Prop where
  directories : ∀ place ∈ (passed here parts).dropLast, tree.get? place = some .directory
  short : ∀ part ∈ parts, part.utf8ByteSize ≤ maxNameBytes

/-- No file stands in the way, and no name is too long. -/
structure IsOpen (tree : FileTree) (here : Location) (parts : List String) : Prop where
  clear : ∀ place ∈ passed here parts, ∀ bytes, tree.get? place ≠ some (.file bytes)
  short : ∀ part ∈ parts, part.utf8ByteSize ≤ maxNameBytes

theorem passes_cons : tree.Passes here (part :: parts) ↔
    tree.get? here = some .directory ∧ part.utf8ByteSize ≤ maxNameBytes ∧
      tree.Passes (stepTo here part) parts := by
  have way : (passed here (part :: parts)).dropLast =
      here :: (passed (stepTo here part) parts).dropLast :=
    List.dropLast_cons_of_ne_nil (passed_ne_nil _ _)
  constructor
  · rintro ⟨directories, short⟩
    rw [way] at directories
    exact ⟨directories here (by simp), short part (by simp),
      fun place mem => directories place (by simp [mem]), fun part mem => short part (by simp [mem])⟩
  · rintro ⟨first, shortFirst, directories, short⟩
    refine ⟨?_, ?_⟩
    · rw [way]
      simpa using ⟨first, directories⟩
    · simpa using ⟨shortFirst, short⟩

theorem passes_nil (tree : FileTree) (here : Location) : tree.Passes here [] :=
  ⟨by simp [passed], by simp⟩

theorem passes_append {more : List String} : tree.Passes here (parts ++ more) ↔
    tree.Passes here parts ∧ tree.Passes (follow here parts) more := by
  induction parts generalizing here with
  | nil => simp [passes_nil, follow]
  | cons part parts ih =>
    rw [List.cons_append, passes_cons, passes_cons, ih, and_assoc, and_assoc]
    rfl

/-- A way can be gone through directories, and leads where its parts say. -/
theorem walk_eq_ok :
    tree.walk here parts = .ok place ↔ tree.Passes here parts ∧ place = follow here parts := by
  induction parts generalizing here with
  | nil =>
    simp only [walk, Except.ok.injEq, follow, List.foldl_nil, eq_comm]
    exact ⟨fun same => ⟨passes_nil tree here, same⟩, fun h => h.2⟩
  | cons part parts ih =>
    rw [passes_cons, walk]
    split
    · rename_i nothing
      simp [nothing]
    · rename_i file
      simp [file]
    · rename_i directory
      split
      · rename_i long
        simp only [reduceCtorEq, false_iff]
        rintro ⟨⟨_, short, _⟩, _⟩
        omega
      · rename_i short
        simp only [directory, Nat.not_lt.1 short, true_and]
        exact ih

/-- Only a long name stops a way for its length. -/
theorem exists_long_of_walk (h : tree.walk here parts = .error .nameTooLong) :
    ∃ part ∈ parts, maxNameBytes < part.utf8ByteSize := by
  induction parts generalizing here with
  | nil => cases h
  | cons part parts ih =>
    rw [walk] at h
    split at h
    · cases h
    · cases h
    · split at h
      · rename_i long
        exact ⟨part, List.mem_cons_self, long⟩
      · obtain ⟨other, mem, long⟩ := ih h
        exact ⟨other, List.mem_cons_of_mem part mem, long⟩

/-- On an open way only a missing place can stop one. -/
theorem IsOpen.fault_of_walk (isOpen : tree.IsOpen here parts) {fault : FileFault}
    (stopped : tree.walk here parts = .error fault) : fault = .notFound := by
  induction parts generalizing here with
  | nil => cases stopped
  | cons part parts ih =>
    obtain ⟨clear, short⟩ := isOpen
    rw [walk] at stopped
    split at stopped
    · cases stopped
      rfl
    · rename_i file
      exact absurd file (clear here (by simp [passed]) _)
    · split at stopped
      · rename_i long
        exact absurd (short part (by simp)) (Nat.not_le.2 long)
      · exact ih ⟨fun place mem => clear place (by simp [passed, stepTo, mem]),
          fun part mem => short part (by simp [mem])⟩ stopped

end FileTree

namespace Path

/-- Where a path starts from. -/
def start (path : Path) (cwd : Location) : Location :=
  if path.isAbsolute then [] else cwd

/-- The place that a path leads to. -/
def place (path : Path) (cwd : Location) : Location :=
  FileTree.follow (path.start cwd) path.parts

/-- The places that a path leads through, with the one that it leads to. -/
def passed (path : Path) (cwd : Location) : List Location :=
  FileTree.passed (path.start cwd) path.parts

theorem start_parent (path : Path) (cwd : Location) : path.parent.start cwd = path.start cwd := rfl

/-- The path of what is below a directory. -/
abbrev below (path : Path) (parts : List String) : Path :=
  path.join ⟨"", parts⟩

variable {path : Path} {cwd place : Location} {parts : List String}

theorem below_eq (path : Path) (parts : List String) :
    path.below parts = ⟨path.root, path.parts ++ parts⟩ := by
  simp [below, join, isAbsolute]

theorem start_below (path : Path) (parts : List String) (cwd : Location) :
    (path.below parts).start cwd = path.start cwd := by
  rw [below_eq]
  rfl

theorem place_below (plain : ".." ∉ parts) :
    (path.below parts).place cwd = path.place cwd ++ parts := by
  rw [← FileTree.follow_eq_append plain, place, start_below, below_eq, FileTree.follow_append]
  rfl

/-- On the way to something below a directory is the way to the directory, and what leads down from
there. -/
theorem mem_passed_below (ne : parts ≠ []) (plain : ".." ∉ parts) :
    place ∈ (path.below parts).parent.passed cwd ↔
      place ∈ (path.passed cwd).dropLast ∨
        ∃ lead, lead <+: parts.dropLast ∧ place = path.place cwd ++ lead := by
  have above : (path.below parts).parent.parts = path.parts ++ parts.dropLast := by
    rw [below_eq]
    exact List.dropLast_append_of_ne_nil ne
  have plainAbove : ".." ∉ parts.dropLast := fun mem => plain (List.dropLast_subset _ mem)
  rw [passed, start_parent, start_below, above, FileTree.passed_append, List.mem_append,
    FileTree.mem_passed plainAbove]
  rfl

end Path

namespace FileTree

variable {tree : FileTree} {cwd place : Location} {path : Path}

theorem locate_eq_walk (named : path.holdsNull = false) :
    tree.locate cwd path = tree.walk (path.start cwd) path.parts := by
  simp [locate, named, Path.start]

theorem locate_eq_ok (named : path.holdsNull = false) :
    tree.locate cwd path = .ok place ↔
      tree.Passes (path.start cwd) path.parts ∧ place = path.place cwd := by
  rw [locate_eq_walk named, walk_eq_ok]
  rfl

/-- What a path that can be gone leads to is read. -/
theorem read_eq_ok {bytes : List UInt8} (named : path.holdsNull = false)
    (way : tree.Passes (path.start cwd) path.parts) :
    tree.read cwd path = .ok bytes ↔ tree.get? (path.place cwd) = some (.file bytes) := by
  rw [read, (locate_eq_ok named).2 ⟨way, rfl⟩]
  cases found : tree.get? (path.place cwd) with
  | none => simp [found]
  | some node => cases node <;> simp [found]

/-- What is read depends on the place alone, where the way can be gone. -/
theorem read_congr {other : FileTree} (way : tree.Passes (path.start cwd) path.parts)
    (otherWay : other.Passes (path.start cwd) path.parts)
    (same : tree.get? (path.place cwd) = other.get? (path.place cwd)) :
    tree.read cwd path = other.read cwd path := by
  rw [read, read]
  cases null : path.holdsNull with
  | true =>
    rw [(locate_eq_nullCharacter tree cwd).2 null, (locate_eq_nullCharacter other cwd).2 null]
  | false =>
    rw [(locate_eq_ok null).2 ⟨way, rfl⟩, (locate_eq_ok null).2 ⟨otherWay, rfl⟩]
    simp only [same]

theorem nameTooLong_of_short (tree : FileTree) (cwd : Location)
    (short : ∀ part ∈ path.parts, part.utf8ByteSize ≤ maxNameBytes) :
    tree.nameTooLong cwd path = false := by
  unfold nameTooLong locate
  split
  · rename_i located
    split at located
    · cases located
    · obtain ⟨part, mem, long⟩ := exists_long_of_walk located
      exact absurd (short part mem) (Nat.not_le.2 long)
  · rfl

/-- A file is what can be read. -/
theorem isFile_iff : tree.isFile cwd path = true ↔ ∃ bytes, tree.read cwd path = .ok bytes := by
  unfold isFile node? read
  cases tree.locate cwd path with
  | error fault => simp
  | ok place =>
    cases found : tree.get? place with
    | none => simp [found]
    | some node => cases node <;> simp [found]

theorem pathExists_of_isFile (file : tree.isFile cwd path = true) :
    tree.pathExists cwd path = true := by
  unfold isFile at file
  unfold pathExists
  split at file
  · rename_i found
    rw [found]
    rfl
  · cases file

/-- A directory can be walked to. -/
theorem exists_place_of_isDirectory (directory : tree.isDirectory cwd path = true) :
    path.holdsNull = false ∧ tree.locate cwd path = .ok (path.place cwd) ∧
      tree.Passes (path.start cwd) path.parts ∧
      tree.get? (path.place cwd) = some .directory := by
  rw [isDirectory, decide_eq_true_iff, node?] at directory
  split at directory
  · rename_i location located
    have named : path.holdsNull = false := by
      rw [← Bool.not_eq_true]
      intro null
      rw [(locate_eq_nullCharacter _ _).2 null] at located
      cases located
    obtain ⟨way, rfl⟩ := (locate_eq_ok named).1 located
    exact ⟨named, located, way, directory⟩
  · cases directory

end FileTree

end VirtualImports
