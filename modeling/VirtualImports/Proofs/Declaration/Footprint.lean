import VirtualImports.Declaration.Writing
import VirtualImports.Proofs.Files.Growth

/-!
What the writing of the declarations touches.

* `writeDeclarations_eq_some`: a path is returned if and only if the declarations go to it and a file
  can be written there;
* `grows_writeDeclarations`: directories are only made on the way to that path, and only the file that
  it leads to is written;
* `writeDeclarations_touches`: one file is written, or none.
-/
namespace VirtualImports

open Text

namespace Configuration

variable {configuration : Configuration} {tree : FileTree} {cwd place : Location} {root path : Path}
  {output : Option Path}

theorem writeDeclarations_of_none (disabled : configuration.declarationPath? root output = none) :
    configuration.writeDeclarations tree cwd root output = ⟨tree, .ok none⟩ := by
  rw [writeDeclarations, disabled]

theorem writeDeclarations_of_path (given : configuration.declarationPath? root output = some path) :
    configuration.writeDeclarations tree cwd root output =
      let written := tree.writeBelow cwd path (Utf8.encode configuration.declarationText)
      ⟨written.1, (written.2.map Except.error).getD (.ok (some path))⟩ := by
  rw [writeDeclarations, given]
  rcases written : tree.writeBelow cwd path (Utf8.encode configuration.declarationText)
    with ⟨files, _ | error⟩ <;> simp only [written] <;> rfl

theorem writeDeclarations_eq_none :
    (configuration.writeDeclarations tree cwd root output).result = .ok none ↔
      configuration.declarationPath? root output = none := by
  cases given : configuration.declarationPath? root output with
  | none => simp [writeDeclarations_of_none given]
  | some path =>
    rw [writeDeclarations_of_path given]
    dsimp only
    cases (tree.writeBelow cwd path (Utf8.encode configuration.declarationText)).2 <;> simp

/-- **When a path is returned.** -/
theorem writeDeclarations_eq_some :
    (configuration.writeDeclarations tree cwd root output).result = .ok (some path) ↔
      configuration.declarationPath? root output = some path ∧ path.holdsNull = false ∧
        tree.Writable cwd path := by
  cases given : configuration.declarationPath? root output with
  | none => simp [writeDeclarations_of_none given]
  | some other =>
    have done := FileTree.writeBelow_eq_none tree cwd other
      (Utf8.encode configuration.declarationText)
    rw [writeDeclarations_of_path given]
    cases failed : (tree.writeBelow cwd other (Utf8.encode configuration.declarationText)).2 with
    | none =>
      have writable := done.1 failed
      simp only [failed, Option.map_none, Option.getD_none, Except.ok.injEq, Option.some.injEq]
      exact ⟨fun same => ⟨same, same ▸ writable⟩, fun h => h.1⟩
    | some error =>
      rw [failed] at done
      simp only [failed, Option.map_some, Option.getD_some, reduceCtorEq, false_iff]
      rintro ⟨same, writable⟩
      cases same
      cases done.2 writable

/-- **What is touched.** -/
theorem grows_writeDeclarations (configuration : Configuration) (tree : FileTree) (cwd : Location)
    (root : Path) (output : Option Path) :
    FileTree.Grows
      (fun place => ∃ path, configuration.declarationPath? root output = some path ∧
        place ∈ path.parent.passed cwd)
      (fun place => ∃ path,
        (configuration.writeDeclarations tree cwd root output).result = .ok (some path) ∧
          place = path.place cwd)
      tree (configuration.writeDeclarations tree cwd root output).tree := by
  cases given : configuration.declarationPath? root output with
  | none =>
    rw [writeDeclarations_of_none given]
    exact .refl tree
  | some path =>
    have grows := FileTree.grows_writeBelow tree cwd path
      (Utf8.encode configuration.declarationText)
    rw [writeDeclarations_of_path given]
    refine grows.mono (fun place way => ⟨path, rfl, way⟩) ?_
    rintro place ⟨done, same⟩
    refine ⟨path, ?_, same⟩
    simp only [done]
    rfl

/-- What is left behind where the declarations are written. Files are named by the places that they are
at, and a path by the place that it leads to in the end. -/
structure Touches (configuration : Configuration) (tree : FileTree) (cwd : Location) (root : Path)
    (output : Option Path) (written : DeclarationWrite) : Prop where
  returned : ∀ path, written.result = .ok (some path) ↔
    configuration.declarationPath? root output = some path ∧ path.holdsNull = false ∧
      tree.Writable cwd path
  disabled : written.result = .ok none ↔ configuration.declarationPath? root output = none
  file : ∀ path, written.result = .ok (some path) → ∃ place,
    written.tree.locate cwd path = .ok place ∧
      written.tree.get? place = some (.file (Utf8.encode configuration.declarationText)) ∧
      ∀ other, other ≠ place → ∀ bytes,
        (written.tree.get? other = some (.file bytes) ↔ tree.get? other = some (.file bytes))
  untouched : (∀ path, written.result ≠ .ok (some path)) → ∀ place bytes,
    (written.tree.get? place = some (.file bytes) ↔ tree.get? place = some (.file bytes))
  kept : ∀ place, tree.get? place = some .directory → written.tree.get? place = some .directory
  made : ∀ place, written.tree.get? place = some .directory → tree.get? place ≠ some .directory →
    tree.get? place = none ∧
      ∃ path, configuration.declarationPath? root output = some path ∧
        place ∈ path.parent.passed cwd

/-- **One file or none.** If a path is returned, then the file that it leads to holds the declarations,
and no other file has come, changed or gone. If there is an error, or nothing is to be written, then no
file has. No directory goes, and the new ones were missing on the way to the file. -/
theorem writeDeclarations_touches (configuration : Configuration) (tree : FileTree) (cwd : Location)
    (root : Path) (output : Option Path) :
    configuration.Touches tree cwd root output
      (configuration.writeDeclarations tree cwd root output) := by
  have grows := configuration.grows_writeDeclarations tree cwd root output
  refine ⟨fun path => writeDeclarations_eq_some, writeDeclarations_eq_none, fun path done => ?_,
    fun failed place bytes => ?_, fun place => grows.directory, fun place there missing => ?_⟩
  · obtain ⟨given, named, writable⟩ := writeDeclarations_eq_some.1 done
    have writes := FileTree.writes_writeBelow tree cwd named
      (Utf8.encode configuration.declarationText)
    have succeeded := writes.done_iff.2 writable
    have after : (configuration.writeDeclarations tree cwd root output).tree =
        (tree.writeBelow cwd path (Utf8.encode configuration.declarationText)).1 := by
      rw [writeDeclarations_of_path given]
    refine ⟨path.place cwd, ?_, ?_, fun other ne bytes => ?_⟩
    · rw [after]
      exact (FileTree.locate_eq_ok named).2 ⟨writes.passes succeeded, rfl⟩
    · rw [after]
      exact writes.file succeeded
    · refine grows.file_iff ?_
      rintro ⟨same, returned, rfl⟩
      rw [done] at returned
      cases returned
      exact ne rfl
  · refine grows.file_iff ?_
    rintro ⟨path, done, _⟩
    exact failed path done
  · rcases grows place with same | ⟨made, empty, _⟩ | ⟨_, _, _, file⟩
    · exact absurd (same ▸ there) missing
    · exact ⟨empty, made⟩
    · rw [file] at there
      cases there

/-- The way to these declarations leads through a directory and back, and it may have to be made. -/
def throughNew : Configuration :=
  ⟨[], some ⟨"", ["new", "..", "t.d.ts"]⟩, none⟩

theorem writeDeclarations_touches_sample :
    (throughNew.writeDeclarations ⟨[]⟩ [] ⟨"/", []⟩ none).result =
        .ok (some ⟨"/", ["new", "..", "t.d.ts"]⟩) ∧
      (∃ place, (throughNew.writeDeclarations ⟨[]⟩ [] ⟨"/", []⟩ none).tree.locate []
          ⟨"/", ["new", "..", "t.d.ts"]⟩ = .ok place ∧
        (throughNew.writeDeclarations ⟨[]⟩ [] ⟨"/", []⟩ none).tree.get? place =
          some (.file (Utf8.encode throughNew.declarationText)) ∧
        ∀ other, other ≠ place → ∀ bytes,
          ((throughNew.writeDeclarations ⟨[]⟩ [] ⟨"/", []⟩ none).tree.get? other =
              some (.file bytes) ↔
            (⟨[]⟩ : FileTree).get? other = some (.file bytes))) ∧
      (throughNew.writeDeclarations ⟨[]⟩ [] ⟨"/", []⟩ none).tree.get? ["new"] = some .directory ∧
      ["new"] ∈ Path.passed (Path.parent ⟨"/", ["new", "..", "t.d.ts"]⟩) [] := by
  have touches := throughNew.writeDeclarations_touches ⟨[]⟩ [] ⟨"/", []⟩ none
  have done : (throughNew.writeDeclarations ⟨[]⟩ [] ⟨"/", []⟩ none).result =
      .ok (some ⟨"/", ["new", "..", "t.d.ts"]⟩) := by decide +kernel
  have new : (throughNew.writeDeclarations ⟨[]⟩ [] ⟨"/", []⟩ none).tree.get? ["new"] =
      some .directory := by decide +kernel
  obtain ⟨_, path, given, way⟩ := touches.made ["new"] new (by decide)
  cases given
  exact ⟨done, touches.file _ done, new, way⟩

end Configuration

end VirtualImports
