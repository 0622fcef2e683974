import VirtualImports.Proofs.Data.Entries
import VirtualImports.Proofs.Files.Places

/-!
The files below a directory.

* `mem_filesBelow`: they are what can be reached from it downwards, and is a file;
* `nodup_filesBelow`: each is listed once;
* `eq_of_isPrefix`: none is below another one.
-/
namespace VirtualImports.FileTree

variable {tree : FileTree} {here place top : Location} {parts a b : List String}

/-- A part `..` leads one place up, or nowhere. -/
theorem length_follow_add_count (here : Location) (parts : List String) :
    (follow here parts).length + parts.count ".." ≤ here.length + parts.length := by
  induction parts generalizing here with
  | nil => simp [follow]
  | cons part parts ih =>
    rw [follow, List.foldl_cons, List.length_cons]
    by_cases up : part = ".."
    · have above : stepTo here part = here.dropLast := if_pos up
      have rest : (follow here.dropLast parts).length + parts.count ".." ≤ _ := ih here.dropLast
      rw [above, up, List.count_cons_self]
      rw [List.length_dropLast] at rest
      rw [follow] at rest
      omega
    · have below : stepTo here part = here ++ [part] := if_neg up
      have rest : (follow (here ++ [part]) parts).length + parts.count ".." ≤ _ := ih _
      rw [below, List.count_cons_of_ne up]
      rw [List.length_append, List.length_singleton] at rest
      rw [follow] at rest
      omega

/-- A way that leads down by all its parts has no `..` in it. -/
theorem plain_of_follow (h : follow here parts = here ++ parts) : ".." ∉ parts := by
  have bound := length_follow_add_count here parts
  rw [h, List.length_append] at bound
  exact List.count_eq_zero.1 (by omega)

/-- What can be reached below a directory, and is a file. -/
structure Holds (tree : FileTree) (top : Location) (parts : List String) : Prop where
  plain : ".." ∉ parts
  reached : tree.Passes top parts
  file : ∃ bytes, tree.get? (top ++ parts) = some (.file bytes)

theorem holds_iff_walk : tree.Holds top parts ↔
    tree.walk top parts = .ok (top ++ parts) ∧
      ∃ bytes, tree.get? (top ++ parts) = some (.file bytes) := by
  rw [walk_eq_ok]
  constructor
  · rintro ⟨plain, reached, file⟩
    exact ⟨⟨reached, (follow_eq_append plain).symm⟩, file⟩
  · rintro ⟨⟨reached, same⟩, file⟩
    exact ⟨plain_of_follow same.symm, reached, file⟩

theorem below?_eq_some {entry : Location × Node} :
    tree.below? top entry = some parts ↔ entry.1 = top ++ parts ∧ tree.Holds top parts := by
  rw [holds_iff_walk]
  constructor
  · intro h
    unfold below? at h
    dsimp only at h
    split at h
    · cases h
    · rename_i location walked
      split at h
      · rename_i same
        rw [Bool.and_eq_true, decide_eq_true_iff, List.isPrefixOf_iff_prefix] at same
        obtain ⟨rfl, rest, split⟩ := same
        split at h
        · rename_i bytes file
          cases h
          rw [← split, List.drop_left] at walked ⊢
          rw [← split] at file
          exact ⟨rfl, walked, bytes, file⟩
        · cases h
      · cases h
  · rintro ⟨same, walked, bytes, file⟩
    have isPrefix : top.isPrefixOf (top ++ parts) = true :=
      List.isPrefixOf_iff_prefix.2 (List.prefix_append _ _)
    simp [below?, same, walked, file, isPrefix]

theorem mem_of_find? {node : Node} {entries : List (Location × Node)}
    (h : find? place entries = some node) : (place, node) ∈ entries := by
  induction entries with
  | nil => cases h
  | cons entry entries ih =>
    obtain ⟨at_, other⟩ := entry
    rw [find?] at h
    split at h
    · rename_i same
      cases h
      subst same
      exact List.mem_cons_self
    · exact List.mem_cons_of_mem _ (ih h)

/-- **The files below a directory.** -/
theorem mem_filesBelow : parts ∈ tree.filesBelow top ↔ tree.Holds top parts := by
  rw [filesBelow, List.mem_mergeSort, List.mem_eraseDups, List.mem_filterMap]
  constructor
  · rintro ⟨entry, _, found⟩
    exact (below?_eq_some.1 found).2
  · intro holds
    obtain ⟨bytes, file⟩ := holds.file
    have noDirectory : tree.get? (top ++ parts) ≠ some .directory := by simp [file]
    have below := ne_nil_of_get? noDirectory
    have found := file
    rw [get?, if_neg below] at found
    exact ⟨_, mem_of_find? found, below?_eq_some.2 ⟨rfl, holds⟩⟩

theorem nodup_filesBelow (tree : FileTree) (top : Location) : (tree.filesBelow top).Nodup :=
  (List.mergeSort_perm _ _).nodup_iff.2 (nodup_eraseDups _)

/-- Nothing is below a file. -/
theorem Holds.eq_of_isPrefix (ha : tree.Holds top a) (hb : tree.Holds top b) (h : a <+: b) :
    a = b := by
  obtain ⟨bytes, file⟩ := ha.file
  have mem : top ++ a ∈ passed top b := (mem_passed hb.plain).2 ⟨a, h, rfl⟩
  rw [passed_eq_concat, follow_eq_append hb.plain, List.mem_append, List.mem_singleton] at mem
  rcases mem with above | same
  · rw [hb.reached.directories _ above] at file
    cases file
  · exact List.append_cancel_left same

theorem Holds.ne_nil (h : tree.Holds top parts) (directory : tree.get? top = some .directory) :
    parts ≠ [] := by
  rintro rfl
  obtain ⟨bytes, file⟩ := h.file
  rw [List.append_nil, directory] at file
  cases file

end VirtualImports.FileTree
