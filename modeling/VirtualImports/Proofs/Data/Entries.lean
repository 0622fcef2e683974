import Mathlib.Data.List.Induction
import VirtualImports.Data.Entries

/-!
Entries as lists of pairs.

* `mem_of_get?`, `get?_of_mem`: what is found is there, and where no key is there twice, what is
  there is found;
* `set_of_not_mem`, `keys_set_of_mem`, `keys_set`: a new key goes to the end, and a key that is
  present stays;
* `nodup_keys_set`: no key is there twice;
* `flatMap_set_perm`: what is read off the entries grows by what the entry that is set gains;
* `ofSettings_of_nodup`: settings without a repetition are entries as they stand;
* `ofSettings_subset`: and whatever is set, no entry is new;
* `flatMap_of_distinct`: a key picks out one entry;
* `Latest`: what entries are after settings that may repeat a key.
-/
namespace VirtualImports

theorem eraseDups_concat {α : Type} [BEq α] [LawfulBEq α] (l : List α) (a : α) :
    (l ++ [a]).eraseDups = if l.contains a then l.eraseDups else l.eraseDups ++ [a] := by
  rw [List.eraseDups_append]
  by_cases old : l.contains a = true
  · have again : [a].removeAll l = [] := by simpa [List.removeAll] using old
    rw [if_pos old, again, List.eraseDups_nil, List.append_nil]
  · have first : [a].removeAll l = [a] := by simpa [List.removeAll] using old
    rw [if_neg old, first]
    rfl

theorem nodup_eraseDups {α : Type} [BEq α] [LawfulBEq α] (l : List α) : l.eraseDups.Nodup := by
  induction l using List.reverseRecOn with
  | nil => exact List.nodup_nil
  | append_singleton l a ih =>
    rw [eraseDups_concat]
    split
    · exact ih
    · rename_i new
      refine List.nodup_append.2 ⟨ih, by simp, ?_⟩
      rintro b hb _ hc rfl
      rw [List.mem_singleton.1 hc, List.mem_eraseDups] at hb
      exact new (List.contains_iff_mem.2 hb)

namespace Entries

variable {α : Type}

theorem mem_of_get? {key : String} {entries : Entries α} {value : α}
    (h : get? key entries = some value) : (key, value) ∈ entries := by
  induction entries with
  | nil => cases h
  | cons entry rest ih =>
    obtain ⟨k, v⟩ := entry
    rw [get?] at h
    split at h
    · rename_i same
      cases h
      simp [same]
    · simp [ih h]

theorem get?_of_mem {entries : Entries α} (distinct : entries.keys.Nodup) {entry : String × α}
    (mem : entry ∈ entries) : get? entry.1 entries = some entry.2 := by
  induction entries with
  | nil => cases mem
  | cons first rest ih =>
    obtain ⟨k, v⟩ := first
    obtain ⟨single, later⟩ := List.nodup_cons.1 distinct
    rw [get?]
    rcases List.mem_cons.1 mem with rfl | mem
    · rw [if_pos rfl]
    · have later_key : entry.1 ∈ keys rest := List.mem_map_of_mem mem
      have other : k ≠ entry.1 := fun same => single (same ▸ later_key)
      rw [if_neg other, ih later mem]

/-- Entries without a repeated key are the same map as themselves. -/
theorem sameMap_self [BEq α] [LawfulBEq α] {entries : Entries α} (distinct : entries.keys.Nodup) :
    sameMap entries entries = true := by
  simp only [sameMap, BEq.rfl, Bool.true_and, List.all_eq_true]
  intro entry mem
  simp [get?_of_mem distinct mem]

theorem mem_set {key : String} {value : α} {entries : Entries α} {entry : String × α}
    (h : entry ∈ set key value entries) : entry = (key, value) ∨ entry ∈ entries := by
  induction entries with
  | nil => exact .inl (List.mem_singleton.1 h)
  | cons first rest ih =>
    obtain ⟨k, v⟩ := first
    rw [set] at h
    split at h
    · rename_i same
      rcases List.mem_cons.1 h with rfl | h
      · exact .inl (by rw [same])
      · exact .inr (by simp [h])
    · rcases List.mem_cons.1 h with rfl | h
      · exact .inr (by simp)
      · rcases ih h with h | h
        · exact .inl h
        · exact .inr (by simp [h])

theorem keys_set_of_mem {key : String} {value : α} {entries : Entries α} (h : key ∈ entries.keys) :
    (set key value entries).keys = entries.keys := by
  induction entries with
  | nil => cases h
  | cons first rest ih =>
    obtain ⟨k, v⟩ := first
    rw [set]
    split
    · rfl
    · rename_i different
      rcases List.mem_cons.1 h with same | h
      · exact absurd same.symm different
      · exact congrArg (k :: ·) (ih h)

/-- A new key goes to the end. -/
theorem set_of_not_mem {key : String} {value : α} {entries : Entries α}
    (h : key ∉ entries.keys) : set key value entries = entries ++ [(key, value)] := by
  induction entries with
  | nil => rfl
  | cons first rest ih =>
    obtain ⟨k, v⟩ := first
    have different : k ≠ key := by
      rintro rfl
      exact h (by simp [keys])
    have later : key ∉ keys rest := fun mem => h (List.mem_cons_of_mem _ mem)
    rw [set, if_neg different, ih later, List.cons_append]

theorem keys_set (key : String) (value : α) (entries : Entries α) :
    (set key value entries).keys =
      if key ∈ entries.keys then entries.keys else entries.keys ++ [key] := by
  split
  · rename_i old
    exact keys_set_of_mem old
  · rename_i new
    rw [set_of_not_mem new, keys, List.map_append]
    rfl

theorem set_ne_nil (key : String) (value : α) (entries : Entries α) :
    set key value entries ≠ [] := by
  cases entries with
  | nil => simp [set]
  | cons entry rest =>
    rw [set]
    split <;> simp

theorem nodup_keys_set {key : String} {value : α} {entries : Entries α}
    (h : entries.keys.Nodup) : (set key value entries).keys.Nodup := by
  rw [keys_set]
  split
  · exact h
  · rename_i new
    refine List.nodup_append.2 ⟨h, List.pairwise_singleton _ _, ?_⟩
    rintro a ha b hb rfl
    exact new (List.mem_singleton.1 hb ▸ ha)

/-- What is read off the entries grows by what the entry that is set gains. -/
theorem flatMap_set_perm {β : Type} (f : String × α → List β) {key : String} {value : α}
    {gain : List β} {entries : Entries α}
    (h : (f (key, value)).Perm (((get? key entries).elim [] fun old => f (key, old)) ++ gain)) :
    ((set key value entries).flatMap f).Perm (entries.flatMap f ++ gain) := by
  induction entries with
  | nil => simpa [set, get?] using h
  | cons entry rest ih =>
    obtain ⟨k, v⟩ := entry
    rw [get?] at h
    rw [set]
    split
    · rename_i same
      subst same
      rw [if_pos rfl] at h
      have first : (f (k, value) ++ rest.flatMap f).Perm (f (k, v) ++ gain ++ rest.flatMap f) :=
        h.append_right _
      have behind : (f (k, v) ++ gain ++ rest.flatMap f).Perm
          (f (k, v) ++ rest.flatMap f ++ gain) := by
        rw [List.append_assoc, List.append_assoc]
        exact List.perm_append_comm.append_left _
      rw [List.flatMap_cons, List.flatMap_cons]
      exact first.trans behind
    · rename_i different
      rw [if_neg different] at h
      rw [List.flatMap_cons, List.flatMap_cons, List.append_assoc]
      exact (ih h).append_left _

/-- Settings of new keys, none of them twice, are put at the end as they stand. -/
theorem foldl_set_of_nodup {settings : List (String × α)} {entries : Entries α}
    (distinct : (settings.map Prod.fst).Nodup)
    (new : ∀ key ∈ settings.map Prod.fst, key ∉ entries.keys) :
    settings.foldl (fun entries (key, value) => set key value entries) entries =
      entries ++ settings := by
  induction settings generalizing entries with
  | nil => simp
  | cons setting settings ih =>
    obtain ⟨key, value⟩ := setting
    obtain ⟨single, later⟩ := List.nodup_cons.1 distinct
    have first : set key value entries = entries ++ [(key, value)] :=
      set_of_not_mem (new key (by simp))
    rw [List.foldl_cons]
    dsimp only
    rw [first, ih later, List.append_assoc]
    · rfl
    · intro other mem
      rw [keys, List.map_append, List.mem_append]
      rintro (old | same)
      · exact new other (List.mem_cons_of_mem _ mem) old
      · exact single (List.mem_singleton.1 same ▸ mem)

theorem ofSettings_of_nodup {settings : List (String × α)}
    (distinct : (settings.map Prod.fst).Nodup) : ofSettings settings = settings :=
  foldl_set_of_nodup distinct (by simp [keys])

theorem foldl_set_subset (settings : List (String × α)) (entries : Entries α) :
    settings.foldl (fun entries (key, value) => set key value entries) entries ⊆
      entries ++ settings := by
  induction settings generalizing entries with
  | nil => simp
  | cons setting settings ih =>
    intro entry mem
    rcases List.mem_append.1 (ih _ mem) with mem | mem
    · rcases mem_set mem with rfl | mem
      · simp
      · simp [mem]
    · simp [mem]

/-- Settings make no entries but their own. -/
theorem ofSettings_subset (settings : List (String × α)) : ofSettings settings ⊆ settings :=
  foldl_set_subset settings []

/-- Of a list without two entries for one key, a key picks out one entry. -/
theorem flatMap_of_distinct {β : Type} {entries : Entries α} {entry : String × α}
    (distinct : entries.Pairwise fun a b => a.1 ≠ b.1) (mem : entry ∈ entries)
    (f : String × α → List β) :
    (entries.flatMap fun other => if other.1 = entry.1 then f other else []) = f entry := by
  induction entries with
  | nil => cases mem
  | cons first rest ih =>
    obtain ⟨apart, later⟩ := List.pairwise_cons.1 distinct
    rw [List.flatMap_cons]
    rcases List.mem_cons.1 mem with rfl | mem
    · have others : (rest.flatMap fun other => if other.1 = entry.1 then f other else []) = [] :=
        List.flatMap_eq_nil_iff.2 fun other ho => if_neg (apart other ho).symm
      rw [if_pos rfl, others, List.append_nil]
    · rw [if_neg (apart entry mem), ih later mem]
      rfl

/-- Entries with the same keys, none of them twice, are the same if each key finds the same. -/
theorem ext_of_keys {a b : Entries α} (distinct : a.keys.Nodup) (keys : a.keys = b.keys)
    (same : ∀ key, get? key a = get? key b) : a = b := by
  induction a generalizing b with
  | nil => exact (List.map_eq_nil_iff.1 keys.symm).symm
  | cons entry rest ih =>
    obtain ⟨k, v⟩ := entry
    cases b with
    | nil => cases keys
    | cons other more =>
      obtain ⟨k', v'⟩ := other
      obtain ⟨rfl, tail⟩ := List.cons.inj keys
      obtain ⟨single, later⟩ := List.nodup_cons.1 distinct
      have value : v = v' := by simpa [get?] using same k
      have absent {entries : Entries α} (h : k ∉ entries.keys) : get? k entries = none := by
        rw [Option.eq_none_iff_forall_ne_some]
        intro value found
        exact h (List.mem_map_of_mem (mem_of_get? found))
      have elsewhere : k ∉ Entries.keys more := by
        rw [Entries.keys, ← tail]
        exact single
      have below : rest = more := by
        refine ih later tail fun key => ?_
        by_cases here : k = key
        · subst here
          rw [absent single, absent elsewhere]
        · simpa [get?, here] using same key
      rw [value, below]

/-- The entries hold each key that is set, in the order in which the keys first come, with the value
that it is set to last. -/
structure Latest (settings : List (String × α)) (entries : Entries α) : Prop where
  keys : entries.keys = (settings.map Prod.fst).eraseDups
  last : ∀ key, get? key entries = get? key settings.reverse

theorem latest_nil : Latest ([] : List (String × α)) [] :=
  ⟨rfl, fun _ => rfl⟩

theorem Latest.set {settings : List (String × α)} {entries : Entries α}
    (h : Latest settings entries) (key : String) (value : α) :
    Latest (settings ++ [(key, value)]) (entries.set key value) where
  keys := by
    have present : (settings.map Prod.fst).contains key = true ↔ key ∈ entries.keys := by
      rw [List.contains_iff_mem, h.keys, List.mem_eraseDups]
    rw [List.map_append, List.map_singleton, eraseDups_concat, ← h.keys, keys_set]
    simp only [present]
  last := by
    intro other
    rw [get?_set, h.last, List.reverse_append, List.reverse_singleton, List.singleton_append, get?]
    by_cases same : key = other
    · rw [if_pos same.symm, if_pos same]
    · rw [if_neg (Ne.symm same), if_neg same]

theorem Latest.eq_nil_iff {settings : List (String × α)} {entries : Entries α}
    (h : Latest settings entries) : entries = [] ↔ settings = [] := by
  rw [← List.map_eq_nil_iff (f := Prod.fst), ← List.map_eq_nil_iff (f := Prod.fst) (l := settings)]
  simp only [List.eq_nil_iff_forall_not_mem, ← List.mem_eraseDups (l := settings.map Prod.fst),
    ← h.keys]
  rfl

/-- Settings say what the entries are. -/
theorem Latest.unique {settings : List (String × α)} {a b : Entries α} (ha : Latest settings a)
    (hb : Latest settings b) : a = b := by
  refine ext_of_keys ?_ (ha.keys.trans hb.keys.symm) fun key => (ha.last key).trans (hb.last key).symm
  rw [ha.keys]
  exact nodup_eraseDups _
end Entries

end VirtualImports
