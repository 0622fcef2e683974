import VirtualImports.Proofs.Configuration.Acceptance
import VirtualImports.Proofs.Data.Entries
import VirtualImports.Proofs.Statement.Quotes

/-!
The names that a clause binds.

* `isName_of_mem_scan`: the words of a clause are names;
* `wellNamed_of_step`: a token adds names to the bindings, and no local name twice;
* `wellNamed_of_read`: a statement that can be read binds names only, each in one place of its map.
-/
namespace VirtualImports

open Text

/-- A name as the clause reader takes it for one word. -/
def IsName (name : String) : Prop :=
  ∃ c tail, name.toList = c :: tail ∧ Clause.startsName c = true ∧
    ∀ d ∈ tail, Clause.continuesName d = true

theorem IsName.continues {name : String} (h : IsName name) :
    ∀ c ∈ name.toList, Clause.continuesName c = true := by
  obtain ⟨c, tail, same, start, more⟩ := h
  rw [same]
  intro d hd
  rcases List.mem_cons.1 hd with rfl | hd
  · exact Clause.continuesName_of_startsName start
  · exact more d hd

theorem IsName.plain {name : String} (h : IsName name) : Plain name.toList := by
  constructor
  · intro c hc
    exact Clause.isQuote_of_isTokenChar (by simp [Clause.isTokenChar, h.continues c hc])
  · rintro c hc rfl
    exact absurd (h.continues _ hc) (by decide)

theorem IsName.ne_empty {name : String} (h : IsName name) : name ≠ "" := by
  rintro rfl
  obtain ⟨_, _, same, _⟩ := h
  cases same

/-! ## Bindings -/

/-- All names are names, and no map has a local name twice. -/
structure Bindings.WellNamed (bindings : Bindings) : Prop where
  named : ∀ entry ∈ bindings.named, IsName entry.1 ∧ IsName entry.2
  types : ∀ entry ∈ bindings.types, IsName entry.1 ∧ IsName entry.2
  default : ∀ name ∈ bindings.defaultName, IsName name
  wholeModule : ∀ name ∈ bindings.namespaceName, IsName name
  namedDistinct : bindings.named.keys.Nodup
  typesDistinct : bindings.types.keys.Nodup

theorem Bindings.WellNamed.empty : Bindings.empty.WellNamed := by
  constructor <;> simp [Bindings.empty, Entries.keys]

theorem Bindings.WellNamed.insert {bindings : Bindings} (h : bindings.WellNamed)
    {binding : Binding} (imported : IsName binding.imported) (localName : IsName binding.localName) :
    (bindings.insert binding).WellNamed := by
  have added {entries : Entries String} (old : ∀ entry ∈ entries, IsName entry.1 ∧ IsName entry.2) :
      ∀ entry ∈ entries.set binding.localName binding.imported,
        IsName entry.1 ∧ IsName entry.2 := by
    intro entry mem
    rcases Entries.mem_set mem with rfl | mem
    · exact ⟨localName, imported⟩
    · exact old entry mem
  unfold Bindings.insert
  split
  · exact ⟨h.named, added h.types, h.default, h.wholeModule, h.namedDistinct,
      Entries.nodup_keys_set h.typesDistinct⟩
  · exact ⟨added h.named, h.types, h.default, h.wholeModule,
      Entries.nodup_keys_set h.namedDistinct, h.typesDistinct⟩

theorem Bindings.WellNamed.same_self {bindings : Bindings} (h : bindings.WellNamed) :
    bindings.same bindings = true := by
  simp [Bindings.same, Entries.sameMap_self h.namedDistinct, Entries.sameMap_self h.typesDistinct]

namespace Clause

/-- The words of a clause are names. -/
theorem isName_of_mem_scan {position : Nat} {s : List Char} {token : Token} {name : String}
    (h : token ∈ (scanFrom position s).tokens) (word : token.lexeme = .name name) :
    IsName name := by
  fun_induction scanFrom position s with
  | case1 => cases h
  | case2 position c rest blank ih => exact ih h
  | case3 position c rest blank lexeme mark ih =>
    rcases List.mem_cons.1 h with rfl | h
    · unfold Lexeme.ofPunctuation? at mark
      dsimp only at word
      subst word
      split at mark
      · cases mark
      split at mark
      · cases mark
      split at mark
      · cases mark
      split at mark <;> cases mark
    · exact ih h
  | case4 position c rest blank mark start tail ih =>
    rcases List.mem_cons.1 h with rfl | h
    · cases word
      exact ⟨c, tail, String.toList_ofList, start, fun d hd => List.mem_takeWhile_imp hd⟩
    · exact ih h
  | case5 => cases h

/-- The words of the entry that is being read. -/
def Phase.words : Phase → List String
  | inList _ words => words
  | _ => []

namespace Progress

/-- What has been read so far is made of names. -/
structure WellNamed (progress : Progress) : Prop where
  bound : progress.bound.WellNamed
  words : ∀ word ∈ progress.phase.words, IsName word

end Progress

theorem splitTypeMark_subset (words : List String) : (splitTypeMark words).2 ⊆ words := by
  unfold splitTypeMark
  split
  · split
    · exact List.subset_cons_self _ _
    · exact List.Subset.refl _
  · exact List.Subset.refl _

theorem wellNamed_of_addEntry {words : List String} {position : Nat} {bound after : Bindings}
    (h : addEntry words position bound = .ok after) (names : ∀ word ∈ words, IsName word)
    (old : bound.WellNamed) : after.WellNamed := by
  have entry : ∀ word ∈ (splitTypeMark words).2, IsName word :=
    fun word mem => names word (splitTypeMark_subset words mem)
  unfold addEntry at h
  split at h
  · cases h
    exact old
  · dsimp only at h
    split at h
    · rename_i name found
      cases h
      rw [found] at entry
      exact old.insert (entry name (by simp)) (entry name (by simp))
    · rename_i imported localName found
      cases h
      rw [found] at entry
      exact old.insert (entry imported (by simp)) (entry localName (by simp))
    · cases h

namespace Progress

theorem wellNamed_of_beginPart {progress after : Progress} {token : Token}
    (h : progress.beginPart token = .ok after) (old : progress.WellNamed)
    (names : ∀ name, token.lexeme = .name name → IsName name) : after.WellNamed := by
  unfold beginPart at h
  split at h
  · split at h <;> cases h
    exact ⟨old.bound, by simp [Phase.words]⟩
  · split at h <;> cases h
    exact ⟨old.bound, by simp [Phase.words]⟩
  · rename_i name found
    split at h <;> cases h
    refine ⟨⟨old.bound.named, old.bound.types, ?_, old.bound.wholeModule, old.bound.namedDistinct,
      old.bound.typesDistinct⟩, by simp [Phase.words]⟩
    rintro _ ⟨⟩
    exact names name found
  · cases h
  · cases h

theorem wellNamed_of_stepList {progress after : Progress} {opened : Nat} {words : List String}
    {token : Token} (h : progress.stepList opened words token = .ok after)
    (old : progress.bound.WellNamed) (entry : ∀ word ∈ words, IsName word)
    (names : ∀ name, token.lexeme = .name name → IsName name) : after.WellNamed := by
  unfold stepList at h
  split at h
  · obtain ⟨bound, added, rfl⟩ := Except.map_eq_ok.1 h
    exact ⟨wellNamed_of_addEntry added entry old, by simp [Phase.words]⟩
  · obtain ⟨bound, added, rfl⟩ := Except.map_eq_ok.1 h
    exact ⟨wellNamed_of_addEntry added entry old, by simp [Phase.words]⟩
  · rename_i name found
    cases h
    refine ⟨old, ?_⟩
    intro word mem
    rcases List.mem_append.1 mem with mem | mem
    · exact entry word mem
    · rw [List.mem_singleton.1 mem]
      exact names name found
  · cases h
  · cases h

/-- A token adds names to the bindings, and no local name twice. -/
theorem wellNamed_of_step {progress after : Progress} {token : Token}
    (h : progress.step token = .ok after) (old : progress.WellNamed)
    (names : ∀ name, token.lexeme = .name name → IsName name) : after.WellNamed := by
  unfold step at h
  split at h
  · exact wellNamed_of_beginPart h old names
  · split at h
    · cases h
      exact ⟨old.bound, by simp [Phase.words]⟩
    · split at h
      · exact wellNamed_of_beginPart h old names
      · cases h
    · cases h
  · split at h <;> cases h
    exact ⟨old.bound, by simp [Phase.words]⟩
  · split at h
    · rename_i name found
      cases h
      refine ⟨⟨old.bound.named, old.bound.types, old.bound.default, ?_, old.bound.namedDistinct,
        old.bound.typesDistinct⟩, by simp [Phase.words]⟩
      rintro _ ⟨⟩
      exact names name found
    · cases h
  · rename_i opened words phase
    exact wellNamed_of_stepList h old.bound (by simpa [phase, Phase.words] using old.words) names

theorem bound_of_finish {progress : Progress} {bindings : Bindings}
    (h : progress.finish = .ok bindings) : bindings = progress.bound := by
  unfold finish at h
  split at h <;> cases h <;> rfl

theorem wellNamed_of_foldlM {tokens : List Token} {progress after : Progress}
    (h : tokens.foldlM step progress = .ok after) (old : progress.WellNamed)
    (names : ∀ token ∈ tokens, ∀ name, token.lexeme = .name name → IsName name) :
    after.WellNamed := by
  induction tokens generalizing progress with
  | nil =>
    cases h
    exact old
  | cons token tokens ih =>
    rw [List.foldlM_cons] at h
    cases found : progress.step token with
    | error fault =>
      rw [found] at h
      cases h
    | ok next =>
      rw [found] at h
      exact ih h (wellNamed_of_step found old (names token (by simp)))
        fun other mem => names other (by simp [mem])

end Progress

end Clause

/-- **What can be read binds names.** -/
theorem ImportStatement.wellNamed_of_read {s : List Char} {statement : ImportStatement}
    (h : read s = .ok statement) : statement.bindings.WellNamed := by
  obtain ⟨header, _, clause, _⟩ := exists_header_of_read h
  obtain ⟨_, found, _⟩ := scan_of_readClause clause
  unfold Clause.read at found
  split at found
  · rename_i progress run
    have last := Clause.Progress.wellNamed_of_foldlM run
      ⟨Bindings.WellNamed.empty, by simp [Clause.Progress.start, Clause.Phase.words]⟩
      fun token mem name word => Clause.isName_of_mem_scan mem word
    rw [Clause.Progress.bound_of_finish found]
    exact last.bound
  · cases found

/-- What can be read binds something. -/
theorem ImportStatement.isEmpty_of_read {s : List Char} {statement : ImportStatement}
    (h : read s = .ok statement) : statement.bindings.isEmpty = false := by
  obtain ⟨_, _, clause, _⟩ := exists_header_of_read h
  exact (scan_of_readClause clause).2.2

end VirtualImports
