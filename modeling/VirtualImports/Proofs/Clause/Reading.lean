import Mathlib.Data.List.Forall2
import VirtualImports.Proofs.Clause.Names

/-!
What a sequence of lexemes binds.

* `read_unplaced`: the offsets of the tokens matter to the places of faults only;
* `addEntry_of_isEntry`, `exists_isEntry_of_addEntry`: the words that are an entry, and no others, add
  what it binds;
* `run_braced`: a brace list binds its entries one by one;
* `isEntry_words`: the words of an entry are read as that entry, whatever its names are.
-/
namespace VirtualImports

namespace Clause

/-! ## Offsets -/

/-- The token at the start of the clause. -/
def Token.unplaced (token : Token) : Token :=
  { token with position := 0 }

def Phase.unplaced : Phase → Phase
  | due comma => due (comma.map fun _ => 0)
  | afterPart => afterPart
  | afterStar _ => afterStar 0
  | afterAs _ => afterAs 0
  | inList _ words => inList 0 words

def Progress.unplaced (progress : Progress) : Progress :=
  { progress with phase := progress.phase.unplaced }

def LocatedFault.unplaced (fault : LocatedFault) : LocatedFault :=
  { fault with position := 0 }

theorem addEntry_unplaced (words : List String) (position : Nat) (bound : Bindings) :
    addEntry words 0 bound = (addEntry words position bound).mapError LocatedFault.unplaced := by
  unfold addEntry
  split
  · rfl
  · dsimp only
    split <;> rfl

namespace Progress

theorem beginPart_unplaced (progress : Progress) (token : Token) :
    progress.unplaced.beginPart token.unplaced =
      ((progress.beginPart token).map unplaced).mapError LocatedFault.unplaced := by
  obtain ⟨phase, listSeen, bound⟩ := progress
  obtain ⟨lexeme, position⟩ := token
  cases lexeme with
  | star =>
    obtain ⟨named, types, defaultName, namespaceName⟩ := bound
    cases namespaceName <;> rfl
  | openBrace => cases listSeen <;> rfl
  | closeBrace => rfl
  | comma => rfl
  | name name =>
    obtain ⟨named, types, defaultName, namespaceName⟩ := bound
    cases defaultName <;> rfl

theorem stepList_unplaced (progress : Progress) (opened : Nat) (words : List String)
    (token : Token) :
    progress.unplaced.stepList 0 words token.unplaced =
      ((progress.stepList opened words token).map unplaced).mapError LocatedFault.unplaced := by
  obtain ⟨phase, listSeen, bound⟩ := progress
  obtain ⟨lexeme, position⟩ := token
  cases lexeme with
  | star => rfl
  | openBrace => rfl
  | closeBrace =>
    simp only [stepList, unplaced, Token.unplaced, addEntry_unplaced words position]
    cases addEntry words position bound <;> rfl
  | comma =>
    simp only [stepList, unplaced, Token.unplaced, addEntry_unplaced words position]
    cases addEntry words position bound <;> rfl
  | name name => rfl

theorem step_unplaced (progress : Progress) (token : Token) :
    progress.unplaced.step token.unplaced =
      ((progress.step token).map unplaced).mapError LocatedFault.unplaced := by
  obtain ⟨phase, listSeen, bound⟩ := progress
  cases phase with
  | due comma => exact beginPart_unplaced ⟨.due comma, listSeen, bound⟩ token
  | afterPart =>
    obtain ⟨lexeme, position⟩ := token
    cases lexeme with
    | name name =>
      cases listSeen with
      | true => exact beginPart_unplaced ⟨.afterPart, true, bound⟩ ⟨.name name, position⟩
      | false => rfl
    | _ => rfl
  | afterStar star =>
    by_cases word : token.lexeme = .name "as" <;>
      simp [step, unplaced, Phase.unplaced, Token.unplaced, LocatedFault.unplaced, word, Except.map,
        Except.mapError]
  | afterAs place =>
    obtain ⟨lexeme, position⟩ := token
    cases lexeme <;> rfl
  | inList opened words =>
    exact stepList_unplaced ⟨.inList opened words, listSeen, bound⟩ opened words token

theorem finish_unplaced (progress : Progress) :
    progress.unplaced.finish = progress.finish.mapError LocatedFault.unplaced := by
  obtain ⟨phase, listSeen, bound⟩ := progress
  cases phase with
  | due comma => cases comma <;> rfl
  | _ => rfl

theorem foldlM_unplaced (tokens : List Token) (progress : Progress) :
    (tokens.map Token.unplaced).foldlM step progress.unplaced =
      ((tokens.foldlM step progress).map unplaced).mapError LocatedFault.unplaced := by
  induction tokens generalizing progress with
  | nil => rfl
  | cons token tokens ih =>
    rw [List.map_cons, List.foldlM_cons, List.foldlM_cons, step_unplaced]
    cases progress.step token with
    | error fault => rfl
    | ok next => exact ih next

end Progress

/-- Whether a clause can be read and what it binds does not depend on the offsets of its tokens. -/
theorem read_unplaced (tokens : List Token) :
    read (tokens.map Token.unplaced) = (read tokens).mapError LocatedFault.unplaced := by
  have run := Progress.foldlM_unplaced tokens Progress.start
  have start : Progress.start.unplaced = Progress.start := rfl
  rw [start] at run
  unfold read
  rw [run]
  cases tokens.foldlM Progress.step Progress.start with
  | error fault => rfl
  | ok progress => exact Progress.finish_unplaced progress

theorem map_unplaced (tokens : List Token) :
    tokens.map Token.unplaced = (tokens.map Token.lexeme).map fun lexeme => ⟨lexeme, 0⟩ := by
  rw [List.map_map]
  rfl

/-- What a clause binds depends on its lexemes alone. -/
theorem toOption_read_of_lexemes {first second : List Token}
    (same : first.map Token.lexeme = second.map Token.lexeme) :
    (read first).toOption = (read second).toOption := by
  have unplaced (tokens : List Token) :
      (read (tokens.map Token.unplaced)).toOption = (read tokens).toOption := by
    rw [read_unplaced]
    cases read tokens <;> rfl
  rw [← unplaced first, ← unplaced second, map_unplaced, map_unplaced, same]

/-! ## Runs over lexemes -/

/-- Reads lexemes, wherever they stand. -/
def Progress.run (progress : Progress) (lexemes : List Lexeme) : Except LocatedFault Progress :=
  (lexemes.map fun lexeme => ⟨lexeme, 0⟩).foldlM Progress.step progress

theorem read_of_run {tokens : List Token} {progress : Progress} {bindings : Bindings}
    (run : Progress.start.run (tokens.map Token.lexeme) = .ok progress)
    (finish : progress.finish = .ok bindings) : read tokens = .ok bindings := by
  have whole : read (tokens.map Token.unplaced) = .ok bindings := by
    rw [Progress.run, ← map_unplaced] at run
    rw [read, run]
    exact finish
  rw [read_unplaced] at whole
  cases found : read tokens with
  | error fault =>
    rw [found] at whole
    cases whole
  | ok other =>
    rw [found] at whole
    cases whole
    rfl

namespace Progress

theorem run_append (progress : Progress) (a b : List Lexeme) :
    progress.run (a ++ b) = (progress.run a).bind fun next => next.run b := by
  rw [run, List.map_append, List.foldlM_append]
  rfl

theorem run_append_of_run {progress next : Progress} {a : List Lexeme}
    (h : progress.run a = .ok next) (b : List Lexeme) : progress.run (a ++ b) = next.run b := by
  rw [run_append, h]
  rfl

variable {listSeen : Bool} {bound : Bindings} {comma : Option Nat}

theorem run_default (name : String) (absent : bound.defaultName = none) :
    run ⟨.due comma, listSeen, bound⟩ [.name name] =
      .ok ⟨.afterPart, listSeen, { bound with defaultName := some name }⟩ := by
  simp only [run, List.map_cons, List.map_nil, List.foldlM_cons, List.foldlM_nil, step, beginPart,
    absent, Option.isSome_none, Bool.false_eq_true, if_false]
  rfl

theorem run_wholeModule (name : String) (absent : bound.namespaceName = none) :
    run ⟨.due comma, listSeen, bound⟩ [.star, .name "as", .name name] =
      .ok ⟨.afterPart, listSeen, { bound with namespaceName := some name }⟩ := by
  simp only [run, List.map_cons, List.map_nil, List.foldlM_cons, List.foldlM_nil, step, beginPart,
    absent, Option.isSome_none, Bool.false_eq_true, if_false]
  rfl

theorem run_comma : run ⟨.afterPart, listSeen, bound⟩ [.comma] =
    .ok ⟨.due (some 0), listSeen, bound⟩ :=
  rfl

/-- Words of an entry are collected. -/
theorem run_words (opened : Nat) (before words : List String) :
    run ⟨.inList opened before, listSeen, bound⟩ (words.map Lexeme.name) =
      .ok ⟨.inList opened (before ++ words), listSeen, bound⟩ := by
  induction words generalizing before with
  | nil =>
    rw [List.append_nil]
    rfl
  | cons word words ih =>
    have first : run ⟨.inList opened before, listSeen, bound⟩ [.name word] =
        .ok ⟨.inList opened (before ++ [word]), listSeen, bound⟩ := rfl
    rw [List.map_cons, ← List.singleton_append, run_append_of_run first, ih, List.append_assoc]
    rfl

end Progress

/-- Parts of a clause that are read one after the other: from no brace list seen, or one, and some
bindings to the same at their end. -/
inductive Parts : Bool → Bindings → List (List Lexeme) → Bool → Bindings → Prop
  | nil {listSeen : Bool} {bound : Bindings} : Parts listSeen bound [] listSeen bound
  | cons {listSeen listSeen' listSeen'' : Bool} {bound bound' bound'' : Bindings}
      {part : List Lexeme} {parts : List (List Lexeme)}
      (first : ∀ comma, Progress.run ⟨.due comma, listSeen, bound⟩ part =
        .ok ⟨.afterPart, listSeen', bound'⟩)
      (later : Parts listSeen' bound' parts listSeen'' bound'') :
      Parts listSeen bound (part :: parts) listSeen'' bound''

theorem Parts.append {listSeen listSeen' listSeen'' : Bool} {bound bound' bound'' : Bindings}
    {a b : List (List Lexeme)} (first : Parts listSeen bound a listSeen' bound')
    (second : Parts listSeen' bound' b listSeen'' bound'') :
    Parts listSeen bound (a ++ b) listSeen'' bound'' := by
  induction first with
  | nil => exact second
  | cons here _ ih => exact .cons here (ih second)

/-- Parts with commas between them are read one after the other. -/
theorem Parts.run {listSeen listSeen' : Bool} {bound bound' : Bindings}
    {parts : List (List Lexeme)} (h : Parts listSeen bound parts listSeen' bound')
    (ne : parts ≠ []) (comma : Option Nat) :
    Progress.run ⟨.due comma, listSeen, bound⟩ ([.comma].intercalate parts) =
      .ok ⟨.afterPart, listSeen', bound'⟩ := by
  induction h generalizing comma with
  | nil => exact absurd rfl ne
  | cons first later ih =>
    cases later with
    | nil =>
      rw [List.intercalate_singleton]
      exact first comma
    | cons second later =>
      rw [List.intercalate_cons_cons, List.append_assoc,
        Progress.run_append_of_run (first comma), Progress.run_append_of_run Progress.run_comma]
      exact ih (by simp) (some 0)

end Clause

/-! ## Entries -/

def Bindings.insertAll (bindings : List Binding) (bound : Bindings) : Bindings :=
  bindings.foldl (fun bound binding => bound.insert binding) bound

theorem Bindings.names_insertAll (bindings : List Binding) (bound : Bindings) :
    (bound.insertAll bindings).defaultName = bound.defaultName ∧
      (bound.insertAll bindings).namespaceName = bound.namespaceName := by
  induction bindings generalizing bound with
  | nil => exact ⟨rfl, rfl⟩
  | cons binding bindings ih =>
    have same : (bound.insert binding).defaultName = bound.defaultName ∧
        (bound.insert binding).namespaceName = bound.namespaceName := by
      unfold insert
      split <;> exact ⟨rfl, rfl⟩
    obtain ⟨default, wholeModule⟩ := ih (bound.insert binding)
    exact ⟨default.trans same.1, wholeModule.trans same.2⟩

/-- The words of one entry of a brace list, and what the entry binds. Three words are an entry under
another name even if the first of them is `type`. -/
inductive IsEntry : List String → List Binding → Prop
  | empty : IsEntry [] []
  | plain (name : String) : IsEntry [name] [⟨name, name, false⟩]
  | renamed (imported localName : String) :
      IsEntry [imported, "as", localName] [⟨imported, localName, false⟩]
  | marked (name : String) : IsEntry ["type", name] [⟨name, name, true⟩]
  | markedRenamed (imported localName : String) :
      IsEntry ["type", imported, "as", localName] [⟨imported, localName, true⟩]

namespace Clause

/-- An entry of one or three words has no mark, even if its first word is `type`. -/
theorem splitTypeMark_of_unmarked (entry : List String)
    (h : entry.length = 1 ∨ entry.length = 3) : splitTypeMark entry = (false, entry) := by
  unfold splitTypeMark
  split
  · rename_i rest
    rw [List.length_cons] at h
    rw [if_neg (by omega)]
  · rfl

/-- The mark is taken off words that begin with it, and all else is left. -/
theorem splitTypeMark_cases (words : List String) :
    (∃ entry, words = "type" :: entry ∧ (entry.length = 1 ∨ entry.length = 3) ∧
      splitTypeMark words = (true, entry)) ∨ splitTypeMark words = (false, words) := by
  unfold splitTypeMark
  split
  · rename_i rest
    split
    · rename_i counted
      exact .inl ⟨rest, rfl, counted, rfl⟩
    · exact .inr rfl
  · exact .inr rfl

theorem addEntry_of_isEntry {words : List String} {bindings : List Binding}
    (h : IsEntry words bindings) (position : Nat) (bound : Bindings) :
    addEntry words position bound = .ok (bound.insertAll bindings) := by
  cases h with
  | empty => rfl
  | plain name =>
    rw [addEntry, splitTypeMark_of_unmarked [name] (.inl rfl)]
    rfl
  | renamed imported localName =>
    rw [addEntry, splitTypeMark_of_unmarked [imported, "as", localName] (.inr rfl)]
    rfl
  | marked name => rfl
  | markedRenamed imported localName => rfl

/-- Words are added if they are an entry, and only then. -/
theorem exists_isEntry_of_addEntry {words : List String} {position : Nat} {bound after : Bindings}
    (h : addEntry words position bound = .ok after) :
    ∃ bindings, IsEntry words bindings ∧ after = bound.insertAll bindings := by
  unfold addEntry at h
  split at h
  · rename_i none
    rw [List.isEmpty_iff.1 none]
    cases h
    exact ⟨[], .empty, rfl⟩
  · rcases splitTypeMark_cases words with ⟨entry, rfl, _, mark⟩ | mark
    · rw [mark] at h
      dsimp only at h
      split at h
      · cases h
        exact ⟨_, .marked _, rfl⟩
      · cases h
        exact ⟨_, .markedRenamed _ _, rfl⟩
      · cases h
    · rw [mark] at h
      dsimp only at h
      split at h
      · cases h
        exact ⟨_, .plain _, rfl⟩
      · cases h
        exact ⟨_, .renamed _ _, rfl⟩
      · cases h

/-- The lexemes of a brace list, from the words of its entries. -/
def braced (words : List (List String)) : List Lexeme :=
  .openBrace :: ([.comma].intercalate (words.map (List.map Lexeme.name)) ++ [.closeBrace])

namespace Progress

variable {listSeen : Bool} {bound : Bindings}

theorem run_closeBrace {words : List String} {bindings : List Binding}
    (entry : IsEntry words bindings) (opened : Nat) :
    run ⟨.inList opened words, listSeen, bound⟩ [.closeBrace] =
      .ok ⟨.afterPart, true, bound.insertAll bindings⟩ := by
  simp only [run, List.map_cons, List.map_nil, List.foldlM_cons, List.foldlM_nil, step, stepList,
    addEntry_of_isEntry entry]
  rfl

theorem run_entryComma {words : List String} {bindings : List Binding}
    (entry : IsEntry words bindings) (opened : Nat) :
    run ⟨.inList opened words, listSeen, bound⟩ [.comma] =
      .ok ⟨.inList opened [], listSeen, bound.insertAll bindings⟩ := by
  simp only [run, List.map_cons, List.map_nil, List.foldlM_cons, List.foldlM_nil, step, stepList,
    addEntry_of_isEntry entry]
  rfl

theorem run_entries {words : List (List String)} {entries : List (List Binding)}
    (each : List.Forall₂ IsEntry words entries) (opened : Nat) :
    run ⟨.inList opened [], listSeen, bound⟩
        ([.comma].intercalate (words.map (List.map Lexeme.name)) ++ [.closeBrace]) =
      .ok ⟨.afterPart, true, bound.insertAll entries.flatten⟩ := by
  induction each generalizing bound with
  | nil => rfl
  | @cons first bindings words entries entry later ih =>
    have collected : run ⟨.inList opened [], listSeen, bound⟩ (first.map Lexeme.name) =
        .ok ⟨.inList opened first, listSeen, bound⟩ := run_words opened [] first
    have inserted : bound.insertAll (bindings :: entries).flatten =
        (bound.insertAll bindings).insertAll entries.flatten := by
      rw [List.flatten_cons, Bindings.insertAll, List.foldl_append]
      rfl
    rw [inserted]
    cases later with
    | nil =>
      rw [List.map_cons, List.map_nil, List.intercalate_singleton, run_append_of_run collected]
      exact run_closeBrace entry opened
    | cons second later =>
      rw [List.map_cons, List.map_cons, List.intercalate_cons_cons, List.append_assoc,
        List.append_assoc, run_append_of_run collected,
        run_append_of_run (run_entryComma entry opened)]
      exact ih

/-- A brace list binds its entries one by one. -/
theorem run_braced {comma : Option Nat} {words : List (List String)}
    {entries : List (List Binding)} (each : List.Forall₂ IsEntry words entries) :
    run ⟨.due comma, false, bound⟩ (braced words) =
      .ok ⟨.afterPart, true, bound.insertAll entries.flatten⟩ := by
  have opening : run ⟨.due comma, false, bound⟩ [.openBrace] =
      .ok ⟨.inList 0 [], false, bound⟩ := rfl
  rw [braced, ← List.singleton_append, run_append_of_run opening]
  exact run_entries each 0

end Progress

end Clause

/-- The words of an entry. The mark `type` is written only where the statement has none. -/
def Binding.words (marked : Bool) (binding : Binding) : List String :=
  (if marked && binding.isType then ["type"] else []) ++
    if binding.imported = binding.localName then [binding.imported]
    else [binding.imported, "as", binding.localName]

/-- The entry as it is read back: without a mark it is none for a type. -/
def Binding.readBack (marked : Bool) (binding : Binding) : Binding :=
  { binding with isType := marked && binding.isType }

/-- The words of an entry are read as that entry, whatever its names are. -/
theorem Binding.isEntry_words (marked : Bool) (binding : Binding) :
    IsEntry (binding.words marked) [binding.readBack marked] := by
  obtain ⟨imported, localName, isType⟩ := binding
  unfold words readBack
  by_cases mark : (marked && isType) = true <;> by_cases same : imported = localName
  · subst same
    simp only [mark, if_true, List.singleton_append]
    exact .marked imported
  · simp only [mark, if_true, same, if_false, List.singleton_append]
    exact .markedRenamed imported localName
  · subst same
    simp only [mark, if_true, Bool.false_eq_true, if_false, List.nil_append]
    exact .plain imported
  · simp only [mark, same, Bool.false_eq_true, if_false, List.nil_append]
    exact .renamed imported localName

namespace Clause

/-- The lexemes of a brace list. -/
def listLexemes (marked : Bool) (named : List Binding) : List Lexeme :=
  .openBrace :: ([.comma].intercalate
    (named.map fun binding => (binding.words marked).map Lexeme.name) ++ [.closeBrace])

theorem listLexemes_eq_braced (marked : Bool) (named : List Binding) :
    listLexemes marked named = braced (named.map (Binding.words marked)) := by
  rw [listLexemes, braced, List.map_map]
  rfl

theorem Progress.run_list {bound : Bindings} {comma : Option Nat} (marked : Bool)
    (named : List Binding) :
    run ⟨.due comma, false, bound⟩ (listLexemes marked named) =
      .ok ⟨.afterPart, true,
        named.foldl (fun bound binding => bound.insert (binding.readBack marked)) bound⟩ := by
  have each : List.Forall₂ IsEntry (named.map (Binding.words marked))
      (named.map fun binding => [binding.readBack marked]) := by
    rw [List.forall₂_map_left_iff, List.forall₂_map_right_iff, List.forall₂_same]
    exact fun binding _ => binding.isEntry_words marked
  have single : (named.map fun binding => [binding.readBack marked]).flatten =
      named.map (Binding.readBack marked) := by
    rw [← List.flatMap_def, List.map_eq_flatMap]
  rw [listLexemes_eq_braced, run_braced each, single, Bindings.insertAll, List.foldl_map]

end Clause

end VirtualImports
