import VirtualImports.Proofs.Clause.Meaning
import VirtualImports.Statement.Reading

/-!
The clauses that are read.

* `IsClause.exists_run`: a clause is run through from its first lexeme to its last;
* `shows_step`, `shows_run`: a token goes on with what has been read in the way of the grammar, and
  so do all tokens up to any place;
* `readTokens_iff`: the reader takes clauses that bind something, and nothing else.
-/
namespace VirtualImports.Clause

/-! ## Clauses are read -/

/-- A part of a new kind is read where a part is due. -/
theorem IsPart.exists_run {lexemes : List Lexeme} {part : Part} (here : IsPart lexemes part)
    {parts : List Part} {listSeen : Bool} {bound : Bindings} (known : Known parts listSeen bound)
    (new : part.kind ∉ parts.map Part.kind) :
    ∃ listSeen' bound', Known (parts ++ [part]) listSeen' bound' ∧
      ∀ comma, Progress.run ⟨.due comma, listSeen, bound⟩ lexemes =
        .ok ⟨.afterPart, listSeen', bound'⟩ := by
  cases here with
  | wholeModule name =>
    have absent : bound.namespaceName = none := by
      rw [← Option.not_isSome_iff_eq_none, known.wholeModule_isSome]
      exact new
    exact ⟨_, _, known.wholeModule new name, fun _ => Progress.run_wholeModule name absent⟩
  | default name =>
    have absent : bound.defaultName = none := by
      rw [← Option.not_isSome_iff_eq_none, known.default_isSome]
      exact new
    exact ⟨_, _, known.default new name, fun _ => Progress.run_default name absent⟩
  | @list words entries each =>
    have unseen : listSeen = false := by
      rw [← Bool.not_eq_true, known.seen]
      exact new
    subst unseen
    exact ⟨_, _, known.list entries.flatten, fun _ => Progress.run_braced each⟩

/-- A clause is run through, and its parts are known then. -/
theorem IsClause.exists_run {lexemes : List Lexeme} {parts : List Part}
    (clause : IsClause lexemes parts) :
    ∃ listSeen bound, Known parts listSeen bound ∧
      Progress.start.run lexemes = .ok ⟨.afterPart, listSeen, bound⟩ := by
  induction clause with
  | first here =>
    obtain ⟨listSeen, bound, known, run⟩ := here.exists_run known_nil (by simp)
    exact ⟨listSeen, bound, known, run none⟩
  | comma _ here new ih =>
    obtain ⟨_, _, before, runBefore⟩ := ih
    obtain ⟨listSeen, bound, known, run⟩ := here.exists_run before new
    refine ⟨listSeen, bound, known, ?_⟩
    rw [Progress.run_append_of_run (Progress.run_append_of_run runBefore _)]
    exact run (some 0)
  | bare _ name behind new ih =>
    obtain ⟨listSeen, bound, before, runBefore⟩ := ih
    have seen : listSeen = true := before.seen.2 behind
    have absent : bound.defaultName.isSome = false := by
      rw [← Bool.not_eq_true, before.default_isSome]
      exact new
    subst seen
    refine ⟨true, _, before.default new name, ?_⟩
    rw [Progress.run_append_of_run runBefore]
    simp only [Progress.run, List.map_cons, List.map_nil, List.foldlM_cons, List.foldlM_nil,
      Progress.step, Progress.beginPart, absent, if_true, Bool.false_eq_true, if_false]
    rfl

/-! ## What is read is a clause -/

/-- The lexemes in front of a part: none, or a clause and a comma. -/
inductive Opens : List Lexeme → List Part → Prop
  | start : Opens [] []
  | comma {before : List Lexeme} {parts : List Part} (earlier : IsClause before parts) :
      Opens (before ++ [.comma]) parts

theorem Opens.clause {before lexemes : List Lexeme} {parts : List Part} {part : Part}
    (opens : Opens before parts) (here : IsPart lexemes part)
    (new : part.kind ∉ parts.map Part.kind) : IsClause (before ++ lexemes) (parts ++ [part]) := by
  cases opens with
  | start => exact .first here
  | comma earlier => exact .comma earlier here new

/-- The lexemes of the entries of a brace list that a comma has closed. -/
def closed (words : List (List String)) : List Lexeme :=
  words.flatMap fun entry => entry.map Lexeme.name ++ [.comma]

theorem closed_concat (words : List (List String)) (last : List String) :
    closed (words ++ [last]) = closed words ++ (last.map Lexeme.name ++ [.comma]) := by
  simp [closed]

theorem braced_concat (words : List (List String)) (last : List String) :
    braced (words ++ [last]) =
      .openBrace :: (closed words ++ (last.map Lexeme.name ++ [.closeBrace])) := by
  have entries : [Lexeme.comma].intercalate ((words ++ [last]).map (List.map Lexeme.name)) =
      closed words ++ last.map Lexeme.name := by
    induction words with
    | nil => simp [closed]
    | cons first words ih =>
      obtain ⟨second, more, same⟩ := List.exists_cons_of_ne_nil (l := words ++ [last]) (by simp)
      rw [same] at ih
      rw [List.cons_append, same, List.map_cons, List.map_cons, List.intercalate_cons_cons,
        ← List.map_cons, ih]
      simp [closed]
  rw [braced, entries, List.append_assoc]

/-- How far the grammar has been followed when some lexemes have been read. -/
def Shows (done : List Lexeme) (progress : Progress) : Prop :=
  match progress.phase with
  | .due comma => ∃ parts, Opens done parts ∧ (comma = none → parts = []) ∧
      Known parts progress.listSeen progress.bound
  | .afterPart => ∃ parts, IsClause done parts ∧ Known parts progress.listSeen progress.bound
  | .afterStar _ => ∃ before parts, done = before ++ [.star] ∧ Opens before parts ∧
      .wholeModule ∉ parts.map Part.kind ∧ Known parts progress.listSeen progress.bound
  | .afterAs _ => ∃ before parts, done = before ++ [.star, .name "as"] ∧ Opens before parts ∧
      .wholeModule ∉ parts.map Part.kind ∧ Known parts progress.listSeen progress.bound
  | .inList _ words => ∃ before parts complete entries base,
      done = before ++ .openBrace :: (closed complete ++ words.map Lexeme.name) ∧
      Opens before parts ∧ .list ∉ parts.map Part.kind ∧ List.Forall₂ IsEntry complete entries ∧
      Known parts progress.listSeen base ∧ progress.bound = base.insertAll entries.flatten

theorem insertAll_concat (base : Bindings) (entries : List (List Binding))
    (bindings : List Binding) :
    (base.insertAll entries.flatten).insertAll bindings =
      base.insertAll (entries ++ [bindings]).flatten := by
  simp [VirtualImports.Bindings.insertAll]

section
variable {done : List Lexeme} {token : Token} {progress after : Progress}

theorem shows_beginPart {parts : List Part} (opens : Opens done parts)
    (known : Known parts progress.listSeen progress.bound)
    (step : progress.beginPart token = .ok after) : Shows (done ++ [token.lexeme]) after := by
  unfold Progress.beginPart at step
  split at step
  · rename_i star
    split at step
    · cases step
    · rename_i new
      cases step
      rw [known.wholeModule_isSome] at new
      exact ⟨done, parts, by rw [star], opens, new, known⟩
  · rename_i openBrace
    split at step
    · cases step
    · rename_i new
      cases step
      rw [known.seen] at new
      exact ⟨done, parts, [], [], progress.bound, by rw [openBrace]; rfl, opens, new, .nil, known, rfl⟩
  · rename_i name word
    split at step
    · cases step
    · rename_i new
      cases step
      rw [known.default_isSome] at new
      exact ⟨_, word ▸ opens.clause (.default name) new, known.default new name⟩
  · cases step
  · cases step

theorem shows_stepList {opened : Nat} {words : List String}
    (shown : Shows done ⟨.inList opened words, progress.listSeen, progress.bound⟩)
    (step : progress.stepList opened words token = .ok after) :
    Shows (done ++ [token.lexeme]) after := by
  obtain ⟨before, parts, complete, entries, base, rfl, opens, new, each, known, bound⟩ := shown
  dsimp only at bound known
  unfold Progress.stepList at step
  split at step
  · rename_i closeBrace
    obtain ⟨bound', added, rfl⟩ := Except.map_eq_ok.1 step
    obtain ⟨bindings, entry, rfl⟩ := exists_isEntry_of_addEntry added
    have all : List.Forall₂ IsEntry (complete ++ [words]) (entries ++ [bindings]) :=
      List.rel_append each (.cons entry .nil)
    refine ⟨parts ++ [.list (entries ++ [bindings]).flatten], ?_, ?_⟩
    · have clause := opens.clause (.list all) new
      rw [braced_concat] at clause
      rw [closeBrace]
      simpa using clause
    · rw [bound, insertAll_concat]
      exact known.list _
  · rename_i comma
    obtain ⟨bound', added, rfl⟩ := Except.map_eq_ok.1 step
    obtain ⟨bindings, entry, rfl⟩ := exists_isEntry_of_addEntry added
    refine ⟨before, parts, complete ++ [words], entries ++ [bindings], base, ?_, opens, new,
      List.rel_append each (.cons entry .nil), known, ?_⟩
    · rw [comma, closed_concat]
      simp
    · rw [bound, insertAll_concat]
  · rename_i name word
    cases step
    refine ⟨before, parts, complete, entries, base, ?_, opens, new, each, known, bound⟩
    rw [word]
    simp
  · cases step
  · cases step

/-- A token goes on in the way of the grammar. -/
theorem shows_step (shown : Shows done progress) (step : progress.step token = .ok after) :
    Shows (done ++ [token.lexeme]) after := by
  obtain ⟨phase, listSeen, bound⟩ := progress
  cases phase with
  | due comma =>
    obtain ⟨parts, opens, _, known⟩ := shown
    exact shows_beginPart opens known step
  | afterPart =>
    obtain ⟨parts, clause, known⟩ := shown
    simp only [Progress.step] at step
    split at step
    · rename_i comma
      cases step
      exact ⟨parts, comma ▸ .comma clause, fun none => absurd none (Option.some_ne_none _), known⟩
    · rename_i name word
      split at step
      · rename_i seen
        rw [Progress.beginPart, word] at step
        dsimp only at step
        split at step
        · cases step
        · rename_i new
          cases step
          rw [known.default_isSome] at new
          exact ⟨_, word ▸ .bare clause name (known.seen.1 seen) new, known.default new name⟩
      · cases step
    · cases step
  | afterStar star =>
    obtain ⟨before, parts, rfl, opens, new, known⟩ := shown
    simp only [Progress.step] at step
    split at step
    · rename_i word
      cases step
      exact ⟨before, parts, by rw [word, List.append_assoc]; rfl, opens, new, known⟩
    · cases step
  | afterAs position =>
    obtain ⟨before, parts, rfl, opens, new, known⟩ := shown
    simp only [Progress.step] at step
    split at step
    · rename_i name word
      cases step
      have clause := opens.clause (.wholeModule name) new
      refine ⟨_, ?_, known.wholeModule new name⟩
      rw [word, List.append_assoc]
      exact clause
    · cases step
  | inList opened words => exact shows_stepList shown step

/-- So do all tokens, up to any place. -/
theorem shows_run {tokens : List Token} (shown : Shows done progress)
    (run : tokens.foldlM Progress.step progress = .ok after) :
    Shows (done ++ tokens.map Token.lexeme) after := by
  induction tokens generalizing done progress with
  | nil =>
    cases run
    rw [List.map_nil, List.append_nil]
    exact shown
  | cons token tokens ih =>
    rw [List.foldlM_cons] at run
    cases stepped : progress.step token with
    | error fault =>
      rw [stepped] at run
      cases run
    | ok next =>
      rw [stepped] at run
      rw [List.map_cons, List.append_cons]
      exact ih (shows_step shown stepped) run

end

theorem shows_start : Shows [] Progress.start :=
  ⟨[], .start, fun _ => rfl, known_nil⟩

/-- What can be read is a clause, unless there is nothing to read. -/
theorem exists_clause_of_read {tokens : List Token} {bound : Bindings}
    (h : read tokens = .ok bound) :
    bound = .empty ∨ ∃ parts, IsClause (tokens.map Token.lexeme) parts ∧ Reads parts bound := by
  unfold read at h
  split at h
  · rename_i progress run
    have shown := shows_run shows_start run
    rw [List.nil_append] at shown
    obtain ⟨phase, listSeen, found⟩ := progress
    unfold Progress.finish at h
    split at h
    · rename_i due
      cases due
      cases h
      obtain ⟨parts, _, none, known⟩ := shown
      rw [none rfl] at known
      exact .inl (known.reads.unique known_nil.reads)
    · rename_i after
      cases after
      cases h
      obtain ⟨parts, clause, known⟩ := shown
      exact .inr ⟨parts, clause, known.reads⟩
    · cases h
    · cases h
    · cases h
    · cases h
  · cases h

theorem IsClause.read_eq_ok {tokens : List Token} {parts : List Part} {bound : Bindings}
    (clause : IsClause (tokens.map Token.lexeme) parts) (reads : Reads parts bound) :
    read tokens = .ok bound := by
  obtain ⟨listSeen, found, known, run⟩ := clause.exists_run
  rw [reads.unique known.reads]
  exact read_of_run run rfl

/-- Reads the tokens of a clause, which has to bind something. -/
def readTokens (tokens : List Token) : Except Statement.Fault Bindings :=
  match read tokens with
  | .error fault => .error (.clause fault)
  | .ok bound => if bound.isEmpty then .error .bindsNothing else .ok bound

theorem readTokens_eq_ok {tokens : List Token} {bound : Bindings} :
    readTokens tokens = .ok bound ↔ read tokens = .ok bound ∧ bound.isEmpty = false := by
  unfold readTokens
  cases read tokens with
  | error fault => simp
  | ok found =>
    dsimp only
    split
    · rename_i empty
      simp only [reduceCtorEq, false_iff, Except.ok.injEq, not_and, Bool.not_eq_false]
      rintro rfl
      exact empty
    · rename_i filled
      rw [Bool.not_eq_true] at filled
      simp only [Except.ok.injEq]
      constructor
      · rintro rfl
        exact ⟨rfl, filled⟩
      · exact And.left

/-- **The reader takes the clauses of the grammar, and nothing else.** Tokens are read as what they
bind exactly if they are a clause that binds a name, and then they bind what the parts of the clause
say. All other tokens end in a fault. The tokens of a text without illegal characters are read in
this way. -/
theorem readTokens_iff (tokens : List Token) :
    (∀ bound, readTokens tokens = .ok bound ↔ ∃ parts, IsClause (tokens.map Token.lexeme) parts ∧
      (∃ part ∈ parts, part.Binds) ∧ Reads parts bound) ∧
    ((∃ fault, readTokens tokens = .error fault) ↔
      ¬ ∃ parts, IsClause (tokens.map Token.lexeme) parts ∧ ∃ part ∈ parts, part.Binds) ∧
    ∀ clause, scan clause = ⟨tokens, none⟩ → Statement.readClause clause = readTokens tokens := by
  have taken (bound : Bindings) : readTokens tokens = .ok bound ↔
      ∃ parts, IsClause (tokens.map Token.lexeme) parts ∧ (∃ part ∈ parts, part.Binds) ∧
        Reads parts bound := by
    rw [readTokens_eq_ok]
    constructor
    · rintro ⟨found, filled⟩
      rcases exists_clause_of_read found with rfl | ⟨parts, clause, reads⟩
      · cases filled
      · exact ⟨parts, clause, reads.isEmpty_eq_false.1 filled, reads⟩
    · rintro ⟨parts, clause, binds, reads⟩
      exact ⟨clause.read_eq_ok reads, reads.isEmpty_eq_false.2 binds⟩
  refine ⟨taken, ?_, ?_⟩
  · constructor
    · rintro ⟨fault, failed⟩ ⟨parts, clause, binds⟩
      obtain ⟨_, bound, known, _⟩ := clause.exists_run
      have found := (taken bound).2 ⟨parts, clause, binds, known.reads⟩
      rw [failed] at found
      cases found
    · intro none
      cases outcome : readTokens tokens with
      | error fault => exact ⟨fault, rfl⟩
      | ok bound =>
        obtain ⟨parts, clause, binds, _⟩ := (taken bound).1 outcome
        exact absurd ⟨parts, clause, binds⟩ none
  · intro clause scanned
    rw [Statement.readClause, scanned]
    rfl

/-- A brace list with a name `type`, a mark, and a local name that comes twice, and a default name
behind it without a comma. -/
def crowdedClause : List Char :=
  "{ type as T, A as B, type C as B, D as B } X".toList

def crowdedTokens : List Token :=
  (scan crowdedClause).tokens

def crowdedWords : List (List String) :=
  [["type", "as", "T"], ["A", "as", "B"], ["type", "C", "as", "B"], ["D", "as", "B"]]

def crowdedEntries : List (List Binding) :=
  [[⟨"type", "T", false⟩], [⟨"A", "B", false⟩], [⟨"C", "B", true⟩], [⟨"D", "B", false⟩]]

theorem readTokens_iff_sample :
    scan crowdedClause = ⟨crowdedTokens, none⟩ ∧
      Statement.readClause crowdedClause =
        .ok ⟨[("T", "type"), ("B", "D")], [("B", "C")], some "X", none⟩ := by
  obtain ⟨taken, _, text⟩ := readTokens_iff crowdedTokens
  have scanned : scan crowdedClause = ⟨crowdedTokens, none⟩ := by decide +kernel
  have each : List.Forall₂ IsEntry crowdedWords crowdedEntries :=
    .cons (.renamed "type" "T") (.cons (.renamed "A" "B")
      (.cons (.markedRenamed "C" "B") (.cons (.renamed "D" "B") .nil)))
  have clause := IsClause.bare (.first (.list each)) "X" (by decide) (by decide)
  have same : crowdedTokens.map Token.lexeme = braced crowdedWords ++ [.name "X"] := by decide +kernel
  have known := (known_nil.list crowdedEntries.flatten).default (by decide) "X"
  refine ⟨scanned, (text _ scanned).trans ((taken _).2 ⟨_, ?_, ?_, known.reads⟩)⟩
  · rw [same]
    exact clause
  · exact ⟨.default "X", by simp, trivial⟩

end VirtualImports.Clause
