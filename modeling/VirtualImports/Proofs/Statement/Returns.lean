import VirtualImports.Proofs.Clause.Lexing
import VirtualImports.Proofs.Clause.Reading
import VirtualImports.Proofs.Statement.Recognition
import VirtualImports.Proofs.Statement.TypeMark
import VirtualImports.Proofs.Text.LineEndings

/-!
What statements say in a text with returns.

* `toOption_readClause_withReturns`: a clause binds the same names with returns;
* `splitTypeKeyword?_withReturns`: the type mark is told from it as before, unless `type` has nothing
  but a line feed behind it;
* `readFront_withReturns`: so the same is said in front of `from`;
* `readFront_lone`: where `type` has nothing but a line feed behind it, a default name turns into the
  type mark, and nothing is said any more.
-/
namespace VirtualImports

open Text Statement

/-! ## Clauses -/

namespace Clause

theorem scanFrom_illegal {c : Char} (blank : isBlank c = false)
    (mark : Lexeme.ofPunctuation? c = none) (start : startsName c = false) (position : Nat)
    (rest : List Char) :
    scanFrom position (c :: rest) = ⟨[], some ⟨position, (c :: rest).take excerptLength⟩⟩ := by
  rw [scanFrom.eq_def]
  simp only [blank, mark, start, Bool.false_eq_true, if_false]

/-- With returns a clause splits into the same lexemes, up to the same illegal character. -/
theorem scanFrom_withReturns (position other : Nat) (s : List Char) :
    (scanFrom other (withReturns s)).tokens.map Token.lexeme =
        (scanFrom position s).tokens.map Token.lexeme ∧
      (scanFrom other (withReturns s)).illegal.isNone = (scanFrom position s).illegal.isNone := by
  fun_induction scanFrom position s generalizing other with
  | case1 =>
    rw [withReturns_nil, scanFrom_nil]
    exact ⟨rfl, rfl⟩
  | case2 position c rest blank ih =>
    by_cases newline : c = '\n'
    · subst newline
      rw [withReturns_newline, scanFrom_blank (by decide), scanFrom_blank blank]
      exact ih _
    · rw [withReturns_cons newline, scanFrom_blank blank]
      exact ih _
  | case3 position c rest blank lexeme mark ih =>
    have newline : c ≠ '\n' := by
      rintro rfl
      exact blank (by decide)
    obtain ⟨lexemes, legal⟩ := ih (other + 1)
    rw [Bool.not_eq_true] at blank
    rw [withReturns_cons newline, scanFrom_mark mark blank]
    exact ⟨congrArg (lexeme :: ·) lexemes, legal⟩
  | case4 position c rest blank mark start tail ih =>
    have newline : c ≠ '\n' := by
      rintro rfl
      exact absurd start (by decide)
    have flat : withReturns tail = tail := by
      refine withReturns_flat ?_
      rintro d hd rfl
      exact absurd (List.mem_takeWhile_imp hd) (by decide)
    have split : withReturns rest = tail ++ withReturns (rest.dropWhile continuesName) := by
      rw [← flat, ← withReturns_append, List.takeWhile_append_dropWhile]
    have stop : Stops continuesName (withReturns (rest.dropWhile continuesName)) := by
      rw [← dropWhile_withReturns (by decide)]
      exact stops_dropWhile _ _
    obtain ⟨lexemes, legal⟩ := ih (other + 1 + tail.length)
    rw [withReturns_cons newline, split,
      scanFrom_name start (fun d hd => List.mem_takeWhile_imp hd) stop]
    exact ⟨congrArg (Lexeme.name (String.ofList (c :: tail)) :: ·) lexemes, legal⟩
  | case5 position c rest blank mark start =>
    have newline : c ≠ '\n' := by
      rintro rfl
      exact absurd blank (by decide)
    rw [Bool.not_eq_true] at blank start
    rw [withReturns_cons newline, scanFrom_illegal blank mark start]
    exact ⟨rfl, rfl⟩

end Clause

namespace Statement

theorem toOption_readClause (clause : List Char) :
    (readClause clause).toOption =
      if (Clause.scan clause).illegal.isNone then
        (Clause.read (Clause.scan clause).tokens).toOption.filter fun bindings => !bindings.isEmpty
      else none := by
  unfold readClause
  generalize Clause.scan clause = scan
  obtain ⟨tokens, illegal⟩ := scan
  cases illegal with
  | some found => rfl
  | none =>
    dsimp only
    cases Clause.read tokens with
    | error fault => rfl
    | ok bindings => cases empty : bindings.isEmpty <;> simp [Except.toOption, Option.filter, empty]

/-- With returns a clause binds the same names. -/
theorem toOption_readClause_withReturns (clause : List Char) :
    (readClause (withReturns clause)).toOption = (readClause clause).toOption := by
  obtain ⟨lexemes, legal⟩ := Clause.scanFrom_withReturns 0 0 clause
  rw [toOption_readClause, toOption_readClause, Clause.scan, Clause.scan, legal,
    Clause.toOption_read_of_lexemes lexemes]

/-! ## Headers -/

theorem trimLeft_withReturns (s : List Char) : trimLeft (withReturns s) = withReturns (trimLeft s) :=
  dropWhile_withReturns (by decide) s

/-- Trimming takes off blanks only, with returns or without. -/
theorem trimRight_withReturns (s : List Char) :
    trimRight (withReturns s) = withReturns (trimRight s) := by
  obtain ⟨blanks, whole, blank, stop⟩ := exists_trimRight s
  generalize trimRight s = kept at whole stop ⊢
  subst whole
  rw [withReturns_append]
  refine trimRight_append ?_ (forall_mem_withReturns blank fun _ => by decide)
  rcases List.eq_nil_or_concat kept with rfl | ⟨front, last, rfl⟩
  · exact stop
  · rw [List.concat_eq_append, List.reverse_append, List.reverse_singleton, List.singleton_append,
      stops_cons] at stop
    have newline : last ≠ '\n' := by
      rintro rfl
      exact absurd stop (by decide)
    rw [List.concat_eq_append, withReturns_append, withReturns_cons newline, List.reverse_append]
    simpa using stop

theorem length_trimRight_withReturns (s : List Char) :
    (trimRight (withReturns s)).length = (withReturns s).length ↔
      (trimRight s).length = s.length := by
  obtain ⟨blanks, whole, _⟩ := exists_trimRight s
  have length := congrArg List.length whole
  have returned := congrArg (fun s => (withReturns s).length) whole
  simp only [withReturns_append, List.length_append] at length returned
  have empty := withReturns_eq_nil (s := blanks)
  rw [← List.length_eq_zero_iff, ← List.length_eq_zero_iff] at empty
  rw [trimRight_withReturns]
  omega

/-- Two characters at least, unless the only one is a line feed. -/
theorem two_le_withReturns {s : List Char} (h : s ≠ ['\n']) :
    2 ≤ (withReturns s).length ↔ 2 ≤ s.length := by
  match s, h with
  | [], _ => simp
  | [c], h =>
    have newline : c ≠ '\n' := by simpa using h
    rw [withReturns_cons newline]
    simp
  | c :: d :: s, _ =>
    have length := length_le_withReturns (c :: d :: s)
    simp only [List.length_cons] at length ⊢
    omega

theorem after?_withReturns {expected : List Char} (plain : ∀ c ∈ expected, c ≠ '\n' ∧ c ≠ '\r')
    (s : List Char) :
    after? expected (withReturns s) = (after? expected s).map withReturns := by
  induction expected generalizing s with
  | nil => rfl
  | cons e expected ih =>
    obtain ⟨feed, return_⟩ := plain e (by simp)
    cases s with
    | nil => rfl
    | cons c s =>
      by_cases newline : c = '\n'
      · subst newline
        simp [after?, feed, return_]
      · rw [withReturns_cons newline]
        by_cases same : e = c
        · simpa [after?, same] using ih (fun d hd => plain d (by simp [hd])) s
        · simp [after?, same]

/-- Blanks, `type` and a single line feed. -/
def LoneFront (front : List Char) : Prop :=
  ∃ lead, (∀ c ∈ lead, isBlank c = true) ∧ front = lead ++ (typeWord ++ ['\n'])

/-- With returns the type mark is told from the clause as before, unless `type` with nothing but a
line feed behind it would be either. -/
theorem splitTypeKeyword?_withReturns {front : List Char} (long : 3 ≤ front.length)
    (ordinary : ¬ LoneFront front) :
    splitTypeKeyword? (withReturns front) =
      (splitTypeKeyword? front).map fun (typeOnly, clause) => (typeOnly, withReturns clause) := by
  have word : ∀ c ∈ ['t', 'y', 'p', 'e'], c ≠ '\n' ∧ c ≠ '\r' := by decide
  have whole := List.takeWhile_append_dropWhile (p := isBlank) (l := front)
  have blank : ∀ c ∈ front.takeWhile isBlank, isBlank c = true :=
    fun c hc => List.mem_takeWhile_imp hc
  unfold splitTypeKeyword?
  dsimp only
  rw [takeWhile_withReturns (p := isBlank) (by decide), dropWhile_withReturns (p := isBlank) (by decide)]
  generalize front.takeWhile isBlank = lead at whole blank ⊢
  generalize front.dropWhile isBlank = body at whole ⊢
  subst whole
  simp only [List.isEmpty_iff, withReturns_eq_nil, length_trimRight_withReturns,
    after?_withReturns word]
  by_cases bare : lead = []
  · rw [if_pos bare, if_pos bare]
    rfl
  rw [if_neg bare, if_neg bare]
  by_cases nothing : body = []
  · rw [nothing, List.append_nil] at long
    have longer := length_le_withReturns lead
    rw [if_pos nothing, if_pos nothing, if_pos long, if_pos (by omega)]
    rfl
  rw [if_neg nothing, if_neg nothing]
  by_cases open_ : (trimRight body).length = body.length
  · rw [if_pos open_, if_pos open_]
    rfl
  rw [if_neg open_, if_neg open_, trimRight_withReturns]
  cases keyword : after? ['t', 'y', 'p', 'e'] body with
  | none => rfl
  | some rest =>
    have alone : rest ≠ ['\n'] := by
      rintro rfl
      exact ordinary ⟨lead, blank, by rw [eq_append_of_after? keyword]; rfl⟩
    simp only [Option.map_some, head?_withReturns (p := fun c => isBlank c || c == '{' || c == '*')
      (by decide), trimLeft_withReturns, trimRight_withReturns, two_le_withReturns alone]
    split
    · have empty : (withReturns (trimRight (trimLeft rest))).isEmpty =
          (trimRight (trimLeft rest)).isEmpty := by
        rw [Bool.eq_iff_iff, List.isEmpty_iff, List.isEmpty_iff, withReturns_eq_nil]
      rw [empty]
      split
      · rfl
      · split <;> rfl
    · rfl

/-- With returns the same is said in front of `from`. -/
theorem readFront_withReturns {front : List Char} (long : 3 ≤ front.length)
    (ordinary : ¬ LoneFront front) : readFront (withReturns front) = readFront front := by
  rw [readFront, readFront, splitTypeKeyword?_withReturns long ordinary]
  cases splitTypeKeyword? front with
  | none => rfl
  | some parts => simp only [Option.map_some, Option.bind_some, toOption_readClause_withReturns]

/-- `type` with a line feed behind it is a default name, and with a return as well it is the mark in
front of an empty clause. -/
theorem readFront_lone {front : List Char} (lone : LoneFront front)
    (head : ∃ c ∈ front.head?, isBlank c = true) :
    (readFront front).isSome = true ∧ readFront (withReturns front) = none := by
  obtain ⟨lead, blank, rfl⟩ := lone
  have ne : lead ≠ [] := by
    rintro rfl
    obtain ⟨c, hc, blank⟩ := head
    cases hc
    cases blank
  have returned : ∀ c ∈ withReturns lead, isBlank c = true :=
    forall_mem_withReturns blank fun _ => by decide
  have shown : withReturns (lead ++ (typeWord ++ ['\n'])) =
      withReturns lead ++ (typeWord ++ ['\r', '\n']) := by
    rw [withReturns_append]
    rfl
  have name : splitTypeKeyword? (lead ++ (typeWord ++ ['\n'])) = some (false, typeWord) := by
    refine splitTypeKeyword?_unmarked ne blank (by decide) (by simp) (by decide) ?_
    intro rest split
    exact .inl ⟨'\n', by decide, ((List.append_cancel_left_eq ..).mp split).symm⟩
  have mark : splitTypeKeyword? (withReturns lead ++ (typeWord ++ ['\r', '\n'])) =
      some (true, []) :=
    splitTypeKeyword?_alone (mt withReturns_eq_nil.1 ne) returned (by simp) (by decide)
  have bound : (readClause typeWord).toOption.isSome = true := by decide +kernel
  have unbound : (readClause []).toOption = none := by decide +kernel
  constructor
  · rw [readFront, name]
    simpa using bound
  · rw [shown, readFront, mark]
    simp [unbound]

/-- Blanks say nothing. -/
theorem readFront_blank {front : List Char} (blank : ∀ c ∈ front, isBlank c = true) :
    readFront front = none := by
  have unbound : (readClause []).toOption = none := by decide +kernel
  have lead : front.takeWhile isBlank = front := by
    simpa using takeWhile_run blank stops_nil
  have body : front.dropWhile isBlank = [] := by
    simpa using dropWhile_run blank stops_nil
  unfold readFront splitTypeKeyword?
  simp only [lead, body, List.isEmpty_nil, if_true]
  split
  · rfl
  · split <;> simp [unbound]

end Statement

end VirtualImports
