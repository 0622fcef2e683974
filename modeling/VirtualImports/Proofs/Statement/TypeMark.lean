import VirtualImports.Proofs.Text.Runs

/-!
The type mark of a statement, told from a default name `type`.

* `splitTypeKeyword?_marked`: in front of a clause `type` is the mark, with blanks between the two or
  where the clause begins with a brace or a star;
* `splitTypeKeyword?_alone`: with nothing but blanks behind it `type` is the mark if these are two at
  least, and there is no clause then;
* `splitTypeKeyword?_unmarked`: any other clause has no mark.
-/
namespace VirtualImports.Statement

open Text

def typeWord : List Char := ['t', 'y', 'p', 'e']

variable {lead clause gap : List Char}

/-- What may follow the mark. -/
def followsMark (c : Char) : Bool :=
  isBlank c || c == '{' || c == '*'

/-- What stands between blanks is split by what follows its first four letters, if these are
`type`. -/
theorem splitTypeKeyword?_framed (ne : lead ≠ []) (blankLead : ∀ c ∈ lead, isBlank c = true)
    (solid : Solid clause) (neGap : gap ≠ []) (blankGap : ∀ c ∈ gap, isBlank c = true) :
    splitTypeKeyword? (lead ++ (clause ++ gap)) =
      match after? typeWord (clause ++ gap) with
      | none => some (false, clause)
      | some rest =>
        if (rest.head?.map followsMark).getD false then
          if !(trimRight (trimLeft rest)).isEmpty then some (true, trimRight (trimLeft rest))
          else if 2 ≤ rest.length then some (true, [])
          else some (false, clause)
        else some (false, clause) := by
  have first : (lead ++ (clause ++ gap)).takeWhile isBlank = lead :=
    takeWhile_run blankLead (solid.stops gap)
  have body : (lead ++ (clause ++ gap)).dropWhile isBlank = clause ++ gap :=
    dropWhile_run blankLead (solid.stops gap)
  have longer : clause.length ≠ (clause ++ gap).length := by
    have := List.length_pos_iff.2 neGap
    rw [List.length_append]
    omega
  have filled : (clause ++ gap).isEmpty = false := by
    simp [solid.ne_nil]
  simp only [splitTypeKeyword?, first, body, solid.trimRight blankGap, List.isEmpty_iff, ne, if_false,
    filled, longer, Bool.false_eq_true]
  rfl

/-- In front of a clause `type` is the mark. -/
theorem splitTypeKeyword?_marked {between : List Char} (ne : lead ≠ [])
    (blankLead : ∀ c ∈ lead, isBlank c = true) (blank : ∀ c ∈ between, isBlank c = true)
    (solid : Solid clause) (neGap : gap ≠ []) (blankGap : ∀ c ∈ gap, isBlank c = true)
    (follows : between = [] → ∃ c ∈ clause.head?, followsMark c = true) :
    splitTypeKeyword? (lead ++ (typeWord ++ (between ++ (clause ++ gap)))) =
      some (true, clause) := by
  have word : Solid typeWord := by decide
  have whole : typeWord ++ (between ++ (clause ++ gap)) =
      (typeWord ++ between ++ clause) ++ gap := by simp
  have trimmed : trimRight (trimLeft (between ++ (clause ++ gap))) = clause :=
    solid.trim_between blank blankGap
  have head : ((between ++ (clause ++ gap)).head?.map followsMark).getD false = true := by
    cases between with
    | nil =>
      obtain ⟨c, hc, follow⟩ := follows rfl
      rw [Option.mem_def] at hc
      simp [hc, follow]
    | cons c between => simp [followsMark, blank c (by simp)]
  rw [whole, splitTypeKeyword?_framed ne blankLead (word.join solid between) neGap blankGap, ← whole,
    after?_append]
  simp only [head, if_true, trimmed]
  simp [solid.ne_nil]

/-- With two blanks behind it, and nothing else, `type` is the mark. -/
theorem splitTypeKeyword?_alone (ne : lead ≠ []) (blankLead : ∀ c ∈ lead, isBlank c = true)
    (long : 2 ≤ gap.length) (blankGap : ∀ c ∈ gap, isBlank c = true) :
    splitTypeKeyword? (lead ++ (typeWord ++ gap)) = some (true, []) := by
  have word : Solid typeWord := by decide
  have neGap : gap ≠ [] := by
    rintro rfl
    simp at long
  have trimmed : trimRight (trimLeft gap) = [] :=
    trim_eq_nil blankGap
  have head : (gap.head?.map followsMark).getD false = true := by
    obtain ⟨c, more, rfl⟩ := List.exists_cons_of_ne_nil neGap
    simp [followsMark, blankGap c (by simp)]
  rw [splitTypeKeyword?_framed ne blankLead word neGap blankGap, after?_append]
  simp [head, trimmed, long]

/-- A clause that begins with `type` has no mark where the word goes on, something other than a
clause follows it, or nothing but one blank. -/
theorem splitTypeKeyword?_unmarked (ne : lead ≠ []) (blankLead : ∀ c ∈ lead, isBlank c = true)
    (solid : Solid clause) (neGap : gap ≠ []) (blankGap : ∀ c ∈ gap, isBlank c = true)
    (plain : ∀ rest, clause ++ gap = typeWord ++ rest →
      (∃ c, isBlank c = true ∧ rest = [c]) ∨ ∃ c ∈ rest.head?, followsMark c = false) :
    splitTypeKeyword? (lead ++ (clause ++ gap)) = some (false, clause) := by
  rw [splitTypeKeyword?_framed ne blankLead solid neGap blankGap]
  cases keyword : after? typeWord (clause ++ gap) with
  | none => rfl
  | some rest =>
    rcases plain rest (eq_append_of_after? keyword) with ⟨c, blank, rfl⟩ | ⟨c, hc, other⟩
    · have none : trimRight (trimLeft [c]) = [] := by simp [trimLeft, trimRight, blank]
      simp [none]
    · rw [Option.mem_def] at hc
      simp [hc, other]

end VirtualImports.Statement
