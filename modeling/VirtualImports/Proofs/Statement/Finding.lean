import VirtualImports.Proofs.Statement.Shape

/-!
Finding the statements of one module in a text.

* `exists_cut_of_mem_findFrom`: each occurrence is a cut of the text at the start of a line;
* `pairwise_findFrom`: the occurrences of one module follow one another without overlap;
* `Passes`, `findFrom_append`: a piece of text in which no statement starts is passed over;
* `exists_inside`, `stop_le_start`: no statement of another module starts within one, so the occurrences
  of two modules do not overlap.
-/
namespace VirtualImports.Statement

open Text

section
variable {specifier : List Char}

theorem cut?_nil : cut? specifier [] = none := by
  simp [cut?, after?]

theorem cut?_lineBreak {rest : List Char} : cut? specifier ('\n' :: rest) = none := by
  simp [cut?, after?, isSpaceOrTab]

theorem findFrom_nil (position : Nat) (lineStart : Bool) :
    findFrom specifier position lineStart [] = [] := by
  rw [findFrom]
  split
  · rename_i found
    split at found
    · rw [cut?_nil] at found
      cases found
    · cases found
  · rfl

theorem findFrom_of_cut {s : List Char} {cut : Cut} (h : cut? specifier s = some cut)
    (position : Nat) :
    findFrom specifier position true s = cut.occurrence position ::
      findFrom specifier (position + (cut.indent ++ cut.statement ++ cut.trailing).length) false
        cut.rest := by
  rw [findFrom]
  split
  · rename_i found
    rw [if_pos rfl, h, Option.some.injEq] at found
    rw [found]
  · rename_i found
    rw [if_pos rfl, h] at found
    cases found

theorem findFrom_cons {c : Char} {rest : List Char} {lineStart : Bool}
    (h : lineStart = true → cut? specifier (c :: rest) = none) (position : Nat) :
    findFrom specifier position lineStart (c :: rest) =
      findFrom specifier (position + 1) (c == '\n') rest := by
  rw [findFrom]
  split
  · rename_i found
    split at found
    · rename_i starts
      rw [h starts] at found
      cases found
    · cases found
  · rfl

/-- No statement of the module starts in a piece of text, where `rest` follows it. -/
def Passes (specifier : List Char) (lineStart : Bool) (piece rest : List Char) : Prop :=
  ∀ before after, piece = before ++ after → after ≠ [] →
    lineStartAfter lineStart before = true → cut? specifier (after ++ rest) = none

theorem Passes.append {lineStart : Bool} {a b rest : List Char}
    (first : Passes specifier lineStart a (b ++ rest))
    (second : Passes specifier (lineStartAfter lineStart a) b rest) :
    Passes specifier lineStart (a ++ b) rest := by
  intro before after split ne starts
  rcases List.append_eq_append_iff.1 split with ⟨x, rfl, rfl⟩ | ⟨x, rfl, rfl⟩
  · rw [lineStartAfter_append] at starts
    exact second x after rfl ne starts
  · by_cases empty : x = []
    · subst empty
      rw [List.append_nil] at second
      exact second [] b rfl ne starts
    · have inside := first before x rfl empty starts
      rwa [← List.append_assoc] at inside

/-- Within a line no statement starts. -/
theorem passes_line {line rest : List Char} {lineStart : Bool} (flat : ∀ c ∈ line, c ≠ '\n')
    (h : lineStart = true → cut? specifier (line ++ rest) = none) :
    Passes specifier lineStart line rest := by
  intro before after split _ starts
  by_cases empty : before = []
  · subst empty
    rw [List.nil_append] at split
    rw [← split]
    exact h starts
  · have inside : ∀ c ∈ before, c ≠ '\n' := fun c hc => flat c (by simp [split, hc])
    rw [lineStartAfter_flat inside empty] at starts
    cases starts

/-- A piece of text in which no statement starts is passed over. -/
theorem findFrom_append {piece : List Char} {lineStart : Bool} {rest : List Char}
    (passes : Passes specifier lineStart piece rest) (position : Nat) :
    findFrom specifier position lineStart (piece ++ rest) =
      findFrom specifier (position + piece.length) (lineStartAfter lineStart piece) rest := by
  induction piece generalizing lineStart position with
  | nil => rfl
  | cons c piece ih =>
    have here : lineStart = true → cut? specifier (c :: (piece ++ rest)) = none :=
      passes [] (c :: piece) rfl (by simp)
    rw [List.cons_append, findFrom_cons here, ih]
    · simp only [List.length_cons, lineStartAfter]
      congr 1; omega
    · intro before after split ne starts
      exact passes (c :: before) after (by rw [split, List.cons_append]) ne starts

/-- Where nothing is found no statement starts. -/
theorem passes_of_findFrom_eq_nil {position : Nat} {lineStart : Bool} {s : List Char}
    (h : findFrom specifier position lineStart s = []) : Passes specifier lineStart s [] := by
  fun_induction findFrom specifier position lineStart s with
  | case1 => cases h
  | case2 =>
    intro before after split ne _
    exact absurd (List.append_eq_nil_iff.1 split.symm).2 ne
  | case3 position lineStart c rest found ih =>
    have here : Passes specifier lineStart [c] (rest ++ []) := by
      rw [List.append_nil]
      intro before after split ne starts
      cases before with
      | nil =>
        rw [← List.nil_append after, ← split]
        exact (if_pos starts).symm.trans found
      | cons d before => simp_all
    exact here.append (ih h)

/-- Each occurrence is a cut of the text at the start of a line. -/
theorem exists_cut_of_mem_findFrom {position : Nat} {lineStart : Bool} {s : List Char}
    {occurrence : Occurrence} (h : occurrence ∈ findFrom specifier position lineStart s) :
    ∃ before after cut, s = before ++ after ∧ lineStartAfter lineStart before = true ∧
      cut? specifier after = some cut ∧
      occurrence = cut.occurrence (position + before.length) := by
  fun_induction findFrom specifier position lineStart s with
  | case1 position lineStart s cut found ih =>
    split at found
    · rename_i starts
      rcases List.mem_cons.1 h with rfl | h
      · exact ⟨[], s, cut, rfl, starts, found, rfl⟩
      · obtain ⟨before, after, other, split, line, cutAfter, rfl⟩ := ih h
        refine ⟨cut.indent ++ cut.statement ++ cut.trailing ++ before, after, other, ?_, ?_,
          cutAfter, ?_⟩
        · rw [append_of_cut? found, split, List.append_assoc _ before after]
        · rw [lineStartAfter_append]
          exact lineStartAfter_of_false line _
        · have length : (cut.indent ++ cut.statement ++ cut.trailing ++ before).length =
              (cut.indent ++ cut.statement ++ cut.trailing).length + before.length :=
            List.length_append
          rw [length, Nat.add_assoc]
    · cases found
  | case2 position lineStart found => cases h
  | case3 position lineStart c rest found ih =>
    obtain ⟨before, after, cut, rfl, line, cutAfter, rfl⟩ := ih h
    refine ⟨c :: before, after, cut, rfl, line, cutAfter, ?_⟩
    rw [List.length_cons, Nat.add_right_comm, Nat.add_assoc]

/-- The occurrences of a module stand one behind the other. -/
theorem pairwise_findFrom (position : Nat) (lineStart : Bool) (s : List Char) :
    (findFrom specifier position lineStart s).Pairwise fun a b => a.stop ≤ b.start := by
  fun_induction findFrom specifier position lineStart s with
  | case1 position lineStart s cut found ih =>
    refine List.pairwise_cons.2 ⟨?_, ih⟩
    intro later hl
    obtain ⟨before, after, other, _, _, _, rfl⟩ := exists_cut_of_mem_findFrom hl
    simp only [Cut.occurrence, List.length_append]
    omega
  | case2 => exact .nil
  | case3 _ _ _ _ _ ih => exact ih

end

/-- An occurrence in a text: what stands before it, and the cut that the text goes on with. -/
structure Located (specifier code before after : List Char) (cut : Cut) (occurrence : Occurrence) :
    Prop where
  split : code = before ++ after
  starts : lineStartAfter true before = true
  found : cut? specifier after = some cut
  eq : occurrence = cut.occurrence before.length

theorem exists_located {specifier : String} {code : List Char} {occurrence : Occurrence}
    (h : occurrence ∈ find specifier code) :
    ∃ before after cut, Located specifier.toList code before after cut occurrence := by
  obtain ⟨before, after, cut, split, starts, found, eq⟩ := exists_cut_of_mem_findFrom h
  exact ⟨before, after, cut, split, starts, found, by simpa using eq⟩

namespace Located

variable {specifier code before after : List Char} {cut : Cut} {occurrence : Occurrence}

theorem start_eq (located : Located specifier code before after cut occurrence) :
    occurrence.start = before.length := by
  rw [located.eq]; rfl

theorem original_eq (located : Located specifier code before after cut occurrence) :
    occurrence.original = cut.indent ++ cut.statement := by
  rw [located.eq]; rfl

theorem stop_eq (located : Located specifier code before after cut occurrence) :
    occurrence.stop = occurrence.start + occurrence.original.length := by
  rw [located.eq]; rfl

theorem code_eq (located : Located specifier code before after cut occurrence) :
    code = before ++ occurrence.original ++ (cut.trailing ++ cut.rest) := by
  have text := append_of_cut? located.found
  rw [located.original_eq, located.split, text]
  simp only [List.append_assoc]

/-- The text of an occurrence stands between its offsets. -/
theorem take_original (located : Located specifier code before after cut occurrence) :
    (code.drop occurrence.start).take (occurrence.stop - occurrence.start) =
      occurrence.original := by
  rw [located.stop_eq, Nat.add_sub_cancel_left, located.start_eq, located.code_eq,
    List.append_assoc, List.drop_left, List.take_left]

theorem original_ne_nil (located : Located specifier code before after cut occurrence) :
    occurrence.original ≠ [] := by
  rw [located.original_eq]
  simp [statement_ne_nil_of_cut? located.found]

theorem stop_le (located : Located specifier code before after cut occurrence) :
    occurrence.stop ≤ code.length := by
  have whole := congrArg List.length located.code_eq
  rw [located.stop_eq, located.start_eq]
  simp only [List.length_append] at whole
  omega

/-- A line that starts within a statement splits the text that the statement was cut from. -/
theorem exists_inside {text behind : List Char}
    (located : Located specifier code before after cut occurrence) (split : code = text ++ behind)
    (line : lineStartAfter true text = true) (least : occurrence.start ≤ text.length)
    (covers : text.length < occurrence.stop) :
    ∃ inner, text = before ++ inner ∧ inner ++ behind = after ∧ lineStartAfter true inner = true ∧
      inner.length < (cut.indent ++ cut.statement ++ cut.trailing).length := by
  have whole : before ++ after = text ++ behind := located.split.symm.trans split
  obtain ⟨inner, rfl⟩ : before <+: text :=
    List.prefix_of_prefix_length_le ⟨after, whole⟩ ⟨behind, rfl⟩ (located.start_eq ▸ least)
  rw [List.append_assoc, List.append_cancel_left_eq] at whole
  rw [located.stop_eq, located.start_eq, located.original_eq] at covers
  refine ⟨inner, rfl, whole.symm, ?_, ?_⟩
  · rwa [lineStartAfter_append, located.starts] at line
  · simp only [List.length_append] at covers ⊢
    omega

end Located

/-- Of two occurrences of different modules, one that starts no earlier than the other starts
behind it. -/
theorem stop_le_start {first second code before₁ after₁ before₂ after₂ : List Char}
    {cut₁ cut₂ : Cut} {a b : Occurrence} (la : Located first code before₁ after₁ cut₁ a)
    (lb : Located second code before₂ after₂ cut₂ b) (hf : Unquoted first) (hs : Unquoted second)
    (ne : first ≠ second)
    (apart : '\n' ∈ first → OffLineEnd second) (h : a.start ≤ b.start) : a.stop ≤ b.start := by
  by_contra overlap
  rw [Nat.not_le, lb.start_eq] at overlap
  rw [lb.start_eq] at h
  obtain ⟨inner, _, inside, starts, short⟩ := la.exists_inside lb.split lb.starts h overlap
  have absent := cut?_eq_none_inside (inside.symm ▸ la.found) short.le starts hf hs ne apart
  rw [lb.found] at absent
  cases absent

end VirtualImports.Statement
