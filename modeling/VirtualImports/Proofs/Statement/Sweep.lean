import VirtualImports.Proofs.Statement.Finding

/-!
One sweep over a text for the statements of several modules.

* `pieces`: the text cut into single characters and statements, each with its module;
* `passes_statement`: in the statement of one module none of another starts;
* `occurrencesOf_pieces`: the statements of one module in a sweep are those found for it alone;
* `pairwise_placed`: a sweep meets the statements in the order of the text.
-/
namespace VirtualImports.Statement

open Text

variable {α : Type}

/-- The first of the modules that a statement at the start of the text belongs to. -/
def headCut? (modules : List (String × α)) (s : List Char) : Option ((String × α) × Cut) :=
  modules.findSome? fun module => (cut? module.1.toList s).map (module, ·)

theorem headCut?_eq_some {modules : List (String × α)} {s : List Char} {module : String × α}
    {cut : Cut} (h : headCut? modules s = some (module, cut)) :
    module ∈ modules ∧ cut? module.1.toList s = some cut := by
  obtain ⟨other, mem, found⟩ := List.exists_of_findSome?_eq_some h
  obtain ⟨_, cutOther, same⟩ := Option.map_eq_some_iff.1 found
  cases same
  exact ⟨mem, cutOther⟩

theorem headCut?_eq_none {modules : List (String × α)} {s : List Char} :
    headCut? modules s = none ↔ ∀ module ∈ modules, cut? module.1.toList s = none := by
  simp [headCut?]

/-- A piece of a text: a character outside all statements, or a statement of a module together
with what trails it. -/
inductive Piece (α : Type)
  | gap (c : Char)
  | statement (module : String × α) (occurrence : Occurrence) (trailing : List Char)

/-- The statements among the pieces, with their modules. -/
def placed : List (Piece α) → List ((String × α) × Occurrence)
  | [] => []
  | .gap _ :: rest => placed rest
  | .statement module occurrence _ :: rest => (module, occurrence) :: placed rest

/-- Those of the statements that belong to one module. -/
def occurrencesOf (specifier : String) : List ((String × α) × Occurrence) → List Occurrence
  | [] => []
  | (module, occurrence) :: rest =>
    if module.1 = specifier then occurrence :: occurrencesOf specifier rest
    else occurrencesOf specifier rest

theorem mem_occurrencesOf {specifier : String} {found : List ((String × α) × Occurrence)}
    {occurrence : Occurrence} :
    occurrence ∈ occurrencesOf specifier found ↔
      ∃ module, (module, occurrence) ∈ found ∧ module.1 = specifier := by
  induction found with
  | nil => simp [occurrencesOf]
  | cons x found ih =>
    obtain ⟨module, other⟩ := x
    rw [occurrencesOf]
    split
    · rename_i same
      simp only [List.mem_cons, ih, Prod.mk.injEq]
      constructor
      · rintro (rfl | ⟨m, mem, hm⟩)
        · exact ⟨module, .inl ⟨rfl, rfl⟩, same⟩
        · exact ⟨m, .inr mem, hm⟩
      · rintro ⟨m, ⟨_, rfl⟩ | mem, hm⟩
        · exact .inl rfl
        · exact .inr ⟨m, mem, hm⟩
    · rename_i different
      simp only [List.mem_cons, ih, Prod.mk.injEq]
      constructor
      · rintro ⟨m, mem, hm⟩
        exact ⟨m, .inr mem, hm⟩
      · rintro ⟨m, ⟨rfl, _⟩ | mem, hm⟩
        · exact absurd hm different
        · exact ⟨m, mem, hm⟩

/-- Takes at each start of a line the statement that stands there, whichever module it belongs to,
and goes on behind it. -/
def pieces (modules : List (String × α)) (position : Nat) (lineStart : Bool) (s : List Char) :
    List (Piece α) :=
  match h : if lineStart then headCut? modules s else none with
  | some (module, cut) =>
    .statement module (cut.occurrence position) cut.trailing ::
      pieces modules
        (position + (cut.indent ++ cut.statement ++ cut.trailing).length) false cut.rest
  | none =>
    match s with
    | [] => []
    | c :: rest => .gap c :: pieces modules (position + 1) (c == '\n') rest
termination_by s.length
decreasing_by
  · split at h
    · exact length_rest_of_cut? (headCut?_eq_some h).2
    · cases h
  · simp

section
variable {modules : List (String × α)}

/-- What stands between the start of a statement and the end of its line. -/
theorem Cut.Fits.lineStartAfter_line {specifier frame mark : List Char} {quote : Char} {cut : Cut}
    (fits : cut.Fits specifier frame mark quote) (lineStart : Bool) :
    lineStartAfter lineStart (cut.indent ++ cut.statement ++ cut.trailing) = false := by
  have split : cut.indent ++ cut.statement ++ cut.trailing =
      (cut.indent ++ importWord ++ frame ++ (quote :: specifier)) ++
        quote :: (mark ++ cut.trailing) := by
    simp [fits.statement]
  rw [split, lineStartAfter_append, lineStartAfter_flat fits.closing_flat (by simp)]

/-- In the statement of one module no statement of another module starts. -/
theorem passes_statement {first second : List Char} {cut : Cut}
    (h : cut? first cut.text = some cut) (hf : Unquoted first) (hs : Plain second)
    (ne : first ≠ second) :
    Passes second true (cut.indent ++ cut.statement ++ cut.trailing) cut.rest := by
  intro before after split _ starts
  have short : before.length ≤ (cut.indent ++ cut.statement ++ cut.trailing).length := by
    rw [split, List.length_append]
    omega
  rw [Cut.text, split, List.append_assoc] at h
  exact cut?_eq_none_inside h short starts hf hs.unquoted ne fun _ => offLineEnd_of_flat hs.flat

/-- Past the statement of one module nothing of another module is met. -/
theorem findFrom_text {first second : List Char} {cut : Cut} (h : cut? first cut.text = some cut)
    (hf : Unquoted first) (hs : Plain second) (ne : first ≠ second) (position : Nat) :
    findFrom second position true cut.text =
      findFrom second (position + (cut.indent ++ cut.statement ++ cut.trailing).length) false
        cut.rest := by
  obtain ⟨_, frame, mark, quote, fits⟩ := cut?_eq_some_iff.1 h
  rw [Cut.text, findFrom_append (passes_statement h hf hs ne), fits.lineStartAfter_line]

/-- The statements of one module in a sweep are those found for it alone. -/
theorem occurrencesOf_pieces (plain : ∀ module ∈ modules, Plain module.1.toList)
    {key : String × α} (mem : key ∈ modules) (position : Nat) (lineStart : Bool) (s : List Char) :
    occurrencesOf key.1 (placed (pieces modules position lineStart s)) =
      findFrom key.1.toList position lineStart s := by
  fun_induction pieces modules position lineStart s with
  | case1 position lineStart s module cut found ih =>
    split at found
    · rename_i starts
      obtain ⟨inside, cutOther⟩ := headCut?_eq_some found
      rw [placed, occurrencesOf, starts]
      by_cases same : module.1 = key.1
      · rw [if_pos same, findFrom_of_cut (same ▸ cutOther), ih]
      · have ne : module.1.toList ≠ key.1.toList := fun eq => same (String.toList_inj.1 eq)
        have text := text_of_cut? cutOther
        rw [← text] at cutOther
        rw [if_neg same, ← text, findFrom_text cutOther (plain _ inside).unquoted (plain _ mem) ne, ih]
    · cases found
  | case2 position lineStart found => rw [findFrom_nil]; rfl
  | case3 position lineStart c rest found ih =>
    have none_here : lineStart = true → cut? key.1.toList (c :: rest) = none := by
      intro starts
      rw [if_pos starts] at found
      exact headCut?_eq_none.1 found key mem
    rw [findFrom_cons none_here, ← ih, placed]

theorem start_le_of_mem_placed {position : Nat} {lineStart : Bool} {s : List Char}
    {x : (String × α) × Occurrence} (h : x ∈ placed (pieces modules position lineStart s)) :
    x.1 ∈ modules ∧ position ≤ x.2.start := by
  fun_induction pieces modules position lineStart s with
  | case1 position lineStart s module cut found ih =>
    split at found
    · rw [placed] at h
      rcases List.mem_cons.1 h with rfl | h
      · exact ⟨(headCut?_eq_some found).1, Nat.le_refl _⟩
      · obtain ⟨inside, behind⟩ := ih h
        exact ⟨inside, by omega⟩
    · cases found
  | case2 => cases h
  | case3 position lineStart c rest found ih =>
    rw [placed] at h
    obtain ⟨inside, behind⟩ := ih h
    exact ⟨inside, by omega⟩

/-- A sweep meets the statements in the order of the text. -/
theorem pairwise_placed (position : Nat) (lineStart : Bool) (s : List Char) :
    (placed (pieces modules position lineStart s)).Pairwise
      fun a b => a.2.start < b.2.start := by
  fun_induction pieces modules position lineStart s with
  | case1 position lineStart s module cut found ih =>
    split at found
    · rw [placed]
      refine List.pairwise_cons.2 ⟨?_, ih⟩
      intro later hl
      have behind := (start_le_of_mem_placed hl).2
      have length := List.length_pos_iff.2 (statement_ne_nil_of_cut? (headCut?_eq_some found).2)
      simp only [List.length_append] at behind
      change position < later.2.start
      omega
    · cases found
  | case2 => exact .nil
  | case3 _ _ _ _ _ ih =>
    rw [placed]
    exact ih

end

end VirtualImports.Statement
