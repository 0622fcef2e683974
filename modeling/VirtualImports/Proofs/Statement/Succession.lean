import VirtualImports.Proofs.Statement.Revision

/-!
Revisions made one after the other.

* `revise_pieces_append`: a sweep leaves text alone in which no statement starts;
* `revise_none`: a revision in which nothing gives way leaves the text as it is;
* `revise_congr`: a revision depends only on what takes the place of the statements of the text;
* `revise_revise_of_becomes`: to revise a revised text for one module more is to revise the text
  once, with what that makes of the text that was brought in;
* `revise_revise`: where that text is foreign it stays, and the statements of that module give way
  too.
-/
namespace VirtualImports.Statement

open Text

variable {α : Type} {modules : List (String × α)}
  {new? later? : String × α → Occurrence → Option (List Char)}

/-- What takes the place of a statement does not depend on where it stands. -/
def Placeless (new? : String × α → Occurrence → Option (List Char)) : Prop :=
  ∀ module cut position other,
    new? module (Cut.occurrence cut position) = new? module (cut.occurrence other)

/-! ## Sweeps -/

theorem headCut?_singleton (key : String × α) (s : List Char) :
    headCut? [key] s = (cut? key.1.toList s).map (key, ·) := by
  unfold headCut?
  cases found : cut? key.1.toList s <;> simp [found]

theorem headCut?_of_cut? {key : String × α} {s : List Char} {cut : Cut}
    (h : cut? key.1.toList s = some cut) : headCut? [key] s = some (key, cut) := by
  rw [headCut?_singleton, h]
  rfl

theorem headCut?_of_eq_none {key : String × α} {s : List Char} (h : cut? key.1.toList s = none) :
    headCut? [key] s = none := by
  rw [headCut?_singleton, h]
  rfl

theorem pieces_of_cut {s : List Char} {module : String × α} {cut : Cut}
    (h : headCut? modules s = some (module, cut)) (position : Nat) :
    pieces modules position true s =
      .statement module (cut.occurrence position) cut.trailing ::
        pieces modules (position + (cut.indent ++ cut.statement ++ cut.trailing).length) false
          cut.rest := by
  rw [pieces]
  split
  · rename_i found
    rw [if_pos rfl, h, Option.some.injEq, Prod.mk.injEq] at found
    obtain ⟨rfl, rfl⟩ := found
    rfl
  · rename_i found
    rw [if_pos rfl, h] at found
    cases found

/-- A sweep for one module leaves text alone in which none of its statements starts. -/
theorem revise_pieces_append {key : String × α} {piece rest : List Char} {lineStart : Bool}
    (passes : Passes key.1.toList lineStart piece rest) (position : Nat) :
    revise new? (pieces [key] position lineStart (piece ++ rest)) =
      piece ++ revise new? (pieces [key] (position + piece.length)
        (lineStartAfter lineStart piece) rest) := by
  induction piece generalizing lineStart position with
  | nil => rfl
  | cons c piece ih =>
    have here : lineStart = true → headCut? [key] (c :: (piece ++ rest)) = none := by
      intro starts
      have absent := passes [] (c :: piece) rfl (by simp) starts
      rw [List.cons_append] at absent
      exact headCut?_of_eq_none absent
    have later : Passes key.1.toList (c == '\n') piece rest := by
      intro before after split ne starts
      exact passes (c :: before) after (by rw [split, List.cons_append]) ne starts
    have length : position + 1 + piece.length = position + (c :: piece).length := by
      rw [List.length_cons]
      omega
    rw [List.cons_append, pieces_cons here, revise, ih later, length]
    rfl

/-- At the end of a line it makes no difference whether a line starts there. -/
theorem revise_pieces_lineEnd {rest : List Char} (atEnd : AtLineEnd rest) (lineStart : Bool)
    (position : Nat) :
    revise new? (pieces modules position lineStart rest) =
      revise new? (pieces modules position false rest) := by
  rcases atEnd with rfl | ⟨rest, rfl⟩
  · rw [pieces_nil, pieces_nil]
  · have absent : headCut? modules ('\n' :: rest) = none :=
      headCut?_eq_none.2 fun _ _ => cut?_lineBreak
    rw [pieces_cons fun _ => absent, pieces_cons fun _ => absent]

/-- A module of which no statement starts may be left out of a sweep. -/
theorem pieces_of_passes {module key : String × α} {position : Nat} {lineStart : Bool}
    {s : List Char} (passes : Passes key.1.toList lineStart s []) :
    pieces [module, key] position lineStart s = pieces [module] position lineStart s := by
  have behind {piece rest : List Char} {lineStart : Bool}
      (h : Passes key.1.toList lineStart (piece ++ rest) []) :
      Passes key.1.toList (lineStartAfter lineStart piece) rest [] := by
    rintro before after rfl ne starts
    refine h (piece ++ before) after (by rw [List.append_assoc]) ne ?_
    rwa [lineStartAfter_append]
  fun_induction pieces [module] position lineStart s with
  | case1 position lineStart s other cut found ih =>
    split at found
    · rename_i starts
      subst starts
      obtain ⟨_, cutHere⟩ := headCut?_eq_some found
      obtain ⟨_, frame, mark, quote, fits⟩ := cut?_eq_some_iff.1 cutHere
      have first : headCut? [module, key] s = some (other, cut) := by
        rw [headCut?, List.findSome?_cons]
        rw [headCut?_singleton] at found
        rw [found]
      have rest : Passes key.1.toList false cut.rest [] := by
        rw [← text_of_cut? cutHere, Cut.text] at passes
        have later := behind passes
        rwa [fits.lineStartAfter_line] at later
      rw [pieces_of_cut first, ih rest]
    · cases found
  | case2 => rw [pieces_nil]
  | case3 position lineStart c rest found ih =>
    have absent : lineStart = true → headCut? [module, key] (c :: rest) = none := by
      intro starts
      rw [if_pos starts, headCut?_eq_none] at found
      have none_here := passes [] (c :: rest) rfl (by simp) starts
      rw [List.append_nil] at none_here
      rw [headCut?_eq_none]
      intro other mem
      rcases List.mem_cons.1 mem with rfl | mem
      · exact found _ (List.mem_singleton_self _)
      · rwa [List.mem_singleton.1 mem]
    have later : Passes key.1.toList (c == '\n') rest [] :=
      behind (show Passes key.1.toList lineStart ([c] ++ rest) [] from passes)
    rw [pieces_cons absent, ih later]

/-! ## Revisions -/

theorem revise_none (modules : List (String × α)) (position : Nat) (lineStart : Bool)
    (s : List Char) :
    revise (fun _ _ => none) (pieces modules position lineStart s) = s := by
  fun_induction pieces modules position lineStart s with
  | case1 position lineStart s module cut found ih =>
    split at found
    · have text := text_of_cut? (headCut?_eq_some found).2
      rw [revise, ih]
      exact text
    · cases found
  | case2 => rfl
  | case3 position lineStart c rest found ih => rw [revise, ih]

/-- A revision depends only on what takes the place of the statements of the text. -/
theorem revise_congr {found : List (Piece α)}
    (same : ∀ x ∈ placed found, new? x.1 x.2 = later? x.1 x.2) :
    revise new? found = revise later? found := by
  induction found with
  | nil => rfl
  | cons piece found ih =>
    cases piece with
    | gap c =>
      rw [placed] at same
      rw [revise, revise, ih same]
    | statement module occurrence trailing =>
      rw [placed] at same
      have here := same (module, occurrence) (by simp)
      have rest := ih fun x mem => same x (by simp [mem])
      rw [revise, revise, here, rest]

/-- What a revision for one module makes of text in the place of a statement, in front of the end of
the line. -/
def Becomes (later? : String × α → Occurrence → Option (List Char)) (key : String × α)
    (trailing text final : List Char) : Prop :=
  ∀ rest start, AtLineEnd rest → ∃ next,
    revise later? (pieces [key] start true (text ++ (trailing ++ rest))) =
      final ++ (trailing ++ revise later? (pieces [key] next false rest))

/-- To revise a revised text for one of the modules is to revise the text once, with what that makes
of the text that was brought in. -/
theorem revise_revise_of_becomes {final? : String × α → Occurrence → Option (List Char)}
    (unquoted : ∀ module ∈ modules, Unquoted module.1.toList) (placeless : Placeless later?)
    {key : String × α} (mem : key ∈ modules) (plain : Plain key.1.toList) {position : Nat}
    {lineStart : Bool} {s : List Char}
    (kept : ∀ x ∈ placed (pieces modules position lineStart s), new? x.1 x.2 = none →
      final? x.1 x.2 = if x.1.1 = key.1 then later? key x.2 else none)
    (given : ∀ module cut place,
      (module, Cut.occurrence cut place) ∈ placed (pieces modules position lineStart s) →
      cut? module.1.toList cut.text = some cut →
      ∀ text, new? module (cut.occurrence place) = some text → ∃ final,
        final? module (cut.occurrence place) = some final ∧
          Becomes later? key cut.trailing text final)
    (start : Nat) :
    revise later? (pieces [key] start lineStart
        (revise new? (pieces modules position lineStart s))) =
      revise final? (pieces modules position lineStart s) := by
  fun_induction pieces modules position lineStart s generalizing start with
  | case1 position lineStart s module cut found ih =>
    split at found
    · rename_i starts
      obtain ⟨inside, cutHere⟩ := headCut?_eq_some found
      rw [← text_of_cut? cutHere] at cutHere
      obtain ⟨_, frame, mark, quote, fits⟩ := cut?_eq_some_iff.1 cutHere
      rw [placed] at kept given
      have later := ih (fun x hx => kept x (List.mem_cons_of_mem _ hx))
        fun other cut place hx => given other cut place (List.mem_cons_of_mem _ hx)
      rw [revise, revise, starts]
      generalize hr : revise new? (pieces modules _ false cut.rest) = rest at later ⊢
      have atEnd : AtLineEnd rest := hr ▸ atLineEnd_revise.2 fits.atEnd
      cases replaced : new? module (cut.occurrence position) with
      | none =>
        -- the statement stood in the revised text as it did in the first
        have stays := cut?_of_rest cutHere atEnd
        have text : cut.indent ++ cut.statement ++ cut.trailing ++ rest =
            Cut.text { cut with rest := rest } := rfl
        rw [kept (module, cut.occurrence position) List.mem_cons_self replaced]
        by_cases same : module.1 = key.1
        · have head : headCut? [key] (Cut.text { cut with rest := rest }) =
              some (key, { cut with rest := rest }) := headCut?_of_cut? (same ▸ stays)
          have place : later? key (Cut.occurrence { cut with rest := rest } start) =
              later? key (cut.occurrence position) := placeless key cut start position
          simp only [Option.getD_none, Cut.occurrence, text]
          rw [pieces_of_cut head, revise, place, later, if_pos same]
          simp only [Cut.occurrence]
        · have ne : module.1.toList ≠ key.1.toList := fun eq => same (String.toList_inj.1 eq)
          have passes := passes_statement stays (unquoted _ inside) plain ne
          simp only [Option.getD_none, if_neg same, Cut.occurrence]
          rw [revise_pieces_append passes, fits.lineStartAfter_line, later]
      | some text =>
        obtain ⟨final, result, becomes⟩ := given module cut position List.mem_cons_self cutHere
          text replaced
        obtain ⟨next, revised⟩ := becomes rest start atEnd
        rw [result, Option.getD_some, Option.getD_some, List.append_assoc text, revised, later,
          List.append_assoc final]
    · cases found
  | case2 => rw [revise, pieces_nil]; rfl
  | case3 position lineStart c rest found ih =>
    have absent : lineStart = true → headCut? modules (c :: rest) = none := by
      intro starts
      rwa [if_pos starts] at found
    have none_here : lineStart = true → headCut? [key]
        (c :: revise new? (pieces modules (position + 1) (c == '\n') rest)) = none := by
      intro starts
      have revised : cut? key.1.toList
          (revise new? (pieces modules position true (c :: rest))) = none :=
        cut?_revise_eq_none mem plain (absent starts) position
      rw [pieces_cons (fun _ => absent starts), revise] at revised
      exact headCut?_of_eq_none revised
    rw [revise, revise, pieces_cons none_here, revise, ih kept given]

/-- Foreign text stays as it is. -/
theorem Foreign.becomes {text mark trailing newline : List Char} (h : Foreign modules text)
    (tail : LineTail mark trailing newline) {key : String × α} (mem : key ∈ modules)
    (plain : Plain key.1.toList) : Becomes later? key trailing text text := by
  intro rest start atEnd
  refine ⟨start + (text ++ trailing).length, ?_⟩
  rw [← List.append_assoc, revise_pieces_append (h.passes tail atEnd mem plain),
    revise_pieces_lineEnd atEnd, List.append_assoc]

/-- **Revisions add up.** Where all text that was brought in is foreign, to revise a revised text
for one of the modules is to revise the text once, with what gave way before and the statements of
that module. -/
theorem revise_revise (plain : ∀ module ∈ modules, Plain module.1.toList)
    (foreign : ∀ module ∈ modules, ∀ cut position text, cut? module.1.toList cut.text = some cut →
      new? module (cut.occurrence position) = some text → Foreign modules text)
    (placeless : Placeless later?) {key : String × α} (mem : key ∈ modules)
    (start position : Nat) (lineStart : Bool) (s : List Char) :
    revise later? (pieces [key] start lineStart
        (revise new? (pieces modules position lineStart s))) =
      revise (fun module occurrence => (new? module occurrence).or
          (if module.1 = key.1 then later? key occurrence else none))
        (pieces modules position lineStart s) := by
  refine revise_revise_of_becomes (fun module inside => (plain module inside).unquoted) placeless
    mem (plain key mem) ?_ ?_ start
  · intro x _ replaced
    rw [replaced, Option.none_or]
  · intro module cut place met cutHere text replaced
    have inside := (start_le_of_mem_placed met).1
    obtain ⟨_, frame, mark, quote, fits⟩ := cut?_eq_some_iff.1 cutHere
    refine ⟨text, by rw [replaced, Option.some_or], ?_⟩
    exact (foreign module inside cut place text cutHere replaced).becomes fits.tail mem
      (plain key mem)

end VirtualImports.Statement
