import VirtualImports.Proofs.Rewrite.OneModule
import VirtualImports.Proofs.Routing.LocalNames

/-!
Two texts, one behind the other.

* `Complete`: a text behind which another can be put without a statement running into it;
* `cut?_append`: on a line of a complete text the same statement stands, whatever follows the text;
* `pieces_append`: a sweep over both texts is a sweep over the first and then one over the second;
* `rewriteModule_append`: so the occurrences in both texts are those in each, and the texts can be
  rewritten one by one.
-/
namespace VirtualImports

open Text Statement Engine

namespace Statement

/-! ## Complete texts -/

/-- Behind the text a line starts, and an `import` that begins a line of it has something behind it
that no clause can hold. A line starts with the text itself if `lineStart` says so. -/
structure Complete (lineStart : Bool) (s : List Char) : Prop where
  ended : lineStartAfter lineStart s = true
  closed : ∀ before indent after, s = before ++ (indent ++ (importWord ++ after)) →
    lineStartAfter lineStart before = true → (∀ c ∈ indent, isSpaceOrTab c = true) →
    ∃ c ∈ after, isClauseChar c = false

theorem Complete.of_append {lineStart : Bool} {a b : List Char}
    (h : Complete lineStart (a ++ b)) : Complete (lineStartAfter lineStart a) b where
  ended := by
    rw [← lineStartAfter_append]
    exact h.ended
  closed := by
    rintro before indent after rfl starts blank
    refine h.closed (a ++ before) indent after (by simp) ?_ blank
    rwa [lineStartAfter_append]

/-- A complete text ends in no line without a line break. -/
theorem Complete.not_flat {lineStart : Bool} {a line : List Char}
    (h : Complete lineStart (a ++ line)) (flat : ∀ c ∈ line, c ≠ '\n') : line = [] := by
  by_contra ne
  have ended := h.ended
  rw [lineStartAfter_append, lineStartAfter_flat flat ne] at ended
  cases ended

/-- What follows the word `import` if the text begins with it, blanks aside. -/
def afterImport? (s : List Char) : Option (List Char) :=
  after? importWord (s.dropWhile isSpaceOrTab)

theorem afterImport?_eq_some_iff {s after : List Char} :
    afterImport? s = some after ↔
      ∃ indent, (∀ c ∈ indent, isSpaceOrTab c = true) ∧ s = indent ++ (importWord ++ after) := by
  unfold afterImport?
  constructor
  · intro h
    refine ⟨s.takeWhile isSpaceOrTab, fun c hc => List.mem_takeWhile_imp hc, ?_⟩
    rw [← eq_append_of_after? h, List.takeWhile_append_dropWhile]
  · rintro ⟨indent, blank, rfl⟩
    have word : Stops isSpaceOrTab (importWord ++ after) := by simp [importWord]; decide
    rw [dropWhile_run blank word, after?_append]

/-- Completeness, line by line. -/
def isComplete (lineStart : Bool) : List Char → Bool
  | [] => lineStart
  | c :: rest =>
    (!lineStart || (afterImport? (c :: rest)).all fun after => after.any fun d => !isClauseChar d) &&
      isComplete (c == '\n') rest

theorem isComplete_iff {lineStart : Bool} {s : List Char} :
    isComplete lineStart s = true ↔ Complete lineStart s := by
  induction s generalizing lineStart with
  | nil =>
    constructor
    · intro h
      exact ⟨h, fun _ _ _ whole => by simp [importWord] at whole⟩
    · exact fun h => h.ended
  | cons c rest ih =>
    simp only [isComplete, Bool.and_eq_true, Bool.or_eq_true, Bool.not_eq_true', ih,
      Option.all_eq_true, List.any_eq_true]
    constructor
    · rintro ⟨here, later⟩
      refine ⟨later.ended, ?_⟩
      intro before indent after whole starts blank
      cases before with
      | nil =>
        rcases here with absent | here
        · rw [absent] at starts
          cases starts
        · exact here after (afterImport?_eq_some_iff.2 ⟨indent, blank, whole⟩)
      | cons d before =>
        rw [List.cons_append] at whole
        obtain ⟨rfl, below⟩ := List.cons.inj whole
        exact later.closed before indent after below starts blank
    · intro h
      refine ⟨?_, h.of_append (a := [c])⟩
      cases lineStart with
      | false => exact .inl rfl
      | true =>
        refine .inr fun after found => ?_
        obtain ⟨indent, blank, whole⟩ := afterImport?_eq_some_iff.1 found
        exact h.closed [] indent after whole rfl blank

instance (lineStart : Bool) (s : List Char) : Decidable (Complete lineStart s) :=
  decidable_of_iff _ isComplete_iff

/-! ## Statements -/

/-- The same statement with more text behind it. -/
def Cut.followedBy (text : List Char) (cut : Cut) : Cut :=
  { cut with rest := cut.rest ++ text }

section
variable {specifier a b : List Char} {cut : Cut}

theorem cut?_append_of_cut? (complete : Complete true a) (found : cut? specifier a = some cut) :
    cut? specifier (a ++ b) = some (cut.followedBy b) := by
  have text := text_of_cut? found
  rw [← text] at found complete
  obtain ⟨_, frame, mark, quote, fits⟩ := cut?_eq_some_iff.1 found
  have atEnd : AtLineEnd (cut.rest ++ b) := by
    rcases fits.atEnd with empty | ⟨rest, later⟩
    · have ended := complete.ended
      rw [Cut.text, empty, List.append_nil, fits.lineStartAfter_line] at ended
      cases ended
    · exact .inr ⟨rest ++ b, by rw [later]; rfl⟩
  have kept := cut?_of_rest found atEnd
  rw [← text, Cut.text, List.append_assoc]
  exact kept

/-- A statement that starts in a complete text ends in it. -/
theorem exists_rest_of_cut?_append (complete : Complete true a) (ne : a ≠ [])
    (flat : ∀ c ∈ specifier, c ≠ '\n') (found : cut? specifier (a ++ b) = some cut) :
    ∃ rest, cut? specifier a = some { cut with rest := rest } := by
  obtain ⟨text, frame, mark, quote, fits⟩ := cut?_eq_some_iff.1 found
  have split : a ++ b = (cut.indent ++ importWord ++ frame) ++
      (quote :: (specifier ++ quote :: (mark ++ cut.trailing)) ++ cut.rest) := by
    rw [text, fits.text_eq]; simp
  have line : ∀ c ∈ quote :: (specifier ++ quote :: (mark ++ cut.trailing)), c ≠ '\n' := by
    intro c hc
    rw [← List.cons_append] at hc
    rcases List.mem_append.1 hc with hc | hc
    · rcases List.mem_cons.1 hc with rfl | hc
      · exact ne_newline_of_isQuote fits.quoted
      · exact flat c hc
    · exact fits.closing_flat c hc
  -- if the first text ended in front of the quote, nothing in it would close the `import`
  have outside : ¬ a <+: cut.indent ++ importWord ++ frame := by
    intro inside
    obtain ⟨front, _, ⟨later, rfl⟩, rfl⟩ := fits.exists_frame_start inside ne complete.ended
    obtain ⟨c, hc, stop⟩ := complete.closed [] cut.indent front (by simp) rfl fits.indent
    have clause := fits.clause c (by simp [hc])
    rw [stop] at clause
    cases clause
  rcases List.append_eq_append_iff.1 split with ⟨more, inFrame, _⟩ | ⟨inner, whole, behind⟩
  · exact absurd ⟨more, inFrame.symm⟩ outside
  rcases List.append_eq_append_iff.1 behind with ⟨rest, rfl, later⟩ | ⟨more, inLine, _⟩
  · refine ⟨rest, ?_⟩
    have shown : a = Cut.text { cut with rest := rest } := by
      rw [whole]
      simp [Cut.text, fits.statement]
    have filled : rest ≠ [] := by
      rintro rfl
      rw [List.append_nil] at whole
      rw [whole] at complete
      exact absurd (complete.not_flat line) (by simp)
    have atEnd : AtLineEnd rest := by
      obtain ⟨c, rest, rfl⟩ := List.exists_cons_of_ne_nil filled
      rcases fits.atEnd with empty | ⟨more, same⟩
      · rw [empty] at later
        cases later
      · rw [same] at later
        obtain ⟨rfl, _⟩ := List.cons.inj later
        exact .inr ⟨rest, rfl⟩
    rw [shown]
    exact cut?_of_rest (text ▸ found) atEnd
  · -- nor does it end on the line of the closing quote
    have empty : inner = [] := by
      rw [whole] at complete
      exact complete.not_flat fun c hc => line c (by rw [inLine]; simp [hc])
    rw [empty, List.append_nil] at whole
    exact absurd ⟨[], by rw [List.append_nil, whole]⟩ outside

/-- On the first line of a complete text the same statement stands, whatever follows the text. -/
theorem cut?_append (complete : Complete true a) (ne : a ≠ [])
    (flat : ∀ c ∈ specifier, c ≠ '\n') :
    cut? specifier (a ++ b) = (cut? specifier a).map (Cut.followedBy b) := by
  cases found : cut? specifier a with
  | some cut => exact cut?_append_of_cut? complete found
  | none =>
    apply Option.eq_none_iff_forall_ne_some.2
    intro cut whole
    obtain ⟨rest, inside⟩ := exists_rest_of_cut?_append complete ne flat whole
    rw [found] at inside
    cases inside

end

/-! ## Sweeps -/

section
variable {α : Type} {modules : List (String × α)} {a : List Char}
  (flat : ∀ module ∈ modules, ∀ c ∈ module.1.toList, c ≠ '\n')

include flat in
theorem headCut?_append (complete : Complete true a) (ne : a ≠ []) (b : List Char) :
    headCut? modules (a ++ b) =
      (headCut? modules a).map fun found => (found.1, found.2.followedBy b) := by
  induction modules with
  | nil => rfl
  | cons module modules ih =>
    have later := ih fun other mem => flat other (by simp [mem])
    have here := cut?_append complete ne (b := b) (flat module (by simp))
    unfold headCut? at later ⊢
    rw [List.findSome?_cons, List.findSome?_cons, here]
    cases cut? module.1.toList a with
    | some cut => rfl
    | none => exact later

include flat in
/-- **Sweeps add up.** A sweep over a complete text and another text is a sweep over the first and
then one over the second. -/
theorem pieces_append {lineStart : Bool} (complete : Complete lineStart a) (b : List Char)
    (position : Nat) :
    pieces modules position lineStart (a ++ b) =
      pieces modules position lineStart a ++ pieces modules (position + a.length) true b := by
  fun_induction pieces modules position lineStart a with
  | case1 position lineStart s module cut found ih =>
    split at found
    · rename_i starts
      subst starts
      obtain ⟨_, cutHere⟩ := headCut?_eq_some found
      have text := text_of_cut? cutHere
      obtain ⟨_, frame, mark, quote, fits⟩ := cut?_eq_some_iff.1 cutHere
      have ne : s ≠ [] := by
        rintro rfl
        rw [cut?_nil] at cutHere
        cases cutHere
      have whole : headCut? modules (s ++ b) = some (module, cut.followedBy b) := by
        rw [headCut?_append flat complete ne, found]
        rfl
      have behind : Complete false cut.rest := by
        rw [← text] at complete
        have rest := Complete.of_append complete
        rwa [fits.lineStartAfter_line] at rest
      have length : position + s.length =
          position + (cut.indent ++ cut.statement ++ cut.trailing).length + cut.rest.length := by
        rw [← text, Cut.text, List.length_append, Nat.add_assoc]
      rw [pieces_of_cut whole, length, List.cons_append, ← ih behind]
      rfl
    · cases found
  | case2 position lineStart found =>
    have starts : lineStart = true := complete.ended
    rw [starts]
    rfl
  | case3 position lineStart c rest found ih =>
    have absent : lineStart = true → headCut? modules (c :: (rest ++ b)) = none := by
      intro starts
      subst starts
      rw [if_pos rfl] at found
      rw [← List.cons_append, headCut?_append flat complete (by simp), found]
      rfl
    have later := ih (complete.of_append (a := [c]))
    have length : position + 1 + rest.length = position + (c :: rest).length := by
      rw [List.length_cons]
      omega
    rw [List.cons_append, pieces_cons absent, later, length, List.cons_append]

end

theorem placed_append {α : Type} (first second : List (Piece α)) :
    placed (first ++ second) = placed first ++ placed second := by
  induction first with
  | nil => rfl
  | cons piece first ih =>
    cases piece with
    | gap c => exact ih
    | statement module occurrence trailing => exact congrArg _ ih

theorem revise_append {α : Type} (new? : String × α → Occurrence → Option (List Char))
    (first second : List (Piece α)) :
    revise new? (first ++ second) = revise new? first ++ revise new? second := by
  induction first with
  | nil => rfl
  | cons piece first ih =>
    cases piece <;> simp [revise, ih]

/-! ## Offsets -/

/-- The same statement further back in a text. -/
def Occurrence.shift (offset : Nat) (occurrence : Occurrence) : Occurrence :=
  { occurrence with start := occurrence.start + offset, stop := occurrence.stop + offset }

theorem findFrom_shift (specifier : List Char) (position offset : Nat) (lineStart : Bool)
    (s : List Char) :
    findFrom specifier (position + offset) lineStart s =
      (findFrom specifier position lineStart s).map (Occurrence.shift offset) := by
  fun_induction findFrom specifier position lineStart s with
  | case1 position lineStart s cut found ih =>
    split at found
    · rename_i starts
      have moved : cut.occurrence (position + offset) = (cut.occurrence position).shift offset := by
        simp only [Cut.occurrence, Occurrence.shift, Nat.add_right_comm]
      rw [starts, findFrom_of_cut found, moved, Nat.add_right_comm, ih, List.map_cons]
    · cases found
  | case2 => rw [findFrom_nil]; rfl
  | case3 position lineStart c rest found ih =>
    have absent : lineStart = true → cut? specifier (c :: rest) = none := by
      intro starts
      rwa [if_pos starts] at found
    rw [findFrom_cons absent, Nat.add_right_comm, ih]

/-- A revision does not depend on where the text stands. -/
theorem revise_pieces_position {α : Type} {modules : List (String × α)}
    {new? : String × α → Occurrence → Option (List Char)} (placeless : Placeless new?)
    (position other : Nat) (lineStart : Bool) (s : List Char) :
    revise new? (pieces modules position lineStart s) =
      revise new? (pieces modules other lineStart s) := by
  fun_induction pieces modules position lineStart s generalizing other with
  | case1 position lineStart s module cut found ih =>
    split at found
    · rename_i starts
      rw [starts, pieces_of_cut found, revise, revise, placeless module cut position other, ih]
      rfl
    · cases found
  | case2 => rw [pieces_nil]
  | case3 position lineStart c rest found ih =>
    have absent : lineStart = true → headCut? modules (c :: rest) = none := by
      intro starts
      rwa [if_pos starts] at found
    rw [pieces_cons absent, revise, revise, ih]

end Statement

/-! ## Rewrites -/

/-- **Texts can be rewritten one by one.** Take a routing of a checked configuration, a specifier
without line breaks, and a text that is empty or ends in a line break, none of whose lines begins
with an `import` that nothing in the text could close. The occurrences in that text with any other
text behind it are those in the first and those in the second, moved behind the first. All three
rewrites succeed, and the rewrite of both texts together is the rewrite of the first and then that
of the second. -/
theorem rewriteModule_append {raw : Value} {module : VirtualModule}
    (checked : VirtualModule.check raw = .ok module) {target : String} {routing : Routing}
    (chosen : module.targets.get? target = some routing) {specifier : String}
    (flat : ∀ c ∈ specifier.toList, c ≠ '\n') {a : List Char} (complete : Complete true a)
    (b : List Char) :
    find specifier (a ++ b) =
        find specifier a ++ (find specifier b).map (Occurrence.shift a.length) ∧
      ∃ first second, (rewriteModule a specifier routing).result = .ok first ∧
        (rewriteModule b specifier routing).result = .ok second ∧
        (rewriteModule (a ++ b) specifier routing).result = .ok (first ++ second) := by
  have valid : routing.Valid := VirtualModule.valid_of_check checked _ (Entries.mem_of_get? chosen)
  have alone : ∀ module ∈ [(specifier, routing)], ∀ c ∈ module.1.toList, c ≠ '\n' := by
    intro module mem
    rw [List.mem_singleton.1 mem]
    exact flat
  have swept := pieces_append alone complete b 0
  rw [Nat.zero_add] at swept
  constructor
  · have met := congrArg (fun found => (placed found).map Prod.snd) swept
    simp only [placed_append, placed_pieces_singleton, List.map_append, List.map_map] at met
    have behind := findFrom_shift specifier.toList 0 a.length true b
    rw [Nat.zero_add] at behind
    simpa [find, Function.comp_def, behind] using met
  · refine ⟨_, _, rewriteModule_eq_ok valid.applies a specifier,
      rewriteModule_eq_ok valid.applies b specifier, ?_⟩
    rw [rewriteModule_eq_ok valid.applies, swept, revise_append,
      revise_pieces_position placeless_rendering? a.length 0]

/-- A call of `import`, and a statement over two lines. -/
def openingText : List Char :=
  "import(path);\n\timport\n\t\x7bA, B\x7d from 'virtual:ui'\n".toList

theorem rewriteModule_append_sample :
    Complete true openingText ∧
      ∃ first second,
        (rewriteModule openingText "virtual:ui" (.symbols Routing.renamingSymbols)).result =
          .ok first ∧
        (rewriteModule "import D from 'virtual:ui'".toList "virtual:ui"
          (.symbols Routing.renamingSymbols)).result = .ok second ∧
        (rewriteModule (openingText ++ "import D from 'virtual:ui'".toList) "virtual:ui"
          (.symbols Routing.renamingSymbols)).result = .ok (first ++ second) := by
  have complete : Complete true openingText := by decide
  have flat : ∀ c ∈ "virtual:ui".toList, c ≠ '\n' := by decide
  obtain ⟨_, rewritten⟩ := rewriteModule_append Routing.check_renamingTable
    (show Entries.get? "react" [("react", Routing.symbols Routing.renamingSymbols)] = some _ from rfl)
    flat complete "import D from 'virtual:ui'".toList
  exact ⟨complete, rewritten⟩

end VirtualImports
