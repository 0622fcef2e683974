import VirtualImports.Declaration.Exports
import VirtualImports.Proofs.Text.Runs

/-!
Declarations read back from the text of their file.

* `Legible`: what is written shows the thing that it was written for, and where it ends;
* `Legible.flatMap`: things written one behind the other show as well, up to a text that begins
  otherwise than they do;
* `legible_render`, `legible_block`: export statements and blocks are legible;
* `declarations_faithful`: so the text of the declarations shows what is declared.

A name is read up to the next space and a package up to the next double quote, so that nothing else
need be kept out of them.
-/
namespace VirtualImports

/-! ## Legible texts -/

namespace Text

variable {α : Type} {p : α → Prop} {write : α → List Char}

/-- A mark that does not occur before shows where a text ends. -/
theorem append_mark_inj {mark : Char} {a b rest more : List Char} (ha : mark ∉ a) (hb : mark ∉ b)
    (h : a ++ mark :: rest = b ++ mark :: more) : a = b ∧ rest = more := by
  have away {s : List Char} (hs : mark ∉ s) : ∀ c ∈ s, (c == mark) = false := by
    intro c hc
    rw [beq_eq_false_iff_ne]
    rintro rfl
    exact hs hc
  obtain ⟨same, _, later⟩ := append_cons_inj (away ha) (beq_self_eq_true mark) (away hb)
    (beq_self_eq_true mark) h
  exact ⟨same, later⟩

/-- What is written shows the thing that it was written for and where it ends, whatever text
follows. -/
def Legible (p : α → Prop) (write : α → List Char) : Prop :=
  ∀ ⦃x y : α⦄, p x → p y → ∀ ⦃rest more : List Char⦄,
    write x ++ rest = write y ++ more → x = y ∧ rest = more

theorem Legible.framed (legible : Legible p write) (before after : List Char) :
    Legible p fun x => before ++ write x ++ after := by
  intro x y hx hy rest more h
  simp only [List.append_assoc, List.append_cancel_left_eq] at h
  obtain ⟨same, later⟩ := legible hx hy h
  exact ⟨same, List.append_cancel_left later⟩

/-- Things that all begin alike are legible one behind the other, in front of a text that begins
otherwise. -/
theorem Legible.flatMap (legible : Legible p write) {first : Char}
    (begins : ∀ x, (write x).head? = some first) {xs ys : List α} (hx : ∀ x ∈ xs, p x)
    (hy : ∀ y ∈ ys, p y) {rest more : List Char} (hr : rest.head? ≠ some first)
    (hm : more.head? ≠ some first) (h : xs.flatMap write ++ rest = ys.flatMap write ++ more) :
    xs = ys ∧ rest = more := by
  have starts (x : α) (s t : List Char) : (write x ++ s ++ t).head? = some first := by
    simp [List.head?_append, begins x]
  induction xs generalizing ys with
  | nil =>
    cases ys with
    | nil => exact ⟨rfl, h⟩
    | cons y ys =>
      -- the text behind the one list would begin as the other goes on
      rw [List.flatMap_nil, List.nil_append, List.flatMap_cons] at h
      exact absurd (h ▸ starts y _ _) hr
  | cons x xs ih =>
    cases ys with
    | nil =>
      rw [List.flatMap_nil, List.nil_append, List.flatMap_cons] at h
      exact absurd (h ▸ starts x _ _) hm
    | cons y ys =>
      rw [List.flatMap_cons, List.flatMap_cons, List.append_assoc, List.append_assoc] at h
      obtain ⟨rfl, below⟩ := legible (hx x (by simp)) (hy y (by simp)) h
      obtain ⟨rfl, later⟩ :=
        ih (fun z hz => hx z (by simp [hz])) (fun z hz => hy z (by simp [hz])) below
      exact ⟨rfl, later⟩

end Text

open Text

/-! ## Export statements -/

namespace Export

/-- No name has a space in it, and no package a double quote. -/
def Clear : Export → Prop
  | name exported localName package =>
    ' ' ∉ exported.toList ∧ ' ' ∉ localName.toList ∧ '"' ∉ package.toList
  | everything package => '"' ∉ package.toList

instance (line : Export) : Decidable line.Clear :=
  match line with
  | name .. => inferInstanceAs (Decidable (_ ∧ _ ∧ _))
  | everything _ => inferInstanceAs (Decidable (¬ _))

/-- What stands in the braces: the name, and the local name if it is another. -/
def names (exported localName : String) : List Char :=
  if localName = exported then exported.toList
  else exported.toList ++ " as ".toList ++ localName.toList

theorem package_inj {a b : String} (ha : '"' ∉ a.toList) (hb : '"' ∉ b.toList)
    {rest more : List Char}
    (h : a.toList ++ ('"' :: ';' :: rest) = b.toList ++ ('"' :: ';' :: more)) : a = b ∧ rest = more := by
  obtain ⟨same, later⟩ := append_mark_inj ha hb h
  exact ⟨String.toList_inj.1 same, (List.cons.inj later).2⟩

/-- The first name ends at a space, and behind it comes the brace or the word `as`. -/
theorem names_append (exported localName : String) (rest : List Char) :
    names exported localName ++ (' ' :: '}' :: rest) =
      exported.toList ++ ' ' :: (if localName = exported then '}' :: rest
        else 'a' :: 's' :: ' ' :: (localName.toList ++ ' ' :: '}' :: rest)) := by
  unfold names
  split <;> simp

theorem names_inj {exported localName exported' localName' : String}
    (he : ' ' ∉ exported.toList) (hl : ' ' ∉ localName.toList) (he' : ' ' ∉ exported'.toList)
    (hl' : ' ' ∉ localName'.toList) {rest more : List Char}
    (h : names exported localName ++ (' ' :: '}' :: rest) =
      names exported' localName' ++ (' ' :: '}' :: more)) :
    exported = exported' ∧ localName = localName' ∧ rest = more := by
  rw [names_append, names_append] at h
  obtain ⟨same, behind⟩ := append_mark_inj he he' h
  obtain rfl := String.toList_inj.1 same
  refine ⟨rfl, ?_⟩
  -- one name alone and a name with another part at the sign behind the space
  split at behind <;> rename_i own <;> split at behind <;> rename_i own'
  · exact ⟨own.trans own'.symm, (List.cons.inj behind).2⟩
  · cases behind
  · cases behind
  · simp only [List.cons.injEq, true_and] at behind
    obtain ⟨same, later⟩ := append_mark_inj hl hl' behind
    exact ⟨String.toList_inj.1 same, (List.cons.inj later).2⟩

theorem from_eq : " \x7d from \"".toList = ' ' :: '}' :: " from \"".toList := by decide

theorem closing_eq : "\";".toList = ['"', ';'] := by decide

theorem render_name_append (exported localName package : String) (rest : List Char) :
    (name exported localName package).render ++ rest =
      "export ".toList ++ ('{' :: ' ' :: (names exported localName ++ (' ' :: '}' ::
        (" from \"".toList ++ (package.toList ++ ('"' :: ';' :: rest)))))) := by
  have opening : "export \x7b ".toList = "export ".toList ++ ['{', ' '] := by decide
  change "export \x7b ".toList ++ names exported localName ++ " \x7d from \"".toList ++
    package.toList ++ "\";".toList ++ rest = _
  rw [opening, from_eq, closing_eq]
  simp only [List.append_assoc, List.cons_append, List.nil_append]

theorem render_everything_append (package : String) (rest : List Char) :
    (everything package).render ++ rest =
      "export ".toList ++
        ('*' :: (" from \"".toList ++ (package.toList ++ ('"' :: ';' :: rest)))) := by
  have opening : "export * from \"".toList = "export ".toList ++ '*' :: " from \"".toList := by
    decide
  change "export * from \"".toList ++ package.toList ++ "\";".toList ++ rest = _
  rw [opening, closing_eq]
  simp only [List.append_assoc, List.cons_append, List.nil_append]

/-- An export statement is legible. -/
theorem legible_render : Legible Clear render := by
  intro x y hx hy rest more h
  cases x with
  | name exported localName package =>
    obtain ⟨he, hl, hp⟩ := hx
    rw [render_name_append] at h
    cases y with
    | name exported' localName' package' =>
      obtain ⟨he', hl', hp'⟩ := hy
      rw [render_name_append] at h
      have inside := List.append_cancel_left h
      simp only [List.cons.injEq, true_and] at inside
      obtain ⟨rfl, rfl, behind⟩ := names_inj he hl he' hl' inside
      obtain ⟨rfl, later⟩ := package_inj hp hp' (List.append_cancel_left behind)
      exact ⟨rfl, later⟩
    | everything package' =>
      rw [render_everything_append] at h
      cases List.append_cancel_left h
  | everything package =>
    rw [render_everything_append] at h
    cases y with
    | name exported' localName' package' =>
      rw [render_name_append] at h
      cases List.append_cancel_left h
    | everything package' =>
      rw [render_everything_append] at h
      have behind := (List.cons.inj (List.append_cancel_left h)).2
      obtain ⟨rfl, later⟩ := package_inj hx hy (List.append_cancel_left behind)
      exact ⟨rfl, later⟩

/-- A line of a block. -/
def line (statement : Export) : List Char :=
  [' ', ' '] ++ statement.render ++ ['\n']

theorem legible_line : Legible Clear line :=
  legible_render.framed [' ', ' '] ['\n']

end Export

/-! ## Blocks -/

/-- A module that is declared, with what it exports. -/
abbrev Outline := String × List Export

namespace Outline

/-- No double quote is in the name of the module, and the exports are clear. -/
def Clear (outline : Outline) : Prop :=
  '"' ∉ outline.1.toList ∧ ∀ line ∈ outline.2, line.Clear

instance (outline : Outline) : Decidable outline.Clear :=
  inferInstanceAs (Decidable (_ ∧ _))

/-- The block of a module, with the empty line above it. -/
def block (outline : Outline) : List Char :=
  '\n' :: ("declare module \"".toList ++ outline.1.toList ++ "\" \x7b\n".toList ++
    outline.2.flatMap Export.line ++ ['}', '\n'])

theorem block_append (specifier : String) (exports : List Export) (rest : List Char) :
    block (specifier, exports) ++ rest =
      '\n' :: ("declare module \"".toList ++ (specifier.toList ++ ('"' :: ' ' :: '{' :: '\n' ::
        (exports.flatMap Export.line ++ ('}' :: '\n' :: rest))))) := by
  have opening : "\" \x7b\n".toList = ['"', ' ', '{', '\n'] := by decide
  rw [block, opening]
  simp only [List.append_assoc, List.cons_append, List.nil_append]

/-- A block is legible. -/
theorem legible_block : Legible Clear block := by
  rintro ⟨specifier, exports⟩ ⟨specifier', exports'⟩ ⟨hs, he⟩ ⟨hs', he'⟩ rest more h
  rw [block_append, block_append] at h
  have named := List.append_cancel_left (List.cons.inj h).2
  obtain ⟨same, body⟩ := append_mark_inj hs hs' named
  obtain rfl := String.toList_inj.1 same
  simp only [List.cons.injEq, true_and] at body
  obtain ⟨rfl, behind⟩ :=
    Export.legible_line.flatMap (fun _ => rfl) he he' (by simp) (by simp) body
  simp only [List.cons.injEq, true_and] at behind
  exact ⟨rfl, behind⟩

end Outline

/-! ## Files -/

namespace Configuration

/-- The modules that have a declaration, with what they export. -/
def outlines (configuration : Configuration) : List Outline :=
  configuration.declared.map fun (specifier, declaration) => (specifier, declaration.exports)

/-- The names in the declarations are clear. -/
def Clear (configuration : Configuration) : Prop :=
  ∀ outline ∈ configuration.outlines, outline.Clear

instance (configuration : Configuration) : Decidable configuration.Clear :=
  inferInstanceAs (Decidable (∀ outline ∈ configuration.outlines, outline.Clear))

theorem declarationText_eq (configuration : Configuration) :
    configuration.declarationText =
      declarationHeader ++ configuration.outlines.flatMap Outline.block := by
  rw [declarationText, outlines, List.flatMap_map]
  rfl

/-- The text of the declarations shows which modules are declared and what they export. -/
theorem declarationText_eq_iff {a b : Configuration} (ha : a.Clear) (hb : b.Clear) :
    a.declarationText = b.declarationText ↔ a.outlines = b.outlines := by
  rw [declarationText_eq, declarationText_eq, List.append_cancel_left_eq]
  constructor
  · intro same
    have closed :
        a.outlines.flatMap Outline.block ++ [] = b.outlines.flatMap Outline.block ++ [] := by
      rw [same]
    exact (Outline.legible_block.flatMap (fun _ => rfl) ha hb (by decide) (by decide) closed).1
  · intro same
    rw [same]

/-- The raw declarations that re-export all of one package: its name, the mark for it, or a
setting. -/
def everythingForms (package : String) : List Value :=
  [.text package, .table [(package, .text "*")],
    .table [(package, .table [("reexportAll", .bool true)])]]

theorem exports_of_mem_everythingForms {package : String} {raw : Value}
    (form : raw ∈ everythingForms package) :
    ∃ declaration, Declaration.check raw = .ok declaration ∧
      declaration.exports = [.everything package] := by
  simp only [everythingForms, List.mem_cons, List.not_mem_nil, or_false] at form
  rcases form with rfl | rfl | rfl
  · exact ⟨.package package, rfl, rfl⟩
  · exact ⟨.packages [(package, .shorthand "*")], rfl, rfl⟩
  · exact ⟨.packages [(package, .settings ⟨true, []⟩)], rfl, rfl⟩

/-- **The declarations are faithful.** Where no name in them has a space in it and no name of a module
or a package a double quote, two configurations have the same text of declarations exactly if they
declare the same modules in the same order, and for each the same exports in the same order. The three
forms for all of a package stand for the same export. -/
theorem declarations_faithful {a b : Configuration} (ha : a.Clear) (hb : b.Clear) :
    (a.declarationText = b.declarationText ↔ a.outlines = b.outlines) ∧
      ∀ package, ∀ raw ∈ everythingForms package, ∃ declaration,
        Declaration.check raw = .ok declaration ∧ declaration.exports = [.everything package] :=
  ⟨declarationText_eq_iff ha hb, fun _ _ form => exports_of_mem_everythingForms form⟩

/-- Names that stand for themselves and others, and a module that exports nothing. -/
def shortDeclarations : Configuration where
  modules :=
    [("virtual:flow", ⟨some (.packages [("@xyflow/react", .settings ⟨true, [("Flow", "ReactFlow"),
        ("as", "as")]⟩), ("@xyflow/background", .shorthand "*")]), []⟩),
      ("virtual:none", ⟨some (.packages []), []⟩), ("virtual:icons", ⟨some (.package "icons"), []⟩)]
  declarationFile := none
  target := none

/-- The same with its settings written out, and a module without a declaration in between. -/
def longDeclarations : Configuration where
  modules :=
    [("virtual:flow", ⟨some (.packages [("@xyflow/react", .settings ⟨true, [("Flow", "ReactFlow"),
        ("as", "as")]⟩), ("@xyflow/background", .settings ⟨true, []⟩)]), []⟩),
      ("virtual:plain", ⟨none, []⟩), ("virtual:none", ⟨some (.packages []), []⟩),
      ("virtual:icons", ⟨some (.packages [("icons", .shorthand "*")]), []⟩)]
  declarationFile := some defaultDeclarationFile
  target := some "react"

theorem declarations_faithful_sample :
    shortDeclarations.Clear ∧ longDeclarations.Clear ∧
      shortDeclarations.declarationText = longDeclarations.declarationText ∧
      shortDeclarations.outlines = longDeclarations.outlines := by
  have short : shortDeclarations.Clear := by decide
  have long : longDeclarations.Clear := by decide
  have text : shortDeclarations.declarationText = longDeclarations.declarationText := by
    decide +kernel
  exact ⟨short, long, text, (declarations_faithful short long).1.1 text⟩

end Configuration

end VirtualImports
