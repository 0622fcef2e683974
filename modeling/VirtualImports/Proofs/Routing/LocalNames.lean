import Mathlib.Data.List.Nodup
import VirtualImports.Proofs.Routing.Grouping

/-!
The local names of a routed statement.

* `nodup_landings_iff`: names that were apart land apart exactly where none that a symbol is for is
  contested;
* `localNames_routed`: each name that is routed is bound once, where it lands;
* `localNames_apply`: so the local names are distinct exactly where no imported name with a symbol
  is imported twice or is the local name of another binding;
* `localNames_collide`: and where it is imported twice, they are not.
-/
namespace VirtualImports

/-- The local names of a record. -/
def Record.localNames (record : Record) : List String :=
  record.named.map Binding.localName ++ record.defaultName.toList ++ record.namespaceName.toList

/-- The local names of all records together. -/
def Routed.localNames (routed : Routed) : List String :=
  routed.records.flatMap fun entry => entry.2.localNames

theorem Record.map_localName_bound (destination : String) (record : Record) :
    (record.bound destination).map Bound.localName = record.localNames := by
  simp [bound, localNames, Function.comp_def]

theorem Routed.map_localName_pooled (routed : Routed) :
    (pooled routed.records).map Bound.localName = routed.localNames := by
  simp only [pooled, List.map_flatMap, Record.map_localName_bound, localNames]

namespace Routing

variable {routing : Routing}

/-! ## Landing -/

/-- A name that an entry with a symbol is for has a place to go to. -/
theorem isSome_redirect?_of_overridden? {bound : Bound} {name : String}
    (h : routing.overridden? bound.exported = some name) : (routing.redirect? bound).isSome := by
  obtain ⟨named, source, _, found, _⟩ := overridden?_eq_some_iff.1 h
  simp [redirect?, named, explicit?, found]

/-- No name that an entry with a symbol is for is imported twice, or is a local name that another
binding keeps. Bindings that go nowhere do not count. -/
def Uncontested (routing : Routing) (bound : List Bound) : Prop :=
  ∀ a ∈ bound, ∀ name ∈ routing.overridden? a.exported,
    ∀ b ∈ bound, (routing.redirect? b).isSome → b ≠ a →
      b.exported ≠ .named name ∧ (routing.overridden? b.exported = none → b.localName ≠ name)

/-- The names that are bound in the end, in the order of the statement. -/
def landings (routing : Routing) (bound : List Bound) : List String :=
  (bound.filter fun b => (routing.redirect? b).isSome).map routing.landing

/-- Where no name is contested, a binding that a symbol is for does not land where another does. -/
theorem Uncontested.landing_ne {bound : List Bound} (uncontested : routing.Uncontested bound)
    {a b : Bound} (ha : a ∈ bound) (hb : b ∈ bound) (different : b ≠ a) {name : String}
    (overridden : routing.overridden? a.exported = some name)
    (routed : (routing.redirect? b).isSome) : routing.landing b ≠ routing.landing a := by
  obtain ⟨imported, kept⟩ := uncontested a ha name overridden b hb routed different
  rw [landing_of_overridden? overridden]
  cases other : routing.overridden? b.exported with
  | none =>
    rw [landing_of_kept other]
    exact kept other
  | some second =>
    rw [landing_of_overridden? other]
    rintro rfl
    exact imported (overridden?_eq_some_iff.1 other).1

/-- **Where local names collide.** Names that were apart land apart exactly where no name that a
symbol is for is imported twice, and none is a local name that is kept. -/
theorem nodup_landings_iff {bound : List Bound} (distinct : (bound.map Bound.localName).Nodup) :
    (routing.landings bound).Nodup ↔ routing.Uncontested bound := by
  have once : (bound.filter fun b => (routing.redirect? b).isSome).Nodup :=
    distinct.of_map.filter _
  rw [landings, List.nodup_map_iff_inj_on once]
  simp only [List.mem_filter]
  constructor
  · intro inj a ha name overridden b hb routed different
    have landed := landing_of_overridden? overridden
    have apart : routing.landing b ≠ name := fun same =>
      different (inj b ⟨hb, routed⟩ a ⟨ha, isSome_redirect?_of_overridden? overridden⟩
        (same.trans landed.symm))
    constructor
    · intro imported
      have both : routing.overridden? b.exported = some name := by
        rw [imported]
        exact overridden?_named overridden
      exact apart (landing_of_overridden? both)
    · intro kept same
      exact apart ((landing_of_kept kept).trans same)
  · rintro uncontested a ⟨ha, routedA⟩ b ⟨hb, routedB⟩ same
    by_contra different
    cases first : routing.overridden? a.exported with
    | some name => exact uncontested.landing_ne ha hb (Ne.symm different) first routedB same.symm
    | none =>
      cases second : routing.overridden? b.exported with
      | some name => exact uncontested.landing_ne hb ha different second routedA same
      | none =>
        rw [landing_of_kept first, landing_of_kept second] at same
        exact different (List.inj_on_of_nodup_map distinct ha hb same)

/-! ## Statements -/

theorem map_localName_rebind? (bound : List Bound) :
    (bound.filterMap routing.rebind?).map Bound.localName = routing.landings bound := by
  induction bound with
  | nil => rfl
  | cons b bound ih =>
    cases redirected : routing.redirect? b with
    | none => simpa [landings, rebind?, redirected] using ih
    | some other => simpa [landings, rebind?, redirected] using ih

/-- The records of a routed statement bind each name that is routed once, where it lands. -/
theorem localNames_routed (valid : routing.Valid) (statement : ImportStatement) :
    (routing.routed statement).localNames.Perm (routing.landings statement.bound) := by
  rw [← Routed.map_localName_pooled, ← map_localName_rebind?]
  exact (pooled_routed valid statement).map _

/-- **Local names after routing.** Under a checked configuration, a statement with distinct local
names is routed, and the records bind each name that goes somewhere once: an imported name that a
symbol is for as itself, any other by its local name. So the local names are distinct exactly where
no name that a symbol is for is contested. -/
theorem localNames_apply {statement : ImportStatement}
    (distinct : (statement.bound.map Bound.localName).Nodup) {raw : Value} {module : VirtualModule}
    (checked : VirtualModule.check raw = .ok module) {target : String}
    (chosen : module.targets.get? target = some routing) :
    ∃ routed, (routing.apply statement).result = .ok routed ∧
      routed.localNames.Perm (routing.landings statement.bound) ∧
      (routed.localNames.Nodup ↔ routing.Uncontested statement.bound) := by
  have valid : routing.Valid := VirtualModule.valid_of_check checked _ (Entries.mem_of_get? chosen)
  have landed := localNames_routed valid statement
  refine ⟨_, apply_eq_ok valid statement, landed, ?_⟩
  exact landed.nodup_iff.trans (nodup_landings_iff distinct)

/-- One target with symbols for two names, a module for the rest. -/
def renamingTable : Value :=
  .table [("targets", .table [("react", .table
    [("A", .table [("from", .text "ui"), ("symbol", .text "Alert")]),
      ("P", .table [("from", .text "ui-types"), ("symbol", .text "Props")]),
      ("*", .text "rest")])])]

def renamingSymbols : Entries SymbolEntry :=
  [("A", .checked ⟨"ui", some "Alert"⟩), ("P", .checked ⟨"ui-types", some "Props"⟩),
    ("*", .shorthand "rest")]

theorem check_renamingTable : VirtualModule.check renamingTable =
    .ok ⟨none, [("react", .symbols renamingSymbols)]⟩ := rfl

/-- The two entries with symbols give up their local names, which are free to be others'. -/
def renamedStatement : ImportStatement where
  original := "import D, { A as X, type P as A2, B as P2 } from 'virtual:ui'".toList
  specifier := "virtual:ui"
  typeOnly := false
  bindings := ⟨[("X", "A"), ("P2", "B")], [("A2", "P")], some "D", none⟩

theorem localNames_apply_sample :
    ImportStatement.read renamedStatement.original = .ok renamedStatement ∧
      (renamedStatement.bound.map Bound.localName).Nodup ∧
      ∃ routed, ((symbols renamingSymbols).apply renamedStatement).result = .ok routed ∧
        routed.localNames.Perm ["A", "P2", "P", "D"] ∧ routed.localNames.Nodup := by
  have readable : ImportStatement.read renamedStatement.original = .ok renamedStatement := by
    decide +kernel
  have distinct : (renamedStatement.bound.map Bound.localName).Nodup := by decide
  obtain ⟨routed, run, landed, iff⟩ := localNames_apply distinct check_renamingTable
    (show Entries.get? "react" [("react", symbols renamingSymbols)] = some _ from rfl)
  have uncontested : (symbols renamingSymbols).Uncontested renamedStatement.bound := by
    unfold Uncontested
    decide +kernel
  exact ⟨readable, distinct, routed, run, landed, iff.2 uncontested⟩

/-- Two entries for one name that a symbol is for both bind that name, whatever they were called. -/
theorem localNames_collide :
    ∃ statement routed, ImportStatement.read "import { A as X, A as Y } from 'virtual:ui'".toList =
        .ok statement ∧ (statement.bound.map Bound.localName).Nodup ∧
      VirtualModule.check renamingTable = .ok ⟨none, [("react", .symbols renamingSymbols)]⟩ ∧
      ((symbols renamingSymbols).apply statement).result = .ok routed ∧
      routed.localNames = ["A", "A"] ∧ ¬ routed.localNames.Nodup := by
  refine ⟨⟨"import { A as X, A as Y } from 'virtual:ui'".toList, "virtual:ui", false,
      ⟨[("X", "A"), ("Y", "A")], [], none, none⟩⟩,
    ⟨[("ui", ⟨[⟨"Alert", "A", false⟩, ⟨"Alert", "A", false⟩], none, none, false⟩)], []⟩,
    ?_, ?_, rfl, rfl, rfl, ?_⟩
  all_goals decide +kernel

end Routing

end VirtualImports
