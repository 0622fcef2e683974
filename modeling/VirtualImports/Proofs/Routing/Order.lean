import VirtualImports.Proofs.Routing.CatchAll
import VirtualImports.Proofs.Routing.Fates

/-!
The statements that take the place of one, in their order.

* `eq_ofResolutions_of_filled`: a statement that binds something is routed binding by binding, also
  to a target that is one module;
* `isEmpty_of_routes`: a record that holds a route has a statement;
* `records_apply`: there is one statement for each destination, in the order in which the bindings
  first reach it, and its record holds the bindings that do, in theirs.
-/
namespace VirtualImports

/-- A namespace stands beside a brace list. -/
def Bindings.combines (bindings : Bindings) : Prop :=
  bindings.namespaceName ≠ none ∧ (bindings.named ≠ [] ∨ bindings.types ≠ [])

/-- A namespace stands beside a brace list. -/
def Record.combines (record : Record) : Prop :=
  record.namespaceName ≠ none ∧ record.named ≠ []

/-- A record that holds a route has a statement. -/
theorem Record.isEmpty_of_routes {destination : String} {record : Record}
    (ne : record.routes destination ≠ [])
    (filled : ∀ route ∈ record.routes destination, route.kind.rank ≠ 0 → route.localName ≠ "") :
    record.isEmpty = false := by
  obtain ⟨named, defaultName, namespaceName, typeOnly⟩ := record
  cases named with
  | cons binding named => rfl
  | nil =>
    cases defaultName with
    | some name =>
      have := filled ⟨.default, destination, name, name⟩ (by simp [routes]) Nat.one_ne_zero
      simp_all [isEmpty, filledName?]
    | none =>
      cases namespaceName with
      | some name =>
        have := filled ⟨.wholeModule, destination, name, name⟩ (by simp [routes]) (Nat.succ_ne_zero 1)
        simp_all [isEmpty, filledName?]
      | none => exact absurd rfl ne

/-- A record with a namespace beside entries holds routes of both kinds. -/
theorem Record.exists_routes_of_combines {record : Record} (h : record.combines)
    (destination : String) :
    (∃ route ∈ record.routes destination, route.kind = .wholeModule) ∧
      ∃ route ∈ record.routes destination, route.kind.rank = 0 := by
  obtain ⟨named, defaultName, namespaceName, typeOnly⟩ := record
  obtain ⟨whole, entries⟩ := h
  obtain ⟨name, rfl⟩ := Option.ne_none_iff_exists'.1 whole
  obtain ⟨binding, mem⟩ := List.exists_mem_of_ne_nil _ entries
  constructor
  · exact ⟨⟨.wholeModule, destination, name, name⟩, by simp [routes], rfl⟩
  · refine ⟨_, List.mem_append_left _ (List.mem_append_left _ (List.mem_map_of_mem mem)), ?_⟩
    cases binding.isType <;> rfl

theorem ImportStatement.combines_of_requests {statement : ImportStatement}
    (whole : ∃ request ∈ statement.requests, request.kind = .wholeModule)
    (entry : ∃ request ∈ statement.requests, request.kind.rank = 0) :
    statement.bindings.combines := by
  obtain ⟨first, hf, isWhole⟩ := whole
  obtain ⟨second, hs, isEntry⟩ := entry
  simp only [requests, List.mem_append, List.mem_map, Option.mem_toList] at hf hs
  constructor
  · rcases hf with ((⟨_, _, rfl⟩ | ⟨_, _, rfl⟩) | ⟨_, _, rfl⟩) | ⟨name, found, rfl⟩
    · cases isWhole
    · cases isWhole
    · cases isWhole
    · exact Option.ne_none_iff_exists'.2 ⟨name, found⟩
  · rcases hs with ((⟨_, mem, rfl⟩ | ⟨_, mem, rfl⟩) | ⟨_, _, rfl⟩) | ⟨_, _, rfl⟩
    · exact .inl (List.ne_nil_of_mem mem)
    · exact .inr (List.ne_nil_of_mem mem)
    · cases isEntry
    · cases isEntry

/-- Records that are not empty have one statement each. -/
theorem Routed.forall₂_statements {routed : Routed}
    (shown : ∀ entry ∈ routed.records, entry.2.isEmpty = false) :
    List.Forall₂ (fun entry rendered => entry.2.statement? entry.1 = some rendered)
      routed.records routed.statements := by
  have each : ∀ entry ∈ routed.records,
      entry.2.statement? entry.1 = some ((entry.2.statement? entry.1).getD []) := by
    intro entry mem
    simp [Record.statement?, shown entry mem]
  rw [statements, List.filterMap_eq_map_iff_forall_eq_some.2 each, List.forall₂_map_right_iff,
    List.forall₂_same]
  exact each

namespace Routing

variable {routing : Routing} {statement : ImportStatement} {result : Routed}

/-- A statement that binds something is routed binding by binding. -/
theorem eq_ofResolutions_of_filled (filled : statement.bindings.isEmpty = false)
    (done : (routing.apply statement).result = .ok result) :
    result = Routed.ofResolutions statement.typeOnly (statement.requests.map routing.fate) := by
  cases routing with
  | module destination =>
    have each : statement.requests.map (module destination).fate =
        (statement.routesTo destination).map Resolution.resolved :=
      (List.map_map ..).symm
    rw [each, ImportStatement.ofResolutions_routesTo filled]
    exact (Except.ok.inj done).symm
  | symbols entries =>
    obtain ⟨_, _, _, same⟩ := eq_ofResolutions_of_apply done
    exact same

/-- The record of a destination holds the bindings that are routed there, in their order. -/
theorem routes_of_mem_records (filled : statement.bindings.isEmpty = false)
    (done : (routing.apply statement).result = .ok result) {entry : String × Record}
    (mem : entry ∈ result.records) :
    entry.2.routes entry.1 = (routing.routes statement).filter (·.destination = entry.1) := by
  obtain rfl := eq_ofResolutions_of_filled filled done
  rw [Routed.eq_gathered_of_mem_group mem]
  exact Routed.routes_gathered (arranged_routes routing statement) entry.1

theorem exists_request_of_mem_records (filled : statement.bindings.isEmpty = false)
    (done : (routing.apply statement).result = .ok result) {entry : String × Record}
    (mem : entry ∈ result.records) {route : Route} (held : route ∈ entry.2.routes entry.1) :
    ∃ request ∈ statement.requests, routing.fate request = .resolved route := by
  rw [routes_of_mem_records filled done mem] at held
  exact mem_routes.1 (List.mem_of_mem_filter held)

/-- A record is only made for a binding that goes into it. -/
theorem isEmpty_of_mem_records (names : statement.bindings.WellNamed)
    (filled : statement.bindings.isEmpty = false)
    (done : (routing.apply statement).result = .ok result) {entry : String × Record}
    (mem : entry ∈ result.records) : entry.2.isEmpty = false := by
  have ne : entry.2.routes entry.1 ≠ [] := by
    rw [routes_of_mem_records filled done mem]
    obtain rfl := eq_ofResolutions_of_filled filled done
    obtain ⟨route, hr, same⟩ := Routed.mem_keys_group.1 (List.mem_map_of_mem mem)
    exact List.ne_nil_of_mem (List.mem_filter.2 ⟨hr, decide_eq_true same⟩)
  refine Record.isEmpty_of_routes ne fun route held other => ?_
  obtain ⟨request, hr, fate⟩ := exists_request_of_mem_records filled done mem held
  rw [kind_of_fate fate] at other
  rw [(names_of_fate fate other).2]
  exact (ImportStatement.isName_of_mem_requests names hr).2.ne_empty

theorem combines_of_mem_records (filled : statement.bindings.isEmpty = false)
    (done : (routing.apply statement).result = .ok result) {entry : String × Record}
    (mem : entry ∈ result.records) (combines : entry.2.combines) :
    statement.bindings.combines := by
  obtain ⟨⟨first, hf, isWhole⟩, second, hs, isEntry⟩ :=
    Record.exists_routes_of_combines combines entry.1
  obtain ⟨_, mf, ff⟩ := exists_request_of_mem_records filled done mem hf
  obtain ⟨_, ms, fs⟩ := exists_request_of_mem_records filled done mem hs
  exact ImportStatement.combines_of_requests ⟨_, mf, (kind_of_fate ff).symm.trans isWhole⟩
    ⟨_, ms, (congrArg BindingKind.rank (kind_of_fate fs)).symm.trans isEntry⟩

/-- **Grouping is stable.** A statement that can be read is replaced by one statement for each
destination, in the order in which its bindings first reach them. The record of a destination holds
the bindings that are routed there, in their order, and has the mark of the statement. It has a
namespace beside a brace list only where the statement has. -/
theorem records_apply {text : List Char} (readable : ImportStatement.read text = .ok statement)
    (done : (routing.apply statement).result = .ok result) :
    result.records.keys = ((routing.routes statement).map Route.destination).eraseDups ∧
    result.records.keys.Nodup ∧
    (∀ entry ∈ result.records,
      entry.2.routes entry.1 =
        (routing.routes statement).filter (·.destination = entry.1) ∧
      entry.2.typeOnly = statement.typeOnly ∧ entry.2.isEmpty = false ∧
      (entry.2.combines → statement.bindings.combines)) ∧
    List.Forall₂ (fun entry rendered => entry.2.statement? entry.1 = some rendered)
      result.records result.statements := by
  have names := ImportStatement.wellNamed_of_read readable
  have filled := ImportStatement.isEmpty_of_read readable
  have grouped := eq_ofResolutions_of_filled filled done
  have keys : result.records.keys =
      ((routing.routes statement).map Route.destination).eraseDups := by
    rw [grouped]
    exact Routed.keys_group _ _
  refine ⟨keys, keys ▸ nodup_eraseDups _, ?_, ?_⟩
  · intro entry mem
    have marked : entry.2.typeOnly = statement.typeOnly := by
      rw [grouped] at mem
      exact Routed.typeOnly_of_mem_group entry mem
    exact ⟨routes_of_mem_records filled done mem, marked,
      isEmpty_of_mem_records names filled done mem, combines_of_mem_records filled done mem⟩
  · exact Routed.forall₂_statements fun entry mem => isEmpty_of_mem_records names filled done mem

/-- Two destinations that the bindings reach by turns. -/
def alternatingSymbols : Entries SymbolEntry :=
  [(catchAllKey, .shorthand "x"), ("T", .shorthand "y"), ("a", .shorthand "y")]

theorem records_apply_sample :
    ∃ statement result,
      ImportStatement.read "import D, { a as b, c, type T } from 'm'".toList = .ok statement ∧
      ((symbols alternatingSymbols).apply statement).result = .ok result ∧
      result.records.keys = ["y", "x"] ∧
      result.statements = ["import { a as b, type T } from 'y';".toList,
        "import D, { c } from 'x';".toList] ∧
      ∀ entry ∈ result.records, entry.2.isEmpty = false ∧ ¬ entry.2.combines := by
  have readable : ImportStatement.read "import D, { a as b, c, type T } from 'm'".toList =
      .ok ⟨"import D, { a as b, c, type T } from 'm'".toList, "m", false,
        ⟨[("b", "a"), ("c", "c")], [("T", "T")], some "D", none⟩⟩ := by decide +kernel
  have done : ((symbols alternatingSymbols).apply
      ⟨"import D, { a as b, c, type T } from 'm'".toList, "m", false,
        ⟨[("b", "a"), ("c", "c")], [("T", "T")], some "D", none⟩⟩).result =
      .ok ⟨[("y", ⟨[⟨"a", "b", false⟩, ⟨"T", "T", true⟩], none, none, false⟩),
        ("x", ⟨[⟨"c", "c", false⟩], some "D", none, false⟩)], []⟩ := by rfl
  obtain ⟨keys, _, each, _⟩ := records_apply readable done
  refine ⟨_, _, readable, done, keys.trans (by decide +kernel), by decide +kernel, ?_⟩
  intro entry mem
  obtain ⟨_, _, shown, combines⟩ := each entry mem
  exact ⟨shown, fun both => (combines both).1 rfl⟩

end Routing

end VirtualImports
