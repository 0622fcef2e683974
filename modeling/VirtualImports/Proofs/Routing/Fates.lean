import VirtualImports.Proofs.Routing.Bound
import VirtualImports.Proofs.Routing.Stability

/-!
What becomes of the bindings of a statement.

* `Routing.fate`: a binding goes to the source that is there for it, or is dropped;
* `eq_ofResolutions_of_apply`: where the look-ups succeed, a symbol map routes the bindings of a
  statement to their fates;
* `logs_apply`: each binding that is dropped is reported, and nothing else is;
* `places_apply`: each binding is in one place in the end, and the dropped ones are those that a
  symbol map has nothing for.

The entries of the map need not have been checked. Those that are looked up stand for sources where
the statement could be routed.
-/
namespace VirtualImports

namespace Routing

/-! ## Fates -/

/-- The entry for the name that a binding imports. A default name or a namespace imports none. -/
def own? (entries : Entries SymbolEntry) (request : Request) : Option SymbolEntry :=
  match request.kind with
  | .named | .typed => SymbolMap.entry? entries request.imported
  | .default | .wholeModule => none

/-- The source that a binding is taken from: that of its own entry, or else that of the catch-all,
which has no symbol name for it. -/
def source? (routing : Routing) (request : Request) : Option SymbolSource :=
  match routing with
  | module destination => some ⟨destination, none⟩
  | symbols entries =>
    match own? entries request with
    | some entry => entry.toSource.toOption
    | none => (SymbolMap.entry? entries catchAllKey).bind fun entry =>
        entry.toSource.toOption.map fun source => ⟨source.destination, none⟩

/-- What becomes of a binding. -/
def fate (routing : Routing) (request : Request) : Resolution :=
  match routing.source? request with
  | some source => .resolved (SymbolMap.routeTo source request)
  | none => .unresolved ⟨request.kind, request.imported⟩

/-- The bindings of a statement that are routed, in the order of the statement. -/
def routes (routing : Routing) (statement : ImportStatement) : List Route :=
  Routed.routes (statement.requests.map routing.fate)

/-- There is nothing under a key, or nothing that counts. -/
def Lacks (entries : Entries SymbolEntry) (key : String) : Prop :=
  ∀ entry, entries.get? key = some entry → entry.isPresent = false

/-- The target is a symbol map that has neither a catch-all nor an entry for what is imported. -/
def Drops (routing : Routing) (request : Request) : Prop :=
  ∃ entries, routing = symbols entries ∧ Lacks entries catchAllKey ∧
    (request.kind = .named ∨ request.kind = .typed → Lacks entries request.imported)

variable {routing : Routing} {entries : Entries SymbolEntry} {statement : ImportStatement}

theorem lacks_iff {key : String} :
    Lacks entries key ↔ SymbolMap.entry? entries key = none := by
  unfold SymbolMap.entry?
  rw [Option.filter_eq_none_iff]
  exact forall₂_congr fun _ _ => by rw [Bool.not_eq_true]

theorem lacks_own_iff {request : Request} :
    (request.kind = .named ∨ request.kind = .typed → Lacks entries request.imported) ↔
      own? entries request = none := by
  rw [lacks_iff, own?]
  cases request.kind <;> simp

theorem drops_iff {request : Request} :
    (symbols entries).Drops request ↔
      SymbolMap.entry? entries catchAllKey = none ∧ own? entries request = none := by
  rw [← lacks_iff, ← lacks_own_iff]
  exact ⟨fun ⟨_, same, lacks⟩ => by cases same; exact lacks, fun lacks => ⟨entries, rfl, lacks⟩⟩

instance (routing : Routing) (request : Request) : Decidable (routing.Drops request) :=
  match routing with
  | module _ => isFalse fun ⟨_, same, _⟩ => nomatch same
  | symbols _ => decidable_of_iff _ drops_iff.symm

theorem source?_of_drops {request : Request} (drops : routing.Drops request) :
    routing.source? request = none := by
  obtain ⟨entries, rfl, lacks⟩ := drops
  obtain ⟨noCatchAll, noOwn⟩ := drops_iff.1 ⟨entries, rfl, lacks⟩
  simp only [source?, noOwn, noCatchAll, Option.bind_none]

/-- A resolution is a route to the source of the binding, or the binding is dropped. -/
theorem resolve_cases {map : SymbolMap} (built : SymbolMap.ofEntries entries = .ok map)
    {request : Request} {resolution : Resolution} (h : map.resolve request = .ok resolution) :
    (∃ source, (symbols entries).source? request = some source ∧
      resolution = .resolved (SymbolMap.routeTo source request)) ∨
    ((symbols entries).Drops request ∧
      resolution = .unresolved ⟨request.kind, request.imported⟩) := by
  have same := SymbolMap.entries_of_ofEntries built
  rcases map.resolve_cases request with ⟨entry, kind, present, eq⟩ | ⟨absent, eq⟩
  · obtain ⟨source, checked, rfl⟩ := Except.map_eq_ok.1 (eq.symm.trans h)
    have own : own? entries request = some entry := by
      rw [same] at present
      rcases kind with kind | kind <;> simp [own?, kind, present]
    exact .inl ⟨source, by simp only [source?, own, checked, Except.toOption], rfl⟩
  · -- nothing but the catch-all is left
    cases Except.ok.inj (eq.symm.trans h)
    have own : own? entries request = none := by
      rw [same] at absent
      exact lacks_own_iff.1 fun kind => lacks_iff.2 (absent kind)
    rw [SymbolMap.ofEntries] at built
    split at built
    · rename_i missing
      cases built
      exact .inr ⟨drops_iff.2 ⟨missing, own⟩, rfl⟩
    · rename_i entry present
      obtain ⟨source, checked, rfl⟩ := Except.map_eq_ok.1 built
      refine .inl ⟨⟨source.destination, none⟩, ?_, rfl⟩
      simp [source?, own, present, checked, Except.toOption]

/-- Resolution gives a binding its fate. -/
theorem fate_of_resolve {map : SymbolMap} (built : SymbolMap.ofEntries entries = .ok map)
    {request : Request} {resolution : Resolution} (h : map.resolve request = .ok resolution) :
    (symbols entries).fate request = resolution := by
  rcases resolve_cases built h with ⟨source, found, rfl⟩ | ⟨drops, rfl⟩
  · rw [fate, found]
  · rw [fate, source?_of_drops drops]

theorem kind_of_fate {request : Request} {route : Route}
    (h : routing.fate request = .resolved route) : route.kind = request.kind := by
  unfold fate SymbolMap.routeTo at h
  split at h
  · split at h <;> cases h <;> rfl
  · cases h

/-- A default name or a namespace is routed under its own names. -/
theorem names_of_fate {request : Request} {route : Route}
    (h : routing.fate request = .resolved route) (other : request.kind.rank ≠ 0) :
    route.imported = request.imported ∧ route.localName = request.localName := by
  have unnamed (entries : Entries SymbolEntry) : own? entries request = none := by
    unfold own?
    cases kind : request.kind <;> simp_all [BindingKind.rank]
  have plain : ∀ source ∈ routing.source? request, source.symbol = none := by
    intro source found
    cases routing with
    | module destination =>
      cases found
      rfl
    | symbols entries =>
      simp only [source?, unnamed, Option.mem_def, Option.bind_eq_some_iff,
        Option.map_eq_some_iff] at found
      obtain ⟨_, _, _, _, rfl⟩ := found
      rfl
  unfold fate at h
  split at h
  · rename_i source found
    rw [SymbolMap.routeTo, plain source found] at h
    cases h
    exact ⟨rfl, rfl⟩
  · cases h

end Routing

/-! ## Statements -/

/-- The bindings of a statement come in order, and a default name or a namespace is single. -/
theorem ImportStatement.pairwise_requests (statement : ImportStatement) :
    statement.requests.Pairwise fun a b => a.kind.Precedes b.kind := by
  have entries : ∀ a ∈ statement.bindings.named.map
        (fun entry => (⟨.named, entry.2, entry.1⟩ : Request)) ++
      statement.bindings.types.map (fun entry => ⟨.typed, entry.2, entry.1⟩),
      a.kind.rank = 0 := by
    intro a mem
    rcases List.mem_append.1 mem with mem | mem <;>
      obtain ⟨_, _, rfl⟩ := List.mem_map.1 mem <;> rfl
  have one {name : Option String} {f : String → Request} :
      (name.toList.map f).Pairwise fun a b => a.kind.Precedes b.kind := by
    cases name <;> simp
  refine List.pairwise_append.2 ⟨List.pairwise_append.2 ⟨?_, one, ?_⟩, one, ?_⟩
  · exact List.pairwise_of_forall_mem_list fun a ha b hb => .inr ⟨entries a ha, entries b hb⟩
  · intro a ha b hb
    obtain ⟨_, _, rfl⟩ := List.mem_map.1 hb
    exact .inl ((entries a ha).trans_lt Nat.one_pos)
  · intro a ha b hb
    obtain ⟨_, _, rfl⟩ := List.mem_map.1 hb
    rcases List.mem_append.1 ha with ha | ha
    · exact .inl ((entries a ha).trans_lt Nat.two_pos)
    · obtain ⟨_, _, rfl⟩ := List.mem_map.1 ha
      exact .inl Nat.one_lt_two

/-- Only an entry has a name to import besides its local one. -/
theorem ImportStatement.own_of_mem_requests {statement : ImportStatement} {request : Request}
    (mem : request ∈ statement.requests) (other : request.kind.rank ≠ 0) :
    request.imported = request.localName := by
  simp only [requests, List.mem_append, List.mem_map, Option.mem_toList] at mem
  rcases mem with ((⟨_, _, rfl⟩ | ⟨_, _, rfl⟩) | ⟨_, _, rfl⟩) | ⟨_, _, rfl⟩
  · exact absurd rfl other
  · exact absurd rfl other
  · rfl
  · rfl

theorem Routed.routes_map (requests : List Request) (resolution : Request → Resolution) :
    routes (requests.map resolution) =
      requests.filterMap fun request => (resolution request).route? := by
  rw [routes, List.filterMap_map]
  refine List.filterMap_congr fun request _ => ?_
  dsimp only [Function.comp_apply]
  cases resolution request <;> rfl

namespace Routing

variable {routing : Routing} {entries : Entries SymbolEntry} {statement : ImportStatement}
  {result : Routed}

/-- The routes of a statement are those of its bindings. -/
theorem mem_routes {route : Route} :
    route ∈ routing.routes statement ↔
      ∃ request ∈ statement.requests, routing.fate request = .resolved route := by
  rw [routes, Routed.mem_routes, List.mem_map]

/-- The bindings of a statement are routed in an order in which grouping keeps them all. -/
theorem arranged_routes (routing : Routing) (statement : ImportStatement) :
    Routed.Arranged (routing.routes statement) where
  order := by
    rw [routes, Routed.routes_map, List.pairwise_filterMap]
    refine statement.pairwise_requests.imp fun {a b} behind => ?_
    intro first hf second hs
    rw [kind_of_fate (Resolution.route?_eq_some_iff.1 hf),
      kind_of_fate (Resolution.route?_eq_some_iff.1 hs)]
    exact behind
  own := by
    intro route mem other
    obtain ⟨request, hr, same⟩ := mem_routes.1 mem
    rw [kind_of_fate same] at other
    obtain ⟨imported, localName⟩ := names_of_fate same other
    rw [imported, localName, ImportStatement.own_of_mem_requests hr other]

/-- Where no look-up fails, a symbol map routes each binding to its fate. -/
theorem eq_ofResolutions_of_apply (done : ((symbols entries).apply statement).result = .ok result) :
    ∃ map, SymbolMap.ofEntries entries = .ok map ∧
      (∀ request ∈ statement.requests,
        map.resolve request = .ok ((symbols entries).fate request)) ∧
      result = Routed.ofResolutions statement.typeOnly
        (statement.requests.map (symbols entries).fate) := by
  rw [apply] at done
  split at done
  · cases done
  rename_i map built
  obtain ⟨resolutions, all, rfl⟩ := Except.map_eq_ok.1 done
  have each : List.Forall₂ (fun request resolution => map.resolve request = .ok resolution)
      statement.requests resolutions := by
    have listed := Attempt.all_eq_ok.1 all
    rw [List.forall₂_map_left_iff] at listed
    exact listed.imp fun request resolution h => (map.attempt_result _ request).symm.trans h
  have same : statement.requests.map (symbols entries).fate = resolutions := by
    rw [← List.forall₂_eq_eq_eq, List.forall₂_map_left_iff]
    exact each.imp fun request resolution h => fate_of_resolve built h
  refine ⟨map, built, ?_, by rw [same]⟩
  rw [← same, List.forall₂_map_right_iff, List.forall₂_same] at each
  exact each

/-- Where no look-up fails, a binding that is not dropped is taken from its source. -/
theorem exists_source_of_apply (done : (routing.apply statement).result = .ok result)
    {request : Request} (mem : request ∈ statement.requests) (kept : ¬ routing.Drops request) :
    ∃ source, routing.source? request = some source := by
  cases routing with
  | module destination => exact ⟨_, rfl⟩
  | symbols entries =>
    obtain ⟨map, built, resolves, _⟩ := eq_ofResolutions_of_apply done
    rcases resolve_cases built (resolves request mem) with ⟨source, found, _⟩ | ⟨drops, _⟩
    · exact ⟨source, found⟩
    · exact absurd drops kept

/-- The bindings that have no place in the end are those that are dropped. -/
theorem unresolved_of_apply (done : (routing.apply statement).result = .ok result) :
    result.unresolved = (statement.requests.filter (routing.Drops ·)).map fun request =>
      ⟨request.kind, request.imported⟩ := by
  cases routing with
  | module destination =>
    obtain rfl : Routed.toModule statement destination = result := Except.ok.inj done
    have none : statement.requests.filter ((module destination).Drops ·) = [] :=
      List.filter_eq_nil_iff.2 fun request _ => by simp [Drops]
    rw [none]
    rfl
  | symbols entries =>
    obtain ⟨map, built, resolves, rfl⟩ := eq_ofResolutions_of_apply done
    show Routed.dropped _ = _
    rw [Routed.dropped, List.filterMap_map, ← List.filterMap_eq_map, List.filterMap_filter]
    refine List.filterMap_congr fun request mem => ?_
    rcases resolve_cases built (resolves request mem) with ⟨source, found, eq⟩ | ⟨drops, eq⟩
    · have kept : ¬ (symbols entries).Drops request := by
        intro drops
        rw [source?_of_drops drops] at found
        cases found
      simp [eq, kept]
    · simp [eq, drops]

/-- Each binding that is dropped is reported, in the order of the statement, and nothing else. -/
theorem logs_apply (done : (routing.apply statement).result = .ok result) :
    (routing.apply statement).logs = result.unresolved.map (Unresolved.log statement.specifier) := by
  cases routing with
  | module destination =>
    obtain rfl : Routed.toModule statement destination = result := Except.ok.inj done
    rfl
  | symbols entries =>
    obtain ⟨map, built, resolves, rfl⟩ := eq_ofResolutions_of_apply done
    have all : (Attempt.all (statement.requests.map (map.attempt statement.specifier))).result =
        .ok (statement.requests.map (symbols entries).fate) :=
      Attempt.all_map_eq_ok _ fun request mem =>
        (map.attempt_result _ request).trans (resolves request mem)
    simp only [apply, built, Attempt.map]
    rw [Attempt.logs_all all, Routed.ofResolutions, Routed.dropped, List.filterMap_map, List.map_filterMap,
      List.filterMap_eq_flatMap_toList, List.flatMap_map]
    refine List.flatMap_congr fun request mem => ?_
    simp only [SymbolMap.attempt, resolves request mem, Function.comp_apply]
    cases (symbols entries).fate request <;> rfl

end Routing

/-! ## Places -/

/-- Each resolution is a route or is dropped. -/
theorem Routed.perm_routes_dropped (resolutions : List Resolution) :
    ((routes resolutions).map Resolution.resolved ++
      (dropped resolutions).map Resolution.unresolved).Perm
      resolutions := by
  induction resolutions with
  | nil => exact .nil
  | cons resolution rest ih =>
    cases resolution with
    | resolved route => exact ih.cons _
    | unresolved binding => exact List.perm_middle.trans (ih.cons _)

/-- Where bindings are in the end: in the record of a destination, or among the dropped ones. -/
def Routed.places (routed : Routed) : List Resolution :=
  (routed.records.flatMap fun entry => entry.2.routes entry.1).map .resolved ++
    routed.unresolved.map .unresolved

/-- One module takes all bindings, under their own names. -/
theorem Routing.routes_module (destination : String) (statement : ImportStatement) :
    (module destination).routes statement = statement.requests.map fun request =>
      ⟨request.kind, destination, request.imported, request.localName⟩ := by
  rw [routes, Routed.routes, List.filterMap_map, ← List.filterMap_eq_map]
  rfl

theorem ImportStatement.routes_record (statement : ImportStatement) (destination : String) :
    statement.record.routes destination = (Routing.module destination).routes statement := by
  rw [Routing.routes_module]
  simp [record, Record.routes, requests, Function.comp_def]

namespace Routing

variable {routing : Routing} {statement : ImportStatement} {result : Routed}

theorem nodup_keys_of_apply (done : (routing.apply statement).result = .ok result) :
    result.records.keys.Nodup := by
  cases routing with
  | module destination =>
    obtain rfl : Routed.toModule statement destination = result := Except.ok.inj done
    exact List.pairwise_singleton _ _
  | symbols entries =>
    obtain ⟨_, _, _, rfl⟩ := eq_ofResolutions_of_apply done
    exact Routed.nodup_keys_group _ _

/-- The bindings of a statement and the places where they end up are matched one by one. -/
theorem places_perm (done : (routing.apply statement).result = .ok result) :
    result.places.Perm (statement.requests.map routing.fate) := by
  refine List.Perm.trans ?_ (Routed.perm_routes_dropped _)
  cases routing with
  | module destination =>
    obtain rfl : Routed.toModule statement destination = result := Except.ok.inj done
    have dropped : Routed.dropped (statement.requests.map (module destination).fate) = [] :=
      (List.filterMap_map ..).trans (List.filterMap_eq_nil_iff.2 fun _ _ => rfl)
    rw [dropped, Routed.places, ImportStatement.toModule_eq, List.flatMap_singleton,
      ImportStatement.routes_record]
    rfl
  | symbols entries =>
    obtain ⟨_, _, _, rfl⟩ := eq_ofResolutions_of_apply done
    exact ((Routed.routes_group (arranged_routes _ statement)).map _).append_right _

/-- **Routing loses no binding and doubles none.** Where no look-up fails, the bindings of a
statement and the places where they end up are matched one by one. The destinations are distinct,
so each place is in one record, or it is among those that are dropped. Dropped are, under the names
they are looked up by, those that a symbol map has neither an entry nor a catch-all for. -/
theorem places_apply (done : (routing.apply statement).result = .ok result) :
    result.records.keys.Nodup ∧
    result.places.Perm (statement.requests.map routing.fate) ∧
    (∀ request ∈ statement.requests,
      if routing.Drops request then
        routing.fate request = .unresolved ⟨request.kind, request.imported⟩
      else
        ∃ source, routing.source? request = some source ∧
          routing.fate request = .resolved (SymbolMap.routeTo source request)) ∧
    ((∀ entries, routing = symbols entries → ¬ Lacks entries catchAllKey) →
      result.unresolved = []) := by
  refine ⟨nodup_keys_of_apply done, places_perm done, ?_, ?_⟩
  · intro request mem
    split
    · rename_i drops
      rw [fate, source?_of_drops drops]
    · rename_i kept
      obtain ⟨source, found⟩ := exists_source_of_apply done mem kept
      exact ⟨source, found, by rw [fate, found]⟩
  · intro full
    rw [unresolved_of_apply done, List.map_eq_nil_iff, List.filter_eq_nil_iff]
    intro request _
    rw [decide_eq_true_iff]
    exact fun ⟨entries, same, lacks, _⟩ => full entries same lacks

/-- There is no catch-all, one entry is a table that was never checked, and one is invalid but not
looked up. -/
def uncheckedSymbols : Entries SymbolEntry :=
  [("a", .raw (.table [("from", .text "x"), ("symbol", .text "z")])), ("unused", .raw (.int 1)),
    ("T", .shorthand "x")]

theorem places_apply_sample :
    ∃ statement result,
      ImportStatement.read "import D, { a as b, c, type T } from 'm'".toList = .ok statement ∧
      ((symbols uncheckedSymbols).apply statement).result = .ok result ∧
      result.records.keys.Nodup ∧
      result.places.Perm
        [.resolved ⟨.named, "x", "z", "a"⟩, .unresolved ⟨.named, "c"⟩,
          .resolved ⟨.typed, "x", "T", "T"⟩, .unresolved ⟨.default, "D"⟩] := by
  have readable : ImportStatement.read "import D, { a as b, c, type T } from 'm'".toList =
      .ok ⟨"import D, { a as b, c, type T } from 'm'".toList, "m", false,
        ⟨[("b", "a"), ("c", "c")], [("T", "T")], some "D", none⟩⟩ := by decide +kernel
  have done : ((symbols uncheckedSymbols).apply ⟨"import D, { a as b, c, type T } from 'm'".toList,
      "m", false, ⟨[("b", "a"), ("c", "c")], [("T", "T")], some "D", none⟩⟩).result =
      .ok ⟨[("x", ⟨[⟨"z", "a", false⟩, ⟨"T", "T", true⟩], none, none, false⟩)],
        [⟨.named, "c"⟩, ⟨.default, "D"⟩]⟩ := by rfl
  obtain ⟨distinct, placed, _, _⟩ := places_apply done
  exact ⟨_, _, readable, done, distinct, placed⟩

end Routing

end VirtualImports
