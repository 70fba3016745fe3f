import TypedSql.Column.Usage
import TypedSql.Compiler
import TypedSql.Proofs.Counting
import TypedSql.Table.Comparison

/-!
# Accounting for requests

The counters of a session say what its requests returned: how many compilations succeeded, how many
of those gave a literal, how many were refused, in total and by operation, how many failures were
found in how many comparisons, and how many definitions were refused.  Every request reports events
that add up to what it returned, and the counters add up the events.
-/

namespace TypedSql

/-! ## Requests -/

/-- A request whose outcome is counted. -/
inductive Request where
  | compile (c : Compiler) (operation : String) (receiver : Expr) (args : List Expr)
  | compileToSql (c : Compiler) (operation : String) (receiver : Expr) (args : List Expr)
  | validateColumn (c : Column) (info : Introspected)
  | validateTable (t : Table) (m : Introspection)
  | check (c : Column) (u : Usage)

namespace Request

/-- What a request reports to be counted. -/
def events : Request → List Event
  | compile c operation receiver args => (c.compile operation receiver args).events
  | compileToSql c operation receiver args => (c.compileToSql operation receiver args).events
  | validateColumn c info => (c.validate info).events
  | validateTable t m => (t.validate m).events
  | check c u => (c.check u).events

/-- The operation to be compiled. -/
def operation? : Request → Option String
  | compile _ operation _ _ | compileToSql _ operation _ _ => some operation
  | validateColumn .. | validateTable .. | check .. => none

/-! ### What a request returned -/

/-- A compilation that succeeded. -/
def succeeds : Request → Bool
  | compile c operation receiver args => (c.compile operation receiver args).value.isOk
  | compileToSql c operation receiver args => (c.compileToSql operation receiver args).value.isOk
  | validateColumn .. | validateTable .. | check .. => false

/-- A compilation to a literal. -/
def folds : Request → Bool
  | compile c operation receiver args | compileToSql c operation receiver args =>
    (c.compile operation receiver args).value.toOption.any Expr.isLiteral
  | validateColumn .. | validateTable .. | check .. => false

/-- A compilation that failed. -/
def fails : Request → Bool
  | compile c operation receiver args => !(c.compile operation receiver args).value.isOk
  | compileToSql c operation receiver args => !(c.compileToSql operation receiver args).value.isOk
  | validateColumn .. | validateTable .. | check .. => false

/-- How many columns are compared with what is reported of them. -/
def comparisons : Request → Nat
  | validateColumn .. => 1
  | validateTable t m => t.columns.countP fun c => (m.entry? c.identifier).isSome
  | compile .. | compileToSql .. | check .. => 0

/-- The failures that a validation returned. -/
def failures : Request → List Failure
  | validateColumn c info => (c.validate info).value
  | validateTable t m => (t.validate m).value
  | compile .. | compileToSql .. | check .. => []

/-- A check that failed. -/
def misfits : Request → Bool
  | check c u => (c.check u).value.isSome
  | compile .. | compileToSql .. | validateColumn .. | validateTable .. => false

/-- What a request adds to a count, by what it returned. -/
def contribution (r : Request) : Quantity → Nat
  | .compiled => r.succeeds.toNat
  | .folded => r.folds.toNat
  | .rejected => r.fails.toNat
  | .validated => r.comparisons
  | .failures => r.failures.length
  | .definitions => r.misfits.toNat

theorem isOk_value_compileToSql (c : Compiler) (operation : String) (receiver : Expr)
    (args : List Expr) :
    (c.compileToSql operation receiver args).value.isOk =
      (c.compile operation receiver args).value.isOk := by
  simp only [Compiler.compileToSql, Observed.value_bind, Observed.value_pure]
  cases (c.compile operation receiver args).value <;> rfl

theorem succeeds_of_folds {r : Request} (h : r.folds = true) : r.succeeds = true := by
  cases r with
  | compile c operation receiver args | compileToSql c operation receiver args =>
    simp only [folds] at h
    simp only [succeeds, isOk_value_compileToSql]
    cases hv : (c.compile operation receiver args).value with
    | error => simp [hv, Except.toOption] at h
    | ok => rfl
  | validateColumn | validateTable | check => cases h

/-! ### The events of a request -/

/-- A request reports of its own operation only. -/
theorem operation?_of_mem_events {r : Request} {e : Event} (h : e ∈ r.events) :
    e.operation? = r.operation? := by
  cases r with
  | compile c operation receiver args =>
    rw [events, Compiler.events_compile, List.mem_singleton] at h
    subst h
    split <;> rfl
  | compileToSql c operation receiver args =>
    rw [events, Compiler.events_compileToSql, Compiler.events_compile, List.mem_singleton] at h
    subst h
    split <;> rfl
  | validateColumn c info =>
    rw [events, Column.events_validate, List.mem_singleton] at h
    subst h
    rfl
  | validateTable t m =>
    rw [events, Table.events_validate] at h
    obtain ⟨c, -, rfl⟩ := List.mem_map.1 h
    split <;> rfl
  | check c u =>
    rw [events, Column.events_check] at h
    split at h
    · rw [List.mem_singleton.1 h]
      rfl
    · cases h

theorem exists_mem_events {r : Request} {s : String} (h : r.operation? = some s) :
    ∃ e, e ∈ r.events := by
  cases r with
  | compile c operation receiver args =>
    rw [events, Compiler.events_compile]
    exact ⟨_, List.mem_cons_self⟩
  | compileToSql c operation receiver args =>
    rw [events, Compiler.events_compileToSql, Compiler.events_compile]
    exact ⟨_, List.mem_cons_self⟩
  | validateColumn | validateTable | check => cases h

theorem sum_ofEvent_compile (q : Quantity) (c : Compiler) (operation : String) (receiver : Expr)
    (args : List Expr) :
    ((compile c operation receiver args).events.map q.ofEvent).sum =
      (compile c operation receiver args).contribution q := by
  rw [events, Compiler.events_compile]
  cases q <;> simp only [contribution, succeeds, folds, fails] <;>
    cases (c.compile operation receiver args).value <;> rfl

theorem contribution_compileToSql (q : Quantity) (c : Compiler) (operation : String)
    (receiver : Expr) (args : List Expr) :
    (compileToSql c operation receiver args).contribution q =
      (compile c operation receiver args).contribution q := by
  cases q <;> simp only [contribution, succeeds, folds, fails, isOk_value_compileToSql] <;> rfl

/-- A column without an entry adds a failure and no comparison. -/
theorem sum_ofEvent_validateTable (q : Quantity) (t : Table) (m : Introspection) :
    ((validateTable t m).events.map q.ofEvent).sum = (validateTable t m).contribution q := by
  rw [events, Table.events_validate, List.map_map]
  cases q with
  | validated =>
    rw [contribution, comparisons, ← sum_map_toNat]
    refine congrArg List.sum (List.map_congr_left fun c _ => ?_)
    rw [Function.comp_apply]
    cases m.entry? c.identifier <;> rfl
  | failures =>
    rw [contribution, failures, Table.value_validate, List.length_flatMap]
    refine congrArg List.sum (List.map_congr_left fun c _ => ?_)
    rw [Function.comp_apply, Table.validateColumn]
    cases m.entry? c.identifier with
    | none => rfl
    | some info => exact congrArg List.length (c.value_validate info).symm
  | compiled | folded | rejected | definitions =>
    refine List.sum_eq_zero fun n hn => ?_
    obtain ⟨c, -, rfl⟩ := List.mem_map.1 hn
    rw [Function.comp_apply]
    cases m.entry? c.identifier <;> rfl

/-- The events of a request add up to what it returned. -/
theorem sum_ofEvent_events (q : Quantity) (r : Request) :
    (r.events.map q.ofEvent).sum = r.contribution q := by
  cases r with
  | compile c operation receiver args => exact sum_ofEvent_compile q c operation receiver args
  | compileToSql c operation receiver args =>
    rw [events, Compiler.events_compileToSql, contribution_compileToSql]
    exact sum_ofEvent_compile q c operation receiver args
  | validateColumn c info =>
    rw [events, Column.events_validate, ← Column.value_validate]
    cases q <;> rfl
  | validateTable t m => exact sum_ofEvent_validateTable q t m
  | check c u =>
    rw [events, Column.events_check, ← Column.value_check]
    cases q <;> simp only [contribution, misfits] <;> cases (c.check u).value <;> rfl

/-! ### Requests one after the other -/

/-- The requests to compile an operation. -/
def ofOperation (s : String) (rs : List Request) : List Request :=
  rs.filter fun r => r.operation? = some s

theorem filter_events (s : String) (rs : List Request) :
    (rs.flatMap events).filter (fun e => e.operation? = some s) =
      (ofOperation s rs).flatMap events := by
  induction rs with
  | nil => rfl
  | cons r rs ih =>
    rw [List.flatMap_cons, List.filter_append, ih]
    by_cases h : r.operation? = some s
    · have hall : r.events.filter (fun e => e.operation? = some s) = r.events :=
        List.filter_eq_self.2 fun e he => by simp [operation?_of_mem_events he, h]
      simp [hall, ofOperation, h]
    · have hnone : r.events.filter (fun e => e.operation? = some s) = [] :=
        List.filter_eq_nil_iff.2 fun e he => by simp [operation?_of_mem_events he, h]
      simp [hnone, ofOperation, h]

theorem sum_ofEvent_flatMap (q : Quantity) (rs : List Request) :
    ((rs.flatMap events).map q.ofEvent).sum = (rs.map (·.contribution q)).sum := by
  rw [sum_map_flatMap]
  exact congrArg List.sum (List.map_congr_left fun r _ => sum_ofEvent_events q r)

theorem exists_event_iff {s : String} {rs : List Request} :
    (∃ e ∈ rs.flatMap events, e.operation? = some s) ↔ ∃ r ∈ rs, r.operation? = some s := by
  constructor
  · rintro ⟨e, he, hs⟩
    obtain ⟨r, hr, he⟩ := List.mem_flatMap.1 he
    exact ⟨r, hr, (operation?_of_mem_events he).symm.trans hs⟩
  · rintro ⟨r, hr, hs⟩
    obtain ⟨e, he⟩ := exists_mem_events hs
    exact ⟨e, List.mem_flatMap.2 ⟨r, hr, he⟩, (operation?_of_mem_events he).trans hs⟩

/-! ### The counters of some requests -/

/-- What is counted stays within bounds if the events and the failures do. -/
theorem sum_contribution_le {rs : List Request} (hevents : (rs.flatMap events).length < 2 ^ 64)
    (hfailures : (rs.flatMap failures).length < 2 ^ 64) (q : Quantity) :
    (rs.map (·.contribution q)).sum ≤ countLimit := by
  by_cases hq : q = .failures
  · have hlength : (rs.flatMap failures).length = (rs.map (·.contribution q)).sum := by
      rw [hq, List.length_flatMap]
      rfl
    rw [← hlength]
    exact Nat.le_of_lt_succ hfailures
  · rw [← sum_ofEvent_flatMap]
    exact (q.sum_ofEvent_le_length hq _).trans (Nat.le_of_lt_succ hevents)

section Counts

variable {rs : List Request}
  (hbound : ∀ q : Quantity, (rs.map (·.contribution q)).sum ≤ countLimit)

include hbound

theorem ofTotals_ofEvents (q : Quantity) :
    q.ofTotals (Counters.ofEvents (rs.flatMap events)).totals =
      (rs.map (·.contribution q)).sum := by
  have h := Counters.ofTotals_ofEvents q (rs.flatMap events)
  rw [sum_ofEvent_flatMap] at h
  exact h (hbound q)

theorem ofOperation_of_get?_eq_some (q : Quantity) {s : String} {n : OperationCounts}
    (hn : (Counters.ofEvents (rs.flatMap events)).operations.get? s = some n) :
    q.ofOperation n = ((ofOperation s rs).map (·.contribution q)).sum := by
  have h := Counters.ofOperation_ofEvents q s (rs.flatMap events)
  rw [filter_events, sum_ofEvent_flatMap, sum_ofEvent_flatMap, Counters.operation, hn] at h
  exact h (hbound q)

theorem eq_counts_of_get?_eq_some {s : String} {n : OperationCounts}
    (hn : (Counters.ofEvents (rs.flatMap events)).operations.get? s = some n) :
    n = ⟨(ofOperation s rs).countP succeeds, (ofOperation s rs).countP folds,
      (ofOperation s rs).countP fails⟩ := by
  have hcount := fun q => ofOperation_of_get?_eq_some hbound q hn
  rw [← sum_map_toNat, ← sum_map_toNat, ← sum_map_toNat]
  exact congr (congr (congrArg OperationCounts.mk (hcount .compiled)) (hcount .folded))
    (hcount .rejected)

theorem sum_entries_eq {q : Quantity} (hq : q = .compiled ∨ q = .folded ∨ q = .rejected) :
    ((Counters.ofEvents (rs.flatMap events)).operations.entries.map fun e =>
        q.ofOperation e.2).sum =
      q.ofTotals (Counters.ofEvents (rs.flatMap events)).totals := by
  have h := Counters.sum_entries_ofEvents hq (rs.flatMap events)
  rw [sum_ofEvent_flatMap, ← ofTotals_ofEvents hbound q] at h
  exact h ((ofTotals_ofEvents hbound q).trans_le (hbound q))

end Counts

end Request

/-! ## Accounts -/

/-- Counters that say what some requests returned. -/
structure Counters.Accounts (c : Counters) (rs : List Request) : Prop where
  compiled : c.totals.methodsCompiled = rs.countP Request.succeeds
  folded : c.totals.methodsFolded = rs.countP Request.folds
  rejected : c.totals.methodsRejected = rs.countP Request.fails
  /-- Just the operations that were to be compiled have counts, known or not. -/
  operations : ∀ s, s ∈ c.operations.keys ↔ ∃ r ∈ rs, r.operation? = some s
  operation : ∀ s n, c.operations.get? s = some n →
    n = ⟨(Request.ofOperation s rs).countP Request.succeeds,
      (Request.ofOperation s rs).countP Request.folds,
      (Request.ofOperation s rs).countP Request.fails⟩
  folded_le : ∀ s n, c.operations.get? s = some n → n.folded ≤ n.compiled
  sum_compiled : (c.operations.entries.map (·.2.compiled)).sum = c.totals.methodsCompiled
  sum_folded : (c.operations.entries.map (·.2.folded)).sum = c.totals.methodsFolded
  sum_rejected : (c.operations.entries.map (·.2.rejected)).sum = c.totals.methodsRejected
  failures : c.totals.columnFailures = (rs.flatMap Request.failures).length
  validated : c.totals.columnsValidated = (rs.map Request.comparisons).sum
  definitions : c.totals.definitionsRejected = rs.countP Request.misfits

namespace Meter

/-- The meter after some requests, one after the other. -/
def after (m : Meter) (rs : List Request) : Meter := rs.foldl (fun m r => m.recordAll r.events) m

theorem recordAll_eq {m : Meter} (hm : m.sink = none) (es : List Event) :
    m.recordAll es = { m with counters := es.foldl Counters.record m.counters } := by
  induction es generalizing m with
  | nil => rfl
  | cons e es ih =>
    have hrecord : m.record e = { m with counters := m.counters.record e } := by
      simp [record, hm]
    rw [recordAll, List.foldl_cons, hrecord]
    exact ih hm

theorem counters_after {m : Meter} (hm : m.sink = none) (rs : List Request) :
    (m.after rs).counters = (rs.flatMap Request.events).foldl Counters.record m.counters := by
  induction rs generalizing m with
  | nil => rfl
  | cons r rs ih =>
    rw [List.flatMap_cons, List.foldl_append]
    have hstep : (m.after (r :: rs)).counters = ((m.recordAll r.events).after rs).counters := rfl
    rw [hstep, recordAll_eq hm]
    exact ih hm

/-- The counters account for all requests since a reset, as long as no count reaches its limit. -/
theorem accounts_reset_after {m : Meter} (hm : m.sink = none) {rs : List Request}
    (hevents : (rs.flatMap Request.events).length < 2 ^ 64)
    (hfailures : (rs.flatMap Request.failures).length < 2 ^ 64) :
    (m.reset.after rs).counters.Accounts rs := by
  have hbound := Request.sum_contribution_le hevents hfailures
  have hcounters : (m.reset.after rs).counters = .ofEvents (rs.flatMap Request.events) :=
    counters_after (m := m.reset) hm rs
  rw [hcounters]
  exact
    { compiled := (Request.ofTotals_ofEvents hbound .compiled).trans (sum_map_toNat _ rs)
      folded := (Request.ofTotals_ofEvents hbound .folded).trans (sum_map_toNat _ rs)
      rejected := (Request.ofTotals_ofEvents hbound .rejected).trans (sum_map_toNat _ rs)
      operations := fun s => Counters.mem_keys_ofEvents.trans Request.exists_event_iff
      operation := fun s n => Request.eq_counts_of_get?_eq_some hbound
      folded_le := fun s n hn => by
        rw [Request.eq_counts_of_get?_eq_some hbound hn]
        exact List.countP_mono_left fun r _ => Request.succeeds_of_folds
      sum_compiled := Request.sum_entries_eq hbound (.inl rfl)
      sum_folded := Request.sum_entries_eq hbound (.inr (.inl rfl))
      sum_rejected := Request.sum_entries_eq hbound (.inr (.inr rfl))
      failures := (Request.ofTotals_ofEvents hbound .failures).trans List.length_flatMap.symm
      validated := Request.ofTotals_ofEvents hbound .validated
      definitions := (Request.ofTotals_ofEvents hbound .definitions).trans (sum_map_toNat _ rs) }

/-- A compilation to a literal and one to a call, an operation of which nothing is known, a table of
which one column differs from what is stored and another is missing, and a text used as an
integer. -/
theorem accounts_reset_after_six :
    let k := Compiler.plain .oracle
    let name : Expr := .column { column := "NAME" } (.computed .string)
    let id : Column := { Column.new "ID" .long with declared := { jdbcType := some .bigint } }
    let rs : List Request :=
      [.compile k "trim" (.typedLiteral (.text " a ") .string) [], .compileToSql k "trim" name [],
        .compile k "reverse" name [],
        .validateTable { name := "T", columns := [id, .new "NAME" .string] }
          (.ofList [("id", { name := "id", typeCode := 12, nullable := true })]),
        .validateColumn id { name := "ID", typeCode := -5 }, .check (.new "NAME" .string) .integer]
    let m : Meter := { counters := { totals := { methodsCompiled := 7 } } }
    m.sink = none ∧ (rs.flatMap Request.events).length < 2 ^ 64 ∧
      (rs.flatMap Request.failures).length < 2 ^ 64 ∧
      (m.reset.after rs).counters.Accounts rs ∧
      (m.reset.after rs).counters =
        { totals := ⟨2, 1, 1, 2, 3, 1⟩
          operations := .ofList [("trim", ⟨2, 1, 0⟩), ("reverse", ⟨0, 0, 1⟩)] } := by
  intro k name id rs m
  have hevents : (rs.flatMap Request.events).length < 2 ^ 64 := by decide +kernel
  have hfailures : (rs.flatMap Request.failures).length < 2 ^ 64 := by decide +kernel
  exact ⟨rfl, hevents, hfailures, accounts_reset_after rfl hevents hfailures, by decide +kernel⟩

end Meter

end TypedSql
