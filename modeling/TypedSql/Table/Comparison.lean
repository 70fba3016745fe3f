import TypedSql.Column.Comparison
import TypedSql.SortedMap
import TypedSql.Table.Basic
import TypedSql.Text.Blank

/-!
# Tables against their datastore

Every column of a table is compared with the entry of its name. Datastores change the letter case
of names that are not quoted, so without such an entry the first whose name differs in case alone
is taken.
-/

namespace TypedSql

/-- What a datastore reports of a table, by column name. -/
abbrev Introspection := SortedMap String Introspected

/-- The entry for a column: that of its name, else the first up to the case of ASCII letters. -/
def Introspection.entry? (m : Introspection) (identifier : String) : Option Introspected :=
  match m.get? identifier with
  | some info => some info
  | none => (m.entries.find? fun e => Text.sameLetters identifier e.1).map (·.2)

namespace Table

/-- The failures of one column. -/
def validateColumn (t : Table) (m : Introspection) (c : Column) : Observed (List Failure) :=
  match m.entry? c.identifier with
  | some info => c.validate info
  | none => do
    Observed.event .columnMissing
    return [.missingColumn t.name c.identifier]

/-- The failures of all columns, in order of declaration. -/
def validate (t : Table) (m : Introspection) : Observed (List Failure) := do
  let fs ← t.columns.mapM (t.validateColumn m)
  return fs.flatten

theorem value_validate (t : Table) (m : Introspection) :
    (t.validate m).value = t.columns.flatMap fun c => (t.validateColumn m c).value := by
  simp only [validate, Observed.value_bind, Observed.value_pure, Observed.value_mapM,
    List.flatMap_def]

/-- Each column gives one event. -/
theorem events_validate (t : Table) (m : Introspection) :
    (t.validate m).events = t.columns.map fun c =>
      match m.entry? c.identifier with
      | some info => .columnValidated (c.failures info).length
      | none => .columnMissing := by
  have hcolumn : ∀ c, (t.validateColumn m c).events =
      [match m.entry? c.identifier with
        | some info => .columnValidated (c.failures info).length
        | none => .columnMissing] := by
    intro c
    unfold validateColumn
    cases m.entry? c.identifier with
    | none => rfl
    | some info => exact c.events_validate info
  simp only [validate, Observed.events_bind, Observed.events_pure, Observed.events_mapM, hcolumn,
    List.append_nil, List.map_eq_flatMap]

end Table

end TypedSql
