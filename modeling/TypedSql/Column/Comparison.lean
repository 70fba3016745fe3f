import TypedSql.Column.Basic
import TypedSql.Failure
import TypedSql.Observation.Event

/-!
# Columns against their datastore

A column is compared with what its datastore reports. Sizes are only compared when the types are
compatible; whether the column may be null is compared in any case.
-/

namespace TypedSql.Column

/-- A declared precision and a positive reported one agree, where both types have one. -/
def precisionFailures (c : Column) (stored : JdbcType) (info : Introspected) : List Failure :=
  match c.declared.length with
  | some p =>
    if c.jdbcType.hasDeclaredSize && stored.hasDeclaredSize && 0 < info.size && info.size != p then
      [.wrongPrecision c.identifier p info.size]
    else []
  | none => []

/-- The declared scale of an exact number is the reported one. -/
def scaleFailures (c : Column) (info : Introspected) : List Failure :=
  match c.declared.scale with
  | some s =>
    if c.jdbcType.isExactNumeric && info.digits != s then [.wrongScale c.identifier s info.digits]
    else []
  | none => []

/-- The reported type may back the declared one, and then the sizes agree. -/
def typeFailures (c : Column) (info : Introspected) : List Failure :=
  let incompatible : List Failure := [.typeIncompatible c.identifier c.jdbcType info.typeCode]
  match JdbcType.ofCode? info.typeCode with
  | some stored =>
    if c.jdbcType.isCompatibleWith stored then
      c.precisionFailures stored info ++ c.scaleFailures info
    else incompatible
  | none => incompatible

def nullabilityFailures (c : Column) (info : Introspected) : List Failure :=
  if c.nullable != info.nullable then
    [.nullabilityMismatch c.identifier c.nullable info.nullable]
  else []

/-- Everything in which a column differs from what its datastore reports. -/
def failures (c : Column) (info : Introspected) : List Failure :=
  c.typeFailures info ++ c.nullabilityFailures info

/-- Find the failures of a column and report their number. -/
def validate (c : Column) (info : Introspected) : Observed (List Failure) := do
  let fs := c.failures info
  Observed.event (.columnValidated fs.length)
  if !fs.isEmpty then
    Observed.note
      ⟨.warn, "column does not match datastore",
        [("table", c.table.getD ""), ("column", c.identifier), ("failures", toString fs.length)]⟩
  return fs

@[simp] theorem value_validate (c : Column) (info : Introspected) :
    (c.validate info).value = c.failures info := by
  simp only [validate, Observed.value_bind]
  split <;> rfl

theorem events_validate (c : Column) (info : Introspected) :
    (c.validate info).events = [.columnValidated (c.failures info).length] := by
  simp only [validate, Observed.events_bind]
  split <;> rfl

end TypedSql.Column
