import TypedSql.Column.Basic
import TypedSql.Failure
import TypedSql.Observation.Event

/-!
# Columns and their use

A column is used for a single value, an integer, a decimal number or a text. Its declared shape
must fit the use; sizes are positive and within the bound of the type information.
-/

namespace TypedSql.Column

/-- The bound on sizes in the type information, zero if there is none. -/
def maxSize (c : Column) : Nat := (c.typeInfo.map (·.maxSize)).getD 0

theorem maxSize_of_typeInfo {c : Column} {info : TypeInfo} (hinfo : c.typeInfo = some info) :
    c.maxSize = info.maxSize := by
  rw [maxSize, hinfo]
  rfl

/-- A size within a bound, zero being no bound. -/
def fits (size bound : Nat) : Bool := bound == 0 || size ≤ bound

/-- A single value, neither a large object nor binary nor of an unknown kind. -/
def fitsPrimitive (c : Column) : Bool :=
  !c.jdbcType.isUnlimited &&
    match c.jdbcType.family? with
    | none | some .binary => false
    | some _ => true

/-- A number without a fraction. -/
def fitsInteger (c : Column) : Bool :=
  c.jdbcType.isIntegral || (c.jdbcType.isExactNumeric && c.declared.scale.getD 0 == 0)

/-- The scale does not exceed the precision, or the bound on it if none is declared. -/
def scaleFits (c : Column) : Bool :=
  match c.declared.length, c.declared.scale with
  | some p, some s => s ≤ p
  | none, some s => fits s c.maxSize
  | _, none => true

/-- A number whose precision is positive and within bounds. -/
def fitsDecimal (c : Column) : Bool :=
  c.jdbcType.family? == some .numeric && c.scaleFits &&
    match c.declared.length with
    | some p => 0 < p && fits p c.maxSize
    | none => true

/-- A text whose length is positive and within bounds. -/
def fitsString (c : Column) : Bool :=
  c.jdbcType.isCharacter &&
    match c.declared.length with
    | some l => 0 < l && (c.jdbcType.isUnlimited || fits l c.maxSize)
    | none => true

def fitsUsage (c : Column) : Usage → Bool
  | .primitive => c.fitsPrimitive
  | .integer => c.fitsInteger
  | .decimal => c.fitsDecimal
  | .string => c.fitsString

def shape (c : Column) : Shape := ⟨c.jdbcType, c.declared.length, c.declared.scale⟩

/-- The failure of a column that does not fit a use. -/
def usageFailure? (c : Column) (u : Usage) : Option Failure :=
  if c.fitsUsage u then none else some (.definition c.identifier u c.shape)

/-- Check a column for a use and report if it does not fit. -/
def check (c : Column) (u : Usage) : Observed (Option Failure) := do
  let f := c.usageFailure? u
  if f.isSome then Observed.event .definitionRejected
  return f

@[simp] theorem value_check (c : Column) (u : Usage) : (c.check u).value = c.usageFailure? u := by
  simp only [check]
  split <;> rfl

theorem events_check (c : Column) (u : Usage) :
    (c.check u).events = if (c.usageFailure? u).isSome then [.definitionRejected] else [] := by
  simp only [check]
  split <;> rfl

end TypedSql.Column
