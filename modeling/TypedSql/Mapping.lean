import TypedSql.LogicalType

/-!
# Type mappings

A mapping gives a value its logical type and names the columns that store it. Computed values have
no columns.
-/

namespace TypedSql

/-- A column of a named table. -/
structure ColumnRef where
  table : String
  column : String
  deriving DecidableEq, Inhabited

/-- The type of a value, the member it belongs to and the columns that store it. -/
structure Mapping where
  logicalType : LogicalType
  member : Option String := none
  columns : List ColumnRef := []
  deriving DecidableEq, Inhabited

namespace Mapping

/-- The mapping of a computed value. -/
def computed (t : LogicalType) : Mapping := { logicalType := t }

def withColumn (m : Mapping) (c : ColumnRef) : Mapping := { m with columns := m.columns ++ [c] }

def isMultiColumn (m : Mapping) : Bool := 1 < m.columns.length

end Mapping

end TypedSql
