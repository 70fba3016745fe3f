import TypedSql.Column.Basic
import TypedSql.Expr.Basic

/-!
# Columns in expressions

A column stands in an expression under its quoted name, with its stored type and the template
through which it is read.
-/

namespace TypedSql.Column

/-- The table column that the expression of a column is bound to, if it belongs to a table. -/
def refs (c : Column) : List ColumnRef :=
  match c.table with
  | some t => [⟨t, c.identifier⟩]
  | none => []

def toExpr (c : Column) : Expr :=
  .column ⟨c.table, c.identifier, c.wrappers.get? .select⟩
    { logicalType := c.storedType, columns := c.refs }

end TypedSql.Column
