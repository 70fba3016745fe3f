import TypedSql.LogicalType
import TypedSql.Text.Case

/-!
# Reading type names

The name of a type is read without regard to letter case, the lower case being that of Unicode.
-/

namespace TypedSql

/-- The lower case of two names is the same. -/
def sameName (s t : String) : Bool := Text.toLower s.toList == Text.toLower t.toList

def LogicalType.ofName? (s : String) : Option LogicalType := all.find? (sameName s ·.name)

def JdbcType.ofName? (s : String) : Option JdbcType := all.find? (sameName s ·.name)

end TypedSql
