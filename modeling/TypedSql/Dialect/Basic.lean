import TypedSql.Dialect.Config
import TypedSql.Dialect.Literal
import TypedSql.Dialect.TypeInfo

/-!
# Dialects

A dialect is a named set of conventions together with what a configuration changes in it: the
length of texts that declare none, function names, and operations that are switched off.
-/

namespace TypedSql

structure Dialect where
  name : DialectName
  textLength : Nat := defaultTextLength
  functions : SortedMap String String := ∅
  disabled : SortedMap String Unit := ∅
  deriving DecidableEq, Inhabited

namespace Dialect

/-- The dialect of a name, with nothing changed. -/
def plain (d : DialectName) : Dialect := { name := d }

def ofConfig (c : Config) : Dialect where
  name := c.dialect
  textLength := c.textLength
  functions := c.functions
  disabled := .ofList (c.disabled.map (·, ()))

def isDisabled (d : Dialect) (operation : String) : Bool := d.disabled.contains operation

end Dialect

end TypedSql
