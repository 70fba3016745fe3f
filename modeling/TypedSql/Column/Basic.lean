import TypedSql.Dialect.TypeInfo
import TypedSql.LogicalType
import TypedSql.Template
import TypedSql.Value.Basic

/-!
# Columns

A column is one place of storage: its name, the logical type of what it stores, and its
configuration. The storage type in effect is the declared one, else that of the type information,
else the usual one for the stored type.
-/

namespace TypedSql

/-- Type information is absent, present, or no longer to be changed. -/
inductive ColumnState where
  | unbound
  | configured
  | sealed
  deriving DecidableEq, Repr, Inhabited

def ColumnState.name : ColumnState → String
  | unbound => "Unbound"
  | configured => "Configured"
  | sealed => "Sealed"

/-- The shape that a field declares; the rest comes from the type information. -/
structure DeclaredMeta where
  jdbcType : Option JdbcType := none
  sqlType : Option String := none
  /-- The length of a text or binary type, the precision of a number. -/
  length : Option Nat := none
  scale : Option Nat := none
  deriving DecidableEq, Inhabited

/-- What a datastore reports of a column. -/
structure Introspected where
  name : String
  typeCode : Int
  nullable : Bool := false
  /-- The length of a text or binary type, the precision of a number. -/
  size : Nat := 0
  digits : Nat := 0
  default : Option String := none
  autoIncrement : Bool := false
  deriving DecidableEq, Inhabited

structure Column where
  identifier : String
  table : Option String := none
  storedType : LogicalType
  primaryKey : Bool := false
  nullable : Bool := false
  defaultable : Bool := false
  unique : Bool := false
  identity : Bool := false
  default : Option Value := none
  declared : DeclaredMeta := {}
  typeInfo : Option TypeInfo := none
  constraints : Option String := none
  wrappers : Wrappers := {}
  state : ColumnState := .unbound
  deriving DecidableEq, Inhabited

namespace Column

def new (identifier : String) (t : LogicalType) : Column :=
  { identifier := identifier, storedType := t }

/-- The storage type in effect. -/
def jdbcType (c : Column) : JdbcType :=
  match c.declared.jdbcType, c.typeInfo with
  | some t, _ => t
  | none, some info => info.jdbcType
  | none, none => c.storedType.storageType

def isUnlimited (c : Column) : Bool := c.jdbcType.isUnlimited

def isSealed (c : Column) : Bool := c.state = .sealed

/-- The same configuration, defaults being compared as values. -/
def eqv (a b : Column) : Bool :=
  Value.eqv? a.default b.default && { a with default := none } = { b with default := none }

/-! ## Belonging to a table -/

def attach (c : Column) (table : String) : Column := { c with table := some table }

def toSealed (c : Column) : Column := { c with state := .sealed }

end Column

end TypedSql
