import TypedSql.Dialect.Name
import TypedSql.JdbcType

/-!
# Type tables

The name under which each dialect declares a storage type, the size arguments it takes and their
bound. The other dialects depart from the standard table in some rows.
-/

namespace TypedSql

/-- The size arguments that a type takes in a declaration. -/
inductive SizeSpec where
  | none
  | length
  | precisionScale
  deriving DecidableEq, Repr, Inhabited

namespace SizeSpec

def all : List SizeSpec := [none, length, precisionScale]

def name : SizeSpec → String
  | none => "None"
  | length => "Length"
  | precisionScale => "PrecisionScale"

def ofName? (s : String) : Option SizeSpec := all.find? (·.name == s)

end SizeSpec

/-- One row of a type table. A `maxSize` of zero means that there is no bound. -/
structure TypeInfo where
  typeName : String
  jdbcType : JdbcType
  maxSize : Nat := 0
  sizeSpec : SizeSpec := .none
  deriving DecidableEq, Inhabited

/-- What a type table says of one storage type. -/
structure TypeEntry where
  typeName : String
  maxSize : Nat := 0
  sizeSpec : SizeSpec := .none

namespace TypeEntry

def plain (typeName : String) : TypeEntry := ⟨typeName, 0, .none⟩

def sized (typeName : String) (maxSize : Nat) : TypeEntry := ⟨typeName, maxSize, .length⟩

def decimal (typeName : String) (maxSize : Nat) : TypeEntry :=
  ⟨typeName, maxSize, .precisionScale⟩

/-! ## The tables -/

def ansi : JdbcType → TypeEntry
  | .bigint => plain "BIGINT"
  | .binary => sized "BINARY" 8000
  | .bit | .boolean => plain "BOOLEAN"
  | .blob | .longVarbinary => plain "BLOB"
  | .char => sized "CHAR" 254
  | .clob | .longVarchar => plain "CLOB"
  | .date => plain "DATE"
  | .decimal => decimal "DECIMAL" 38
  | .double => plain "DOUBLE PRECISION"
  | .float => plain "FLOAT"
  | .integer => plain "INTEGER"
  | .longNVarchar | .nClob => plain "NCLOB"
  | .nChar => sized "NCHAR" 254
  | .nVarchar => sized "NVARCHAR" 4000
  | .numeric => decimal "NUMERIC" 38
  | .other => plain "OTHER"
  | .real => plain "REAL"
  | .smallint | .tinyint => plain "SMALLINT"
  | .time => plain "TIME"
  | .timestamp => plain "TIMESTAMP"
  | .varbinary => sized "VARBINARY" 8000
  | .varchar => sized "VARCHAR" 4000

def postgres : JdbcType → TypeEntry
  | .binary | .blob | .longVarbinary | .varbinary => plain "BYTEA"
  | .clob | .longNVarchar | .longVarchar | .nClob => plain "TEXT"
  | .decimal | .numeric => decimal "NUMERIC" 1000
  | .nChar => sized "CHAR" 10485760
  | .nVarchar | .varchar => sized "VARCHAR" 10485760
  | .other => plain "JSONB"
  | t => ansi t

def mySql : JdbcType → TypeEntry
  | .bit | .boolean => plain "BOOLEAN"
  | .blob | .longVarbinary => plain "LONGBLOB"
  | .char | .nChar => sized "CHAR" 255
  | .clob | .longNVarchar | .longVarchar | .nClob => plain "LONGTEXT"
  | .decimal | .numeric => decimal "DECIMAL" 65
  | .double => plain "DOUBLE"
  | .other => plain "JSON"
  | .timestamp => plain "DATETIME"
  | .tinyint => plain "TINYINT"
  | .nVarchar | .varchar => sized "VARCHAR" 65535
  | t => ansi t

def sqlServer : JdbcType → TypeEntry
  | .bit | .boolean => plain "BIT"
  | .blob | .longVarbinary => plain "VARBINARY(MAX)"
  | .clob | .longVarchar => plain "VARCHAR(MAX)"
  | .double => plain "FLOAT"
  | .longNVarchar | .nClob => plain "NVARCHAR(MAX)"
  | .nChar => sized "NCHAR" 4000
  | .nVarchar => sized "NVARCHAR" 4000
  | .other => plain "SQL_VARIANT"
  | .timestamp => plain "DATETIME2"
  | .tinyint => plain "TINYINT"
  | .varchar => sized "VARCHAR" 8000
  | t => ansi t

def oracle : JdbcType → TypeEntry
  | .bigint => plain "NUMBER(19)"
  | .binary | .varbinary => sized "RAW" 2000
  | .bit | .boolean => plain "NUMBER(1)"
  | .decimal | .numeric => decimal "NUMBER" 38
  | .double => plain "BINARY_DOUBLE"
  | .float | .real => plain "BINARY_FLOAT"
  | .integer => plain "NUMBER(10)"
  | .longNVarchar | .nClob => plain "NCLOB"
  | .nVarchar => sized "NVARCHAR2" 2000
  | .smallint => plain "NUMBER(5)"
  | .time | .timestamp => plain "TIMESTAMP"
  | .tinyint => plain "NUMBER(3)"
  | .varchar => sized "VARCHAR2" 4000
  | t => ansi t

end TypeEntry

namespace DialectName

def typeEntry : DialectName → JdbcType → TypeEntry
  | ansi => TypeEntry.ansi
  | mySql => TypeEntry.mySql
  | oracle => TypeEntry.oracle
  | postgres => TypeEntry.postgres
  | sqlServer => TypeEntry.sqlServer

/-- The row of a dialect's type table for one storage type. -/
def typeInfo (d : DialectName) (t : JdbcType) : TypeInfo :=
  let e := d.typeEntry t
  ⟨e.typeName, t, e.maxSize, e.sizeSpec⟩

end DialectName

end TypedSql
