/-!
# Storage types

The storage types that drivers report, each under its numeric code, and when one of them may back
a column declared as another.
-/

namespace TypedSql

/-- Coarse grouping of types. -/
inductive TypeFamily where
  | binary
  | bool
  | numeric
  | temporal
  | textual
  deriving DecidableEq, Repr, Inhabited

namespace TypeFamily

def name : TypeFamily → String
  | binary => "Binary"
  | bool => "Bool"
  | numeric => "Numeric"
  | temporal => "Temporal"
  | textual => "Textual"

end TypeFamily

/-- A storage type as drivers report it. -/
inductive JdbcType where
  | bigint
  | binary
  | bit
  | blob
  | boolean
  | char
  | clob
  | date
  | decimal
  | double
  | float
  | integer
  | longNVarchar
  | longVarbinary
  | longVarchar
  | nChar
  | nClob
  | nVarchar
  | numeric
  | other
  | real
  | smallint
  | time
  | timestamp
  | tinyint
  | varbinary
  | varchar
  deriving DecidableEq, Repr, Inhabited

namespace JdbcType

def all : List JdbcType :=
  [bigint, binary, bit, blob, boolean, char, clob, date, decimal, double, float, integer,
    longNVarchar, longVarbinary, longVarchar, nChar, nClob, nVarchar, numeric, other, real,
    smallint, time, timestamp, tinyint, varbinary, varchar]

theorem mem_all (t : JdbcType) : t ∈ all := by cases t <;> decide

def name : JdbcType → String
  | bigint => "Bigint"
  | binary => "Binary"
  | bit => "Bit"
  | blob => "Blob"
  | boolean => "Boolean"
  | char => "Char"
  | clob => "Clob"
  | date => "Date"
  | decimal => "Decimal"
  | double => "Double"
  | float => "Float"
  | integer => "Integer"
  | longNVarchar => "LongNVarchar"
  | longVarbinary => "LongVarbinary"
  | longVarchar => "LongVarchar"
  | nChar => "NChar"
  | nClob => "NClob"
  | nVarchar => "NVarchar"
  | numeric => "Numeric"
  | other => "Other"
  | real => "Real"
  | smallint => "Smallint"
  | time => "Time"
  | timestamp => "Timestamp"
  | tinyint => "Tinyint"
  | varbinary => "Varbinary"
  | varchar => "Varchar"

/-! ## Codes -/

/-- The code under which drivers report the type. -/
def code : JdbcType → Int
  | bigint => -5
  | binary => -2
  | bit => -7
  | blob => 2004
  | boolean => 16
  | char => 1
  | clob => 2005
  | date => 91
  | decimal => 3
  | double => 8
  | float => 6
  | integer => 4
  | longNVarchar => -16
  | longVarbinary => -4
  | longVarchar => -1
  | nChar => -15
  | nClob => 2011
  | nVarchar => -9
  | numeric => 2
  | other => 1111
  | real => 7
  | smallint => 5
  | time => 92
  | timestamp => 93
  | tinyint => -6
  | varbinary => -3
  | varchar => 12

/-- The type with a given code; vendor codes have none. -/
def ofCode? (n : Int) : Option JdbcType := all.find? (·.code == n)

theorem ofCode?_code (t : JdbcType) : ofCode? t.code = some t := by cases t <;> decide

/-! ## Properties -/

/-- The family of a type; `other` has none. -/
def family? : JdbcType → Option TypeFamily
  | bigint | decimal | double | float | integer | numeric | real | smallint | tinyint =>
    some .numeric
  | char | clob | longNVarchar | longVarchar | nChar | nClob | nVarchar | varchar => some .textual
  | binary | blob | longVarbinary | varbinary => some .binary
  | bit | boolean => some .bool
  | date | time | timestamp => some .temporal
  | other => none

def isIntegral : JdbcType → Bool
  | bigint | integer | smallint | tinyint => true
  | _ => false

/-- Precision and scale are both meaningful. -/
def isExactNumeric : JdbcType → Bool
  | decimal | numeric => true
  | _ => false

def isCharacter (t : JdbcType) : Bool := t.family? == some .textual

/-- Large-object and long types, which have no practical bound on length. -/
def isUnlimited : JdbcType → Bool
  | blob | clob | longNVarchar | longVarbinary | longVarchar | nClob => true
  | _ => false

/-- A declared size is compared with the size that the datastore reports. -/
def hasDeclaredSize : JdbcType → Bool
  | binary | char | decimal | nChar | nVarchar | numeric | varbinary | varchar => true
  | _ => false

/-- A column declared as the first type may be stored as the second. Integral columns stay
integral, exact numeric storage counting as such; otherwise the families must agree. -/
def isCompatibleWith (declared stored : JdbcType) : Bool :=
  declared == stored ||
    match declared.family?, stored.family? with
    | some .numeric, some .numeric =>
      !declared.isIntegral || stored.isIntegral || stored.isExactNumeric
    | some a, some b => a == b
    | _, _ => false

end JdbcType

end TypedSql
