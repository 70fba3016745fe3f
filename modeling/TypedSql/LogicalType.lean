import TypedSql.JdbcType

/-!
# Logical types

The abstract types of values, independent of how a column stores them. They decide which
operations a value has.
-/

namespace TypedSql

/-- The abstract type of a field or of a computed value. -/
inductive LogicalType where
  | bigDecimal
  | bigInteger
  | binary
  | boolean
  | byte
  | char
  | date
  | double
  | float
  | int
  | long
  | short
  | string
  | time
  | timestamp
  deriving DecidableEq, Repr, Inhabited, Ord

namespace LogicalType

/-- Every logical type, in the order in which they are sorted. -/
def all : List LogicalType :=
  [bigDecimal, bigInteger, binary, boolean, byte, char, date, double, float, int, long, short,
    string, time, timestamp]

theorem mem_all (t : LogicalType) : t ∈ all := by cases t <;> decide

def name : LogicalType → String
  | bigDecimal => "BigDecimal"
  | bigInteger => "BigInteger"
  | binary => "Binary"
  | boolean => "Boolean"
  | byte => "Byte"
  | char => "Char"
  | date => "Date"
  | double => "Double"
  | float => "Float"
  | int => "Int"
  | long => "Long"
  | short => "Short"
  | string => "String"
  | time => "Time"
  | timestamp => "Timestamp"

def family : LogicalType → TypeFamily
  | bigDecimal | bigInteger | byte | double | float | int | long | short => .numeric
  | binary => .binary
  | boolean => .bool
  | char | string => .textual
  | date | time | timestamp => .temporal

/-- The storage type of a column that declares none. -/
def storageType : LogicalType → JdbcType
  | bigDecimal | bigInteger => .numeric
  | binary => .varbinary
  | boolean => .boolean
  | byte => .tinyint
  | char => .char
  | date => .date
  | double => .double
  | float => .real
  | int => .integer
  | long => .bigint
  | short => .smallint
  | string => .varchar
  | time => .time
  | timestamp => .timestamp

def isIntegral : LogicalType → Bool
  | bigInteger | byte | int | long | short => true
  | _ => false

/-- The string operations apply. -/
def isText : LogicalType → Bool
  | char | string => true
  | _ => false

/-! ## Order -/

/-- The place of a type in the order of declaration. -/
def rank : LogicalType → Nat
  | bigDecimal => 0
  | bigInteger => 1
  | binary => 2
  | boolean => 3
  | byte => 4
  | char => 5
  | date => 6
  | double => 7
  | float => 8
  | int => 9
  | long => 10
  | short => 11
  | string => 12
  | time => 13
  | timestamp => 14

theorem compare_eq_compare_rank (a b : LogicalType) : compare a b = compare a.rank b.rank := by
  cases a <;> cases b <;> rfl

theorem rank_injective {a b : LogicalType} (h : a.rank = b.rank) : a = b := by
  cases a <;> cases b <;> first | rfl | cases h

instance : Std.TransOrd LogicalType where
  eq_swap {a b} := by simp only [compare_eq_compare_rank]; exact Std.OrientedCmp.eq_swap
  isLE_trans {a b c} := by simp only [compare_eq_compare_rank]; exact Std.TransCmp.isLE_trans

instance : Std.LawfulEqOrd LogicalType where
  compare_self {a} := by rw [compare_eq_compare_rank]; exact Std.ReflCmp.compare_self
  eq_of_compare {a b} h := by
    rw [compare_eq_compare_rank] at h
    exact rank_injective (Std.LawfulEqOrd.eq_of_compare h)

end LogicalType

end TypedSql
