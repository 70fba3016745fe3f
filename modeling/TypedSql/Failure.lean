import TypedSql.JdbcType

/-!
# Failures

What can be wrong with a column when it is compared with its datastore or with the use that is
made of it. Failures are gathered and reported together, in the order in which they were found.
-/

namespace TypedSql

/-- The use that a declared shape was checked for. -/
inductive Usage where
  | primitive
  | integer
  | decimal
  | string
  deriving DecidableEq, Repr, Inhabited

namespace Usage

def all : List Usage := [primitive, integer, decimal, string]

def name : Usage → String
  | primitive => "Primitive"
  | integer => "Integer"
  | decimal => "Decimal"
  | string => "String"

/-- The word for it in a message. -/
def word : Usage → String
  | primitive => "primitive"
  | integer => "integer"
  | decimal => "decimal"
  | string => "string"

def ofName? (s : String) : Option Usage := all.find? (·.name == s)

end Usage

/-- The storage type of a column with its declared sizes. -/
structure Shape where
  jdbcType : JdbcType
  length : Option Nat := none
  scale : Option Nat := none
  deriving DecidableEq, Inhabited

/-- The type name, and in parentheses the sizes that are declared. -/
def Shape.text (s : Shape) : String :=
  s.jdbcType.name ++
    match s.length, s.scale with
    | some l, some k => "(" ++ toString l ++ "," ++ toString k ++ ")"
    | some l, none => "(" ++ toString l ++ ")"
    | none, some k => "(?," ++ toString k ++ ")"
    | none, none => ""

inductive Failure where
  | typeIncompatible (column : String) (expected : JdbcType) (actual : Int)
  | wrongScale (column : String) (expected actual : Nat)
  | wrongPrecision (column : String) (expected actual : Nat)
  | nullabilityMismatch (column : String) (expected actual : Bool)
  | missingColumn (table column : String)
  | definition (column : String) (usage : Usage) (declared : Shape)
  deriving DecidableEq, Inhabited

namespace Failure

def message : Failure → String
  | typeIncompatible c e a =>
    "column '" ++ c ++ "' is declared " ++ e.name ++ " but the datastore reports type code " ++
      toString a
  | wrongScale c e a =>
    "column '" ++ c ++ "' expects scale " ++ toString e ++ ", datastore has " ++ toString a
  | wrongPrecision c e a =>
    "column '" ++ c ++ "' expects precision " ++ toString e ++ ", datastore has " ++ toString a
  | nullabilityMismatch c e a =>
    "column '" ++ c ++ "' expects nullable=" ++ toString e ++ ", datastore has nullable=" ++
      toString a
  | missingColumn t c => "table '" ++ t ++ "' has no column '" ++ c ++ "' in the datastore"
  | definition c u s =>
    "column '" ++ c ++ "' declared as " ++ s.text ++ " cannot be used as " ++ u.word

/-- All failures in one line. -/
def summary (fs : List Failure) : String :=
  toString fs.length ++ " validation failure(s): " ++ "; ".intercalate (fs.map message)

end Failure

end TypedSql
