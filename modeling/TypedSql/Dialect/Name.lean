/-!
# Dialect names

The five families of datastores whose conventions are known.
-/

namespace TypedSql

inductive DialectName where
  | ansi
  | mySql
  | oracle
  | postgres
  | sqlServer
  deriving DecidableEq, Repr, Inhabited

namespace DialectName

def all : List DialectName := [ansi, mySql, oracle, postgres, sqlServer]

theorem mem_all (d : DialectName) : d ∈ all := by cases d <;> decide

def name : DialectName → String
  | ansi => "ansi"
  | mySql => "mysql"
  | oracle => "oracle"
  | postgres => "postgres"
  | sqlServer => "sqlserver"

def ofName? (s : String) : Option DialectName := all.find? (·.name == s)

end DialectName

end TypedSql
