import TypedSql.Mapping
import TypedSql.Template
import TypedSql.Value.Basic

/-!
# Expressions

Typed expression trees. Every node carries the mapping of the value it stands for. A literal is a
value known when the statement is written; a parameter is bound when it runs and is never known,
even if a value comes with it.
-/

namespace TypedSql

/-- A slot of a statement, to be bound when it runs. A literal that cannot be written in line gets
a slot without a name. -/
structure ParamSlot where
  name : Option String := none
  value : Option Value := none
  deriving DecidableEq, Inhabited

/-- The same name and equal values. -/
def ParamSlot.eqv (a b : ParamSlot) : Bool := a.name == b.name && Value.eqv? a.value b.value

/-- A column as an expression names it, and the template through which it is read. -/
structure ColumnName where
  qualifier : Option String := none
  column : String
  wrapper : Option Template := none
  deriving DecidableEq, Inhabited

inductive Sign where
  | plus
  | minus
  deriving DecidableEq, Repr, Inhabited

def Sign.symbol : Sign → String
  | plus => "+"
  | minus => "-"

/-- How a composed expression joins its arguments: a call, or a sign between them. -/
inductive Joint where
  | call (function : String)
  | sum (sign : Sign)
  deriving DecidableEq, Inhabited

/-- A typed expression. -/
inductive Expr where
  | literal (value : Value) (mapping : Mapping)
  | parameter (slot : ParamSlot) (mapping : Mapping)
  | column (name : ColumnName) (mapping : Mapping)
  | composed (joint : Joint) (args : List Expr) (mapping : Mapping)
  deriving Inhabited

namespace Expr

/-! ## Construction -/

def typedLiteral (v : Value) (t : LogicalType) : Expr := .literal v (.computed t)

def call (function : String) (args : List Expr) (mapping : Mapping) : Expr :=
  .composed (.call function) args mapping

def binary (sign : Sign) (lhs rhs : Expr) (mapping : Mapping) : Expr :=
  .composed (.sum sign) [lhs, rhs] mapping

/-! ## Views -/

def mapping : Expr → Mapping
  | literal _ m | parameter _ m | column _ m | composed _ _ m => m

def logicalType (e : Expr) : LogicalType := e.mapping.logicalType

def isLiteral : Expr → Bool
  | literal _ _ => true
  | _ => false

def isParameter : Expr → Bool
  | parameter _ _ => true
  | _ => false

def literal? : Expr → Option Value
  | literal v _ => some v
  | _ => none

def literalText? (e : Expr) : Option String := e.literal?.bind Value.text?

def literalInt? (e : Expr) : Option Int64 := e.literal?.bind Value.int?

/-- A literal with the mapping of `e`. -/
def withLiteral (e : Expr) (v : Value) : Expr := .literal v e.mapping

/-! ## Equality -/

mutual

/-- The same tree over equal values. -/
def eqv : Expr → Expr → Bool
  | literal v m, literal w n => v.eqv w && m == n
  | parameter s m, parameter t n => s.eqv t && m == n
  | column c m, column d n => c == d && m == n
  | composed i as m, composed j bs n => i == j && eqvList as bs && m == n
  | _, _ => false

def eqvList : List Expr → List Expr → Bool
  | [], [] => true
  | a :: as, b :: bs => a.eqv b && eqvList as bs
  | _, _ => false

end

end Expr

end TypedSql
