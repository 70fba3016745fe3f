import TypedSql.Dialect.Basic

/-!
# Operation names

The seven operations on texts, and the function that each dialect calls for them.
-/

namespace TypedSql

/-- An operation from text to text. -/
inductive Transform where
  | upper
  | lower
  | trim
  | trimLeft
  | trimRight
  deriving DecidableEq, Repr, Inhabited

namespace Transform

def all : List Transform := [upper, lower, trim, trimLeft, trimRight]

theorem mem_all (t : Transform) : t ∈ all := by cases t <;> decide

def operation : Transform → String
  | upper => "toUpperCase"
  | lower => "toLowerCase"
  | trim => "trim"
  | trimLeft => "trimLeft"
  | trimRight => "trimRight"

end Transform

/-- An operation that is known without registration. -/
inductive Builtin where
  | transform (t : Transform)
  | length
  | substring
  deriving DecidableEq, Repr, Inhabited

namespace Builtin

def all : List Builtin := Transform.all.map transform ++ [length, substring]

theorem mem_all (b : Builtin) : b ∈ all := by
  rcases b with (_ | _ | _ | _ | _) | _ | _ <;> decide

def operation : Builtin → String
  | transform t => t.operation
  | length => "length"
  | substring => "substring"

def ofOperation? (s : String) : Option Builtin := all.find? (·.operation == s)

/-- The function that a dialect calls for the operation. -/
def function : Builtin → DialectName → String
  | transform .upper, _ => "UPPER"
  | transform .lower, _ => "LOWER"
  | transform .trim, _ => "TRIM"
  | transform .trimLeft, _ => "LTRIM"
  | transform .trimRight, _ => "RTRIM"
  | length, .oracle => "LENGTH"
  | length, .sqlServer => "LEN"
  | length, _ => "CHAR_LENGTH"
  | substring, .oracle => "SUBSTR"
  | substring, _ => "SUBSTRING"

end Builtin

namespace Dialect

/-- The function for an operation: the configured one, else that of the dialect. -/
def function? (d : Dialect) (operation : String) : Option String :=
  match d.functions.get? operation with
  | some f => some f
  | none => (Builtin.ofOperation? operation).map (·.function d.name)

/-- The function for an operation that is not switched off. -/
def enabledFunction? (d : Dialect) (operation : String) : Option String :=
  if d.isDisabled operation then none else d.function? operation

/-- The names that a configuration mentions: those of functions, then those switched off. -/
def mentioned (d : Dialect) : List String := d.functions.keys ++ d.disabled.keys

/-- The first name mentioned that is no operation. -/
def unknownOperation? (d : Dialect) : Option String :=
  d.mentioned.find? fun s => (Builtin.ofOperation? s).isNone

end Dialect

end TypedSql
