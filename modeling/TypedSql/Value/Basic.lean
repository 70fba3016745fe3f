import TypedSql.Numeral.Double

/-!
# Values

What a literal, a bound parameter or a column default holds. Values are compared as the datastore
would compare them: numbers by value, so that a NaN differs from itself.
-/

namespace TypedSql

open Numeral (Double)

inductive Value where
  | null
  | bool (b : Bool)
  | int (n : Int64)
  | float (x : Double)
  | text (s : String)
  | bytes (bs : List UInt8)
  deriving DecidableEq, Inhabited

namespace Value

def text? : Value → Option String
  | text s => some s
  | _ => none

def int? : Value → Option Int64
  | int n => some n
  | _ => none

/-- Equal as values. -/
def eqv : Value → Value → Bool
  | float x, float y => x.eqv y
  | a, b => a = b

/-- Both absent, or both present and equal as values. -/
def eqv? : Option Value → Option Value → Bool
  | none, none => true
  | some a, some b => a.eqv b
  | _, _ => false

end Value

end TypedSql
