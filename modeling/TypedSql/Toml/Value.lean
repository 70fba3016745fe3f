import TypedSql.Numeral.Double

/-!
# TOML values

The values of a TOML document. A date or time is kept as its text.
-/

namespace TypedSql.Toml

inductive Value where
  | string (s : String)
  | integer (n : Int64)
  | float (x : Numeral.Double)
  | boolean (b : Bool)
  | dateTime (text : String)
  | array (items : List Value)
  | table (entries : List (String × Value))
  deriving Inhabited

end TypedSql.Toml
