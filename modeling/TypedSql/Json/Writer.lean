import TypedSql.Json.Basic
import TypedSql.Numeral.DoubleText

/-!
# Writing JSON

JSON on one line. Characters below the space are escaped; a number that is not finite has no form
and is written as null.
-/

namespace TypedSql.Json

def lowerHexDigit (n : Nat) : Char := Char.ofNat (if n < 10 then 48 + n else 87 + n)

/-- One character inside quotes. -/
def escapeChar (c : Char) : List Char :=
  if c = '"' then ['\\', '"']
  else if c = '\\' then ['\\', '\\']
  else if c = '\n' then ['\\', 'n']
  else if c = '\r' then ['\\', 'r']
  else if c = '\t' then ['\\', 't']
  else if c.toNat < 0x20 then
    ['\\', 'u', '0', '0', lowerHexDigit (c.toNat / 16), lowerHexDigit (c.toNat % 16)]
  else [c]

def quoted (s : String) : String :=
  String.ofList ('"' :: (s.toList.flatMap escapeChar ++ ['"']))

mutual

/-- Append the text of a value to `out`. -/
def writeTo (out : String) : Json → String
  | null => out ++ "null"
  | bool b => out ++ toString b
  | int n => out ++ toString n
  | float x => out ++ if x.isFinite then String.ofList x.text else "null"
  | string s => out ++ quoted s
  | array items => writeItems (out ++ "[") items ++ "]"
  | object fields => writeFields (out ++ "\x7b") fields ++ "\x7d"

def writeItems (out : String) : List Json → String
  | [] => out
  | [v] => v.writeTo out
  | v :: vs => writeItems (v.writeTo out ++ ",") vs

def writeFields (out : String) : List (String × Json) → String
  | [] => out
  | [(k, v)] => v.writeTo (out ++ quoted k ++ ":")
  | (k, v) :: fields => writeFields (v.writeTo (out ++ quoted k ++ ":") ++ ",") fields

end

def write (v : Json) : String := v.writeTo ""

end TypedSql.Json
