import TypedSql.Dialect.Name
import TypedSql.Numeral.DoubleText
import TypedSql.Text.Quoted
import TypedSql.Value.Basic

/-!
# Identifiers and literals

How each dialect quotes identifiers and writes values in line. Every value but a number that is
not finite has a literal.
-/

namespace TypedSql.DialectName

open Text (Quoting)
open Numeral (Double)

/-! ## Quoting -/

def singleQuote : Char := '\''

def doubleQuote : Char := '"'

def backtick : Char := '\x60'

def backslash : Char := '\\'

def identifierQuoting : DialectName → Quoting
  | mySql => ⟨backtick, backtick, [backtick]⟩
  | sqlServer => ⟨'[', ']', [']']⟩
  | ansi | oracle | postgres => ⟨doubleQuote, doubleQuote, [doubleQuote]⟩

def textQuoting : DialectName → Quoting
  | mySql => ⟨singleQuote, singleQuote, [singleQuote, backslash]⟩
  | ansi | oracle | postgres | sqlServer => ⟨singleQuote, singleQuote, [singleQuote]⟩

def quoteIdentifier (d : DialectName) (s : String) : String :=
  String.ofList (d.identifierQuoting.encode s.toList)

def quoteText (d : DialectName) (s : String) : String :=
  String.ofList (d.textQuoting.encode s.toList)

/-! ## Literals -/

def hasBooleanLiterals : DialectName → Bool
  | ansi | mySql | postgres => true
  | oracle | sqlServer => false

def boolLiteral (d : DialectName) (b : Bool) : String :=
  match d.hasBooleanLiterals, b with
  | true, true => "TRUE"
  | true, false => "FALSE"
  | false, true => "1"
  | false, false => "0"

/-- The upper-case hexadecimal digit of a number below sixteen. -/
def hexDigit (n : Nat) : Char := Char.ofNat (if n < 10 then 48 + n else 55 + n)

/-- Two digits per byte. -/
def hexText (bs : List UInt8) : List Char :=
  bs.flatMap fun b => [hexDigit (b.toNat / 16), hexDigit (b.toNat % 16)]

def bytesLiteral (d : DialectName) (bs : List UInt8) : String :=
  let hex := String.ofList (hexText bs)
  match d with
  | postgres => "'\\x" ++ hex ++ "'"
  | sqlServer => "0x" ++ hex
  | oracle => "HEXTORAW('" ++ hex ++ "')"
  | ansi | mySql => "X'" ++ hex ++ "'"

/-- The value written in line, unless it is a number that is not finite. -/
def literal? (d : DialectName) : Value → Option String
  | .null => some "NULL"
  | .bool b => some (d.boolLiteral b)
  | .int n => some (String.ofList (Numeral.int64Text n))
  | .float x => if x.isFinite then some (String.ofList x.text) else none
  | .text s => some (d.quoteText s)
  | .bytes bs => some (d.bytesLiteral bs)

/-- The clause of a column that the datastore numbers by itself. -/
def identityClause : DialectName → String
  | mySql => "AUTO_INCREMENT"
  | sqlServer => "IDENTITY(1,1)"
  | ansi | oracle | postgres => "GENERATED BY DEFAULT AS IDENTITY"

end TypedSql.DialectName
