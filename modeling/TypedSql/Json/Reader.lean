import TypedSql.Json.Basic
import TypedSql.Numeral.Nearest

/-!
# Reading JSON

A number without a fraction or an exponent is an integer if it fits into 64 bits with or without a
sign; any other number, and minus zero, is the nearest double.
-/

namespace TypedSql.Json

open Numeral

def isSpace (c : Char) : Bool := c == ' ' || c == '\t' || c == '\n' || c == '\r'

def skipSpace (s : List Char) : List Char := s.dropWhile isSpace

/-! ## Strings -/

def hexValue? (c : Char) : Option Nat :=
  if c.isDigit then some (c.toNat - 48)
  else if 'a' ≤ c ∧ c ≤ 'f' then some (c.toNat - 87)
  else if 'A' ≤ c ∧ c ≤ 'F' then some (c.toNat - 55)
  else none

/-- The code unit of four hexadecimal digits. -/
def unit? (a b c d : Char) : Option Nat := do
  some (4096 * (← hexValue? a) + 256 * (← hexValue? b) + 16 * (← hexValue? c) + (← hexValue? d))

def escaped? : Char → Option Char
  | '"' => some '"'
  | '\\' => some '\\'
  | '/' => some '/'
  | 'b' => some '\x08'
  | 'f' => some '\x0c'
  | 'n' => some '\n'
  | 'r' => some '\r'
  | 't' => some '\t'
  | _ => none

/-- The characters up to the closing quote. They are gathered in reverse; `high` is the first half
of a surrogate pair that was just read. -/
def stringBody? (read : List Char) (high : Option Nat) :
    List Char → Option (String × List Char)
  | '"' :: s => if high.isSome then none else some (String.ofList read.reverse, s)
  | '\\' :: 'u' :: a :: b :: c :: d :: s =>
    (unit? a b c d).bind fun n =>
      match high with
      | some h =>
        if 0xDC00 ≤ n ∧ n ≤ 0xDFFF then
          stringBody? (Char.ofNat (0x10000 + (h - 0xD800) * 0x400 + (n - 0xDC00)) :: read) none s
        else none
      | none =>
        if 0xD800 ≤ n ∧ n ≤ 0xDBFF then stringBody? read (some n) s
        else if n.isValidChar then stringBody? (Char.ofNat n :: read) none s
        else none
  | '\\' :: c :: s =>
    if high.isSome then none else (escaped? c).bind fun c => stringBody? (c :: read) none s
  | c :: s =>
    if high.isSome || c.toNat < 0x20 || c == '\\' then none else stringBody? (c :: read) none s
  | [] => none

/-! ## Numbers -/

def isNumberChar (c : Char) : Bool :=
  c.isDigit || c == '-' || c == '+' || c == '.' || c == 'e' || c == 'E'

def numberOfText? (text : List Char) : Option Json :=
  match readInt? text with
  | some n =>
    if text = ['-', '0'] ∨ n < leastInt64 ∨ 0x10000000000000000 ≤ n then (readDouble? text).map float
    else some (int n)
  | none => (readDouble? text).map float

/-! ## Values -/

mutual

/-- A value and the rest; `fuel` exceeds the number of characters. -/
def value? : Nat → List Char → Option (Json × List Char)
  | 0, _ => none
  | fuel + 1, s =>
    match skipSpace s with
    | '"' :: r => (stringBody? [] none r).map fun (t, r) => (string t, r)
    | '[' :: r =>
      match skipSpace r with
      | ']' :: r => some (array [], r)
      | r => (items? fuel r).map fun (vs, r) => (array vs, r)
    | '\x7b' :: r =>
      match skipSpace r with
      | '\x7d' :: r => some (object [], r)
      | r => (fields? fuel r).map fun (fs, r) => (object fs, r)
    | 'n' :: 'u' :: 'l' :: 'l' :: r => some (null, r)
    | 't' :: 'r' :: 'u' :: 'e' :: r => some (bool true, r)
    | 'f' :: 'a' :: 'l' :: 's' :: 'e' :: r => some (bool false, r)
    | r => (numberOfText? (r.takeWhile isNumberChar)).map (·, r.dropWhile isNumberChar)

def items? : Nat → List Char → Option (List Json × List Char)
  | 0, _ => none
  | fuel + 1, s =>
    (value? fuel s).bind fun (v, r) =>
      match skipSpace r with
      | ']' :: r => some ([v], r)
      | ',' :: r => (items? fuel r).map fun (vs, r) => (v :: vs, r)
      | _ => none

def fields? : Nat → List Char → Option (List (String × Json) × List Char)
  | 0, _ => none
  | fuel + 1, s =>
    match skipSpace s with
    | '"' :: r =>
      (stringBody? [] none r).bind fun (k, r) =>
        match skipSpace r with
        | ':' :: r =>
          (value? fuel r).bind fun (v, r) =>
            match skipSpace r with
            | '\x7d' :: r => some ([(k, v)], r)
            | ',' :: r => (fields? fuel r).map fun (fs, r) => ((k, v) :: fs, r)
            | _ => none
        | _ => none
    | _ => none

end

/-- A text that is one value. -/
def read? (text : String) : Option Json :=
  let s := text.toList
  (value? (2 * s.length + 2) s).bind fun (v, r) => if (skipSpace r).isEmpty then some v else none

end TypedSql.Json
