import TypedSql.Numeral.Nearest
import TypedSql.Text.Blank
import TypedSql.Value.Basic

/-!
# Column defaults reported by a datastore

A datastore reports a default as raw text. Blanks and enclosing parentheses are taken off; what is
left is read as a quoted text, a keyword or a number. Anything else is an expression, of which
nothing is known.
-/

namespace TypedSql.Value

open Text Numeral

/-- Take off blanks and enclosing parentheses, as long as there are any. -/
def unwrapDefault (s : List Char) : List Char :=
  match _h : trimBlanks s with
  | '(' :: body =>
    if body.getLast? = some ')' then unwrapDefault body.dropLast else '(' :: body
  | t => t
termination_by s.length
decreasing_by
  have := length_trimBlanks_le s
  simp only [_h, List.length_cons, List.length_dropLast] at *
  omega

/-- Read each doubled quote as one. -/
def undouble : List Char → List Char
  | '\'' :: '\'' :: s => '\'' :: undouble s
  | c :: s => c :: undouble s
  | [] => []

/-- The body of a text between two quotes. -/
def quotedBody? : List Char → Option (List Char)
  | '\'' :: s => if s.getLast? = some '\'' then some s.dropLast else none
  | _ => none

/-- The keywords, whatever their letter case. -/
def keyword? (s : List Char) : Option Value :=
  match String.ofList (s.map Char.toLower) with
  | "null" => some .null
  | "true" => some (.bool true)
  | "false" => some (.bool false)
  | _ => none

/-- A number: an integer if it is one in range, else a finite double. -/
def number? (s : List Char) : Option Value :=
  match readInt64? s with
  | some n => some (.int n)
  | none => (readDouble? s).bind fun x => if x.isFinite then some (.float x) else none

/-- The value of a reported default, if it is a plain literal. -/
def ofDefault? (raw : String) : Option Value :=
  let s := unwrapDefault raw.toList
  match quotedBody? s with
  | some body => some (.text (String.ofList (undouble body)))
  | none =>
    match keyword? s with
    | some v => some v
    | none => number? s

end TypedSql.Value
