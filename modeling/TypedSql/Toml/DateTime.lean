import TypedSql.Toml.Lexeme

/-!
# TOML dates and times

A date, a time, or both, with or without an offset. They are checked against the calendar and
written in a uniform way.
-/

namespace TypedSql.Toml

/-- Exactly `n` digits. -/
def digits? (n : Nat) (s : List Char) : Option (Nat × List Char) :=
  let ds := s.take n
  if ds.length = n ∧ ds.all Char.isDigit then some (Nat.ofDigitChars 10 ds 0, s.drop n) else none

/-- `n` digits whose value is between `low` and `high`. -/
def field? (n low high : Nat) (s : List Char) : Option (Nat × List Char) :=
  (digits? n s).bind fun (v, r) => if low ≤ v ∧ v ≤ high then some (v, r) else none

/-- `n` in decimal, with zeros in front up to `width` digits. -/
def padded (width n : Nat) : List Char :=
  let ds := Numeral.natText n
  List.replicate (width - ds.length) '0' ++ ds

def isLeapYear (y : Nat) : Bool := y % 4 = 0 && (y % 100 != 0 || y % 400 = 0)

def daysInMonth (y m : Nat) : Nat :=
  if m = 2 then (if isLeapYear y then 29 else 28)
  else if m = 4 ∨ m = 6 ∨ m = 9 ∨ m = 11 then 30
  else 31

def expect? (c : Char) : List Char → Option (List Char)
  | d :: s => if c = d then some s else none
  | [] => none

/-- `YYYY-MM-DD`. -/
def date? (s : List Char) : Option (List Char × List Char) := do
  let (y, s) ← digits? 4 s
  let s ← expect? '-' s
  let (m, s) ← field? 2 1 12 s
  let s ← expect? '-' s
  let (d, s) ← field? 2 1 (daysInMonth y m) s
  some (padded 4 y ++ '-' :: padded 2 m ++ '-' :: padded 2 d, s)

/-- The fraction of a second: nine digits count, and zeros at their end are not written. -/
def fractionText (digits : List Char) : List Char :=
  match (((digits.take 9).reverse.dropWhile (· == '0')).reverse) with
  | [] => []
  | ds => '.' :: ds

/-- `HH:MM:SS` with an optional fraction. -/
def time? (s : List Char) : Option (List Char × List Char) := do
  let (h, s) ← field? 2 0 23 s
  let s ← expect? ':' s
  let (m, s) ← field? 2 0 59 s
  let s ← expect? ':' s
  let (sec, s) ← field? 2 0 60 s
  let text := padded 2 h ++ ':' :: padded 2 m ++ ':' :: padded 2 sec
  match s with
  | '.' :: t =>
    match t.takeWhile Char.isDigit with
    | [] => some (text, s)
    | ds => some (text ++ fractionText ds, t.dropWhile Char.isDigit)
  | _ => some (text, s)

/-- `Z`, or a sign and `HH:MM`. An offset of no minutes is written with a plus. -/
def offset? : List Char → Option (List Char × List Char)
  | c :: s =>
    if c == 'Z' || c == 'z' then some (['Z'], s)
    else if c == '+' || c == '-' then do
      let (h, s) ← field? 2 0 23 s
      let s ← expect? ':' s
      let (m, s) ← field? 2 0 59 s
      let mark := if h = 0 ∧ m = 0 then '+' else c
      some (mark :: (padded 2 h ++ ':' :: padded 2 m), s)
    else none
  | [] => none

/-- A time after the mark that follows a date. -/
def timeAfterDate? : List Char → Option (List Char × List Char)
  | c :: s => if c == 'T' || c == 't' || c == ' ' then time? s else none
  | [] => none

def dateTime? (s : List Char) : Option (String × List Char) :=
  match date? s with
  | some (date, s) =>
    match timeAfterDate? s with
    | some (time, s) =>
      match offset? s with
      | some (offset, s) => some (String.ofList (date ++ 'T' :: time ++ offset), s)
      | none => some (String.ofList (date ++ 'T' :: time), s)
    | none => some (String.ofList date, s)
  | none => (time? s).map fun (time, s) => (String.ofList time, s)

end TypedSql.Toml
