import TypedSql.Numeral.Integer
import TypedSql.Numeral.Shortest

/-!
# Text of a double

The shortest digits are laid out positionally for magnitudes from `10 ^ (-4)` up to, but not
including, `10 ^ 16`, and in scientific form beyond. Positional text always has a fraction.
-/

namespace TypedSql.Numeral

/-- Where positional text ends: exponents from `lowest` to `highest` are written positionally, the
exponent being that of the leading digit. -/
structure DecimalLayout where
  lowest : Int
  highest : Int

/-- The layout of number literals. -/
def literalLayout : DecimalLayout := ⟨-4, 15⟩

/-- `digits` with a point before the place `point`, which may lie outside them. -/
def positional (digits : List Char) (point : Int) : List Char :=
  if point ≤ 0 then '0' :: '.' :: (List.replicate (-point).toNat '0' ++ digits)
  else
    let n := point.toNat
    let whole := digits.take n ++ List.replicate (n - digits.length) '0'
    match digits.drop n with
    | [] => whole ++ ['.', '0']
    | places => whole ++ '.' :: places

/-- One digit, the other digits after a point, and the exponent. -/
def scientific (digits : List Char) (exponent : Int) : List Char :=
  let mantissa :=
    match digits with
    | d :: e :: es => d :: '.' :: e :: es
    | ds => ds
  mantissa ++ 'e' :: intText exponent

/-- The text of `d · 10 ^ k`. -/
def DecimalLayout.write (l : DecimalLayout) (d : Nat) (k : Int) : List Char :=
  let digits := natText d
  let exponent := k + digits.length - 1
  if l.lowest ≤ exponent ∧ exponent ≤ l.highest then positional digits (exponent + 1)
  else scientific digits exponent

/-- The text of a finite double. -/
def Double.text (x : Double) : List Char :=
  let unsigned :=
    if x.magnitude = 0 then literalLayout.write 0 0
    else
      let (d, k) := shortestDecimal x.significand x.power
      literalLayout.write d k
  if x.isNegative then '-' :: unsigned else unsigned

end TypedSql.Numeral
