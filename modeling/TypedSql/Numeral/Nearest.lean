import TypedSql.Numeral.Double
import TypedSql.Numeral.Integer

/-!
# Reading decimals as doubles

A decimal is read as the double nearest to it, a tie going to the even significand; beyond the
largest double it is infinite.
-/

namespace TypedSql.Numeral

/-! ## Rounding -/

/-- `num / den` rounded to the nearest integer, a tie going to the even one. -/
def roundDivEven (num den : Nat) : Nat :=
  let q := num / den
  let twice := 2 * (num % den)
  if twice < den then q else if den < twice then q + 1 else q + q % 2

/-- `num / den · 2 ^ (-q)` rounded to the nearest integer. -/
def roundScaled (num den : Nat) (q : Int) : Nat :=
  if 0 ≤ q then roundDivEven num (den * Nat.pow 2 q.toNat)
  else roundDivEven (num * Nat.pow 2 (-q).toNat) den

/-- The `q` for which `num / den` has 53 bits before the point of `num / den · 2 ^ (-q)`, or the
least power there is. -/
def scaleOf (num den : Nat) : Int :=
  let q : Int := (num.log2 : Int) - den.log2 - 52
  let reaches : Bool :=
    if 0 ≤ q then den * Nat.pow 2 q.toNat * Double.exponentUnit ≤ num
    else den * Double.exponentUnit ≤ num * Nat.pow 2 (-q).toNat
  max (if reaches then q else q - 1) (-1074)

/-- The magnitude of the double nearest to `num / den`. A significand that rounds up to `2 ^ 53`
carries into the exponent field. -/
def nearestMagnitude (num den : Nat) : Nat :=
  if num = 0 then 0
  else
    let q := scaleOf num den
    min ((q + 1074).toNat * Double.exponentUnit + roundScaled num den q) Double.infinityMagnitude

/-- The magnitude of the double nearest to `d · 10 ^ k`. -/
def nearestDecimal (d : Nat) (k : Int) : Nat :=
  let leading : Int := (natText d).length + k
  if d = 0 ∨ leading < -400 then 0
  else if 400 < leading then Double.infinityMagnitude
  else if 0 ≤ k then nearestMagnitude (d * Nat.pow 10 k.toNat) 1
  else nearestMagnitude d (Nat.pow 10 (-k).toNat)

/-! ## Decimal notation -/

/-- The exponent after `e`: one optional sign and digits. -/
def readExponent? : List Char → Option Int
  | [] => some 0
  | c :: s => if c = 'e' ∨ c = 'E' then readInt? s else none

/-- Digits with at most one point among them, at least one digit, and an optional exponent. -/
def readUnsigned? (s : List Char) : Option (Nat × Int) :=
  let whole := s.takeWhile Char.isDigit
  let rest := s.dropWhile Char.isDigit
  let (places, rest) :=
    match rest with
    | '.' :: t => (t.takeWhile Char.isDigit, t.dropWhile Char.isDigit)
    | t => ([], t)
  if whole.isEmpty && places.isEmpty then none
  else
    (readExponent? rest).map fun e =>
      (Nat.ofDigitChars 10 (whole ++ places) 0, e - places.length)

/-- The double nearest to a decimal with an optional sign. -/
def readDouble? (s : List Char) : Option Double :=
  let (negative, t) := splitSign s
  (readUnsigned? t).map fun (d, k) => Double.withSign negative (nearestDecimal d k)

end TypedSql.Numeral
