import TypedSql.Numeral.Double

/-!
# The shortest decimal of a double

Among the decimals that read back as a given double, the shortest is the one on the coarsest grid
`10 ^ j`; of two neighbours on that grid the nearer is taken, and of two equally near ones the
greater.
-/

namespace TypedSql.Numeral

/-- The comparison of `a · 2 ^ p` with `b · 10 ^ j`. -/
def compareScaled (a : Nat) (p : Int) (b : Nat) (j : Int) : Ordering :=
  compare (a * Nat.pow 2 p.toNat * Nat.pow 10 (-j).toNat)
    (b * Nat.pow 10 j.toNat * Nat.pow 2 (-p).toNat)

/-- The integer part of `a · 2 ^ p / 10 ^ j`. -/
def floorScaled (a : Nat) (p j : Int) : Nat :=
  (a * Nat.pow 2 p.toNat * Nat.pow 10 (-j).toNat) / (Nat.pow 10 j.toNat * Nat.pow 2 (-p).toNat)

/-- The numbers that read back as one double: between `low · 2 ^ p` and `high · 2 ^ p`, the ends
included when `closed`. The double itself is `middle · 2 ^ p`. -/
structure ReadBack where
  low : Nat
  middle : Nat
  high : Nat
  p : Int
  closed : Bool

/-- The interval around `m · 2 ^ q`. Below a power of two the next double is only half as far,
unless it is subnormal. -/
def ReadBack.of (m : Nat) (q : Int) : ReadBack where
  low := if m = Double.exponentUnit ∧ -1074 < q then 4 * m - 1 else 4 * m - 2
  middle := 4 * m
  high := 4 * m + 2
  p := q - 2
  closed := m % 2 == 0

/-- The decimal `d · 10 ^ j` reads back. -/
def ReadBack.holds (r : ReadBack) (j : Int) (d : Nat) : Bool :=
  let below := compareScaled r.low r.p d j
  let above := compareScaled r.high r.p d j
  if r.closed then below != .gt && above != .lt else below == .lt && above == .gt

/-- The nearer of `d · 10 ^ j` and `(d + 1) · 10 ^ j` that reads back. -/
def ReadBack.onGrid? (r : ReadBack) (j : Int) : Option Nat :=
  let d := floorScaled r.middle r.p j
  match r.holds j d, r.holds j (d + 1) with
  | false, false => none
  | true, false => some d
  | false, true => some (d + 1)
  | true, true =>
    if compareScaled (2 * r.middle) r.p (2 * d + 1) j == .lt then some d else some (d + 1)

/-- Search the grids `10 ^ j`, `10 ^ (j - 1)`, …, as many as `fuel` says. -/
def ReadBack.search (r : ReadBack) : Nat → Int → Option (Nat × Int)
  | 0, _ => none
  | fuel + 1, j =>
    match r.onGrid? j with
    | some d => some (d, j)
    | none => r.search fuel (j - 1)

/-- An exponent `j` with `middle · 2 ^ p` below `10 ^ j`: 30103 / 100000 exceeds the logarithm of two. -/
def ReadBack.ceiling (r : ReadBack) : Int :=
  ((r.middle.log2 : Int) + 1 + r.p) * 30103 / 100000 + 2

/-- The digits and the exponent of the shortest decimal of `m · 2 ^ q`. Seventeen digits always
suffice, so the search ends before its fuel. -/
def shortestDecimal (m : Nat) (q : Int) : Nat × Int :=
  let r := ReadBack.of m q
  (r.search 24 r.ceiling).getD (m, 0)

end TypedSql.Numeral
