/-!
# Double-precision numbers

A number is held as its 64 bits. A finite one stands for `m · 2 ^ q` with a sign, `m` below
`2 ^ 53` and `q` at least `-1074`. Comparison is that of numbers, not of bits: the two zeros are
equal and a NaN differs from itself.
-/

namespace TypedSql.Numeral

/-- The 64 bits of a double-precision number. -/
structure Double where
  bits : UInt64
  deriving DecidableEq, Inhabited

namespace Double

def ofNat (n : Nat) : Double := ⟨UInt64.ofNat n⟩

/-- The bit of the sign. -/
def signUnit : Nat := 0x8000000000000000

/-- The lowest bit of the exponent field. -/
def exponentUnit : Nat := 0x10000000000000

def isNegative (x : Double) : Bool := signUnit ≤ x.bits.toNat

/-- The bits without the sign. -/
def magnitude (x : Double) : Nat := x.bits.toNat % signUnit

def exponentField (x : Double) : Nat := x.magnitude / exponentUnit

def fraction (x : Double) : Nat := x.magnitude % exponentUnit

def isFinite (x : Double) : Bool := x.exponentField < 2047

def isNaN (x : Double) : Bool := x.exponentField == 2047 && x.fraction != 0

/-- The `m` of `m · 2 ^ q`. -/
def significand (x : Double) : Nat :=
  if x.exponentField = 0 then x.fraction else exponentUnit + x.fraction

/-- The `q` of `m · 2 ^ q`. -/
def power (x : Double) : Int :=
  if x.exponentField = 0 then -1074 else (x.exponentField : Int) - 1075

/-- Equality of numbers. -/
def eqv (x y : Double) : Bool :=
  !x.isNaN && !y.isNaN && (x.bits == y.bits || (x.magnitude == 0 && y.magnitude == 0))

def withSign (negative : Bool) (magnitude : Nat) : Double :=
  ofNat (if negative then signUnit + magnitude else magnitude)

/-- The bits, without the sign, of infinity. -/
def infinityMagnitude : Nat := 2047 * exponentUnit

end Double

end TypedSql.Numeral
