/-!
# Integers in decimal

Decimal text of integers, and the machine integers that statements hold: 64 bits, signed. Sums and
differences that leave the range stop at its ends.
-/

namespace TypedSql.Numeral

/-! ## Writing -/

def natText (n : Nat) : List Char := Nat.toDigits 10 n

def intText (n : Int) : List Char :=
  if n < 0 then '-' :: natText n.natAbs else natText n.natAbs

/-! ## Reading -/

/-- The value of a non-empty run of decimal digits. -/
def readNat? (s : List Char) : Option Nat :=
  if !s.isEmpty && s.all Char.isDigit then some (Nat.ofDigitChars 10 s 0) else none

/-- A leading sign and what follows it; without one the sign is positive. -/
def splitSign : List Char → Bool × List Char
  | '-' :: s => (true, s)
  | '+' :: s => (false, s)
  | s => (false, s)

def applySign (negative : Bool) (n : Nat) : Int := if negative then -n else n

/-- One optional sign and decimal digits. -/
def readInt? (s : List Char) : Option Int :=
  let (negative, digits) := splitSign s
  (readNat? digits).map (applySign negative)

/-! ## Machine integers -/

def leastInt64 : Int := -0x8000000000000000

def greatestInt64 : Int := 0x7FFFFFFFFFFFFFFF

/-- The machine integer equal to `n`, if there is one. -/
def toInt64? (n : Int) : Option Int64 :=
  if leastInt64 ≤ n ∧ n ≤ greatestInt64 then some (Int64.ofInt n) else none

/-- The machine integer nearest to `n`. -/
def clampInt64 (n : Int) : Int64 := Int64.ofInt (max leastInt64 (min n greatestInt64))

theorem leastInt64_le_toInt (m : Int64) : leastInt64 ≤ m.toInt := Int64.le_toInt m

theorem toInt_le_greatestInt64 (m : Int64) : m.toInt ≤ greatestInt64 :=
  Int.le_of_lt_add_one (Int64.toInt_lt m)

theorem toInt_ofInt_of_mem {n : Int} (hl : leastInt64 ≤ n) (hu : n ≤ greatestInt64) :
    (Int64.ofInt n).toInt = n :=
  Int64.toInt_ofInt_of_le hl (Int.lt_add_one_of_le hu)

/-- A machine integer is found exactly for the integers that one is equal to. -/
theorem toInt64?_eq_some_iff {n : Int} {m : Int64} : toInt64? n = some m ↔ m.toInt = n := by
  have hl := leastInt64_le_toInt m
  have hu := toInt_le_greatestInt64 m
  unfold toInt64?
  split
  next h =>
    rw [Option.some.injEq]
    constructor
    · rintro rfl
      exact toInt_ofInt_of_mem h.1 h.2
    · rintro rfl
      exact Int64.ofInt_toInt m
  next h =>
    constructor
    · intro h'
      cases h'
    · rintro rfl
      exact absurd ⟨hl, hu⟩ h

theorem toInt_clampInt64 (n : Int) :
    (clampInt64 n).toInt = max leastInt64 (min n greatestInt64) := by
  have hle : leastInt64 ≤ greatestInt64 := by decide
  exact toInt_ofInt_of_mem (by omega) (by omega)

theorem toInt_clampInt64_of_mem {n : Int} (hl : leastInt64 ≤ n) (hu : n ≤ greatestInt64) :
    (clampInt64 n).toInt = n := by
  rw [toInt_clampInt64]
  omega

/-- Addition that stops at the ends of the range. -/
def addClamped (a b : Int64) : Int64 := clampInt64 (a.toInt + b.toInt)

/-- Subtraction that stops at the ends of the range. -/
def subClamped (a b : Int64) : Int64 := clampInt64 (a.toInt - b.toInt)

def int64Text (n : Int64) : List Char := intText n.toInt

def readInt64? (s : List Char) : Option Int64 := (readInt? s).bind toInt64?

end TypedSql.Numeral
