/-!
# Blank characters

White space in the sense of the Unicode property, and trimming. Trimming takes blanks from both
ends and nothing else, so a text with no blank at its ends is left alone.
-/

namespace TypedSql.Text

/-- The Unicode property `White_Space`. -/
def isBlank (c : Char) : Bool :=
  let n := c.toNat
  (9 ≤ n && n ≤ 13) || n == 0x20 || n == 0x85 || n == 0xA0 || n == 0x1680 ||
    (0x2000 ≤ n && n ≤ 0x200A) || n == 0x2028 || n == 0x2029 || n == 0x202F || n == 0x205F ||
    n == 0x3000

/-- Drop from the end while `p` holds. -/
def dropTailWhile (p : Char → Bool) (s : List Char) : List Char :=
  (s.reverse.dropWhile p).reverse

/-- Drop from both ends while `p` holds. -/
def dropEndsWhile (p : Char → Bool) (s : List Char) : List Char :=
  dropTailWhile p (s.dropWhile p)

/-- Drop the blanks at both ends. -/
def trimBlanks (s : List Char) : List Char := dropEndsWhile isBlank s

theorem length_dropTailWhile_le (p : Char → Bool) (s : List Char) :
    (dropTailWhile p s).length ≤ s.length := by
  simpa [dropTailWhile] using (List.dropWhile_suffix (l := s.reverse) p).length_le

theorem length_dropEndsWhile_le (p : Char → Bool) (s : List Char) :
    (dropEndsWhile p s).length ≤ s.length :=
  Nat.le_trans (length_dropTailWhile_le p _) (List.dropWhile_suffix p).length_le

theorem length_trimBlanks_le (s : List Char) : (trimBlanks s).length ≤ s.length :=
  length_dropEndsWhile_le isBlank s

/-- The text has a character that is not blank. -/
def hasInk (s : String) : Bool := s.toList.any fun c => !isBlank c

/-! ## Letter case in ASCII -/

/-- Equal up to the case of ASCII letters. -/
def sameLetters (s t : String) : Bool := s.toList.map Char.toLower == t.toList.map Char.toLower

end TypedSql.Text
