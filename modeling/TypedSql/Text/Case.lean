import TypedSql.Text.CaseTable

/-!
# Letter case

Upper and lower case of whole texts. Each character is mapped by itself, with one exception: a
capital sigma is lowered to the final form when it ends a word, that is when a cased character
comes before it and none after it, case-ignorable characters being skipped on both sides.
-/

namespace TypedSql.Text

/-! ## Single characters -/

/-- The image of a code point under runs and expansions; a code point in neither is its own image. -/
def mapCase (runs : List CaseRun) (expansions : List (Nat × List Nat)) (c : Char) : List Char :=
  match runs.findSome? (·.imageOf? c.toNat) with
  | some n => [Char.ofNat n]
  | none =>
    match expansions.lookup c.toNat with
    | some ns => ns.map Char.ofNat
    | none => [c]

def upperChar : Char → List Char := mapCase upperRuns upperExpansions

def lowerChar : Char → List Char := mapCase lowerRuns lowerExpansions

def inRanges (ranges : List (Nat × Nat)) (c : Char) : Bool :=
  ranges.any fun r => r.1 ≤ c.toNat && c.toNat ≤ r.2

def isCased : Char → Bool := inRanges casedRanges

def isCaseIgnorable : Char → Bool := inRanges caseIgnorableRanges

/-! ## Texts -/

def toUpper (s : List Char) : List Char := s.flatMap upperChar

/-- The first character that is not case-ignorable is cased. -/
def meetsCased (s : List Char) : Bool := (s.dropWhile isCaseIgnorable).head?.any isCased

def capitalSigma : Char := 'Σ'

/-- The lower case of a sigma with the text `before` it, read backwards, and `after` it. -/
def lowerSigma (before after : List Char) : Char :=
  if meetsCased before && !meetsCased after then 'ς' else 'σ'

/-- Lower the second text, the first being what comes before it, read backwards. -/
def lowerAfter : List Char → List Char → List Char
  | _, [] => []
  | before, c :: s =>
    (if c = capitalSigma then [lowerSigma before s] else lowerChar c) ++ lowerAfter (c :: before) s

def toLower (s : List Char) : List Char := lowerAfter [] s

end TypedSql.Text
