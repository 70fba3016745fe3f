import TypedSql.Numeral.Nearest
import TypedSql.Toml.Value

/-!
# TOML lexemes

Readers of the smallest parts of a TOML document: blanks, comments, line ends, strings, keys and
numbers. Each takes the text and gives what it read and the rest, or nothing if the text does not
start with such a part.
-/

namespace TypedSql.Toml

open Numeral

/-! ## Characters -/

def isBlank (c : Char) : Bool := c == ' ' || c == '\t'

/-- Characters that may stand on a line: a tab and everything that is no control character. -/
def isLineChar (c : Char) : Bool := c == '\t' || (0x20 ≤ c.toNat && c.toNat != 0x7F)

def isBareKeyChar (c : Char) : Bool := c.isAlphanum || c == '_' || c == '-'

def skipBlanks (s : List Char) : List Char := s.dropWhile isBlank

/-- A line end is a line feed with or without a carriage return before it. -/
def lineEnd? : List Char → Option (List Char)
  | '\n' :: s => some s
  | '\r' :: '\n' :: s => some s
  | _ => none

def skipComment : List Char → List Char
  | '#' :: s => s.dropWhile isLineChar
  | s => s

/-- The rest of a line that holds nothing more but a comment. -/
def restOfLine? (s : List Char) : Option (List Char) :=
  match skipComment (skipBlanks s) with
  | [] => some []
  | t => lineEnd? t

/-- Skip blanks, line ends and comments; `inComment` tells whether a comment is open. -/
def skipFiller : Bool → List Char → List Char
  | true, c :: s => if isLineChar c then skipFiller true s else if c = '\n' then skipFiller false s
    else if c = '\r' && s.head? == some '\n' then skipFiller false s else c :: s
  | false, c :: s =>
    if isBlank c || c == '\n' then skipFiller false s
    else if c == '#' then skipFiller true s
    else if c == '\r' && s.head? == some '\n' then skipFiller false s
    else c :: s
  | _, [] => []

/-! ## Strings -/

def hexDigit? (c : Char) : Option Nat :=
  if c.isDigit then some (c.toNat - 48)
  else if 'a' ≤ c ∧ c ≤ 'f' then some (c.toNat - 87)
  else if 'A' ≤ c ∧ c ≤ 'F' then some (c.toNat - 55)
  else none

/-- The character with a given hexadecimal code point. -/
def codePoint? (digits : List Char) : Option Char :=
  (digits.mapM hexDigit?).bind fun ds =>
    let n := ds.foldl (fun n d => 16 * n + d) 0
    if n.isValidChar then some (Char.ofNat n) else none

/-- The character that a one-letter escape stands for. -/
def escape? : Char → Option Char
  | 'b' => some '\x08'
  | 't' => some '\t'
  | 'n' => some '\n'
  | 'f' => some '\x0c'
  | 'r' => some '\r'
  | '"' => some '"'
  | '\\' => some '\\'
  | _ => none

/-- Put a character before a text that was read. -/
def consTo {β : Type} (c : Char) (r : List Char × β) : List Char × β := (c :: r.1, r.2)

/-- The body of a string in double quotes, up to and with the closing quote. -/
def basicBody? : List Char → Option (List Char × List Char)
  | '"' :: s => some ([], s)
  | '\\' :: 'u' :: a :: b :: c :: d :: s =>
    (codePoint? [a, b, c, d]).bind fun x => (basicBody? s).map (consTo x)
  | '\\' :: 'U' :: a :: b :: c :: d :: e :: f :: g :: h :: s =>
    (codePoint? [a, b, c, d, e, f, g, h]).bind fun x => (basicBody? s).map (consTo x)
  | '\\' :: c :: s => (escape? c).bind fun x => (basicBody? s).map (consTo x)
  | c :: s => if isLineChar c && c != '\\' then (basicBody? s).map (consTo c) else none
  | [] => none

/-- The body of a string in single quotes, up to and with the closing quote. -/
def literalBody? : List Char → Option (List Char × List Char)
  | '\'' :: s => some ([], s)
  | c :: s => if isLineChar c then (literalBody? s).map (consTo c) else none
  | [] => none

/-- The state of a reader within a string of several lines: in its text, or, after a backslash at
the end of a line, before or behind that line's end. -/
inductive LineState where
  | text
  | beforeEnd
  | behindEnd

/-- Up to two quotes before the closing three belong to the text. -/
def closing (quote : Char) (n : Nat) (s : List Char) : Option (List Char × List Char) :=
  if n ≤ 5 then some (List.replicate (n - 3) quote, s) else none

/-- The body of a string of several lines in double quotes. The number counts the quotes that were
just read. -/
def multiBasicBody? : LineState → Nat → List Char → Option (List Char × List Char)
  | .text, n, '"' :: s => multiBasicBody? .text (n + 1) s
  | .text, n, c :: s =>
    if 3 ≤ n then closing '"' n (c :: s)
    else
      let put (r : List Char × List Char) := (List.replicate n '"' ++ r.1, r.2)
      match c, s with
      | '\\', 'u' :: a :: b :: c :: d :: t =>
        (codePoint? [a, b, c, d]).bind fun x => (multiBasicBody? .text 0 t).map (put ∘ consTo x)
      | '\\', 'U' :: a :: b :: c :: d :: e :: f :: g :: h :: t =>
        (codePoint? [a, b, c, d, e, f, g, h]).bind fun x =>
          (multiBasicBody? .text 0 t).map (put ∘ consTo x)
      | '\\', e :: t =>
        if isBlank e then (multiBasicBody? .beforeEnd 0 t).map put
        else if e == '\n' then (multiBasicBody? .behindEnd 0 t).map put
        else if e == '\r' && t.head? == some '\n' then (multiBasicBody? .behindEnd 0 t).map put
        else (escape? e).bind fun x => (multiBasicBody? .text 0 t).map (put ∘ consTo x)
      | '\\', [] => none
      | '\r', '\n' :: t => (multiBasicBody? .text 0 t).map (put ∘ consTo '\n')
      | c, t =>
        if isLineChar c || c == '\n' then (multiBasicBody? .text 0 t).map (put ∘ consTo c) else none
  | .text, n, [] => if 3 ≤ n then closing '"' n [] else none
  | .beforeEnd, _, c :: s =>
    if isBlank c then multiBasicBody? .beforeEnd 0 s
    else if c == '\n' then multiBasicBody? .behindEnd 0 s
    else if c == '\r' && s.head? == some '\n' then multiBasicBody? .beforeEnd 0 s
    else none
  | .behindEnd, _, c :: s =>
    if isBlank c || c == '\n' then multiBasicBody? .behindEnd 0 s
    else if c == '\r' && s.head? == some '\n' then multiBasicBody? .behindEnd 0 s
    else if c == '"' then multiBasicBody? .text 1 s
    else multiBasicBody? .text 0 (c :: s)
  | _, _, [] => none
termination_by st _ s => (s.length, match st with | .text => 0 | _ => 1)

/-- The body of a string of several lines in single quotes. -/
def multiLiteralBody? : Nat → List Char → Option (List Char × List Char)
  | n, '\'' :: s => multiLiteralBody? (n + 1) s
  | n, c :: s =>
    if 3 ≤ n then closing '\'' n (c :: s)
    else
      let put (r : List Char × List Char) := (List.replicate n '\'' ++ r.1, r.2)
      match c, s with
      | '\r', '\n' :: t => (multiLiteralBody? 0 t).map (put ∘ consTo '\n')
      | c, t =>
        if isLineChar c || c == '\n' then (multiLiteralBody? 0 t).map (put ∘ consTo c) else none
  | n, [] => if 3 ≤ n then closing '\'' n [] else none

/-- A line end right after the opening quotes does not count. -/
def skipFirstLineEnd (s : List Char) : List Char := (lineEnd? s).getD s

/-- A string of any of the four kinds. -/
def string? : List Char → Option (String × List Char)
  | '"' :: '"' :: '"' :: s =>
    (multiBasicBody? .text 0 (skipFirstLineEnd s)).map fun r => (String.ofList r.1, r.2)
  | '\'' :: '\'' :: '\'' :: s =>
    (multiLiteralBody? 0 (skipFirstLineEnd s)).map fun r => (String.ofList r.1, r.2)
  | '"' :: s => (basicBody? s).map fun r => (String.ofList r.1, r.2)
  | '\'' :: s => (literalBody? s).map fun r => (String.ofList r.1, r.2)
  | _ => none

/-! ## Keys -/

/-- One part of a key: bare or in quotes. -/
def keyPart? : List Char → Option (String × List Char)
  | '"' :: s => (basicBody? s).map fun r => (String.ofList r.1, r.2)
  | '\'' :: s => (literalBody? s).map fun r => (String.ofList r.1, r.2)
  | s =>
    match s.takeWhile isBareKeyChar with
    | [] => none
    | k => some (String.ofList k, s.dropWhile isBareKeyChar)

/-- The parts of a key between points, each with blanks around it; at most `fuel` of them. -/
def keyParts? : Nat → List Char → Option (List String × List Char)
  | 0, _ => none
  | fuel + 1, s =>
    (keyPart? (skipBlanks s)).bind fun (part, rest) =>
      match skipBlanks rest with
      | '.' :: t => (keyParts? fuel t).map fun (parts, u) => (part :: parts, u)
      | t => some ([part], t)

/-- Keys of fewer parts than this, and nests of fewer values, are read. -/
def nestingLimit : Nat := 80

def key? (s : List Char) : Option (List String × List Char) := keyParts? (nestingLimit - 1) s

/-! ## Numbers -/

/-- Digits with single underscores between them, as digits alone. -/
def digitRun? (isDigit : Char → Bool) : List Char → Option (List Char × List Char)
  | c :: s =>
    if isDigit c then
      match s with
      | '_' :: t => (digitRun? isDigit t).map (consTo c)
      | s =>
        match digitRun? isDigit s with
        | some r => some (consTo c r)
        | none => if (s.head?.any isDigit) then none else some ([c], s)
    else none
  | [] => none

/-- An integer of another base after its two-letter mark. -/
def basedInteger? (base : Nat) (s : List Char) : Option (Int64 × List Char) :=
  let isDigit (c : Char) : Bool := (hexDigit? c).any (· < base)
  (digitRun? isDigit s).bind fun (digits, rest) =>
    (digits.mapM hexDigit?).bind fun ds =>
      (toInt64? (ds.foldl (fun n d => base * n + d) 0 : Nat)).map (·, rest)

/-- A sign, or none. -/
def sign : List Char → List Char × List Char
  | '+' :: s => (['+'], s)
  | '-' :: s => (['-'], s)
  | s => ([], s)

/-- The text of a decimal integer: an optional sign and digits without a leading zero. -/
def decimalText? (s : List Char) : Option (List Char × List Char) :=
  let (mark, t) := sign s
  match t with
  | '0' :: u => some (mark ++ ['0'], u)
  | t => (digitRun? Char.isDigit t).map fun (digits, rest) => (mark ++ digits, rest)

/-- The text of an exponent with its mark. -/
def exponentText? : List Char → Option (List Char × List Char)
  | c :: s =>
    if c == 'e' || c == 'E' then
      let (mark, t) := sign s
      (digitRun? Char.isDigit t).map fun (digits, rest) => ('e' :: (mark ++ digits), rest)
    else none
  | [] => none

/-- A decimal number after its integer part. A fraction, once begun, has a digit. -/
def numberAfter? (whole : List Char) (s : List Char) : Option (Value × List Char) :=
  let float (text rest : List Char) : Option (Value × List Char) :=
    (readDouble? text).bind fun x =>
      if x.magnitude = Double.infinityMagnitude && !x.isNegative then none
      else some (.float x, rest)
  match s with
  | '.' :: t =>
    (digitRun? Char.isDigit t).bind fun (places, rest) =>
      match exponentText? rest with
      | some (exponent, rest) => float (whole ++ '.' :: places ++ exponent) rest
      | none => float (whole ++ '.' :: places) rest
  | s =>
    match exponentText? s with
    | some (exponent, rest) => float (whole ++ exponent) rest
    | none => (readInt64? whole).map fun n => (.integer n, s)

/-- The words for numbers that are not finite, after an optional sign. -/
def specialFloat? (s : List Char) : Option (Value × List Char) :=
  let (mark, t) := sign s
  let negative := mark == ['-']
  match t with
  | 'i' :: 'n' :: 'f' :: u => some (.float (.withSign negative Double.infinityMagnitude), u)
  | 'n' :: 'a' :: 'n' :: u =>
    some (.float (.withSign negative (Double.infinityMagnitude + Double.exponentUnit / 2)), u)
  | _ => none

/-- An integer or a number with a fraction or an exponent. -/
def number? : List Char → Option (Value × List Char)
  | '0' :: 'x' :: s => (basedInteger? 16 s).map fun (n, r) => (.integer n, r)
  | '0' :: 'o' :: s => (basedInteger? 8 s).map fun (n, r) => (.integer n, r)
  | '0' :: 'b' :: s => (basedInteger? 2 s).map fun (n, r) => (.integer n, r)
  | s =>
    match specialFloat? s with
    | some r => some r
    | none => (decimalText? s).bind fun (whole, rest) => numberAfter? whole rest

end TypedSql.Toml
