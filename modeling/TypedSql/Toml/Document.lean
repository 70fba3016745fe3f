import TypedSql.Toml.DateTime
import TypedSql.Toml.Tree

/-!
# TOML documents

A document is read line by line: headers open tables, and the lines under a header fill the table
that it opened.
-/

namespace TypedSql.Toml

/-! ## Values -/

/-- A value that is no string, array or inline table. -/
def scalar? (s : List Char) : Option (Value × List Char) :=
  match s with
  | 't' :: 'r' :: 'u' :: 'e' :: r => some (.boolean true, r)
  | 'f' :: 'a' :: 'l' :: 's' :: 'e' :: r => some (.boolean false, r)
  | '"' :: _ | '\'' :: _ => (string? s).map fun (t, r) => (.string t, r)
  | _ =>
    match dateTime? s with
    | some (t, r) => some (.dateTime t, r)
    | none => number? s

mutual

/-- A value at a given depth of nesting; `fuel` bounds the steps. -/
def value? : Nat → Nat → List Char → Option (Value × List Char)
  | 0, _, _ => none
  | fuel + 1, depth, '[' :: s =>
    if depth + 1 < nestingLimit then
      (items? fuel (depth + 1) s).map fun (vs, r) => (.array vs, r)
    else none
  | fuel + 1, depth, '\x7b' :: s =>
    if depth + 1 < nestingLimit then
      match skipBlanks s with
      | '\x7d' :: r => some (.table [], r)
      | t => (pairs? fuel (depth + 1) [] t).map fun (es, r) => (.table (entriesToValues es), r)
    else none
  | _ + 1, _, s => scalar? s

/-- The items of an array, up to and with the closing bracket. -/
def items? : Nat → Nat → List Char → Option (List Value × List Char)
  | 0, _, _ => none
  | fuel + 1, depth, s =>
    match skipFiller false s with
    | ']' :: r => some ([], r)
    | t =>
      (value? fuel depth t).bind fun (v, t) =>
        match skipFiller false t with
        | ']' :: r => some ([v], r)
        | ',' :: r => (items? fuel depth r).map fun (vs, r) => (v :: vs, r)
        | _ => none

/-- The keys and values of an inline table, up to and with the closing brace. -/
def pairs? : Nat → Nat → Entries → List Char → Option (Entries × List Char)
  | 0, _, _, _ => none
  | fuel + 1, depth, es, s =>
    (key? s).bind fun (path, t) =>
      (expect? '=' t).bind fun t =>
        (value? fuel depth (skipBlanks t)).bind fun (v, t) =>
          (addKey path v .defined es).bind fun es =>
            match skipBlanks t with
            | '\x7d' :: r => some (es, r)
            | ',' :: r => pairs? fuel depth es r
            | _ => none

end

/-! ## Lines -/

/-- A document under construction and the header that its next lines stand under. -/
structure Draft where
  entries : Entries := []
  path : List String := []

/-- Enter a key and its value into the table of the current header. -/
def Draft.addKey (d : Draft) (path : List String) (v : Value) : Option Draft :=
  (modifyAt false (Toml.addKey path v) d.path .defined d.entries).map fun es =>
    { d with entries := es }

/-- Go on under a new header. -/
def Draft.openTable (d : Draft) (path : List String) (isArray : Bool) : Option Draft :=
  (Toml.openTable path isArray d.entries).map fun es => ⟨es, path⟩

/-- Read a header after its opening bracket. -/
def header? (d : Draft) (s : List Char) : Option (Draft × List Char) :=
  let isArray := s.head? == some '['
  (key? (if isArray then s.tail else s)).bind fun (path, t) =>
    (expect? ']' t).bind fun t =>
      (if isArray then expect? ']' t else some t).bind fun t =>
        (restOfLine? t).bind fun t => (d.openTable path isArray).map (·, t)

/-- Read a key and its value. -/
def keyLine? (fuel : Nat) (d : Draft) (s : List Char) : Option (Draft × List Char) :=
  (key? s).bind fun (path, t) =>
    (expect? '=' t).bind fun t =>
      (value? fuel 0 (skipBlanks t)).bind fun (v, t) =>
        (restOfLine? t).bind fun t => (d.addKey path v).map (·, t)

/-- Read the lines of a document; `fuel` exceeds the number of characters. -/
def lines? : Nat → Draft → List Char → Option Draft
  | 0, _, _ => none
  | fuel + 1, d, s =>
    match skipBlanks s with
    | [] => some d
    | '#' :: t => (restOfLine? ('#' :: t)).bind (lines? fuel d)
    | '[' :: t => (header? d t).bind fun (d, t) => lines? fuel d t
    | t =>
      match lineEnd? t with
      | some t => lines? fuel d t
      | none => (keyLine? (4 * t.length + 4) d t).bind fun (d, t) => lines? fuel d t

def skipByteOrderMark : List Char → List Char
  | c :: s => if c.toNat = 0xFEFF then s else c :: s
  | [] => []

/-- The entries of a document. -/
def document? (text : String) : Option (List (String × Value)) :=
  let s := skipByteOrderMark text.toList
  (lines? (s.length + 1) {} s).map fun d => entriesToValues d.entries

end TypedSql.Toml
