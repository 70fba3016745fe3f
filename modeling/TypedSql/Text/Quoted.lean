/-!
# Quoted text

A quoted text stands between an opening and a closing character; certain characters, the closing
one among them, are written twice inside.
-/

namespace TypedSql.Text

/-- A way of quoting: the two delimiters and the characters that are written twice. -/
structure Quoting where
  opening : Char
  closing : Char
  doubled : List Char

namespace Quoting

/-- One character inside the delimiters. -/
def encodeChar (q : Quoting) (c : Char) : List Char := if c ∈ q.doubled then [c, c] else [c]

def encodeBody (q : Quoting) (s : List Char) : List Char := s.flatMap q.encodeChar

/-- The quoted text. -/
def encode (q : Quoting) (s : List Char) : List Char := q.opening :: (q.encodeBody s ++ [q.closing])

end Quoting

end TypedSql.Text
