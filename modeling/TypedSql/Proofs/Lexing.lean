import Mathlib.Data.List.Chain
import TypedSql.Proofs.Quoting

/-!
# Reading a statement

The lexer of a dialect (`DialectName.lex`) splits a statement into the texts and identifiers that
are quoted in it and the characters outside all quotation.  Lexemes written one after the other
come back as they were if the characters between the quotations are no quote marks and no two
quotations touch (`lex_write`).
-/

namespace TypedSql

open Text (Delimiters)

/-- A piece of a statement: a character outside all quotation, or what one quotation stands for. -/
inductive Lexeme where
  | plain (c : Char)
  | text (s : List Char)
  | name (s : List Char)
  deriving DecidableEq

namespace Lexeme

/-- The lexeme as a dialect writes it. -/
def write (d : DialectName) : Lexeme → List Char
  | plain c => [c]
  | text s => d.textQuoting.encode s
  | name s => d.identifierQuoting.encode s

def isQuoted : Lexeme → Bool
  | plain _ => false
  | text _ | name _ => true

end Lexeme

/-- The characters that a quotation begins or ends with in some dialect. -/
def quoteMarks : List Char := ['\'', '"', '\x60', '[', ']']

namespace DialectName

/-! ## The lexer -/

/-- The quotation that a character opens, and the lexeme that it makes of what it quotes. -/
def quotation? (d : DialectName) (c : Char) : Option (Delimiters × (List Char → Lexeme)) :=
  if c = d.textDelimiters.opening then some (d.textDelimiters, .text)
  else if c = d.nameDelimiters.opening then some (d.nameDelimiters, .name)
  else none

/-- The lexemes of a statement, unless it ends inside a quotation. -/
def lex (d : DialectName) : List Char → Option (List Lexeme)
  | [] => some []
  | c :: s =>
    match d.quotation? c with
    | some (q, quoted) =>
      match _h : q.readBody s with
      | some (x, t) => (d.lex t).map (quoted x :: ·)
      | none => none
    | none => (d.lex s).map (.plain c :: ·)
  termination_by s => s.length
  decreasing_by
    · have hlt := Delimiters.length_lt_of_readBody _h
      exact Nat.lt_succ_of_lt hlt
    · exact Nat.lt_succ_self _

variable {d : DialectName}

theorem quotation?_of_not_mem {c : Char} (hc : c ∉ quoteMarks) : d.quotation? c = none := by
  have htext : c ≠ d.textDelimiters.opening := by
    rintro rfl
    exact hc List.mem_cons_self
  have hname : c ≠ d.nameDelimiters.opening := by
    rintro rfl
    exact hc (by cases d <;> decide)
  rw [quotation?, if_neg htext, if_neg hname]

theorem quotation?_text (d : DialectName) :
    d.quotation? d.textDelimiters.opening = some (d.textDelimiters, .text) :=
  if_pos rfl

theorem quotation?_name (d : DialectName) :
    d.quotation? d.nameDelimiters.opening = some (d.nameDelimiters, .name) := by
  have hne : d.nameDelimiters.opening ≠ d.textDelimiters.opening := by cases d <;> decide
  rw [quotation?, if_neg hne, if_pos rfl]

theorem lex_nil (d : DialectName) : d.lex [] = some [] := by
  rw [lex]

theorem lex_plain {c : Char} (hc : c ∉ quoteMarks) (s : List Char) :
    d.lex (c :: s) = (d.lex s).map (.plain c :: ·) := by
  rw [lex, quotation?_of_not_mem hc]

/-- A quotation is one lexeme, whatever it holds. -/
theorem lex_encode {k : Text.Quoting} {q : Delimiters} {quoted : List Char → Lexeme}
    (hk : k.Fits q) (hq : d.quotation? q.opening = some (q, quoted)) (s : List Char)
    {t : List Char} (ht : t.head? ≠ some q.closing) :
    d.lex (k.encode s ++ t) = (d.lex t).map (quoted s :: ·) := by
  have hread := hk.readBody_encodeBody s ht
  rw [hk.encode_append, lex, hq]
  simp only
  split
  next x t' h =>
    rw [hread] at h
    cases h
    rfl
  next h =>
    rw [hread] at h
    cases h

end DialectName

/-! ## Lexemes one after the other -/

/-- Outside the quotations there are no quote marks, and no two quotations touch. -/
structure Separated (ls : List Lexeme) : Prop where
  plain : ∀ c, .plain c ∈ ls → c ∉ quoteMarks
  apart : ls.IsChain fun a b => ¬ (a.isQuoted = true ∧ b.isQuoted = true)

namespace Separated

variable {l : Lexeme} {ls : List Lexeme}

theorem tail (h : Separated (l :: ls)) : Separated ls :=
  ⟨fun c hc => h.plain c (List.mem_cons_of_mem l hc), h.apart.tail⟩

/-- Behind a quotation the text does not go on with a quote mark. -/
theorem head?_ne (h : Separated (l :: ls)) (hl : l.isQuoted = true) (d : DialectName) {c : Char}
    (hc : c ∈ quoteMarks) : (ls.flatMap (Lexeme.write d)).head? ≠ some c := by
  cases ls with
  | nil => simp
  | cons l' ls =>
    cases l' with
    | plain c' =>
      have hc' := h.plain c' (by simp)
      intro heq
      obtain rfl : c' = c := Option.some.inj heq
      exact hc' hc
    | text s => exact absurd ⟨hl, rfl⟩ (List.isChain_cons_cons.1 h.apart).1
    | name s => exact absurd ⟨hl, rfl⟩ (List.isChain_cons_cons.1 h.apart).1

end Separated

/-- Separated lexemes are read back as they were written. -/
theorem DialectName.lex_write (d : DialectName) {ls : List Lexeme} (h : Separated ls) :
    d.lex (ls.flatMap (Lexeme.write d)) = some ls := by
  induction ls with
  | nil => exact d.lex_nil
  | cons l ls ih =>
    have hls := ih h.tail
    rw [List.flatMap_cons]
    cases l with
    | plain c =>
      have hplain := lex_plain (d := d) (h.plain c List.mem_cons_self) (ls.flatMap (Lexeme.write d))
      rwa [hls] at hplain
    | text s =>
      have hclosing : d.textDelimiters.closing ∈ quoteMarks := List.mem_cons_self
      have hquoted := lex_encode d.fits_textQuoting d.quotation?_text s (h.head?_ne rfl d hclosing)
      rwa [hls] at hquoted
    | name s =>
      have hclosing : d.nameDelimiters.closing ∈ quoteMarks := by cases d <;> decide
      have hquoted := lex_encode d.fits_identifierQuoting d.quotation?_name s
        (h.head?_ne rfl d hclosing)
      rwa [hls] at hquoted

end TypedSql
