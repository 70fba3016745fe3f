import TypedSql.Proofs.Lexing
import TypedSql.Proofs.Rendering

/-!
# Tokens of a statement

A token is a lexeme or the placeholder of a slot; writing tokens gives a text and its slots at
once.  In an orderly list of tokens a lexeme is never taken for a placeholder, no two quotations
touch and no two hyphens either.  The text of every value in line is orderly.
-/

namespace TypedSql

/-- A piece of a statement that knows whether it stands for a slot. -/
inductive Token where
  | lexeme (l : Lexeme)
  | slot (s : ParamSlot)
  deriving DecidableEq

/-! ## Writing tokens -/

namespace Token

/-- What the lexer takes the token for. -/
def read : Token → Lexeme
  | lexeme l => l
  | slot _ => .plain '?'

def slot? : Token → Option ParamSlot
  | lexeme _ => none
  | slot s => some s

/-- Characters outside all quotation. -/
def plain (s : List Char) : List Token := s.map fun c => lexeme (.plain c)

def text (s : List Char) : Token := lexeme (.text s)

def name (s : List Char) : Token := lexeme (.name s)

/-- The statement that tokens make up. -/
def write (d : DialectName) (ts : List Token) : Fragment where
  sql := String.ofList ((ts.map read).flatMap (Lexeme.write d))
  params := ts.filterMap slot?

variable (d : DialectName)

theorem write_append (ts us : List Token) : write d (ts ++ us) = write d ts ++ write d us := by
  ext1 <;> simp [write]

theorem write_plain (s : List Char) : write d (plain s) = .ofText (String.ofList s) := by
  ext1
  · simp only [write, plain, Fragment.ofText, List.map_map, List.flatMap_map]
    congr 1
    induction s with
    | nil => rfl
    | cons c s ih =>
      rw [List.flatMap_cons, ih]
      rfl
  · simp only [write, plain, Fragment.ofText, List.filterMap_map]
    exact List.filterMap_eq_nil_iff.2 fun _ _ => rfl

theorem write_text (s : List Char) :
    write d [text s] = .ofText (String.ofList (d.textQuoting.encode s)) := by
  ext1 <;> simp [write, text, read, slot?, Lexeme.write, Fragment.ofText]

theorem write_name (s : List Char) :
    write d [name s] = .ofText (String.ofList (d.identifierQuoting.encode s)) := by
  ext1 <;> simp [write, name, read, slot?, Lexeme.write, Fragment.ofText]

end Token

/-! ## Orderly tokens -/

/-- The characters that mean something by themselves: quote marks, the placeholder, and the hyphen,
two of which begin a comment. -/
def reserved : List Char := '?' :: '-' :: quoteMarks

/-- Nothing reserved stands in a text. -/
def Unreserved (s : List Char) : Prop := ∀ c ∈ s, c ∉ reserved

instance (s : List Char) : Decidable (Unreserved s) :=
  List.decidableBAll (fun c => c ∉ reserved) s

namespace Unreserved

variable {s t : List Char} {c : Char}

theorem nil : Unreserved [] := by simp [Unreserved]

theorem cons (hc : c ∉ reserved) (h : Unreserved s) : Unreserved (c :: s) :=
  List.forall_mem_cons.2 ⟨hc, h⟩

theorem append (h : Unreserved s) (h' : Unreserved t) : Unreserved (s ++ t) :=
  List.forall_mem_append.2 ⟨h, h'⟩

theorem replicate (hc : c ∉ reserved) (n : Nat) : Unreserved (List.replicate n c) := by
  intro c' hc'
  rwa [List.eq_of_mem_replicate hc']

end Unreserved

/-- Two tokens that may follow each other: not both quotations, and not both hyphens. -/
def Token.Beside (a b : Token) : Prop :=
  ¬ (a.read.isQuoted = true ∧ b.read.isQuoted = true) ∧
    ¬ (a.read = .plain '-' ∧ b.read = .plain '-')

structure Orderly (ts : List Token) : Prop where
  plain : ∀ c, .lexeme (.plain c) ∈ ts → c ∉ quoteMarks ∧ c ≠ '?'
  beside : ts.IsChain Token.Beside

namespace Orderly

variable {ts us : List Token} {c : Char} {s : List Char}

theorem nil : Orderly [] := ⟨by simp, .nil⟩

theorem slot (s : ParamSlot) : Orderly [.slot s] := ⟨by simp, .singleton _⟩

theorem text (s : List Char) : Orderly [.text s] := ⟨by simp [Token.text], .singleton _⟩

theorem name (s : List Char) : Orderly [.name s] := ⟨by simp [Token.name], .singleton _⟩

theorem not_mem_quoteMarks (hc : c ∉ reserved) : c ∉ quoteMarks ∧ c ≠ '?' := by
  simp only [reserved, List.mem_cons, not_or] at hc
  exact ⟨hc.2.2, hc.1⟩

theorem beside_left (hc : c ∉ reserved) (t : Token) : Token.Beside (.lexeme (.plain c)) t := by
  simp only [reserved, List.mem_cons, not_or] at hc
  exact ⟨by simp [Token.read, Lexeme.isQuoted], by simp [Token.read, hc.2.1]⟩

theorem beside_right (hc : c ∉ reserved) (t : Token) : Token.Beside t (.lexeme (.plain c)) := by
  simp only [reserved, List.mem_cons, not_or] at hc
  exact ⟨by simp [Token.read, Lexeme.isQuoted], by simp [Token.read, hc.2.1]⟩

/-! ### Putting tokens together -/

/-- An unreserved character goes between any two lists. -/
theorem append_cons (h : Orderly ts) (hc : c ∉ reserved) (h' : Orderly us) :
    Orderly (ts ++ .lexeme (.plain c) :: us) where
  plain c' hc' := by
    rcases List.mem_append.1 hc' with hc' | hc'
    · exact h.plain c' hc'
    · rcases List.mem_cons.1 hc' with heq | hc'
      · cases heq
        exact not_mem_quoteMarks hc
      · exact h'.plain c' hc'
  beside := by
    refine h.beside.append (h'.beside.cons fun t _ => beside_left hc t) fun t _ u hu => ?_
    obtain rfl : .lexeme (.plain c) = u := Option.some.inj hu
    exact beside_right hc t

theorem cons (hc : c ∉ reserved) (h : Orderly ts) : Orderly (.lexeme (.plain c) :: ts) :=
  nil.append_cons hc h

/-- A hyphen goes before what does not begin with another one. -/
theorem hyphen (h : Orderly ts) (hts : ∀ t ∈ ts.head?, t.read ≠ .plain '-') :
    Orderly (.lexeme (.plain '-') :: ts) where
  plain c hc := by
    rcases List.mem_cons.1 hc with heq | hc
    · cases heq
      decide
    · exact h.plain c hc
  beside := h.beside.cons fun t ht =>
    ⟨by simp [Token.read, Lexeme.isQuoted], fun hh => hts t ht hh.2⟩

theorem plain_append (hs : Unreserved s) (h : Orderly ts) : Orderly (Token.plain s ++ ts) := by
  induction s with
  | nil => exact h
  | cons c s ih =>
    exact (ih fun c' hc' => hs c' (List.mem_cons_of_mem c hc')).cons (hs c List.mem_cons_self)

theorem ofUnreserved (hs : Unreserved s) : Orderly (Token.plain s) := by
  have h := plain_append hs nil
  rwa [List.append_nil] at h

theorem append_plain (h : Orderly ts) (hs : Unreserved s) : Orderly (ts ++ Token.plain s) := by
  cases s with
  | nil => simpa [Token.plain] using h
  | cons c s =>
    exact h.append_cons (hs c List.mem_cons_self)
      (ofUnreserved fun c' hc' => hs c' (List.mem_cons_of_mem c hc'))

/-! ### Reading -/

theorem separated (h : Orderly ts) : Separated (ts.map Token.read) where
  plain c hc := by
    obtain ⟨t, ht, hread⟩ := List.mem_map.1 hc
    cases t with
    | lexeme l =>
      obtain rfl : l = .plain c := hread
      exact (h.plain c ht).1
    | slot s =>
      obtain rfl : '?' = c := Lexeme.plain.inj hread
      decide
  apart := (List.isChain_map _).2 (h.beside.imp fun _ _ hab => hab.1)

/-- The placeholders are the slots. -/
theorem read_eq_placeholder_iff (h : Orderly ts) {t : Token} (ht : t ∈ ts) :
    t.read = .plain '?' ↔ ∃ s, t = .slot s := by
  cases t with
  | lexeme l =>
    refine ⟨fun hread => ?_, by simp⟩
    obtain rfl : l = .plain '?' := hread
    exact absurd rfl (h.plain _ ht).2
  | slot s => exact ⟨fun _ => ⟨s, rfl⟩, fun _ => rfl⟩

/-- One by one, the placeholders that are read stand for the slots. -/
theorem slots_of_placeholders (h : Orderly ts) :
    (ts.filter (·.read = .plain '?')).map Token.slot? = (ts.filterMap Token.slot?).map some := by
  have hiff : ∀ t ∈ ts, t.read = .plain '?' ↔ ∃ s, t = .slot s := fun _ =>
    h.read_eq_placeholder_iff
  clear h
  induction ts with
  | nil => rfl
  | cons t ts ih =>
    have hts := ih fun u hu => hiff u (List.mem_cons_of_mem t hu)
    have ht := hiff t List.mem_cons_self
    cases t with
    | lexeme l =>
      have hl : Token.read (.lexeme l) ≠ .plain '?' := fun hread => by simpa using ht.1 hread
      rw [List.filter_cons_of_neg (by simpa using hl), hts]
      rfl
    | slot s =>
      have hcons : (Token.slot s :: ts).filterMap Token.slot? = s :: ts.filterMap Token.slot? := rfl
      rw [List.filter_cons_of_pos (by simp [Token.read]), List.map_cons, hts, hcons, List.map_cons]
      rfl

theorem count_placeholder (h : Orderly ts) :
    (ts.map Token.read).count (.plain '?') = (ts.filterMap Token.slot?).length := by
  have hlength := congrArg List.length h.slots_of_placeholders
  rw [List.length_map, List.length_map] at hlength
  rw [List.count, List.countP_map, List.countP_eq_length_filter, ← hlength]
  rfl

theorem not_hyphens (h : Orderly ts) :
    ¬ [.plain '-', .plain '-'] <:+: ts.map Token.read := by
  intro hin
  have hchain : (ts.map Token.read).IsChain fun a b => ¬ (a = .plain '-' ∧ b = .plain '-') :=
    (List.isChain_map _).2 (h.beside.imp fun _ _ hab => hab.2)
  have hpair := List.IsChain.infix hchain hin
  exact List.isChain_pair.1 hpair ⟨rfl, rfl⟩

/-- The lexer finds the tokens again. -/
theorem lex_write (h : Orderly ts) (d : DialectName) :
    d.lex (Token.write d ts).sql.toList = some (ts.map Token.read) := by
  rw [Token.write, String.toList_ofList]
  exact d.lex_write h.separated

end Orderly

end TypedSql
