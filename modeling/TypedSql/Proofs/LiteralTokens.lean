import TypedSql.Proofs.Tokens

/-!
# Tokens of values

What a dialect writes for a value in line is a quotation or a few characters outside all quotation,
none of which is reserved but the sign of a number and that of its exponent.
-/

namespace TypedSql

open Numeral (Double DecimalLayout)

/-! ## Numbers -/

namespace Numeral

theorem unreserved_natText (n : Nat) : Unreserved (natText n) := by
  intro c hc hr
  have hdigit : c.isDigit = true := Nat.isDigit_of_mem_toDigits (by decide) (by decide) hc
  have hnone : reserved.any Char.isDigit = false := by decide
  have hany : reserved.any Char.isDigit = true := List.any_eq_true.2 ⟨c, hr, hdigit⟩
  rw [hnone] at hany
  cases hany

theorem unreserved_positional {digits : List Char} (h : Unreserved digits) (p : Int) :
    Unreserved (positional digits p) := by
  have hzero : '0' ∉ reserved := by decide
  have hpoint : '.' ∉ reserved := by decide
  unfold positional
  split
  · exact .cons hzero (.cons hpoint (.append (.replicate hzero _) h))
  · have hwhole : Unreserved (digits.take p.toNat ++
        List.replicate (p.toNat - digits.length) '0') :=
      .append (fun c hc => h c (List.mem_of_mem_take hc)) (.replicate hzero _)
    have hplaces : Unreserved (digits.drop p.toNat) := fun c hc => h c (List.mem_of_mem_drop hc)
    simp only
    split
    · exact hwhole.append (.cons hpoint (.cons hzero .nil))
    · exact hwhole.append (.cons hpoint hplaces)

end Numeral

/-- A text that a hyphen may stand before. -/
structure Spelled (s : List Char) : Prop where
  orderly : Orderly (Token.plain s)
  head : s.head? ≠ some '-'

namespace Spelled

variable {s t : List Char}

theorem hyphen (h : Spelled s) : Orderly (Token.plain ('-' :: s)) := by
  refine h.orderly.hyphen fun t ht hread => ?_
  obtain ⟨c, hc, rfl⟩ : ∃ c, s.head? = some c ∧ .lexeme (.plain c) = t := by
    simpa [Token.plain] using ht
  obtain rfl : c = '-' := Lexeme.plain.inj hread
  exact h.head hc

theorem ofUnreserved (h : Unreserved s) : Spelled s where
  orderly := .ofUnreserved h
  head hs := by
    have hc := h '-' (List.mem_of_mem_head? hs)
    exact hc (by decide)

/-- An unreserved character joins two texts. -/
theorem join (hs : Unreserved s) {c : Char} (hc : c ∉ reserved) (ht : Orderly (Token.plain t)) :
    Spelled (s ++ c :: t) where
  orderly := by
    have h := (Orderly.ofUnreserved hs).append_cons hc ht
    simpa [Token.plain] using h
  head := by
    cases s with
    | nil =>
      intro h
      obtain rfl : c = '-' := Option.some.inj h
      exact hc (by decide)
    | cons c' s =>
      intro h
      obtain rfl : c' = '-' := Option.some.inj h
      exact hs '-' List.mem_cons_self (by decide)

end Spelled

namespace Numeral

theorem orderly_intText (n : Int) : Orderly (Token.plain (intText n)) := by
  unfold intText
  split
  · exact (Spelled.ofUnreserved (unreserved_natText _)).hyphen
  · exact .ofUnreserved (unreserved_natText _)

theorem spelled_scientific {digits : List Char} (h : Unreserved digits) (x : Int) :
    Spelled (scientific digits x) := by
  have he : 'e' ∉ reserved := by decide
  have hpoint : '.' ∉ reserved := by decide
  unfold scientific
  refine .join ?_ he (orderly_intText x)
  split
  · next d e es =>
    have hd : d ∉ reserved := h d List.mem_cons_self
    exact .cons hd (.cons hpoint fun c hc => h c (List.mem_cons_of_mem d hc))
  · exact h

theorem spelled_write (l : DecimalLayout) (d : Nat) (k : Int) : Spelled (l.write d k) := by
  unfold DecimalLayout.write
  simp only
  split
  · exact .ofUnreserved (unreserved_positional (unreserved_natText d) _)
  · exact spelled_scientific (unreserved_natText d) _

/-- A number has at most two hyphens, its sign and that of its exponent, and they never touch. -/
theorem orderly_text (x : Double) : Orderly (Token.plain x.text) := by
  have hunsigned : Spelled (if x.magnitude = 0 then literalLayout.write 0 0
      else literalLayout.write (shortestDecimal x.significand x.power).1
        (shortestDecimal x.significand x.power).2) := by
    split <;> exact spelled_write _ _ _
  unfold Double.text
  simp only
  split
  · exact hunsigned.hyphen
  · exact hunsigned.orderly

end Numeral

/-! ## Values -/

namespace DialectName

/-- The tokens of bytes: hexadecimal digits, quoted in all dialects but one. -/
def bytesTokens (d : DialectName) (bs : List UInt8) : List Token :=
  match d with
  | postgres => [.text ('\\' :: 'x' :: hexText bs)]
  | sqlServer => Token.plain ('0' :: 'x' :: hexText bs)
  | oracle => Token.plain "HEXTORAW(".toList ++ .text (hexText bs) :: Token.plain [')']
  | ansi | mySql => Token.plain ['X'] ++ [.text (hexText bs)]

/-- The tokens of a value; one that has no text in line gets a slot without a name. -/
def valueTokens (d : DialectName) : Value → List Token
  | .null => Token.plain "NULL".toList
  | .bool b => Token.plain (d.boolLiteral b).toList
  | .int n => Token.plain (Numeral.int64Text n)
  | .float x => if x.isFinite then Token.plain x.text else [.slot ⟨none, some (.float x)⟩]
  | .text s => [.text s.toList]
  | .bytes bs => d.bytesTokens bs

variable (d : DialectName)

/-- What holds of every digit holds of all that is written for bytes. -/
theorem forall_mem_hexText {P : Char → Prop} (h : ∀ n < 16, P (hexDigit n)) (bs : List UInt8) :
    ∀ c ∈ hexText bs, P c := by
  intro c hc
  obtain ⟨b, -, hc⟩ := List.mem_flatMap.1 hc
  have hlt := b.toNat_lt
  rcases List.mem_pair.1 hc with rfl | rfl
  · exact h _ (by omega)
  · exact h _ (by omega)

theorem unreserved_hexText (bs : List UInt8) : Unreserved (hexText bs) :=
  forall_mem_hexText (by decide) bs

/-- Hexadecimal digits are quoted as they are. -/
theorem encodeBody_hexText (bs : List UInt8) :
    d.textQuoting.encodeBody (hexText bs) = hexText bs := by
  have hplain : ∀ c ∈ hexText bs, d.textQuoting.encodeChar c = [c] := by
    intro c hc
    have hq : c ≠ '\'' := forall_mem_hexText (P := (· ≠ '\'')) (by decide) bs c hc
    have hb : c ≠ '\\' := forall_mem_hexText (P := (· ≠ '\\')) (by decide) bs c hc
    exact if_neg fun hm => ((d.fits_textQuoting.doubled c).1 hm).elim hq fun he => hb he.2
  rw [Text.Quoting.encodeBody, List.flatMap_congr hplain, List.flatMap_singleton']

theorem write_bytesTokens (bs : List UInt8) :
    Token.write d (d.bytesTokens bs) = .ofText (d.bytesLiteral bs) := by
  have hencode : d.textQuoting.encode (hexText bs) = '\'' :: (hexText bs ++ ['\'']) := by
    rw [d.fits_textQuoting.encode_eq, d.encodeBody_hexText]
    rfl
  cases d with
  | postgres =>
    have hescaped : postgres.textQuoting.encode ('\\' :: 'x' :: hexText bs) =
        '\'' :: '\\' :: 'x' :: (hexText bs ++ ['\'']) := by
      have hcons : postgres.textQuoting.encodeBody ('\\' :: 'x' :: hexText bs) =
          '\\' :: 'x' :: postgres.textQuoting.encodeBody (hexText bs) := rfl
      rw [postgres.fits_textQuoting.encode_eq, hcons, encodeBody_hexText]
      rfl
    rw [bytesTokens, Token.write_text, hescaped]
    exact Fragment.ofText_congr (by simp [bytesLiteral])
  | sqlServer =>
    rw [bytesTokens, Token.write_plain]
    exact Fragment.ofText_congr (by simp [bytesLiteral])
  | oracle =>
    rw [bytesTokens, ← List.singleton_append, Token.write_append, Token.write_append,
      Token.write_plain, Token.write_text, Token.write_plain, hencode, Fragment.ofText_append,
      Fragment.ofText_append]
    exact Fragment.ofText_congr (by simp [bytesLiteral])
  | ansi | mySql =>
    rw [bytesTokens, Token.write_append, Token.write_plain, Token.write_text, hencode,
      Fragment.ofText_append]
    exact Fragment.ofText_congr (by simp [bytesLiteral])

theorem write_valueTokens (v : Value) :
    Token.write d (d.valueTokens v) =
      match d.literal? v with
      | some s => .ofText s
      | none => .ofSlot ⟨none, some v⟩ := by
  cases v with
  | null => exact Token.write_plain d _
  | bool b =>
    rw [valueTokens, Token.write_plain, String.ofList_toList]
    rfl
  | int n => exact Token.write_plain d _
  | float x =>
    simp only [valueTokens, literal?]
    by_cases hx : x.isFinite = true
    · rw [if_pos hx, if_pos hx]
      exact Token.write_plain d _
    · rw [if_neg hx, if_neg hx]
      rfl
  | text s => exact Token.write_text d _
  | bytes bs => exact d.write_bytesTokens bs

theorem orderly_bytesTokens (bs : List UInt8) : Orderly (d.bytesTokens bs) := by
  have hx : Unreserved ['X'] := by decide
  have hbefore : Unreserved "HEXTORAW(".toList := by decide
  cases d with
  | postgres => exact .text _
  | sqlServer => exact .ofUnreserved (.cons (by decide) (.cons (by decide) (unreserved_hexText bs)))
  | oracle => exact .plain_append hbefore ((Orderly.text _).append_plain (s := [')']) (by decide))
  | ansi | mySql => exact .plain_append hx (.text _)

theorem orderly_valueTokens (v : Value) : Orderly (d.valueTokens v) := by
  cases v with
  | null => exact .ofUnreserved (by decide)
  | bool b =>
    refine .ofUnreserved ?_
    cases d <;> cases b <;> decide
  | int n => exact Numeral.orderly_intText n.toInt
  | float x =>
    simp only [valueTokens]
    split
    · exact Numeral.orderly_text x
    · exact .slot _
  | text s => exact .text _
  | bytes bs => exact d.orderly_bytesTokens bs

end DialectName

end TypedSql
