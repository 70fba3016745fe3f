import TypedSql.Proofs.DefaultRoundTrip
import TypedSql.Proofs.LiteralTokens

/-!
# Values written alike

What a dialect writes for a value is read back (`DialectName.readLiteral?`): words, text between
quotes, integers, and bytes by their hexadecimal digits.  Two things are lost.  Where there are no
words for truth values, these are written as integers; and one dialect writes bytes as the text of
their digits.  So two values are written alike exactly if they are equal or one of them is written
as the other (`DialectName.written_alike_iff`).
-/

namespace TypedSql

/-- An integer has digits and at most a sign. -/
theorem Numeral.mem_of_readInt? {s : List Char} {n : Int} {c : Char} (h : readInt? s = some n)
    (hc : c ∈ s) : c.isDigit = true ∨ c ∈ ['-', '+'] := by
  have hdigits : ∀ {t : List Char} {m : Nat}, readNat? t = some m → ∀ c ∈ t, c.isDigit = true := by
    intro t m ht c hc
    unfold readNat? at ht
    split at ht
    next hall => exact List.all_eq_true.1 (Bool.and_eq_true_iff.1 hall).2 c hc
    next => cases ht
  have hsign : ∀ {c' : Char} {t : List Char} {m : Nat}, c' ∈ ['-', '+'] → readNat? t = some m →
      c ∈ c' :: t → c.isDigit = true ∨ c ∈ ['-', '+'] := by
    intro c' t m hc' ht hc
    rcases List.mem_cons.1 hc with rfl | hc
    · exact .inr hc'
    · exact .inl (hdigits ht c hc)
  obtain ⟨m, hm, -⟩ := Option.map_eq_some_iff.1 h
  split at hm
  · exact hsign (by decide) hm hc
  · exact hsign (by decide) hm hc
  · exact .inl (hdigits hm c hc)

namespace DialectName

open Numeral (int64Text readInt64?)

variable {d : DialectName}

/-! ## Hexadecimal digits -/

/-- The digits in the order of their values. -/
def hexDigits : List Char := "0123456789ABCDEF".toList

/-- The bytes that upper-case hexadecimal digits stand for, two for each byte. -/
def hexBytes? : List Char → Option (List UInt8)
  | [] => some []
  | [_] => none
  | c :: c' :: s => do
    let high ← hexDigits.idxOf? c
    let low ← hexDigits.idxOf? c'
    return UInt8.ofNat (16 * high + low) :: (← hexBytes? s)

theorem idxOf?_hexDigits_eq_some_iff {c : Char} {n : Nat} :
    hexDigits.idxOf? c = some n ↔ n < 16 ∧ c = hexDigit n := by
  have hdigit : ∀ n < 16, hexDigits.idxOf? (hexDigit n) = some n ∧
      hexDigits[n]? = some (hexDigit n) := by decide
  constructor
  · intro h
    obtain ⟨hn, hc, -⟩ := List.idxOf?_eq_some_iff.1 h
    refine ⟨hn, ?_⟩
    have hat := (hdigit n hn).2
    rwa [List.getElem?_eq_getElem hn, Option.some.injEq, hc] at hat
  · rintro ⟨hn, rfl⟩
    exact (hdigit n hn).1

theorem hexText_cons (b : UInt8) (bs : List UInt8) :
    hexText (b :: bs) = hexDigit (b.toNat / 16) :: hexDigit (b.toNat % 16) :: hexText bs := rfl

theorem hexBytes?_hexText (bs : List UInt8) : hexBytes? (hexText bs) = some bs := by
  induction bs with
  | nil => rfl
  | cons b bs ih =>
    have hb := b.toNat_lt
    have hhigh := idxOf?_hexDigits_eq_some_iff.2 ⟨show b.toNat / 16 < 16 by omega, rfl⟩
    have hlow := idxOf?_hexDigits_eq_some_iff.2 ⟨show b.toNat % 16 < 16 by omega, rfl⟩
    have hbyte : UInt8.ofNat (16 * (b.toNat / 16) + b.toNat % 16) = b := by
      rw [Nat.div_add_mod, UInt8.ofNat_toNat]
    simp only [hexText_cons, hexBytes?, hhigh, hlow, ih, hbyte, Option.bind_eq_bind,
      Option.bind_some, Option.pure_def]

theorem hexBytes?_eq_some_iff {s : List Char} {bs : List UInt8} :
    hexBytes? s = some bs ↔ s = hexText bs := by
  refine ⟨fun h => ?_, fun h => h ▸ hexBytes?_hexText bs⟩
  fun_induction hexBytes? s generalizing bs with
  | case1 =>
    cases h
    rfl
  | case2 => cases h
  | case3 c c' s ih =>
    obtain ⟨high, hhigh, h⟩ := Option.bind_eq_some_iff.1 h
    obtain ⟨low, hlow, h⟩ := Option.bind_eq_some_iff.1 h
    obtain ⟨bs', hbs', h⟩ := Option.bind_eq_some_iff.1 h
    obtain rfl := Option.some.inj h
    obtain ⟨hh, rfl⟩ := idxOf?_hexDigits_eq_some_iff.1 hhigh
    obtain ⟨hl, rfl⟩ := idxOf?_hexDigits_eq_some_iff.1 hlow
    have hbyte : (UInt8.ofNat (16 * high + low)).toNat = 16 * high + low := by
      rw [UInt8.toNat_ofNat', Nat.mod_eq_of_lt (by omega)]
    rw [hexText_cons, hbyte, ih hbs', Nat.mul_add_div (by omega), Nat.mul_add_mod,
      Nat.mod_eq_of_lt hl, Nat.div_eq_of_lt hl, Nat.add_zero]

/-! ## Bytes -/

/-- What stands before the digits of bytes. -/
def bytesOpening : DialectName → String
  | postgres => "'\\x"
  | sqlServer => "0x"
  | oracle => "HEXTORAW('"
  | ansi | mySql => "X'"

/-- What stands behind the digits of bytes. -/
def bytesClosing : DialectName → String
  | postgres | ansi | mySql => "'"
  | sqlServer => ""
  | oracle => "')"

theorem bytesLiteral_eq (d : DialectName) (bs : List UInt8) :
    d.bytesLiteral bs = d.bytesOpening ++ String.ofList (hexText bs) ++ d.bytesClosing := by
  cases d <;> simp only [bytesLiteral, bytesOpening, bytesClosing, String.append_empty]

theorem toList_bytesLiteral (d : DialectName) (bs : List UInt8) :
    (d.bytesLiteral bs).toList = d.bytesOpening.toList ++ (hexText bs ++ d.bytesClosing.toList) := by
  rw [bytesLiteral_eq, String.toList_append, String.toList_append, String.toList_ofList,
    List.append_assoc]

/-- The bytes whose digits stand behind the opening. -/
def readBytes? (d : DialectName) (s : List Char) : Option (List UInt8) :=
  hexBytes? ((s.drop d.bytesOpening.toList.length).takeWhile (· ∈ hexDigits))

theorem readBytes?_bytesLiteral (d : DialectName) (bs : List UInt8) :
    d.readBytes? (d.bytesLiteral bs).toList = some bs := by
  have hdigits : ∀ c ∈ hexText bs, decide (c ∈ hexDigits) = true :=
    forall_mem_hexText (by decide) bs
  have hclosing : d.bytesClosing.toList.takeWhile (· ∈ hexDigits) = [] := by cases d <;> decide
  rw [readBytes?, toList_bytesLiteral, List.drop_left, List.takeWhile_append_of_pos hdigits,
    hclosing, List.append_nil, hexBytes?_hexText]

/-- The text between the quotes of bytes that are written as a text. -/
def bytesText (bs : List UInt8) : String := String.ofList ('\\' :: 'x' :: hexText bs)

theorem bytesLiteral_postgres (bs : List UInt8) :
    postgres.bytesLiteral bs = postgres.quoteText (bytesText bs) := by
  have hbody : postgres.textQuoting.encodeBody ('\\' :: 'x' :: hexText bs) =
      '\\' :: 'x' :: postgres.textQuoting.encodeBody (hexText bs) := rfl
  rw [← String.toList_inj, toList_quoteText, bytesText, String.toList_ofList,
    postgres.fits_textQuoting.encode_eq, hbody, encodeBody_hexText, toList_bytesLiteral]
  rfl

/-! ## Reading literals -/

/-- The value of a word. -/
def readWord? (s : List Char) : Option Value :=
  if s = "NULL".toList then some .null
  else if s = "TRUE".toList then some (.bool true)
  else if s = "FALSE".toList then some (.bool false)
  else none

/-- The value that a literal is read back as. -/
def readLiteral? (d : DialectName) (s : List Char) : Option Value :=
  readWord? s <|>
    (d.textDelimiters.read s).map (fun r => .text (String.ofList r.1)) <|>
      (readInt64? s).map .int <|> (d.readBytes? s).map .bytes

/-- The value for which a literal stands.  Truth values without words of their own are integers,
and bytes may be a text. -/
def standIn (d : DialectName) : Value → Value
  | .bool b => if d.hasBooleanLiterals then .bool b else .int (if b then 1 else 0)
  | .bytes bs => if d = postgres then .text (bytesText bs) else .bytes bs
  | v => v

/-- What begins with no letter of a word and with no quote is a number or bytes. -/
theorem readLiteral?_of_head {c : Char} {s : List Char} (hc : c ∉ ['N', 'T', 'F', '\'']) :
    d.readLiteral? (c :: s) =
      ((readInt64? (c :: s)).map .int <|> (d.readBytes? (c :: s)).map .bytes) := by
  simp only [List.mem_cons, not_or] at hc
  have hword : readWord? (c :: s) = none := by simp [readWord?, hc]
  have htext : d.textDelimiters.read (c :: s) = none := if_neg hc.2.2.2.1
  rw [readLiteral?, hword, htext]
  rfl

theorem readLiteral?_quoteText (d : DialectName) (s : String) :
    d.readLiteral? (d.quoteText s).toList = some (.text s) := by
  have hread := d.read_quoteText s (t := []) (by simp)
  rw [List.append_nil] at hread
  have hword : readWord? (d.quoteText s).toList = none := by
    rw [toList_quoteText, d.fits_textQuoting.encode_eq]
    cases d <;> simp [readWord?, textDelimiters]
  rw [readLiteral?, hword, hread]
  simp

theorem readLiteral?_int64Text (d : DialectName) (n : Int64) :
    d.readLiteral? (int64Text n) = some (.int n) := by
  cases hs : int64Text n with
  | nil => exact absurd hs (Numeral.intText_ne_nil _)
  | cons c s =>
    have hmem : c ∈ int64Text n := hs ▸ List.mem_cons_self
    have hnumeric := Value.numeric_of_mem_intText hmem
    have hc : c ∉ ['N', 'T', 'F', '\''] := by
      simp only [List.mem_cons, List.not_mem_nil, or_false]
      rintro (rfl | rfl | rfl | rfl)
      · exact absurd hnumeric.isAlpha (by decide)
      · exact absurd hnumeric.isAlpha (by decide)
      · exact absurd hnumeric.isAlpha (by decide)
      · exact hnumeric.ne_quote rfl
    rw [readLiteral?_of_head hc, ← hs, Numeral.readInt64?_int64Text]
    rfl

theorem readLiteral?_bytesLiteral (hd : d ≠ postgres) (bs : List UInt8) :
    d.readLiteral? (d.bytesLiteral bs).toList = some (.bytes bs) := by
  have hopening : ∃ c s, d.bytesOpening.toList = c :: s ∧ c ∉ ['N', 'T', 'F', '\''] := by
    cases d with
    | postgres => exact absurd rfl hd
    | ansi | mySql | oracle | sqlServer => exact ⟨_, _, rfl, by decide⟩
  have hletter : ∃ c ∈ d.bytesOpening.toList, ¬ (c.isDigit = true ∨ c ∈ ['-', '+']) := by
    cases d with
    | postgres => exact absurd rfl hd
    | ansi | mySql => exact ⟨'X', by decide⟩
    | oracle => exact ⟨'H', by decide⟩
    | sqlServer => exact ⟨'x', by decide⟩
  have hint : readInt64? (d.bytesLiteral bs).toList = none := by
    obtain ⟨c, hc, hnot⟩ := hletter
    have hmem : c ∈ (d.bytesLiteral bs).toList := by
      rw [toList_bytesLiteral]
      exact List.mem_append_left _ hc
    rw [readInt64?, Option.bind_eq_none_iff]
    exact fun n hn => absurd (Numeral.mem_of_readInt? hn hmem) hnot
  obtain ⟨c, s, hs, hc⟩ := hopening
  have hcons : (d.bytesLiteral bs).toList = c :: (s ++ (hexText bs ++ d.bytesClosing.toList)) := by
    rw [toList_bytesLiteral, hs, List.cons_append]
  have hbytes := d.readBytes?_bytesLiteral bs
  rw [hcons] at hint hbytes ⊢
  rw [readLiteral?_of_head hc, hint, hbytes]
  rfl

/-- A literal is read back as what it stands for. -/
theorem readLiteral?_of_literal? {v : Value} (hv : ∀ x, v ≠ .float x) {l : String}
    (hl : d.literal? v = some l) : d.readLiteral? l.toList = some (d.standIn v) := by
  cases v with
  | null =>
    obtain rfl := Option.some.inj hl
    rfl
  | bool b =>
    obtain rfl := Option.some.inj hl
    cases d <;> cases b <;> decide
  | int n =>
    obtain rfl := Option.some.inj hl
    rw [String.toList_ofList]
    exact d.readLiteral?_int64Text n
  | float x => exact absurd rfl (hv x)
  | text s =>
    obtain rfl := Option.some.inj hl
    exact d.readLiteral?_quoteText s
  | bytes bs =>
    obtain rfl := Option.some.inj hl
    by_cases hd : d = postgres
    · subst hd
      rw [bytesLiteral_postgres, readLiteral?_quoteText]
      rfl
    · rw [readLiteral?_bytesLiteral hd, standIn, if_neg hd]

theorem literal?_standIn (d : DialectName) (v : Value) : d.literal? (d.standIn v) = d.literal? v := by
  cases v with
  | bool b => cases d <;> cases b <;> decide
  | bytes bs =>
    cases d with
    | postgres => exact congrArg some (bytesLiteral_postgres bs).symm
    | ansi | mySql | oracle | sqlServer => rfl
  | null | int | float | text => rfl

theorem exists_literal? (d : DialectName) {v : Value} (hv : ∀ x, v ≠ .float x) :
    ∃ l, d.literal? v = some l := by
  cases v with
  | float x => exact absurd rfl (hv x)
  | null | bool | int | text | bytes => exact ⟨_, rfl⟩

/-- Literals tell apart what they stand for, and nothing else. -/
theorem literal?_eq_literal?_iff {a b : Value} (ha : ∀ x, a ≠ .float x) (hb : ∀ x, b ≠ .float x) :
    d.literal? a = d.literal? b ↔ d.standIn a = d.standIn b := by
  constructor
  · intro h
    obtain ⟨l, hl⟩ := d.exists_literal? ha
    have hread := readLiteral?_of_literal? ha hl
    rw [readLiteral?_of_literal? hb (h ▸ hl), Option.some.injEq] at hread
    exact hread.symm
  · intro h
    rw [← d.literal?_standIn a, h, d.literal?_standIn b]

/-! ## Coincidences -/

/-- Different values of which the first is written as the second. -/
inductive Coincide (d : DialectName) : Value → Value → Prop
  | truth (hd : d = oracle ∨ d = sqlServer) : Coincide d (.bool true) (.int 1)
  | falsity (hd : d = oracle ∨ d = sqlServer) : Coincide d (.bool false) (.int 0)
  | bytes (hd : d = postgres) {bs : List UInt8} {s : List Char} (h : hexBytes? s = some bs) :
    Coincide d (.bytes bs) (.text (String.ofList ('\\' :: 'x' :: s)))

theorem coincide_iff {a b : Value} : d.Coincide a b ↔ a ≠ b ∧ d.standIn a = b := by
  constructor
  · rintro (hd | hd | ⟨rfl, h⟩)
    · rcases hd with rfl | rfl <;> decide
    · rcases hd with rfl | rfl <;> decide
    · obtain rfl := hexBytes?_eq_some_iff.1 h
      exact ⟨nofun, rfl⟩
  · rintro ⟨hne, rfl⟩
    cases a with
    | bool b =>
      cases d with
      | oracle | sqlServer =>
        cases b with
        | true => exact .truth (by simp)
        | false => exact .falsity (by simp)
      | ansi | mySql | postgres => exact absurd rfl hne
    | bytes bs =>
      cases d with
      | postgres => exact .bytes rfl (hexBytes?_hexText bs)
      | ansi | mySql | oracle | sqlServer => exact absurd rfl hne
    | null | int | float | text => exact absurd rfl hne

/-- No two values are written as one and the same other value. -/
theorem Coincide.unique {a b v : Value} (ha : d.Coincide a v) (hb : d.Coincide b v) : a = b := by
  generalize hw : v = w at hb
  cases ha with
  | truth =>
    cases hb with
    | truth => rfl
    | falsity => exact absurd hw (by decide)
    | bytes => cases hw
  | falsity =>
    cases hb with
    | truth => exact absurd hw (by decide)
    | falsity => rfl
    | bytes => cases hw
  | bytes _ h =>
    cases hb with
    | truth | falsity => cases hw
    | bytes _ h' =>
      obtain rfl := (List.cons.inj (List.cons.inj (String.ofList_injective (Value.text.inj hw))).2).2
      rw [h, Option.some.injEq] at h'
      rw [h']

theorem standIn_cases (d : DialectName) (v : Value) :
    d.standIn v = v ∨ d.Coincide v (d.standIn v) := by
  by_cases h : d.standIn v = v
  · exact .inl h
  · exact .inr (coincide_iff.2 ⟨Ne.symm h, rfl⟩)

/-- What stands for a value is written as itself. -/
theorem standIn_standIn (d : DialectName) (v : Value) : d.standIn (d.standIn v) = d.standIn v := by
  cases v with
  | bool b => cases d <;> rfl
  | bytes bs => cases d <;> rfl
  | null | int | float | text => rfl

theorem Coincide.standIn_eq {a b : Value} (h : d.Coincide a b) : d.standIn a = d.standIn b := by
  obtain ⟨-, rfl⟩ := coincide_iff.1 h
  rw [standIn_standIn]

theorem standIn_eq_standIn_iff {a b : Value} :
    d.standIn a = d.standIn b ↔ a = b ∨ d.Coincide a b ∨ d.Coincide b a := by
  constructor
  · intro h
    rcases d.standIn_cases a with ha | ha <;> rcases d.standIn_cases b with hb | hb
    · exact .inl (by rw [← ha, h, hb])
    · exact .inr (.inr (by rwa [← h, ha] at hb))
    · exact .inr (.inl (by rwa [h, hb] at ha))
    · exact .inl (ha.unique (h ▸ hb))
  · rintro (rfl | h | h)
    · rfl
    · exact h.standIn_eq
    · exact h.standIn_eq.symm

/-- Every value that is no double has a literal.  Two such values have the same one exactly if they
are equal, or if they are a truth value and the integer that is written for it, or bytes and the
text of their digits. -/
theorem written_alike_iff (d : DialectName) {a b : Value} (ha : ∀ x, a ≠ .float x)
    (hb : ∀ x, b ≠ .float x) :
    (∃ l, d.literal? a = some l) ∧ (∃ l, d.literal? b = some l) ∧
      (d.literal? a = d.literal? b ↔ a = b ∨ d.Coincide a b ∨ d.Coincide b a) :=
  ⟨d.exists_literal? ha, d.exists_literal? hb,
    (literal?_eq_literal?_iff ha hb).trans standIn_eq_standIn_iff⟩

/-- A text of digits is that of bytes in one dialect, and it is not in lower case. -/
theorem written_alike_iff_of_digits :
    postgres.literal? (.bytes [0xAF, 0]) = postgres.literal? (.text "\\xAF00") ∧
      postgres.literal? (.bytes [0xAF, 0]) ≠ postgres.literal? (.text "\\xaf00") ∧
      oracle.literal? (.bool true) = oracle.literal? (.int 1) ∧
      mySql.literal? (.bool true) ≠ mySql.literal? (.int 1) := by
  have htext : ∀ s : String, postgres.literal? (.bytes [0xAF, 0]) = postgres.literal? (.text s) ↔ _ :=
    fun s => (written_alike_iff postgres (a := .bytes [0xAF, 0]) (b := .text s) nofun nofun).2.2
  have htruth : ∀ d : DialectName, d.literal? (.bool true) = d.literal? (.int 1) ↔ _ :=
    fun d => (written_alike_iff d (a := .bool true) (b := .int 1) nofun nofun).2.2
  refine ⟨(htext _).2 (.inr (.inl ?_)), fun h => ?_,
    (htruth oracle).2 (.inr (.inl (.truth (.inl rfl)))), fun h => ?_⟩
  · exact .bytes rfl (s := "AF00".toList) (by decide)
  · rcases (htext _).1 h with h | h | h
    · cases h
    · exact absurd (coincide_iff.1 h).2 (by decide)
    · exact absurd (coincide_iff.1 h).2 (by decide)
  · rcases (htruth mySql).1 h with h | h | h
    · cases h
    · exact absurd (coincide_iff.1 h).2 (by decide)
    · exact absurd (coincide_iff.1 h).2 (by decide)

end DialectName

end TypedSql
