import Mathlib.Data.List.Basic
import TypedSql.Proofs.Quoting
import TypedSql.Proofs.TextDefaults

/-!
# Literals read back as defaults

A datastore reports a default as it was written, in layers of its own.  What a dialect writes for
no value, a truth value, an integer or a text is read back under any layers.  It is the value that
was written, but for truth values that are written as integers, and for backslashes that are written
twice (`DialectName.literals_read_back`).
-/

namespace TypedSql

/-! ## Integers -/

namespace Numeral

theorem isDigit_of_mem_natText {n : Nat} {c : Char} (hc : c ∈ natText n) : c.isDigit = true :=
  Nat.isDigit_of_mem_toDigits (by decide) (by decide) hc

theorem readNat?_natText (n : Nat) : readNat? (natText n) = some n := by
  have hne : natText n ≠ [] := Nat.toDigits_ne_nil
  have hdigits : (natText n).all Char.isDigit = true :=
    List.all_eq_true.2 fun c hc => isDigit_of_mem_natText hc
  have hvalue : Nat.ofDigitChars 10 (natText n) 0 = n := Nat.ofDigitChars_ten_toDigits
  rw [readNat?, hdigits, hvalue]
  simp [hne]

theorem splitSign_natText (n : Nat) : splitSign (natText n) = (false, natText n) := by
  unfold splitSign
  split
  next s hs =>
    have hdigit := isDigit_of_mem_natText (n := n) (hs ▸ List.mem_cons_self)
    cases hdigit
  next s hs =>
    have hdigit := isDigit_of_mem_natText (n := n) (hs ▸ List.mem_cons_self)
    cases hdigit
  next => rfl

theorem readInt?_intText (n : Int) : readInt? (intText n) = some n := by
  unfold intText
  split
  next hn =>
    show (readNat? (natText n.natAbs)).map (applySign true) = some n
    rw [readNat?_natText, Option.map_some, applySign, if_pos rfl,
      Int.ofNat_natAbs_of_nonpos (by omega), Int.neg_neg]
  next hn =>
    rw [readInt?, splitSign_natText]
    show (readNat? (natText n.natAbs)).map (applySign false) = some n
    rw [readNat?_natText, Option.map_some, applySign, if_neg Bool.false_ne_true,
      Int.natAbs_of_nonneg (by omega)]

theorem readInt64?_int64Text (n : Int64) : readInt64? (int64Text n) = some n := by
  rw [readInt64?, int64Text, readInt?_intText, Option.bind_some, toInt64?_eq_some_iff]

theorem mem_intText {n : Int} {c : Char} (hc : c ∈ intText n) : c = '-' ∨ c.isDigit = true := by
  unfold intText at hc
  split at hc
  · exact (List.mem_cons.1 hc).imp_right isDigit_of_mem_natText
  · exact .inr (isDigit_of_mem_natText hc)

theorem intText_ne_nil (n : Int) : intText n ≠ [] := by
  unfold intText
  split
  · exact List.cons_ne_nil _ _
  · exact Nat.toDigits_ne_nil

end Numeral

namespace Value

open Text Numeral

/-! ## Literals without layers -/

/-- Neither a blank nor a letter, and neither a quote nor an opening parenthesis. -/
structure Numeric (c : Char) : Prop where
  isBlank : isBlank c = false
  isAlpha : c.isAlpha = false
  ne_quote : c ≠ '\''
  ne_opening : c ≠ '('

theorem numeric_of_isDigit {c : Char} (hc : c.isDigit = true) : Numeric c := by
  -- the ten digits are settled one by one
  have hbounds : 48 ≤ c.toNat ∧ c.toNat ≤ 57 := by
    simpa [Char.isDigit, UInt32.le_iff_toNat_le] using hc
  have hall : ∀ n < 10, Text.isBlank (Char.ofNat (48 + n)) = false ∧
      (Char.ofNat (48 + n)).isAlpha = false ∧ Char.ofNat (48 + n) ≠ '\'' ∧
      Char.ofNat (48 + n) ≠ '(' := by decide
  have h := hall (c.toNat - 48) (by omega)
  rw [Nat.add_sub_of_le hbounds.1, Char.ofNat_toNat] at h
  exact ⟨h.1, h.2.1, h.2.2.1, h.2.2.2⟩

theorem numeric_of_mem_intText {n : Int} {c : Char} (hc : c ∈ intText n) : Numeric c := by
  rcases mem_intText hc with rfl | hdigit
  · constructor <;> decide
  · exact numeric_of_isDigit hdigit

theorem toLower_of_isAlpha_eq_false {c : Char} (hc : c.isAlpha = false) : c.toLower = c := by
  have hupper : c.isUpper = false := (Bool.or_eq_false_iff.1 hc).1
  unfold Char.toLower
  exact dif_neg (of_decide_eq_false hupper)

/-- A keyword starts with a letter. -/
theorem keyword?_eq_none {c : Char} {s : List Char} (hc : c.isAlpha = false) :
    keyword? (c :: s) = none := by
  have hne : ∀ (k : Char) (ks : List Char), k.isAlpha = true →
      String.ofList ((c :: s).map Char.toLower) ≠ String.ofList (k :: ks) := by
    intro k ks hk h
    have hhead := (List.cons.inj (String.ofList_injective h)).1
    rw [toLower_of_isAlpha_eq_false hc] at hhead
    rw [hhead, hk] at hc
    cases hc
  unfold keyword?
  split
  next h => exact absurd h (hne 'n' "ull".toList (by decide))
  next h => exact absurd h (hne 't' "rue".toList (by decide))
  next h => exact absurd h (hne 'f' "alse".toList (by decide))
  next => rfl

theorem quotedBody?_intText (n : Int) : quotedBody? (intText n) = none := by
  rw [Option.eq_none_iff_forall_ne_some]
  intro body h
  have hquote : '\'' ∈ intText n := by
    rw [quotedBody?_eq_some_iff.1 h]
    exact List.mem_cons_self
  exact (numeric_of_mem_intText hquote).ne_quote rfl

theorem keyword?_intText (n : Int) : keyword? (intText n) = none := by
  cases h : intText n with
  | nil => exact absurd h (intText_ne_nil n)
  | cons c s => exact keyword?_eq_none (numeric_of_mem_intText (h ▸ List.mem_cons_self)).isAlpha

theorem bareLiteral?_int64Text (n : Int64) : bareLiteral? (int64Text n) = some (.int n) := by
  rw [bareLiteral?, int64Text, quotedBody?_intText, keyword?_intText]
  show number? (int64Text n) = _
  rw [number?, readInt64?_int64Text]

/-! ## Literals in layers -/

variable {core : List Char} {raw : String}

theorem ofDefault?_of_layered (hcore : Inked core) (hne : ∀ t, core ≠ enclose t)
    (h : Layered core raw.toList) : ofDefault? raw = bareLiteral? core := by
  rw [ofDefault?_eq, unwrapDefault_of_layered hcore hne h]

theorem ofDefault?_of_forall (hcore : ∀ c ∈ core, Text.isBlank c = false ∧ c ≠ '(')
    (h : Layered core raw.toList) : ofDefault? raw = bareLiteral? core := by
  refine ofDefault?_of_layered (inked_of_forall fun c hc => (hcore c hc).1) (fun t ht => ?_) h
  exact (hcore '(' (ht ▸ List.mem_cons_self)).2 rfl

-- a Boolean test, so that closed texts are settled by evaluation
theorem ofDefault?_of_all (hcore : core.all (fun c => !Text.isBlank c && c != '(') = true)
    (h : Layered core raw.toList) : ofDefault? raw = bareLiteral? core := by
  refine ofDefault?_of_forall (fun c hc => ?_) h
  simpa using List.all_eq_true.1 hcore c hc

theorem ofDefault?_of_layered_int (n : Int64) (h : Layered (int64Text n) raw.toList) :
    ofDefault? raw = some (.int n) := by
  rw [ofDefault?_of_forall (fun c hc => ?_) h, bareLiteral?_int64Text]
  exact ⟨(numeric_of_mem_intText hc).isBlank, (numeric_of_mem_intText hc).ne_opening⟩

end Value

/-! ## Texts -/

open Text (Layered Quoting)

/-- The text with each backslash twice. -/
def doubleBackslashes (s : List Char) : List Char :=
  s.flatMap fun c => if c = '\\' then [c, c] else [c]

theorem length_doubleBackslashes (s : List Char) :
    (doubleBackslashes s).length = s.length + s.count '\\' := by
  induction s with
  | nil => rfl
  | cons c s ih =>
    rw [doubleBackslashes, List.flatMap_cons, List.length_append]
    change _ + (doubleBackslashes s).length = _
    rw [ih, List.count_cons, List.length_cons]
    by_cases hc : c = '\\'
    · simp [hc]
      omega
    · simp [hc]
      omega

theorem doubleBackslashes_eq_self_iff {s : List Char} : doubleBackslashes s = s ↔ '\\' ∉ s := by
  constructor
  · intro h
    -- every backslash makes the text longer by one
    have hlength := length_doubleBackslashes s
    rw [h] at hlength
    exact List.count_eq_zero.1 (by omega)
  · intro h
    have hplain : ∀ c ∈ s, (if c = '\\' then [c, c] else [c]) = [c] := fun c hc =>
      if_neg fun (hc' : c = '\\') => h (hc' ▸ hc)
    rw [doubleBackslashes, List.flatMap_congr hplain, List.flatMap_singleton']

/-- Between quotes, all that is read differently than it is written are pairs of quotes. -/
theorem Value.spells_encodeBody {k : Quoting} (hk : '\'' ∈ k.doubled) (s : List Char) :
    Value.Spells (k.encodeBody s)
      (s.flatMap fun c => if c = '\'' then [c] else k.encodeChar c) := by
  induction s with
  | nil => exact .nil
  | cons c s ih =>
    have hcons : k.encodeBody (c :: s) = k.encodeChar c ++ k.encodeBody s := rfl
    rw [hcons, List.flatMap_cons]
    by_cases hc : c = '\''
    · rw [if_pos hc, hc, Quoting.encodeChar, if_pos hk]
      exact .pair ih
    · rw [if_neg hc, Quoting.encodeChar]
      split
      · exact .other hc (.other hc ih)
      · exact .other hc ih

namespace DialectName

/-- The text that a quoted text is read back as. -/
def reread (d : DialectName) (s : List Char) : List Char :=
  if d = mySql then doubleBackslashes s else s

theorem encodeChar_of_ne_quote (d : DialectName) {c : Char} (hc : c ≠ '\'') :
    d.textQuoting.encodeChar c = if d = mySql ∧ c = '\\' then [c, c] else [c] := by
  have hdoubled : c ∈ d.textQuoting.doubled ↔ d = mySql ∧ c = '\\' := by
    rw [d.fits_textQuoting.doubled c, or_iff_right (show c ≠ d.textDelimiters.closing from hc)]
    exact and_congr_left' decide_eq_true_iff
  unfold Quoting.encodeChar
  simp only [hdoubled]

theorem spells_encodeBody (d : DialectName) (s : List Char) :
    Value.Spells (d.textQuoting.encodeBody s) (d.reread s) := by
  have hquote : '\'' ∈ d.textQuoting.doubled := (d.fits_textQuoting.doubled '\'').2 (.inl rfl)
  have hspells := Value.spells_encodeBody hquote s
  -- beside quotes, only backslashes are ever written twice, and only by one family
  have hreread : (s.flatMap fun c => if c = '\'' then [c] else d.textQuoting.encodeChar c) =
      d.reread s := by
    unfold reread
    split
    next hd =>
      refine List.flatMap_congr fun c _ => ?_
      by_cases hc : c = '\''
      · simp [hc]
      · rw [if_neg hc, d.encodeChar_of_ne_quote hc]
        simp [hd]
    next hd =>
      have hplain : ∀ c ∈ s, (if c = '\'' then [c] else d.textQuoting.encodeChar c) = [c] := by
        intro c _
        split
        next => rfl
        next hc => rw [d.encodeChar_of_ne_quote hc, if_neg fun h => hd h.1]
      rw [List.flatMap_congr hplain, List.flatMap_singleton']
  rwa [hreread] at hspells

theorem toList_quoteText_eq_quoted (d : DialectName) (s : String) :
    (d.quoteText s).toList = Value.quoted (d.textQuoting.encodeBody s.toList) := by
  rw [toList_quoteText, d.fits_textQuoting.encode_eq]
  rfl

end DialectName

/-! ## Every literal reads back -/

namespace Value

/-- No value, a truth value, an integer or a text. -/
def IsPlain : Value → Prop
  | null | bool _ | int _ | text _ => True
  | float _ | bytes _ => False

/-- What a literal of the value is read back as.  Two families of datastores write truth values as
integers, and one writes each backslash twice. -/
def readBack (d : DialectName) : Value → Value
  | bool b =>
    if d = .oracle ∨ d = .sqlServer then .int (if b then 1 else 0) else .bool b
  | text s => .text (String.ofList (d.reread s.toList))
  | v => v

variable {raw : String}

theorem ofDefault?_of_layered_bool (d : DialectName) (b : Bool)
    (h : Layered (d.boolLiteral b).toList raw.toList) :
    ofDefault? raw = some ((bool b).readBack d) := by
  have hcore : (d.boolLiteral b).toList.all (fun c => !Text.isBlank c && c != '(') = true := by
    cases d <;> cases b <;> decide
  have hvalue : bareLiteral? (d.boolLiteral b).toList = some ((bool b).readBack d) := by
    cases d <;> cases b <;> decide
  rw [ofDefault?_of_all hcore h, hvalue]

theorem ofDefault?_of_layered_text (d : DialectName) (s : String)
    (h : Layered (d.quoteText s).toList raw.toList) :
    ofDefault? raw = some ((text s).readBack d) := by
  rw [d.toList_quoteText_eq_quoted] at h
  refine ofDefault?_eq_text_iff.2 ⟨_, h, ?_⟩
  rw [(d.spells_encodeBody s.toList).undouble_eq, String.toList_ofList]

theorem ofDefault?_of_layered_literal {d : DialectName} {v : Value} (hv : v.IsPlain) {sql : String}
    (hsql : d.literal? v = some sql) (h : Layered sql.toList raw.toList) :
    ofDefault? raw = some (v.readBack d) := by
  cases v with
  | null =>
    obtain rfl := Option.some.inj hsql
    rw [ofDefault?_of_all (by decide) h]
    rfl
  | bool b =>
    obtain rfl := Option.some.inj hsql
    exact ofDefault?_of_layered_bool d b h
  | int n =>
    obtain rfl := Option.some.inj hsql
    rw [String.toList_ofList] at h
    exact ofDefault?_of_layered_int n h
  | text s =>
    obtain rfl := Option.some.inj hsql
    exact ofDefault?_of_layered_text d s h
  | float x => exact hv.elim
  | bytes bs => exact hv.elim

theorem readBack_bool_eq_self_iff {d : DialectName} {b : Bool} :
    (bool b).readBack d = bool b ↔ ¬ (d = .oracle ∨ d = .sqlServer) := by
  rw [readBack]
  split
  next h => simp [h]
  next h => simp [h]

theorem readBack_text_eq_self_iff {d : DialectName} {s : String} :
    (text s).readBack d = text s ↔ ¬ (d = .mySql ∧ '\\' ∈ s.toList) := by
  rw [readBack, Value.text.injEq, ← String.toList_inj, String.toList_ofList, DialectName.reread]
  split
  next h => simp [h, doubleBackslashes_eq_self_iff]
  next h => simp [h]

end Value

/-- What a dialect writes for no value, a truth value, an integer or a text is read back under any
layers of parentheses and blanks.  It is the value that was written, except for truth values that
are written as integers, and for texts with backslashes where these are written twice. -/
theorem DialectName.literals_read_back (d : DialectName) :
    (∀ v : Value, v.IsPlain → ∃ sql, d.literal? v = some sql ∧
      ∀ raw : String, Layered sql.toList raw.toList → Value.ofDefault? raw = some (v.readBack d)) ∧
    (∀ b, (Value.bool b).readBack d = .bool b ↔ ¬ (d = .oracle ∨ d = .sqlServer)) ∧
    ∀ s, (Value.text s).readBack d = .text s ↔ ¬ (d = .mySql ∧ '\\' ∈ s.toList) := by
  refine ⟨fun v hv => ?_, fun _ => Value.readBack_bool_eq_self_iff,
    fun _ => Value.readBack_text_eq_self_iff⟩
  obtain ⟨sql, hsql⟩ : ∃ sql, d.literal? v = some sql := by
    cases v with
    | float x => exact hv.elim
    | bytes bs => exact hv.elim
    | null => exact ⟨_, rfl⟩
    | bool b => exact ⟨_, rfl⟩
    | int n => exact ⟨_, rfl⟩
    | text s => exact ⟨_, rfl⟩
  exact ⟨sql, hsql, fun raw h => Value.ofDefault?_of_layered_literal hv hsql h⟩

/-- The least integer in two layers, and a text with a quote and a backslash behind a blank that is
not ASCII. -/
theorem DialectName.literals_read_back_in_layers :
    oracle.literal? (.int (-0x8000000000000000)) = some "-9223372036854775808" ∧
      Value.ofDefault? "( (-9223372036854775808)) " = some (.int (-0x8000000000000000)) ∧
      mySql.literal? (.text "it\\'s") = some "'it\\\\''s'" ∧
      Value.ofDefault? "(\u2003'it\\\\''s')" = some (.text "it\\\\'s") := by
  have hspace : Text.Blank [' '] := by simp [Text.Blank, Text.isBlank]
  have hwide : Text.Blank ['\u2003'] := by simp [Text.Blank, Text.isBlank]
  have hinteger : oracle.literal? (.int (-0x8000000000000000)) = some "-9223372036854775808" := by
    decide
  have hquoted : mySql.literal? (.text "it\\'s") = some "'it\\\\''s'" := by decide
  have hlayers : Layered "-9223372036854775808".toList "( (-9223372036854775808)) ".toList :=
    .enclosed (s := " (-9223372036854775808)".toList) Text.blank_nil hspace
      (.enclosed (s := "-9223372036854775808".toList) hspace Text.blank_nil
        (.core Text.blank_nil Text.blank_nil))
  have hlayer : Layered "'it\\\\''s'".toList "(\u2003'it\\\\''s')".toList :=
    .enclosed (s := "\u2003'it\\\\''s'".toList) Text.blank_nil Text.blank_nil
      (.core hwide Text.blank_nil)
  obtain ⟨i, hi, hread⟩ := (literals_read_back oracle).1 (.int (-0x8000000000000000)) trivial
  obtain rfl := Option.some.inj (hi.symm.trans hinteger)
  obtain ⟨t, ht, hreread⟩ := (literals_read_back mySql).1 (.text "it\\'s") trivial
  obtain rfl := Option.some.inj (ht.symm.trans hquoted)
  exact ⟨hinteger, hread _ hlayers, hquoted, hreread _ hlayer⟩

end TypedSql
