import TypedSql.Expr.Render

/-!
# Quoted text reads back

A reader of quoted text (`Delimiters.read`) takes off the opening character, undoubles the closing
one, and stops at a closing character that stands alone.  With an escape, a backslash makes it take
the next character as it is.  Every quoting of a dialect reads back under the delimiters of that
dialect, whatever the text and whatever comes behind it (`read_encode`).
-/

namespace TypedSql.Text

/-! ## Reading -/

/-- The characters around a quoted text, and whether a backslash inside it escapes. -/
structure Delimiters where
  opening : Char
  closing : Char
  escapes : Bool
  deriving DecidableEq

namespace Delimiters

/-- Read up to the closing character: the text, and what comes behind. -/
def readBody (q : Delimiters) : List Char → Option (List Char × List Char)
  | [] => none
  | c :: s =>
    if c = q.closing then
      match s with
      | c' :: s' =>
        if c' = q.closing then (q.readBody s').map fun r => (c :: r.1, r.2) else some ([], c' :: s')
      | [] => some ([], [])
    else if q.escapes ∧ c = '\\' then
      match s with
      | c' :: s' => (q.readBody s').map fun r => (c' :: r.1, r.2)
      | [] => none
    else (q.readBody s).map fun r => (c :: r.1, r.2)

/-- Read a quoted text from its opening character on. -/
def read (q : Delimiters) : List Char → Option (List Char × List Char)
  | [] => none
  | c :: s => if c = q.opening then q.readBody s else none

variable {q : Delimiters} {s t : List Char} {c : Char}

theorem readBody_closing (ht : t.head? ≠ some q.closing) :
    q.readBody (q.closing :: t) = some ([], t) := by
  unfold readBody
  rw [if_pos rfl]
  cases t with
  | nil => rfl
  | cons c t => exact if_neg fun h => ht (by rw [h]; rfl)

theorem readBody_doubled (s : List Char) :
    q.readBody (q.closing :: q.closing :: s) =
      (q.readBody s).map fun r => (q.closing :: r.1, r.2) := by
  rw [readBody, if_pos rfl]
  exact if_pos rfl

theorem readBody_escaped (hq : q.escapes = true) (hc : q.closing ≠ '\\') (c : Char)
    (s : List Char) :
    q.readBody ('\\' :: c :: s) = (q.readBody s).map fun r => (c :: r.1, r.2) := by
  rw [readBody, if_neg hc.symm, if_pos ⟨hq, rfl⟩]

theorem readBody_plain (hc : c ≠ q.closing) (he : ¬ (q.escapes = true ∧ c = '\\'))
    (s : List Char) : q.readBody (c :: s) = (q.readBody s).map fun r => (c :: r.1, r.2) := by
  rw [readBody.eq_def]
  simp only [if_neg hc, if_neg he]

/-- What is left is a part of what was read, and shorter. -/
theorem length_lt_of_readBody {r : List Char × List Char} (h : q.readBody s = some r) :
    r.2.length < s.length := by
  fun_induction readBody q s generalizing r with
  | case1 => cases h
  | case2 s' ih =>
    obtain ⟨x, hx, rfl⟩ := Option.map_eq_some_iff.1 h
    have hlt := ih hx
    simp only [List.length_cons]
    omega
  | case3 c' s' hc =>
    cases h
    simp
  | case4 =>
    cases h
    simp
  | case5 c hc he c' s' ih =>
    obtain ⟨x, hx, rfl⟩ := Option.map_eq_some_iff.1 h
    have hlt := ih hx
    simp only [List.length_cons]
    omega
  | case6 => cases h
  | case7 c s hc he ih =>
    obtain ⟨x, hx, rfl⟩ := Option.map_eq_some_iff.1 h
    have hlt := ih hx
    simp only [List.length_cons]
    omega

end Delimiters

/-! ## Writing -/

/-- The quoting doubles the closing character, the escape if there is one, and nothing else. -/
structure Quoting.Fits (k : Quoting) (q : Delimiters) : Prop where
  opening : k.opening = q.opening
  closing : k.closing = q.closing
  doubled : ∀ c, c ∈ k.doubled ↔ c = q.closing ∨ q.escapes = true ∧ c = '\\'
  closing_ne : q.closing ≠ '\\'

namespace Quoting.Fits

variable {k : Quoting} {q : Delimiters}

theorem readBody_encodeChar (h : k.Fits q) (c : Char) (s : List Char) :
    q.readBody (k.encodeChar c ++ s) = (q.readBody s).map fun r => (c :: r.1, r.2) := by
  unfold encodeChar
  by_cases hc : c = q.closing
  · rw [if_pos ((h.doubled c).2 (.inl hc)), hc]
    exact Delimiters.readBody_doubled s
  · by_cases he : q.escapes = true ∧ c = '\\'
    · rw [if_pos ((h.doubled c).2 (.inr he)), he.2]
      exact Delimiters.readBody_escaped he.1 h.closing_ne _ s
    · rw [if_neg fun hm => ((h.doubled c).1 hm).elim hc he]
      exact Delimiters.readBody_plain hc he s

theorem readBody_encodeBody (h : k.Fits q) (s : List Char) {t : List Char}
    (ht : t.head? ≠ some q.closing) :
    q.readBody (k.encodeBody s ++ q.closing :: t) = some (s, t) := by
  induction s with
  | nil => exact Delimiters.readBody_closing ht
  | cons c s ih =>
    have hcons : k.encodeBody (c :: s) = k.encodeChar c ++ k.encodeBody s := rfl
    rw [hcons, List.append_assoc, h.readBody_encodeChar, ih]
    rfl

theorem encode_eq (h : k.Fits q) (s : List Char) :
    k.encode s = q.opening :: (k.encodeBody s ++ [q.closing]) := by
  rw [encode, h.opening, h.closing]

theorem encode_append (h : k.Fits q) (s t : List Char) :
    k.encode s ++ t = q.opening :: (k.encodeBody s ++ q.closing :: t) := by
  rw [h.encode_eq]
  simp

/-- A quoted text reads back, and what comes behind it is left alone. -/
theorem read_encode (h : k.Fits q) (s : List Char) {t : List Char}
    (ht : t.head? ≠ some q.closing) : q.read (k.encode s ++ t) = some (s, t) := by
  rw [h.encode_append, Delimiters.read, if_pos rfl]
  exact h.readBody_encodeBody s ht

end Quoting.Fits

end TypedSql.Text

namespace TypedSql

open Text (Delimiters)

/-! ## Dialects -/

namespace DialectName

/-- How a dialect reads a text: a quote inside is written twice, and one family of datastores takes
a backslash for an escape. -/
def textDelimiters (d : DialectName) : Delimiters := ⟨'\'', '\'', d = mySql⟩

/-- How a dialect reads an identifier. -/
def nameDelimiters : DialectName → Delimiters
  | mySql => ⟨'\x60', '\x60', false⟩
  | sqlServer => ⟨'[', ']', false⟩
  | ansi | oracle | postgres => ⟨'"', '"', false⟩

theorem fits_textQuoting (d : DialectName) : d.textQuoting.Fits d.textDelimiters where
  opening := by cases d <;> rfl
  closing := by cases d <;> rfl
  doubled c := by cases d <;> simp [textQuoting, textDelimiters, singleQuote, backslash]
  closing_ne := by cases d <;> decide

theorem fits_identifierQuoting (d : DialectName) :
    d.identifierQuoting.Fits d.nameDelimiters where
  opening := by cases d <;> rfl
  closing := by cases d <;> rfl
  doubled c := by cases d <;> simp [identifierQuoting, nameDelimiters, doubleQuote, backtick]
  closing_ne := by cases d <;> decide

theorem toList_quoteText (d : DialectName) (s : String) :
    (d.quoteText s).toList = d.textQuoting.encode s.toList := by
  rw [quoteText, String.toList_ofList]

theorem toList_quoteIdentifier (d : DialectName) (s : String) :
    (d.quoteIdentifier s).toList = d.identifierQuoting.encode s.toList := by
  rw [quoteIdentifier, String.toList_ofList]

theorem read_quoteText (d : DialectName) (s : String) {t : List Char}
    (ht : t.head? ≠ some '\'') :
    d.textDelimiters.read ((d.quoteText s).toList ++ t) = some (s.toList, t) := by
  rw [toList_quoteText]
  exact d.fits_textQuoting.read_encode s.toList ht

theorem read_quoteIdentifier (d : DialectName) (s : String) {t : List Char}
    (ht : t.head? ≠ some d.nameDelimiters.closing) :
    d.nameDelimiters.read ((d.quoteIdentifier s).toList ++ t) = some (s.toList, t) := by
  rw [toList_quoteIdentifier]
  exact d.fits_identifierQuoting.read_encode s.toList ht

theorem quoteIdentifier_injective (d : DialectName) : d.quoteIdentifier.Injective := by
  intro s t h
  have hs := d.read_quoteIdentifier s (t := []) (by simp)
  rw [h, d.read_quoteIdentifier t (by simp)] at hs
  exact (String.toList_inj.1 (Prod.mk.inj (Option.some.inj hs)).1).symm

end DialectName

/-! ## Column references -/

namespace Expr

theorem sql_render_column (d : DialectName) (c : ColumnName) (m : Mapping) :
    ((column c m).render d).sql = columnText d c := by
  change "" ++ columnText d c = columnText d c
  rw [String.empty_append]

/-- What stands behind the first identifier of a reference: the other one behind a point, if there
are two. -/
def afterFirst (d : DialectName) (c : ColumnName) : List Char :=
  match c.qualifier with
  | some _ => '.' :: (d.quoteIdentifier c.column).toList
  | none => []

theorem read_columnText (d : DialectName) {c : ColumnName} (hw : c.wrapper = none) :
    d.nameDelimiters.read (columnText d c).toList =
      some ((c.qualifier.getD c.column).toList, afterFirst d c) := by
  obtain ⟨q, n, w⟩ := c
  subst hw
  cases q with
  | none =>
    have h := d.read_quoteIdentifier n (t := []) (by simp)
    rwa [List.append_nil] at h
  | some q =>
    have h := d.read_quoteIdentifier q (t := '.' :: (d.quoteIdentifier n).toList)
      (by cases d <;> simp [DialectName.nameDelimiters])
    have htext : (columnText d ⟨some q, n, none⟩).toList =
        (d.quoteIdentifier q).toList ++ '.' :: (d.quoteIdentifier n).toList := by
      simp [columnText]
    rw [htext]
    exact h

theorem columnText_inj {d : DialectName} {q q' : Option String} {n n' : String}
    (h : columnText d ⟨q, n, none⟩ = columnText d ⟨q', n', none⟩) : q = q' ∧ n = n' := by
  have hread := read_columnText d (c := ⟨q, n, none⟩) rfl
  rw [h, read_columnText d (c := ⟨q', n', none⟩) rfl, Option.some.injEq, Prod.mk.injEq] at hread
  obtain ⟨hfirst, hafter⟩ := hread
  have hfirst := String.toList_inj.1 hfirst
  -- a point behind the first identifier is there in both references or in none
  cases q with
  | none =>
    cases q' with
    | none => exact ⟨rfl, hfirst.symm⟩
    | some q' => cases hafter
  | some q =>
    cases q' with
    | none => cases hafter
    | some q' =>
      have hquote : d.quoteIdentifier n' = d.quoteIdentifier n :=
        String.toList_inj.1 (List.cons.inj hafter).2
      obtain rfl : q' = q := hfirst
      exact ⟨rfl, (d.quoteIdentifier_injective hquote).symm⟩

end Expr

/-! ## Every quoting reads back -/

/-- A text literal and a quoted identifier read back to what was quoted, and two plain column
references are written alike only if they name the same column. -/
theorem DialectName.quoting_reads_back (d : DialectName) :
    (∀ (s : String) (t : List Char), t.head? ≠ some '\'' →
      ∃ sql, d.literal? (.text s) = some sql ∧
        d.textDelimiters.read (sql.toList ++ t) = some (s.toList, t)) ∧
    (∀ (i : String) (t : List Char), t.head? ≠ some d.nameDelimiters.closing →
      d.nameDelimiters.read ((d.quoteIdentifier i).toList ++ t) = some (i.toList, t)) ∧
    ∀ (q q' : Option String) (n n' : String) (m m' : Mapping),
      ((Expr.column ⟨q, n, none⟩ m).render d).sql = ((Expr.column ⟨q', n', none⟩ m').render d).sql ↔
        q = q' ∧ n = n' := by
  refine ⟨fun s t ht => ⟨_, rfl, d.read_quoteText s ht⟩, fun i t ht => d.read_quoteIdentifier i ht,
    fun q q' n n' m m' => ?_⟩
  rw [Expr.sql_render_column, Expr.sql_render_column]
  constructor
  · exact Expr.columnText_inj
  · rintro ⟨rfl, rfl⟩
    rfl

/-- A backslash and a quote at the end of a text, before a bare backslash; a bracket at the end of
an identifier, before a quote. -/
theorem DialectName.quoting_reads_back_at_ends :
    (∃ sql, mySql.literal? (.text "it\\'") = some sql ∧
      mySql.textDelimiters.read (sql.toList ++ ['\\', '\'']) =
        some ("it\\'".toList, ['\\', '\''])) ∧
    sqlServer.nameDelimiters.read ((sqlServer.quoteIdentifier "a]").toList ++ ['\'', ']']) =
      some ("a]".toList, ['\'', ']']) :=
  ⟨(quoting_reads_back mySql).1 _ _ (by decide), (quoting_reads_back sqlServer).2.1 _ _ (by decide)⟩

end TypedSql
