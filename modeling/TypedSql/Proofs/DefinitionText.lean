import TypedSql.Column.Definition

/-!
# Reading a definition

What stands behind the type of a column is empty or starts with a space.  So a parenthesis right
behind the type name belongs to its sizes, and the number in it can be read off the text
(`Column.definedWithLength_iff`).
-/

namespace TypedSql

/-! ## Numbers in a text -/

/-- The digits at the front of a text are those of the number that it begins with. -/
theorem takeWhile_isDigit_append (n : Nat) {s : String}
    (hs : ∀ c ∈ s.toList.head?, c.isDigit = false) :
    (toString n ++ s).toList.takeWhile Char.isDigit = Nat.toDigits 10 n := by
  have hdigit : ∀ c ∈ Nat.toDigits 10 n, c.isDigit = true := fun c hc =>
    Nat.isDigit_of_mem_toDigits (by decide) (by decide) hc
  have hlist : (toString n ++ s).toList = Nat.toDigits 10 n ++ s.toList := by
    simp [toString, Nat.repr]
  rw [hlist, List.takeWhile_append_of_pos hdigit]
  cases h : s.toList with
  | nil => simp
  | cons c cs =>
    rw [h] at hs
    rw [List.takeWhile_cons_of_neg (by simp [hs c rfl]), List.append_nil]

/-- A number is told from what stands behind it, unless this begins with a digit. -/
theorem toString_append_inj {m n : Nat} {s t : String}
    (hs : ∀ c ∈ s.toList.head?, c.isDigit = false) (ht : ∀ c ∈ t.toList.head?, c.isDigit = false)
    (h : toString m ++ s = toString n ++ t) : m = n ∧ s = t := by
  have hdigits : Nat.toDigits 10 m = Nat.toDigits 10 n := by
    rw [← takeWhile_isDigit_append m hs, h, takeWhile_isDigit_append n ht]
  have hmn : m = n := calc
    m = Nat.ofDigitChars 10 (Nat.toDigits 10 m) 0 := Nat.ofDigitChars_ten_toDigits.symm
    _ = Nat.ofDigitChars 10 (Nat.toDigits 10 n) 0 := by rw [hdigits]
    _ = n := Nat.ofDigitChars_ten_toDigits
  subst hmn
  exact ⟨rfl, (String.append_right_inj _).1 h⟩

namespace Column

/-! ## Behind the type -/

/-- A text that is empty or starts with a space. -/
def Spaced (s : String) : Prop := ∀ c ∈ s.toList.head?, c = ' '

theorem spaced_empty : Spaced "" := by
  simp [Spaced]

theorem spaced_space (s : String) : Spaced (" " ++ s) := by
  simp [Spaced]

theorem Spaced.append {s t : String} (hs : Spaced s) (ht : Spaced t) : Spaced (s ++ t) := by
  unfold Spaced at *
  rw [String.toList_append]
  cases h : s.toList with
  | nil => exact ht
  | cons c u =>
    rw [h] at hs
    exact hs

theorem not_spaced_opening (s : String) : ¬ Spaced ("(" ++ s) := by
  intro h
  exact absurd (h '(' (by simp)) (by decide)

variable {c : Column} {d : Dialect} {info : TypeInfo}

theorem spaced_clauses (c : Column) (d : Dialect) : Spaced (c.clauses d) := by
  unfold clauses
  refine ((Spaced.append ?_ ?_).append ?_).append ?_
  · split
    · exact spaced_empty
    · exact spaced_space "NOT NULL"
  · split
    · exact spaced_space "UNIQUE"
    · exact spaced_empty
  · split
    · exact spaced_space _
    · exact spaced_empty
  · split
    · exact spaced_space _
    · exact spaced_empty

/-- A clause is there for a default, with its literal. -/
theorem defaultClause_cases {clause : String} (h : c.defaultClause d = .ok clause) :
    (c.default = none ∧ clause = "") ∨
      ∃ v l, c.default = some v ∧ d.name.literal? v = some l ∧ clause = " DEFAULT " ++ l := by
  unfold defaultClause at h
  split at h
  next hdefault =>
    cases h
    exact .inl ⟨hdefault, rfl⟩
  next v hdefault =>
    split at h
    next l hl =>
      cases h
      exact .inr ⟨v, l, hdefault, hl, rfl⟩
    · cases h

theorem spaced_of_defaultClause {s : String} (h : c.defaultClause d = .ok s) : Spaced s := by
  rcases defaultClause_cases h with ⟨-, rfl⟩ | ⟨v, l, -, -, rfl⟩
  · exact spaced_empty
  · simp [Spaced]

theorem definition_eq_ok_iff (hinfo : c.typeInfo = some info) {s : String} :
    c.definition d = .ok s ↔ ∃ clause, c.defaultClause d = .ok clause ∧
      s = d.name.quoteIdentifier c.identifier ++ " " ++ c.typeSpec info d ++ clause ++
        c.clauses d := by
  unfold definition
  rw [hinfo]
  cases c.defaultClause d with
  | ok clause => simp [eq_comm]
  | error e => simp

/-! ## Lengths -/

/-- The column can be defined, with `n` in parentheses right behind the name of its type. -/
def DefinedWithLength (c : Column) (info : TypeInfo) (d : Dialect) (n : Nat) : Prop :=
  ∃ rest, c.definition d =
    .ok (d.name.quoteIdentifier c.identifier ++ " " ++ c.declared.sqlType.getD info.typeName ++
      "(" ++ toString n ++ ")" ++ rest)

theorem sizesText_singleton (n : Nat) : sizesText [n] = "(" ++ toString n ++ ")" := by
  simp [sizesText]

/-- The number behind the type is the one size of the column. -/
theorem definedWithLength_iff {n : Nat} (hinfo : c.typeInfo = some info)
    (hsizes : (c.sizes info d).length ≤ 1) :
    c.DefinedWithLength info d n ↔
      c.sizes info d = [n] ∧ ∃ clause, c.defaultClause d = .ok clause := by
  constructor
  · rintro ⟨rest, h⟩
    obtain ⟨clause, hclause, htext⟩ := (definition_eq_ok_iff hinfo).1 h
    refine ⟨?_, clause, hclause⟩
    have hbehind : "(" ++ toString n ++ ")" ++ rest =
        sizesText (c.sizes info d) ++ (clause ++ c.clauses d) := by
      simpa [typeSpec, String.append_assoc] using htext
    match hs : c.sizes info d, hsizes with
    | [], _ =>
      have hspaced := (spaced_of_defaultClause hclause).append (c.spaced_clauses d)
      rw [hs, sizesText, String.empty_append] at hbehind
      rw [← hbehind, String.append_assoc, String.append_assoc] at hspaced
      exact absurd hspaced (not_spaced_opening _)
    | [k], _ =>
      rw [hs, sizesText_singleton] at hbehind
      have hnumbers : toString n ++ (")" ++ rest) =
          toString k ++ (")" ++ (clause ++ c.clauses d)) := by
        simpa [String.append_assoc] using hbehind
      rw [(toString_append_inj (by simp) (by simp) hnumbers).1]
  · rintro ⟨hs, clause, hclause⟩
    refine ⟨clause ++ c.clauses d, (definition_eq_ok_iff hinfo).2 ⟨clause, hclause, ?_⟩⟩
    rw [typeSpec, hs, sizesText_singleton]
    simp [String.append_assoc]

end Column

end TypedSql
