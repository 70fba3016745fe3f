import TypedSql.Proofs.ColumnFailures
import TypedSql.Proofs.DefinitionText

/-!
# Sizes of decimal columns

The sizes with which a column is defined are read off the text, however many there are
(`Column.definedWithSizes_iff`).  A decimal column is defined with the precision that it declares,
and with its scale only behind a precision.  Its check accepts a scale alone, measured by the bound
of the type; such a scale is lost (`Column.sizes_of_decimal_column`).
-/

namespace TypedSql

namespace DialectName

/-- An exact type of a dialect takes a precision and a scale, the first up to a positive bound. -/
theorem typeInfo_of_isExactNumeric (d : DialectName) {t : JdbcType}
    (ht : t.isExactNumeric = true) :
    (d.typeInfo t).sizeSpec = .precisionScale ∧ 0 < (d.typeInfo t).maxSize := by
  cases d <;> cases t <;> first | exact absurd ht (by decide) | decide

end DialectName

namespace Column

variable {c : Column} {d : Dialect} {info : TypeInfo} {ns ns' : List Nat}

/-! ## Reading sizes -/

/-- What stands behind the first size. -/
def sizesTail : List Nat → String
  | [] => ")"
  | n :: ns => "," ++ toString n ++ sizesTail ns

theorem sizesText_cons (n : Nat) (ns : List Nat) :
    sizesText (n :: ns) = "(" ++ (toString n ++ sizesTail ns) := by
  have htail : ∀ n,
      ",".intercalate ((n :: ns).map toString) ++ ")" = toString n ++ sizesTail ns := by
    induction ns with
    | nil =>
      intro n
      simp [sizesTail]
    | cons m ns ih =>
      intro n
      rw [List.map_cons, List.map_cons, String.intercalate_cons_cons, String.append_assoc,
        ← List.map_cons, ih m]
      simp only [sizesTail, String.append_assoc]
  rw [sizesText, String.append_assoc, htail n]
  simp

theorem head?_sizesTail_append (ns : List Nat) (s : String) :
    ∀ c ∈ (sizesTail ns ++ s).toList.head?, c.isDigit = false := by
  cases ns <;> simp [sizesTail]

/-- A size is told from those behind it. -/
theorem toString_sizesTail_inj {m n : Nat} {s s' : String}
    (h : toString m ++ sizesTail ns ++ s = toString n ++ sizesTail ns' ++ s') :
    m = n ∧ sizesTail ns ++ s = sizesTail ns' ++ s' := by
  rw [String.append_assoc, String.append_assoc] at h
  exact toString_append_inj (head?_sizesTail_append ns s) (head?_sizesTail_append ns' s') h

theorem sizesTail_append_inj {s s' : String} (h : sizesTail ns ++ s = sizesTail ns' ++ s') :
    ns = ns' := by
  induction ns generalizing ns' with
  | nil =>
    cases ns' with
    | nil => rfl
    | cons n' ns' =>
      have hhead := congrArg (·.toList.head?) h
      simp [sizesTail] at hhead
  | cons n ns ih =>
    cases ns' with
    | nil =>
      have hhead := congrArg (·.toList.head?) h
      simp [sizesTail] at hhead
    | cons n' ns' =>
      obtain ⟨rfl, hrest⟩ : n = n' ∧ sizesTail ns ++ s = sizesTail ns' ++ s' :=
        toString_sizesTail_inj (by simpa [sizesTail, String.append_assoc] using h)
      rw [ih hrest]

/-- Sizes are told from each other, and from what stands behind them. -/
theorem sizesText_append_inj {s s' : String} (hs : Spaced s) (hs' : Spaced s')
    (h : sizesText ns ++ s = sizesText ns' ++ s') : ns = ns' := by
  cases ns with
  | nil =>
    cases ns' with
    | nil => rfl
    | cons n' ns' =>
      rw [sizesText_cons, String.append_assoc, sizesText, String.empty_append] at h
      exact absurd (h ▸ hs) (not_spaced_opening _)
  | cons n ns =>
    cases ns' with
    | nil =>
      rw [sizesText_cons, String.append_assoc, sizesText, String.empty_append] at h
      exact absurd (h ▸ hs') (not_spaced_opening _)
    | cons n' ns' =>
      rw [sizesText_cons, sizesText_cons] at h
      obtain ⟨rfl, hrest⟩ : n = n' ∧ sizesTail ns ++ s = sizesTail ns' ++ s' :=
        toString_sizesTail_inj (by simpa [String.append_assoc] using h)
      rw [sizesTail_append_inj hrest]

theorem sizesText_inj : sizesText ns = sizesText ns' ↔ ns = ns' := by
  constructor
  · intro h
    exact sizesText_append_inj spaced_empty spaced_empty (by rw [h])
  · rintro rfl
    rfl

/-- The column can be defined, with these sizes in parentheses right behind the name of its type. -/
def DefinedWithSizes (c : Column) (info : TypeInfo) (d : Dialect) (ns : List Nat) : Prop :=
  ∃ rest, Spaced rest ∧ c.definition d =
    .ok (d.name.quoteIdentifier c.identifier ++ " " ++ c.declared.sqlType.getD info.typeName ++
      sizesText ns ++ rest)

theorem definedWithSizes_iff (hinfo : c.typeInfo = some info) :
    c.DefinedWithSizes info d ns ↔ ns = c.sizes info d ∧ ∃ text, c.definition d = .ok text := by
  constructor
  · rintro ⟨rest, hrest, h⟩
    refine ⟨?_, _, h⟩
    obtain ⟨clause, hclause, htext⟩ := (definition_eq_ok_iff hinfo).1 h
    have hbehind : sizesText ns ++ rest =
        sizesText (c.sizes info d) ++ (clause ++ c.clauses d) := by
      simpa [typeSpec, String.append_assoc] using htext
    exact sizesText_append_inj hrest
      ((spaced_of_defaultClause hclause).append (c.spaced_clauses d)) hbehind
  · rintro ⟨rfl, text, h⟩
    obtain ⟨clause, hclause, rfl⟩ := (definition_eq_ok_iff hinfo).1 h
    refine ⟨clause ++ c.clauses d,
      (spaced_of_defaultClause hclause).append (c.spaced_clauses d), ?_⟩
    rw [h, typeSpec]
    simp only [String.append_assoc]

/-! ## Precision and scale -/

theorem fitsDecimal_iff :
    c.fitsDecimal = true ↔ c.jdbcType.family? = some .numeric ∧
      (∀ p, c.declared.length = some p → 0 < p ∧ (c.maxSize = 0 ∨ p ≤ c.maxSize)) ∧
      ∀ s, c.declared.scale = some s →
        (c.declared.length = none ∧ c.maxSize = 0) ∨ s ≤ c.declared.length.getD c.maxSize := by
  unfold fitsDecimal scaleFits fits
  cases c.declared.length <;> cases c.declared.scale <;> simp [and_assoc, and_comm, and_left_comm]

/-- The column with another scale, or none. -/
def withScale (c : Column) (scale : Option Nat) : Column :=
  { c with declared := { c.declared with scale := scale } }

theorem sizes_of_precisionScale (hspec : info.sizeSpec = .precisionScale) :
    c.sizes info d = c.declared.length.elim [] (· :: c.declared.scale.toList) := by
  rw [sizes, hspec]
  cases c.declared.length <;> rfl

/-- The scale of a column shows in its definition exactly behind a precision. -/
theorem definition_withScale_eq_iff (hinfo : c.typeInfo = some info)
    (hspec : info.sizeSpec = .precisionScale) {scale : Option Nat} {text text' : String}
    (htext : c.definition d = .ok text) (htext' : (c.withScale scale).definition d = .ok text') :
    text = text' ↔ c.declared.scale = scale ∨ c.declared.length = none := by
  obtain ⟨clause, hclause, rfl⟩ := (definition_eq_ok_iff hinfo).1 htext
  obtain ⟨clause', hclause', rfl⟩ :=
    (definition_eq_ok_iff (c := c.withScale scale) hinfo).1 htext'
  -- a scale has no part in the default and in the clauses
  have hclauses : (c.withScale scale).clauses d = c.clauses d := rfl
  obtain rfl : clause = clause' := by
    have hdefault : (c.withScale scale).defaultClause d = c.defaultClause d := rfl
    rw [hdefault, hclause] at hclause'
    exact Except.ok.inj hclause'
  rw [hclauses]
  calc
    _ ↔ c.typeSpec info d = (c.withScale scale).typeSpec info d := by
      rw [String.append_left_inj, String.append_left_inj]
      exact String.append_right_inj _
    _ ↔ sizesText (c.sizes info d) = sizesText ((c.withScale scale).sizes info d) :=
      String.append_right_inj _
    _ ↔ c.sizes info d = (c.withScale scale).sizes info d := sizesText_inj
    _ ↔ c.declared.scale = scale ∨ c.declared.length = none := by
      rw [sizes_of_precisionScale hspec, sizes_of_precisionScale hspec, withScale]
      cases c.declared.length with
      | none => simp
      | some p => cases c.declared.scale <;> cases scale <;> simp

/-- A column of an exact type that passes the decimal check declares a positive precision within the
bound of the type, or none, and a scale within this precision, or within the bound.  It is defined
with its precision, and with its scale exactly if it declares a precision as well: two columns that
differ in their scales alone are defined alike exactly if they declare no precision. -/
theorem sizes_of_decimal_column {t : JdbcType} (ht : t = .decimal ∨ t = .numeric)
    (hinfo : c.typeInfo = some (d.name.typeInfo t)) (hcheck : (c.check .decimal).value = none) :
    (∀ p, c.declared.length = some p → 0 < p ∧ p ≤ (d.name.typeInfo t).maxSize) ∧
    (∀ s, c.declared.scale = some s →
      s ≤ c.declared.length.getD (d.name.typeInfo t).maxSize) ∧
    (∃ ns, ns.head? = c.declared.length ∧
      (ns.tail = c.declared.scale.toList ↔ c.declared.scale = none ∨ c.declared.length ≠ none) ∧
      ∀ ns', c.DefinedWithSizes (d.name.typeInfo t) d ns' ↔
        ns' = ns ∧ ∃ text, c.definition d = .ok text) ∧
    ∀ scale text text', c.definition d = .ok text → (c.withScale scale).definition d = .ok text' →
      (text = text' ↔ c.declared.scale = scale ∨ c.declared.length = none) := by
  obtain ⟨hspec, hbound⟩ := d.name.typeInfo_of_isExactNumeric (JdbcType.isExactNumeric_iff.2 ht)
  have hmax : c.maxSize = (d.name.typeInfo t).maxSize := maxSize_of_typeInfo hinfo
  rw [value_check, usageFailure?_eq_none_iff, fitsUsage, fitsDecimal_iff, hmax] at hcheck
  obtain ⟨-, hprecision, hscale⟩ := hcheck
  refine ⟨fun p hp => ?_, fun s hs => ?_, ⟨c.sizes (d.name.typeInfo t) d, ?_, ?_, ?_⟩, ?_⟩
  · obtain ⟨hpos, hle⟩ := hprecision p hp
    omega
  · rcases hscale s hs with ⟨-, hzero⟩ | hle
    · omega
    · exact hle
  · rw [sizes_of_precisionScale hspec]
    cases c.declared.length <;> rfl
  · rw [sizes_of_precisionScale hspec]
    cases c.declared.length <;> cases c.declared.scale <;> simp
  · exact fun ns' => definedWithSizes_iff hinfo
  · exact fun scale text text' => definition_withScale_eq_iff hinfo hspec

/-- A price with two digits after the point, and the same price without a scale. -/
theorem sizes_of_decimal_column_of_price :
    let d := Dialect.plain .oracle
    let info := d.name.typeInfo .numeric
    let c : Column :=
      { Column.new "PRICE" .bigDecimal with
        declared := { length := some 12, scale := some 2 }
        typeInfo := some info
        state := .configured }
    c.typeInfo = some info ∧ (c.check .decimal).value = none ∧ c.DefinedWithSizes info d [12, 2] ∧
      ∃ text text', c.definition d = .ok text ∧ (c.withScale none).definition d = .ok text' ∧
        text ≠ text' := by
  intro d info c
  have hinfo : c.typeInfo = some info := rfl
  have hcheck : (c.check .decimal).value = none := by decide
  have htext : c.definition d = .ok "\"PRICE\" NUMBER(12,2) NOT NULL" := by cbv
  have htext' : (c.withScale none).definition d = .ok "\"PRICE\" NUMBER(12) NOT NULL" := by cbv
  obtain ⟨-, -, ⟨ns, hprecision, hscale, hsizes⟩, hdiffer⟩ :=
    sizes_of_decimal_column (.inr rfl) hinfo hcheck
  refine ⟨hinfo, hcheck, (hsizes _).2 ⟨?_, _, htext⟩, _, _, htext, htext', fun h => ?_⟩
  · have htail : ns.tail = [2] := hscale.2 (.inr (by decide))
    cases ns with
    | nil => cases hprecision
    | cons n ns => rw [Option.some.inj hprecision, show ns = [2] from htail]
  · exact absurd ((hdiffer none _ _ htext htext').1 h) (by decide)

/-- A scale without a precision passes the check and is lost. -/
theorem exists_scale_lost :
    let d := Dialect.plain .ansi
    let c : Column :=
      { Column.new "PRICE" .bigDecimal with
        declared := { scale := some 2 }
        typeInfo := some (d.name.typeInfo .decimal)
        state := .configured }
    (c.check .decimal).value = none ∧ ((c.withScale none).check .decimal).value = none ∧
      c.definition d = .ok "\"PRICE\" DECIMAL NOT NULL" ∧
      (c.withScale none).definition d = .ok "\"PRICE\" DECIMAL NOT NULL" :=
  ⟨by decide, by decide, by cbv, by cbv⟩

end Column

end TypedSql
