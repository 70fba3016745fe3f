import TypedSql.Column.Comparison
import TypedSql.Column.Usage

/-!
# Storage of integer columns

A column of an integral type is only accepted on integral or exact storage.  A column of an exact
type is accepted on any numeric storage; if it is used for integers and declares a scale, no digits
after the point may be reported.
-/

namespace TypedSql

/-! ## Types -/

namespace JdbcType

theorem isCompatibleWith_of_isIntegral {t : JdbcType} (ht : t.isIntegral = true)
    (stored : JdbcType) :
    t.isCompatibleWith stored = (stored.isIntegral || stored.isExactNumeric) := by
  cases t <;> first | exact absurd ht (by decide) | (cases stored <;> rfl)

theorem isCompatibleWith_of_isExactNumeric {t : JdbcType} (ht : t.isExactNumeric = true)
    (stored : JdbcType) :
    t.isCompatibleWith stored = (stored.family? == some .numeric) := by
  cases t <;> first | exact absurd ht (by decide) | (cases stored <;> rfl)

theorem family?_of_isIntegral {t : JdbcType} (ht : t.isIntegral = true) :
    t.family? = some .numeric := by
  cases t <;> first | rfl | cases ht

theorem family?_of_isExactNumeric {t : JdbcType} (ht : t.isExactNumeric = true) :
    t.family? = some .numeric := by
  cases t <;> first | rfl | cases ht

end JdbcType

/-- Whole numbers are stored: the type is integral, or exact without digits after the point. -/
def Introspected.isWhole (info : Introspected) : Bool :=
  match JdbcType.ofCode? info.typeCode with
  | some stored => stored.isIntegral || (stored.isExactNumeric && info.digits == 0)
  | none => false

/-! ## Columns without failures -/

namespace Column

variable {c : Column} {info : Introspected}

theorem typeFailures_eq_nil_iff :
    c.typeFailures info = [] ↔
      ∃ stored, JdbcType.ofCode? info.typeCode = some stored ∧
        c.jdbcType.isCompatibleWith stored = true ∧ c.precisionFailures stored info = [] ∧
        c.scaleFailures info = [] := by
  unfold typeFailures
  cases JdbcType.ofCode? info.typeCode with
  | none => simp
  | some stored => cases h : c.jdbcType.isCompatibleWith stored <;> simp [h]

theorem failures_eq_nil_iff :
    c.failures info = [] ↔ c.typeFailures info = [] ∧ c.nullable = info.nullable := by
  unfold failures nullabilityFailures
  simp

theorem scaleFailures_eq_nil_iff :
    c.scaleFailures info = [] ↔
      (c.jdbcType.isExactNumeric = true → ∀ s, c.declared.scale = some s → info.digits = s) := by
  unfold scaleFailures
  cases c.declared.scale with
  | none => simp
  | some s => simp

theorem fitsInteger_iff :
    c.fitsInteger = true ↔ c.jdbcType.isIntegral = true ∨
      (c.jdbcType.isExactNumeric = true ∧ ∀ s, c.declared.scale = some s → s = 0) := by
  unfold fitsInteger
  cases c.declared.scale <;> simp

theorem usageFailure?_eq_none_iff {u : Usage} :
    c.usageFailure? u = none ↔ c.fitsUsage u = true := by
  simp [usageFailure?]

/-! ## Integer columns -/

/-- What may be reported of an integer column that has no failures. -/
theorem storage_of_integer_column (hinteger : (c.check .integer).value = none)
    (hvalid : (c.validate info).value = []) :
    ∃ stored, JdbcType.ofCode? info.typeCode = some stored ∧ stored.family? = some .numeric ∧
      ((c.jdbcType.isIntegral = true ∧
          (stored.isIntegral = true ∨ stored.isExactNumeric = true)) ∨
        (c.jdbcType.isExactNumeric = true ∧
          ∀ s, c.declared.scale = some s → s = 0 ∧ info.digits = 0)) := by
  rw [value_validate, failures_eq_nil_iff, typeFailures_eq_nil_iff] at hvalid
  rw [value_check, usageFailure?_eq_none_iff, fitsUsage, fitsInteger_iff] at hinteger
  obtain ⟨⟨stored, hstored, hcompatible, -, hscale⟩, -⟩ := hvalid
  refine ⟨stored, hstored, ?_⟩
  rcases hinteger with hintegral | ⟨hexact, hzero⟩
  · rw [JdbcType.isCompatibleWith_of_isIntegral hintegral, Bool.or_eq_true] at hcompatible
    exact ⟨hcompatible.elim JdbcType.family?_of_isIntegral JdbcType.family?_of_isExactNumeric,
      .inl ⟨hintegral, hcompatible⟩⟩
  · rw [JdbcType.isCompatibleWith_of_isExactNumeric hexact, beq_iff_eq] at hcompatible
    refine ⟨hcompatible, .inr ⟨hexact, fun s hs => ?_⟩⟩
    obtain rfl := hzero s hs
    exact ⟨rfl, scaleFailures_eq_nil_iff.1 hscale hexact 0 hs⟩

/-- A `NUMERIC(10,0)` column of a table that keeps it as one. -/
theorem storage_of_integer_column_numeric :
    let c : Column :=
      { Column.new "QTY" .long with
        declared := { jdbcType := some .numeric, length := some 10, scale := some 0 } }
    let info : Introspected := { name := "QTY", typeCode := 3, size := 10 }
    (c.check .integer).value = none ∧ (c.validate info).value = [] ∧
      ∃ stored, JdbcType.ofCode? info.typeCode = some stored ∧ stored.family? = some .numeric ∧
        ((c.jdbcType.isIntegral = true ∧
            (stored.isIntegral = true ∨ stored.isExactNumeric = true)) ∨
          (c.jdbcType.isExactNumeric = true ∧
            ∀ s, c.declared.scale = some s → s = 0 ∧ info.digits = 0)) := by
  intro c info
  have hinteger : (c.check .integer).value = none := by decide
  have hvalid : (c.validate info).value = [] := by decide
  exact ⟨hinteger, hvalid, storage_of_integer_column hinteger hvalid⟩

/-- The same column is also accepted where it is kept as a double-precision number, exact types
being compatible with all numeric ones; and without a declared scale no digits are compared. -/
theorem exists_integer_column_with_fraction :
    let exact : Column :=
      { Column.new "QTY" .long with
        declared := { jdbcType := some .numeric, length := some 10, scale := some 0 } }
    let double : Introspected := { name := "QTY", typeCode := 8 }
    let unscaled : Column :=
      { Column.new "QTY" .long with declared := { jdbcType := some .numeric, length := some 10 } }
    let hundredths : Introspected := { name := "QTY", typeCode := 2, size := 10, digits := 2 }
    (exact.check .integer).value = none ∧ (exact.validate double).value = [] ∧
      double.isWhole = false ∧
      (unscaled.check .integer).value = none ∧ (unscaled.validate hundredths).value = [] ∧
      hundredths.isWhole = false := by
  decide

end Column

end TypedSql
