import TypedSql.Dialect.Config
import TypedSql.Proofs.DefinitionText
import TypedSql.Proofs.IntegralStorage

/-!
# Lengths of text columns

A text column that declares no length is defined with the configured one.  Its check only looks at
a declared length, so the length in the definition is within the bound of the type if it is declared
or the configured one happens to be (`Column.length_of_text_column`).
-/

namespace TypedSql

theorem Config.textLength_pos_of_ofToml {source : String} {config : Config}
    (h : ofToml source = .ok config) : 0 < config.textLength := by
  unfold ofToml at h
  split at h
  · unfold check at h
    split at h
    · cases h
    next hne =>
      cases h
      omega
  · cases h

/-- A text type of a dialect takes no length, or one up to a positive bound. -/
theorem DialectName.typeInfo_of_isCharacter (d : DialectName) {t : JdbcType}
    (ht : t.isCharacter = true) :
    (d.typeInfo t).sizeSpec = .none ∨ ((d.typeInfo t).sizeSpec = .length ∧
      0 < (d.typeInfo t).maxSize ∧ t.isUnlimited = false) := by
  cases d <;> cases t <;> first | exact absurd ht (by decide) | decide

namespace Column

variable {c : Column} {info : TypeInfo}

theorem fitsString_iff :
    c.fitsString = true ↔ c.jdbcType.isCharacter = true ∧ ∀ l, c.declared.length = some l →
      0 < l ∧ (c.jdbcType.isUnlimited = true ∨ c.maxSize = 0 ∨ l ≤ c.maxSize) := by
  unfold fitsString fits
  cases c.declared.length <;> simp

theorem jdbcType_of_typeInfo (hinfo : c.typeInfo = some info)
    (hdeclared : ∀ u ∈ c.declared.jdbcType, u = info.jdbcType) : c.jdbcType = info.jdbcType := by
  unfold jdbcType
  rw [hinfo]
  cases h : c.declared.jdbcType with
  | none => rfl
  | some u => exact hdeclared u h

/-- A text type takes no size, or the declared length, or else the configured one. -/
theorem sizes_of_isCharacter (c : Column) (config : Config) {t : JdbcType}
    (ht : t.isCharacter = true) :
    c.sizes (config.dialect.typeInfo t) (.ofConfig config) = [] ∨
      (c.sizes (config.dialect.typeInfo t) (.ofConfig config) =
          [c.declared.length.getD config.textLength] ∧
        0 < (config.dialect.typeInfo t).maxSize ∧ t.isUnlimited = false) := by
  have himplied : impliedLength (config.dialect.typeInfo t) (.ofConfig config) =
      some config.textLength := if_pos ht
  rcases config.dialect.typeInfo_of_isCharacter ht with hnone | ⟨hlength, hbound⟩
  · left
    rw [sizes, hnone]
  · right
    refine ⟨?_, hbound⟩
    rw [sizes, hlength, himplied]
    cases c.declared.length <;> rfl

/-- The length with which a text column is defined is positive.  It is within the bound of the type
if the column declares it, and otherwise exactly if the configured length is. -/
theorem length_of_text_column {source : String} {config : Config}
    (hconfig : Config.ofToml source = .ok config) {t : JdbcType}
    (hinfo : c.typeInfo = some (config.dialect.typeInfo t))
    (hdeclared : ∀ u ∈ c.declared.jdbcType, u = t) (hcheck : (c.check .string).value = none)
    {n : Nat} (hn : c.DefinedWithLength (config.dialect.typeInfo t) (.ofConfig config) n) :
    0 < n ∧ (n ≤ (config.dialect.typeInfo t).maxSize ↔
      c.declared.length ≠ none ∨ config.textLength ≤ (config.dialect.typeInfo t).maxSize) := by
  have htype : c.jdbcType = t := jdbcType_of_typeInfo hinfo hdeclared
  rw [value_check, usageFailure?_eq_none_iff, fitsUsage, fitsString_iff, htype,
    maxSize_of_typeInfo hinfo] at hcheck
  obtain ⟨hcharacter, hfits⟩ := hcheck
  have hsizes := c.sizes_of_isCharacter config hcharacter
  have hone : c.sizes (config.dialect.typeInfo t) (.ofConfig config) = [n] := by
    refine ((definedWithLength_iff hinfo ?_).1 hn).1
    rcases hsizes with h | ⟨h, -⟩ <;> simp [h]
  rcases hsizes with hsizes | ⟨hsizes, hbound, hlimited⟩
  · rw [hsizes] at hone
    cases hone
  · rw [hsizes] at hone
    obtain rfl : c.declared.length.getD config.textLength = n := List.singleton_inj.1 hone
    cases hlength : c.declared.length with
    | none => simpa using Config.textLength_pos_of_ofToml hconfig
    | some l =>
      obtain ⟨hpos, hle⟩ := hfits l hlength
      rw [hlimited] at hle
      have hle : l ≤ (config.dialect.typeInfo t).maxSize := by
        simp only [Bool.false_eq_true, false_or] at hle
        omega
      simp [hpos, hle]

/-- A `CHAR` column where the configured length is 80. -/
theorem length_of_text_column_eighty :
    let config : Config := { textLength := 80 }
    let c : Column :=
      { Column.new "FLAG" .char with
        typeInfo := some (config.dialect.typeInfo .char), state := .configured }
    Config.ofToml "string_default_length = 80" = .ok config ∧
      (∀ u ∈ c.declared.jdbcType, u = .char) ∧ (c.check .string).value = none ∧
      c.DefinedWithLength (config.dialect.typeInfo .char) (.ofConfig config) 80 ∧
      0 < 80 ∧ (80 ≤ (config.dialect.typeInfo .char).maxSize ↔
        c.declared.length ≠ none ∨
          config.textLength ≤ (config.dialect.typeInfo .char).maxSize) := by
  intro config c
  have hvalue : (Config.ofToml "string_default_length = 80").toOption = some config := by
    decide +kernel
  have hconfig : Config.ofToml "string_default_length = 80" = .ok config := by
    cases h : Config.ofToml "string_default_length = 80" with
    | ok c =>
      rw [h] at hvalue
      rw [Option.some.inj hvalue]
    | error e =>
      rw [h] at hvalue
      cases hvalue
  have hdeclared : ∀ u ∈ c.declared.jdbcType, u = .char := by decide
  have hcheck : (c.check .string).value = none := by decide
  have hn : c.DefinedWithLength (config.dialect.typeInfo .char) (.ofConfig config) 80 :=
    (definedWithLength_iff rfl (by decide)).2 ⟨by decide, "", rfl⟩
  exact ⟨hconfig, hdeclared, hcheck, hn, length_of_text_column hconfig rfl hdeclared hcheck hn⟩

/-- Without a configured length, a `CHAR` column that passes its check is defined with a length
beyond the bound of the type. -/
theorem exists_length_beyond_bound :
    let c : Column :=
      { Column.new "FLAG" .char with
        typeInfo := some (DialectName.ansi.typeInfo .char), state := .configured }
    ∃ config, Config.ofToml "" = .ok config ∧
      c.typeInfo = some (config.dialect.typeInfo .char) ∧
      (∀ u ∈ c.declared.jdbcType, u = .char) ∧ (c.check .string).value = none ∧
      c.DefinedWithLength (config.dialect.typeInfo .char) (.ofConfig config) 255 ∧
      ¬ 255 ≤ (config.dialect.typeInfo .char).maxSize := by
  intro c
  have hn : c.DefinedWithLength (DialectName.ansi.typeInfo .char) (.ofConfig {}) 255 :=
    (definedWithLength_iff rfl (by decide)).2 ⟨by decide, "", rfl⟩
  exact ⟨{}, by rfl, rfl, by decide, by decide, hn, by decide⟩

end Column

end TypedSql
