import TypedSql.Proofs.IntegralStorage

/-!
# What is reported of a column

Comparing a column with its datastore gives one item for each way in which the two differ
(`Column.Mismatch`), and nothing else: first a type that may not back the column, or else a
precision and a scale that are not the declared ones, and last, whatever the type, nullability.
-/

namespace TypedSql

namespace Failure

/-- Nothing failed, or else everything that did. -/
def verdict (fs : List Failure) : Except (List Failure) Unit :=
  if fs.isEmpty then .ok () else .error fs

theorem verdict_eq_ok_iff {fs : List Failure} : verdict fs = .ok () ↔ fs = [] := by
  cases fs <;> simp [verdict]

/-- The place of a failure among those of one column. -/
def rank : Failure → Nat
  | typeIncompatible .. => 0
  | wrongPrecision .. => 1
  | wrongScale .. => 2
  | nullabilityMismatch .. => 3
  | missingColumn .. => 4
  | definition .. => 5

end Failure

theorem JdbcType.isExactNumeric_iff {t : JdbcType} :
    t.isExactNumeric = true ↔ t = .decimal ∨ t = .numeric := by
  cases t <;> decide

theorem JdbcType.isCompatibleWith_self (t : JdbcType) : t.isCompatibleWith t = true := by
  simp [isCompatibleWith]

namespace Column

/-! ## Mismatches -/

/-- The reported code is that of the type `stored`, which may back the column. -/
def StoredAs (c : Column) (info : Introspected) (stored : JdbcType) : Prop :=
  JdbcType.ofCode? info.typeCode = some stored ∧ c.jdbcType.isCompatibleWith stored = true

/-- The ways in which a column can differ from what is reported of it, each with its item. -/
inductive Mismatch (c : Column) (info : Introspected) : Failure → Prop where
  | type (h : ∀ stored, ¬ c.StoredAs info stored) :
      Mismatch c info (.typeIncompatible c.identifier c.jdbcType info.typeCode)
  | precision {stored : JdbcType} {p : Nat} (hs : c.StoredAs info stored)
      (hdeclared : c.jdbcType.hasDeclaredSize = true) (hstored : stored.hasDeclaredSize = true)
      (hp : c.declared.length = some p) (hpos : 0 < info.size) (hne : info.size ≠ p) :
      Mismatch c info (.wrongPrecision c.identifier p info.size)
  | scale {stored : JdbcType} {k : Nat} (hs : c.StoredAs info stored)
      (hexact : c.jdbcType = .decimal ∨ c.jdbcType = .numeric)
      (hk : c.declared.scale = some k) (hne : info.digits ≠ k) :
      Mismatch c info (.wrongScale c.identifier k info.digits)
  | nullability (hne : c.nullable ≠ info.nullable) :
      Mismatch c info (.nullabilityMismatch c.identifier c.nullable info.nullable)

/-- The items are the mismatches, one for each, in the order of their ranks. -/
structure Itemized (c : Column) (info : Introspected) (fs : List Failure) : Prop where
  ordered : fs.Pairwise fun f g => f.rank < g.rank
  mem_iff : ∀ f, f ∈ fs ↔ Mismatch c info f
  /-- Beside a type that may not back the column, only nullability is reported. -/
  alone : ∀ f ∈ fs, f.rank = 0 → ∀ g ∈ fs, g ≠ f → g.rank = 3

/-- The metadata repeat what the column says of itself. -/
structure Repeats (info : Introspected) (c : Column) : Prop where
  typeCode : info.typeCode = c.jdbcType.code
  nullable : info.nullable = c.nullable
  size : ∀ p, c.declared.length = some p → info.size = p
  digits : ∀ k, c.declared.scale = some k → info.digits = k

/-! ## The items of each comparison -/

variable {c : Column} {info : Introspected} {stored : JdbcType} {f g : Failure}

theorem mem_precisionFailures_iff (hs : c.StoredAs info stored) :
    f ∈ c.precisionFailures stored info ↔ Mismatch c info f ∧ f.rank = 1 := by
  unfold precisionFailures
  constructor
  · intro hf
    split at hf
    next p hp =>
      split at hf
      next h =>
        obtain rfl := List.mem_singleton.1 hf
        simp only [Bool.and_eq_true, decide_eq_true_eq, bne_iff_ne] at h
        exact ⟨.precision hs h.1.1.1 h.1.1.2 hp h.1.2 h.2, rfl⟩
      · cases hf
    · cases hf
  · rintro ⟨h, hrank⟩
    cases h with
    | type => cases hrank
    | scale => cases hrank
    | nullability => cases hrank
    | precision hs' hdeclared hstored hp hpos hne =>
      -- a code is that of one type only
      obtain rfl := Option.some.inj (hs.1.symm.trans hs'.1)
      simp [hp, hdeclared, hstored, hpos, hne]

theorem mem_scaleFailures_iff (hs : c.StoredAs info stored) :
    f ∈ c.scaleFailures info ↔ Mismatch c info f ∧ f.rank = 2 := by
  unfold scaleFailures
  constructor
  · intro hf
    split at hf
    next k hk =>
      split at hf
      next h =>
        obtain rfl := List.mem_singleton.1 hf
        simp only [Bool.and_eq_true, bne_iff_ne] at h
        exact ⟨.scale hs (JdbcType.isExactNumeric_iff.1 h.1) hk h.2, rfl⟩
      · cases hf
    · cases hf
  · rintro ⟨h, hrank⟩
    cases h with
    | type => cases hrank
    | precision => cases hrank
    | nullability => cases hrank
    | scale _ hexact hk hne => simp [hk, JdbcType.isExactNumeric_iff.2 hexact, hne]

theorem mem_nullabilityFailures_iff :
    f ∈ c.nullabilityFailures info ↔ Mismatch c info f ∧ f.rank = 3 := by
  unfold nullabilityFailures
  constructor
  · intro hf
    split at hf
    next h =>
      obtain rfl := List.mem_singleton.1 hf
      exact ⟨.nullability (bne_iff_ne.1 h), rfl⟩
    · cases hf
  · rintro ⟨h, hrank⟩
    cases h with
    | type => cases hrank
    | precision => cases hrank
    | scale => cases hrank
    | nullability hne => simp [hne]

/-- The comparison of sizes, where the type may back the column. -/
theorem typeFailures_of_storedAs (hs : c.StoredAs info stored) :
    c.typeFailures info = c.precisionFailures stored info ++ c.scaleFailures info := by
  unfold typeFailures
  rw [hs.1]
  exact if_pos hs.2

theorem typeFailures_of_not_storedAs (h : ∀ stored, ¬ c.StoredAs info stored) :
    c.typeFailures info = [.typeIncompatible c.identifier c.jdbcType info.typeCode] := by
  unfold typeFailures
  cases hcode : JdbcType.ofCode? info.typeCode with
  | none => rfl
  | some stored => exact if_neg fun hcompatible => h stored ⟨hcode, hcompatible⟩

theorem mem_typeFailures_iff :
    f ∈ c.typeFailures info ↔ Mismatch c info f ∧ f.rank < 3 := by
  by_cases hs : ∃ stored, c.StoredAs info stored
  · obtain ⟨stored, hs⟩ := hs
    rw [typeFailures_of_storedAs hs, List.mem_append, mem_precisionFailures_iff hs,
      mem_scaleFailures_iff hs, ← and_or_left]
    refine and_congr_right fun h => ?_
    cases h with
    | type h => exact absurd hs (h stored)
    | precision => simp [Failure.rank]
    | scale => simp [Failure.rank]
    | nullability => simp [Failure.rank]
  · have hnone : ∀ stored, ¬ c.StoredAs info stored := not_exists.1 hs
    rw [typeFailures_of_not_storedAs hnone, List.mem_singleton]
    constructor
    · rintro rfl
      exact ⟨.type hnone, by simp [Failure.rank]⟩
    · rintro ⟨h, hrank⟩
      cases h with
      | type => rfl
      | precision hs => exact absurd hs (hnone _)
      | scale hs => exact absurd hs (hnone _)
      | nullability => exact absurd hrank (Nat.lt_irrefl 3)

/-! ## All items -/

theorem mem_failures_iff : f ∈ c.failures info ↔ Mismatch c info f := by
  rw [failures, List.mem_append, mem_typeFailures_iff, mem_nullabilityFailures_iff, ← and_or_left]
  refine and_iff_left_of_imp fun h => ?_
  cases h <;> simp [Failure.rank]

theorem pairwise_rank_typeFailures :
    (c.typeFailures info).Pairwise fun f g => f.rank < g.rank := by
  by_cases hs : ∃ stored, c.StoredAs info stored
  · obtain ⟨stored, hs⟩ := hs
    rw [typeFailures_of_storedAs hs, List.pairwise_append]
    refine ⟨?_, ?_, fun f hf g hg => ?_⟩
    · unfold precisionFailures
      split
      · split <;> simp
      · exact .nil
    · unfold scaleFailures
      split
      · split <;> simp
      · exact .nil
    · have hf := ((mem_precisionFailures_iff hs).1 hf).2
      have hg := ((mem_scaleFailures_iff hs).1 hg).2
      omega
  · rw [typeFailures_of_not_storedAs (not_exists.1 hs)]
    exact List.pairwise_singleton _ _

theorem pairwise_rank_failures : (c.failures info).Pairwise fun f g => f.rank < g.rank := by
  rw [failures, List.pairwise_append]
  refine ⟨pairwise_rank_typeFailures, ?_, fun f hf g hg => ?_⟩
  · unfold nullabilityFailures
    split <;> simp
  · have hf := (mem_typeFailures_iff.1 hf).2
    have hg := (mem_nullabilityFailures_iff.1 hg).2
    omega

theorem Mismatch.alone (hf : Mismatch c info f) (hrank : f.rank = 0) (hg : Mismatch c info g)
    (hne : g ≠ f) : g.rank = 3 := by
  cases hf with
  | type h =>
    cases hg with
    | type => exact absurd rfl hne
    | precision hs => exact absurd hs (h _)
    | scale hs => exact absurd hs (h _)
    | nullability => rfl
  | precision => cases hrank
  | scale => cases hrank
  | nullability => cases hrank

theorem itemized_failures (c : Column) (info : Introspected) :
    Itemized c info (c.failures info) where
  ordered := pairwise_rank_failures
  mem_iff _ := mem_failures_iff
  alone _ hf hrank _ hg hne := (mem_failures_iff.1 hf).alone hrank (mem_failures_iff.1 hg) hne

/-! ## Metadata that agree -/

theorem not_mismatch_of_repeats (h : Repeats info c) : ¬ Mismatch c info f := by
  have hself : c.StoredAs info c.jdbcType := by
    refine ⟨?_, c.jdbcType.isCompatibleWith_self⟩
    rw [h.typeCode, JdbcType.ofCode?_code]
  intro hf
  cases hf with
  | type hnone => exact hnone _ hself
  | precision _ _ _ hp _ hne => exact hne (h.size _ hp)
  | scale _ _ hk hne => exact hne (h.digits _ hk)
  | nullability hne => exact hne h.nullable.symm

theorem failures_of_repeats (h : Repeats info c) : c.failures info = [] := by
  rw [List.eq_nil_iff_forall_not_mem]
  exact fun f hf => not_mismatch_of_repeats h (mem_failures_iff.1 hf)

theorem failures_withNullable_not (c : Column) (info : Introspected) :
    c.failures { info with nullable := !c.nullable } =
      c.failures { info with nullable := c.nullable } ++
        [.nullabilityMismatch c.identifier c.nullable !c.nullable] := by
  -- the other items do not look at the reported nullability
  show c.typeFailures info ++ c.nullabilityFailures { info with nullable := !c.nullable } =
    c.typeFailures info ++ c.nullabilityFailures { info with nullable := c.nullable } ++ _
  simp [nullabilityFailures]

/-- Comparing a column with what is reported of it gives exactly the mismatches, in order, and
succeeds if there are none.  A column agrees with metadata that repeat what it says of itself, and
the other nullability adds its own item to the others. -/
theorem validate_itemizes (c : Column) (info : Introspected) :
    Itemized c info (c.validate info).value ∧
    (Failure.verdict (c.validate info).value = .ok () ↔ ∀ f, ¬ Mismatch c info f) ∧
    (Repeats info c → Failure.verdict (c.validate info).value = .ok ()) ∧
    (c.validate { info with nullable := !c.nullable }).value =
      (c.validate { info with nullable := c.nullable }).value ++
        [.nullabilityMismatch c.identifier c.nullable !c.nullable] := by
  simp only [value_validate, Failure.verdict_eq_ok_iff]
  refine ⟨itemized_failures c info, ?_, failures_of_repeats, failures_withNullable_not c info⟩
  rw [List.eq_nil_iff_forall_not_mem]
  exact forall_congr' fun f => not_congr mem_failures_iff

/-- A `DECIMAL(10,2)` column where `NUMERIC(12,4)` is reported, and where its own shape is. -/
theorem validate_itemizes_price :
    let c : Column :=
      { Column.new "PRICE" .bigDecimal with
        declared := { jdbcType := some .decimal, length := some 10, scale := some 2 } }
    let other : Introspected :=
      { name := "PRICE", typeCode := 2, nullable := true, size := 12, digits := 4 }
    let own : Introspected := { name := "PRICE", typeCode := 3, size := 10, digits := 2 }
    Failure.wrongScale "PRICE" 2 4 ∈ (c.validate other).value ∧
      Repeats own c ∧ Failure.verdict (c.validate own).value = .ok () := by
  intro c other own
  have hstored : c.StoredAs other .numeric := ⟨by decide, by decide⟩
  have hscale : Mismatch c other (.wrongScale "PRICE" 2 4) :=
    .scale hstored (.inl rfl) rfl (by decide)
  have hown : Repeats own c := by
    refine ⟨rfl, rfl, fun p hp => ?_, fun k hk => ?_⟩
    · exact Option.some.inj hp
    · exact Option.some.inj hk
  exact ⟨((validate_itemizes c other).1.mem_iff _).2 hscale, hown,
    (validate_itemizes c own).2.2.1 hown⟩

end Column

end TypedSql
