import TypedSql.Column.Comparison
import TypedSql.Column.Definition
import TypedSql.Column.Usage
import TypedSql.Proofs.Reachable

/-!
# Copied configurations

Copying makes two columns alike in everything that is configured (`Column.ConfiguredLike`).  What is
asked of a column, its definition, its wrappers, its differences from what a datastore reports and
the uses it is fit for, depends on its configuration and its name, and beyond that only on the
stored type of a column that has neither a declared type nor type information.  So the copy answers
as its source does, under its own name (`Column.BehavesLike`).
-/

namespace TypedSql

/-- The same failure of a column of another name. -/
def Failure.withColumn (column : String) : Failure → Failure
  | typeIncompatible _ expected actual => typeIncompatible column expected actual
  | wrongScale _ expected actual => wrongScale column expected actual
  | wrongPrecision _ expected actual => wrongPrecision column expected actual
  | nullabilityMismatch _ expected actual => nullabilityMismatch column expected actual
  | missingColumn table _ => missingColumn table column
  | definition _ usage declared => definition column usage declared

namespace Column

variable {c s : Column} {d : Dialect} {info : TypeInfo}

/-! ## Columns of one configuration -/

/-- The columns are configured alike. -/
structure ConfiguredLike (c s : Column) : Prop where
  nullable : c.nullable = s.nullable
  defaultable : c.defaultable = s.defaultable
  unique : c.unique = s.unique
  identity : c.identity = s.identity
  default : c.default = s.default
  declared : c.declared = s.declared
  typeInfo : c.typeInfo = s.typeInfo
  constraints : c.constraints = s.constraints
  wrappers : c.wrappers = s.wrappers

/-- The storage type of the column does not depend on its stored type. -/
def Typed (c : Column) : Prop := c.declared.jdbcType.isSome = true ∨ c.typeInfo.isSome = true

/-- The columns answer alike, each under its own name. -/
structure BehavesLike (c s : Column) : Prop where
  definition : ∀ (d : Dialect) (rest : String),
    s.definition d = .ok (d.name.quoteIdentifier s.identifier ++ rest) ↔
      c.definition d = .ok (d.name.quoteIdentifier c.identifier ++ rest)
  refusal : ∀ d : Dialect,
    (∃ rest, s.definition d = .ok (d.name.quoteIdentifier s.identifier ++ rest)) ∨
      ∃ e, (e = SchemaError.missingTypeInfo ∨ e = SchemaError.unrenderableDefault) ∧
        s.definition d = .error (e s.identifier) ∧ c.definition d = .error (e c.identifier)
  apply : ∀ mode text, c.wrappers.apply mode text = s.wrappers.apply mode text
  validate : s.Typed → ∀ info,
    (c.validate info).value = (s.validate info).value.map (.withColumn c.identifier)
  check : s.Typed → ∀ usage,
    (c.check usage).value = (s.check usage).value.map (.withColumn c.identifier)

theorem configuredLike_withConfiguration (c s : Column) :
    (c.withConfiguration s).ConfiguredLike s :=
  ⟨rfl, rfl, rfl, rfl, rfl, rfl, rfl, rfl, rfl⟩

namespace ConfiguredLike

variable (h : c.ConfiguredLike s)
include h

/-! ### Definitions -/

theorem typeSpec_eq (info : TypeInfo) (d : Dialect) : c.typeSpec info d = s.typeSpec info d := by
  simp only [typeSpec, sizes, h.declared]

theorem clauses_eq (d : Dialect) : c.clauses d = s.clauses d := by
  simp only [clauses, h.nullable, h.unique, h.identity, h.constraints]

theorem defaultClause_eq (d : Dialect) :
    (∃ clause, c.defaultClause d = .ok clause ∧ s.defaultClause d = .ok clause) ∨
      c.defaultClause d = .error (.unrenderableDefault c.identifier) ∧
        s.defaultClause d = .error (.unrenderableDefault s.identifier) := by
  simp only [defaultClause, h.default]
  cases s.default with
  | none => exact .inl ⟨"", rfl, rfl⟩
  | some v =>
    simp only
    cases d.name.literal? v with
    | none => exact .inr ⟨rfl, rfl⟩
    | some l => exact .inl ⟨_, rfl, rfl⟩

/-- Both are defined, alike behind the name, or both are refused for the same reason. -/
theorem definition_cases (d : Dialect) :
    (∃ rest, s.definition d = .ok (d.name.quoteIdentifier s.identifier ++ rest) ∧
      c.definition d = .ok (d.name.quoteIdentifier c.identifier ++ rest)) ∨
    ∃ e, (e = SchemaError.missingTypeInfo ∨ e = SchemaError.unrenderableDefault) ∧
      s.definition d = .error (e s.identifier) ∧ c.definition d = .error (e c.identifier) := by
  simp only [definition, h.typeInfo]
  cases s.typeInfo with
  | none => exact .inr ⟨_, .inl rfl, rfl, rfl⟩
  | some info =>
    simp only [h.typeSpec_eq, h.clauses_eq]
    rcases h.defaultClause_eq d with ⟨clause, hc, hs⟩ | ⟨hc, hs⟩
    · refine .inl ⟨" " ++ s.typeSpec info d ++ clause ++ s.clauses d, ?_, ?_⟩
      · simp only [hs, String.append_assoc]
      · simp only [hc, String.append_assoc]
    · refine .inr ⟨_, .inr rfl, ?_, ?_⟩
      · rw [hs]
      · rw [hc]

theorem definition_eq_ok_iff (d : Dialect) (rest : String) :
    s.definition d = .ok (d.name.quoteIdentifier s.identifier ++ rest) ↔
      c.definition d = .ok (d.name.quoteIdentifier c.identifier ++ rest) := by
  rcases h.definition_cases d with ⟨rest', hs, hc⟩ | ⟨e, -, hs, hc⟩
  · simp [hs, hc]
  · simp [hs, hc]

/-! ### Comparisons and uses -/

theorem jdbcType_eq (hs : s.Typed) : c.jdbcType = s.jdbcType := by
  unfold jdbcType
  rw [h.declared, h.typeInfo]
  cases hj : s.declared.jdbcType with
  | some t => rfl
  | none =>
    cases hi : s.typeInfo with
    | some info => rfl
    | none => simp [Typed, hj, hi] at hs

theorem failures_eq (hs : s.Typed) (info : Introspected) :
    c.failures info = (s.failures info).map (.withColumn c.identifier) := by
  have htype := h.jdbcType_eq hs
  have hprecision : ∀ stored, c.precisionFailures stored info =
      (s.precisionFailures stored info).map (.withColumn c.identifier) := by
    intro stored
    unfold precisionFailures
    rw [h.declared, htype]
    split
    · split <;> rfl
    · rfl
  have hscale : c.scaleFailures info =
      (s.scaleFailures info).map (.withColumn c.identifier) := by
    unfold scaleFailures
    rw [h.declared, htype]
    split
    · split <;> rfl
    · rfl
  have hnullability : c.nullabilityFailures info =
      (s.nullabilityFailures info).map (.withColumn c.identifier) := by
    unfold nullabilityFailures
    rw [h.nullable]
    split <;> rfl
  have htypes : c.typeFailures info = (s.typeFailures info).map (.withColumn c.identifier) := by
    unfold typeFailures
    rw [htype]
    split
    · split
      · rw [hprecision, hscale, List.map_append]
      · rfl
    · rfl
  rw [failures, failures, htypes, hnullability, List.map_append]

theorem usageFailure?_eq (hs : s.Typed) (usage : Usage) :
    c.usageFailure? usage = (s.usageFailure? usage).map (.withColumn c.identifier) := by
  have htype := h.jdbcType_eq hs
  have hmax : c.maxSize = s.maxSize := by rw [maxSize, maxSize, h.typeInfo]
  have hfits : c.fitsUsage usage = s.fitsUsage usage := by
    cases usage with
    | primitive => rw [fitsUsage, fitsUsage, fitsPrimitive, fitsPrimitive, htype]
    | integer => rw [fitsUsage, fitsUsage, fitsInteger, fitsInteger, htype, h.declared]
    | decimal =>
      rw [fitsUsage, fitsUsage, fitsDecimal, fitsDecimal, scaleFits, scaleFits, htype, hmax,
        h.declared]
    | string => rw [fitsUsage, fitsUsage, fitsString, fitsString, htype, hmax, h.declared]
  have hshape : c.shape = s.shape := by rw [shape, shape, htype, h.declared]
  unfold usageFailure?
  rw [hfits, hshape]
  split <;> rfl

theorem behavesLike : c.BehavesLike s where
  definition := h.definition_eq_ok_iff
  refusal d := by
    rcases h.definition_cases d with ⟨rest, hs, -⟩ | hrefused
    · exact .inl ⟨rest, hs⟩
    · exact .inr hrefused
  apply mode text := by rw [h.wrappers]
  validate hs info := by rw [value_validate, value_validate, h.failures_eq hs]
  check hs usage := by rw [value_check, value_check, h.usageFailure?_eq hs]

end ConfiguredLike

end Column

/-! ## Copying in a catalog -/

namespace Table

variable {identifier : String} {c' : Column}

theorem find?_replace {cs : List Column} (hc' : c'.identifier = identifier)
    (h : (cs.find? (·.identifier == identifier)).isSome = true) (i : String) :
    (replace identifier c' cs).find? (·.identifier == i) =
      if i = identifier then some c' else cs.find? (·.identifier == i) := by
  induction cs with
  | nil => cases h
  | cons d cs ih =>
    rw [replace]
    cases hd : d.identifier == identifier with
    | true =>
      obtain rfl : d.identifier = identifier := eq_of_beq hd
      simp only [if_true, List.find?_cons, hc']
      by_cases hi : i = d.identifier
      · simp [hi]
      · simp [hi, beq_eq_false_iff_ne.2 (Ne.symm hi)]
    | false =>
      rw [List.find?_cons, hd] at h
      simp only [Bool.false_eq_true, if_false, List.find?_cons, ih h]
      by_cases hi : i = identifier
      · simp [hi, hd]
      · simp [hi]

theorem column?_setColumn {t : Table} (hc' : c'.identifier = identifier)
    (h : (t.column? identifier).isSome = true) (i : String) :
    (t.setColumn identifier c').column? i = if i = identifier then some c' else t.column? i :=
  find?_replace hc' h i

end Table

namespace Catalog

variable {k : Catalog} {a b : Address} {s c : Column}

theorem column?_setColumn (k : Catalog) (handle : String) (c : Column) (a : Address) :
    (k.setColumn handle c).column? a = if a = .loose handle then some c else k.column? a := by
  cases a with
  | loose handle' =>
    change (k.columns.insert handle c).get? handle' = _
    simp only [SortedMap.get?_insert, Std.LawfulEqOrd.compare_eq_iff_eq, Address.loose.injEq]
    rfl
  | within table i =>
    rw [if_neg Address.noConfusion]
    rfl

theorem column?_within_of_table? {table : String} {t : Table} (ht : k.table? table = some t)
    (i : String) : k.column? (.within table i) = t.column? i := by
  rw [column?, ht]
  rfl

theorem column?_setTable_within (k : Catalog) (handle : String) (t : Table) (table i : String) :
    (k.setTable handle t).column? (.within table i) =
      if table = handle then t.column? i else k.column? (.within table i) := by
  change ((k.tables.insert handle t).get? table).bind (·.column? i) = _
  simp only [SortedMap.get?_insert, Std.LawfulEqOrd.compare_eq_iff_eq]
  split <;> rfl

/-- A copy that is not refused puts the copied configuration where it is to go, and nowhere else. -/
theorem column?_on_copyTo (hb : k.column? b = some c) (hok : ((copyTo b s).on k).1 = .ok ())
    (a : Address) :
    ((copyTo b s).on k).2.column? a =
      if a = b then some ((Column.copyFrom s).on c).2 else k.column? a := by
  cases b with
  | loose handle =>
    have hget : k.columns.get? handle = some c := hb
    simp only [copyTo, editLoose, Edit.on_within, hget, column?_setColumn]
  | within table identifier =>
    obtain ⟨t, ht, hc⟩ := Option.bind_eq_some_iff.1 hb
    have hidentifier : ((Column.copyFrom s).on c).2.identifier = identifier :=
      (congrArg Prod.fst (Column.label_on_copyFrom s c)).trans (Table.mem_of_column? hc).2
    simp only [copyTo, editTable, Edit.on_within, ht, Table.step, Table.on_editColumn, hc] at hok ⊢
    split at hok
    · cases hok
    next hopen =>
      rw [if_neg hopen]
      have hsome : (t.column? identifier).isSome = true := Option.isSome_of_eq_some hc
      cases a with
      | loose handle =>
        rw [if_neg Address.noConfusion]
        rfl
      | within table' i =>
        rw [column?_setTable_within, Table.column?_setColumn hidentifier hsome]
        simp only [Address.within.injEq]
        by_cases htable : table' = table
        · subst htable
          simp only [true_and, if_true]
          split
          · rfl
          · exact (column?_within_of_table? ht i).symm
        · simp [htable]

theorem value_exec_snd_eq_none_iff (k : Catalog) (command : SchemaCommand) :
    (k.exec command).value.2 = none ↔ ((run command).on k).1 = .ok () := by
  unfold exec
  generalize (run command).on k = r
  obtain ⟨e | ⟨⟩, k'⟩ := r
  · simp
  · simp

/-- A copy between columns that are there changes the target, unless it is refused, and nothing
else. -/
theorem column?_exec_copy (ha : k.column? a = some s) (hb : k.column? b = some c) (i : Address) :
    (k.exec (.copy a b)).value.1.column? i =
      if (k.exec (.copy a b)).value.2 = none ∧ i = b then some ((Column.copyFrom s).on c).2
      else k.column? i := by
  have hrun : (run (.copy a b)).on k = (copyTo b s).on k := by
    rw [run, withColumn, Edit.on_get_bind, ha]
  cases he : (k.exec (.copy a b)).value.2 with
  | some e => simp [exec_eq_self he]
  | none =>
    have hok := (value_exec_snd_eq_none_iff k _).1 he
    rw [hrun] at hok
    rw [value_exec_fst, hrun, column?_on_copyTo hb hok]
    simp

end Catalog

namespace Column

/-- Copying succeeds exactly on columns that are not sealed, except from a nullable column onto a
primary key.  The copy keeps its name, its table, the type it stores and whether it is the primary
key, and answers as its source does; no other column of a catalog changes. -/
theorem copied_behaves_like_source (s c : Column) :
    ((∃ c', (copyFrom s).on c = (.ok (), c')) ↔
      c.isSealed = false ∧ ¬ (s.nullable = true ∧ c.primaryKey = true)) ∧
    ∀ c', (copyFrom s).on c = (.ok (), c') →
      (c'.identifier = c.identifier ∧ c'.table = c.table ∧ c'.storedType = c.storedType ∧
        c'.primaryKey = c.primaryKey) ∧
      c'.BehavesLike s ∧
      ∀ (k : Catalog) (a b : Address), k.column? a = some s → k.column? b = some c →
        (∀ i, i ≠ b → (k.exec (.copy a b)).value.1.column? i = k.column? i) ∧
        ((k.exec (.copy a b)).value.2 = none →
          (k.exec (.copy a b)).value.1.column? b = some c') := by
  refine ⟨?_, fun c' h => ?_⟩
  · simp only [on_copyFrom_eq_ok_iff, exists_and_left, exists_eq, and_true, not_and,
      Bool.not_eq_true]
  obtain ⟨-, -, hc'⟩ := on_copyFrom_eq_ok_iff.1 h
  refine ⟨?_, ?_, fun k a b ha hb => ⟨fun i hi => ?_, fun hnone => ?_⟩⟩
  · rw [hc']
    exact ⟨rfl, rfl, rfl, rfl⟩
  · rw [hc']
    exact (configuredLike_withConfiguration c s).behavesLike
  · rw [Catalog.column?_exec_copy ha hb, if_neg fun h => hi h.2]
  · rw [Catalog.column?_exec_copy ha hb, if_pos ⟨hnone, rfl⟩, h]

/-- The configuration of a loose column is copied onto a column of a table. -/
theorem copied_behaves_like_source_of_notes :
    let s : Column :=
      { Column.new "note" .string with
        nullable := true
        default := some (.text "it's")
        declared := { jdbcType := some .varchar, length := some 40 }
        typeInfo := some { jdbcType := .varchar, typeName := "VARCHAR" } }
    let c : Column := { Column.new "remark" .long with table := some "orders" }
    let k : Catalog := { tables := .ofList [("t", ⟨"orders", [c], false⟩)],
                         columns := .ofList [("c", s)] }
    let c' := c.withConfiguration s
    (copyFrom s).on c = (.ok (), c') ∧ c'.BehavesLike s ∧
      (k.exec (.copy (.loose "c") (.within "t" "remark"))).value.1.column? (.loose "c") = some s ∧
      (k.exec (.copy (.loose "c") (.within "t" "remark"))).value.1.column? (.within "t" "remark") =
        some c' := by
  intro s c k c'
  have hcopy : (copyFrom s).on c = (.ok (), c') := by rfl
  have hs : k.column? (.loose "c") = some s := by decide
  have hc : k.column? (.within "t" "remark") = some c := by decide
  obtain ⟨-, hbehaves, hcatalog⟩ := (copied_behaves_like_source s c).2 c' hcopy
  obtain ⟨hothers, htarget⟩ := hcatalog k _ _ hs hc
  exact ⟨hcopy, hbehaves, (hothers (.loose "c") (by decide)).trans hs, htarget (by decide)⟩

end Column

end TypedSql
