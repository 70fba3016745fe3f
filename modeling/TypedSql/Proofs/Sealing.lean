import TypedSql.Proofs.Reachable

/-!
# Sealed columns

Finalizing a table seals its columns.  But a column may be sealed when it is added, as a copy of a
column of another table that is finalized; it is added as it is, and stays sealed while its table is
open.  Nothing else seals a column, and nothing opens one (`Table.sealed_with_table`).
-/

namespace TypedSql

/-! ## One column -/

namespace Column

variable {c : Column}

theorem isSealed_on_step (s : ColumnStep) (c : Column) :
    ((step s).on c).2.isSealed = c.isSealed := by
  cases hc : c.isSealed with
  | true => rw [on_step_of_sealed (of_decide_eq_true hc), hc]
  | false =>
    rcases on_step_cases s c with h | h
    · rw [h, hc]
    · generalize ((step s).on c).2 = c' at h
      cases h with
      | typeInfo => rfl
      | _ => exact hc

theorem isSealed_on_copyFrom (source c : Column) :
    ((copyFrom source).on c).2.isSealed = c.isSealed := by
  cases hc : c.isSealed with
  | true => rw [on_copyFrom_of_sealed (of_decide_eq_true hc), hc]
  | false =>
    rcases on_copyFrom_cases source c with h | ⟨-, h⟩
    · rw [h, hc]
    · rw [h]
      change (c.withConfiguration source).isSealed = false
      unfold isSealed withConfiguration
      cases source.typeInfo.isSome with
      | true => rfl
      | false => exact hc

theorem on_step_ne_columnSealed (hc : c.isSealed = false) (s : ColumnStep) (i : String) :
    ((step s).on c).1 ≠ .error (.columnSealed i) := by
  intro h
  cases s with
  | primaryKey => simp [step, on_setPrimaryKey hc] at h
  | nullable b =>
    rw [step, on_setNullable hc] at h
    split at h <;> cases h
  | defaultable b => simp [step, on_setDefaultable hc] at h
  | unique b => simp [step, on_setUnique hc] at h
  | identity b =>
    rw [step, on_setIdentity hc] at h
    split at h <;> cases h
  | default v =>
    rw [step, on_setDefault hc] at h
    split at h <;> cases h
  | declared m => simp [step, on_setDeclared hc] at h
  | typeInfo info => simp [step, on_setTypeInfo hc] at h
  | constraints s => simp [step, on_setConstraints hc] at h
  | wrapper mode template =>
    rw [step, on_setWrapper hc] at h
    split at h <;> cases h
  | adopt info => simp [step, on_adopt hc] at h

/-- A step is refused on account of a seal exactly if there is one. -/
theorem on_step_eq_columnSealed_iff (s : ColumnStep) :
    ((step s).on c).1 = .error (.columnSealed c.identifier) ↔ c.isSealed = true := by
  cases hc : c.isSealed with
  | true => simp [on_step_of_sealed (of_decide_eq_true hc)]
  | false => simp [on_step_ne_columnSealed hc]

theorem on_copyFrom_eq_columnSealed_iff (source : Column) :
    ((copyFrom source).on c).1 = .error (.columnSealed c.identifier) ↔ c.isSealed = true := by
  cases hc : c.isSealed with
  | true => simp [on_copyFrom_of_sealed (of_decide_eq_true hc)]
  | false =>
    rw [on_copyFrom hc]
    split <;> simp

end Column

/-! ## The columns of a table -/

namespace Table

variable {t : Table} {c : Column} {cs : List Column} {identifier : String}

/-- The column that a step adds to a table, if it is not refused. -/
def added (t : Table) : TableStep → List Column
  | .add c => if ((add c).on t).1.isOk then [c] else []
  | .configure .. | .copy .. | .finalize => []

/-- The columns that steps add to a table, each as it is when it is added. -/
def admitted : Table → List TableStep → List Column
  | _, [] => []
  | t, s :: steps => t.added s ++ admitted ((step s).on t).2 steps

/-- The columns of the table are these ones, sealed if they were or if the table is finalized. -/
def Seals (t : Table) (cs : List Column) : Prop :=
  t.columns.map (fun c => (c.identifier, c.isSealed)) =
    cs.map fun c => (c.identifier, c.isSealed || t.finalized)

theorem seals_new (name : String) : (new name).Seals [] := rfl

theorem Seals.on_add (h : t.Seals cs) (c : Column) :
    ((add c).on t).2.Seals (cs ++ t.added (.add c)) := by
  rw [added, Table.on_add]
  split
  · simpa [Except.isOk, Except.toBool] using h
  next hopen =>
    split
    · simpa [Except.isOk, Except.toBool] using h
    · have hopen : t.finalized = false := by simpa using hopen
      unfold Seals at h ⊢
      simp only [Except.isOk, Except.toBool, if_true, List.map_append, h, hopen]
      simp [Column.attach, Column.isSealed]

theorem Seals.on_editColumn {m : Edit Column Unit} (h : t.Seals cs)
    (hidentifier : ∀ c, (m.on c).2.identifier = c.identifier)
    (hseal : ∀ c, (m.on c).2.isSealed = c.isSealed) (identifier : String) :
    ((editColumn identifier m).on t).2.Seals cs := by
  rw [Table.on_editColumn]
  split
  · exact h
  split
  · exact h
  next c hc =>
    have hsame : (t.setColumn identifier (m.on c).2).columns.map
        (fun c => (c.identifier, c.isSealed)) =
          t.columns.map fun c => (c.identifier, c.isSealed) :=
      map_replace hc (Prod.ext (hidentifier c) (hseal c))
    unfold Seals
    rw [hsame]
    exact h

theorem Seals.finalize (h : t.Seals cs) : t.finalize.Seals cs := by
  unfold Table.finalize
  cases ht : t.finalized with
  | true => exact h
  | false =>
    have hidentifiers : t.columns.map (·.identifier) = cs.map (·.identifier) := by
      simpa [Function.comp_def] using congrArg (List.map Prod.fst) h
    calc
      (t.columns.map Column.toSealed).map (fun c => (c.identifier, c.isSealed))
        = (t.columns.map (·.identifier)).map (·, true) := by
          simp [Function.comp_def, Column.toSealed, Column.isSealed]
      _ = (cs.map (·.identifier)).map (·, true) := by rw [hidentifiers]
      _ = cs.map (fun c => (c.identifier, c.isSealed || true)) := by simp [Function.comp_def]

theorem Seals.on_step (h : t.Seals cs) (s : TableStep) :
    ((step s).on t).2.Seals (cs ++ t.added s) := by
  cases s with
  | add c => exact h.on_add c
  | configure identifier s =>
    rw [added, List.append_nil]
    exact h.on_editColumn (fun c => congrArg Prod.fst (Column.label_on_step s c))
      (Column.isSealed_on_step s) identifier
  | copy identifier source =>
    rw [added, List.append_nil]
    exact h.on_editColumn (fun c => congrArg Prod.fst (Column.label_on_copyFrom source c))
      (Column.isSealed_on_copyFrom source) identifier
  | finalize =>
    rw [added, List.append_nil]
    exact h.finalize

theorem Seals.after (h : t.Seals cs) (steps : List TableStep) :
    (t.after steps).Seals (cs ++ t.admitted steps) := by
  induction steps generalizing t cs with
  | nil =>
    rw [admitted, List.append_nil]
    exact h
  | cons s steps ih =>
    rw [admitted, ← List.append_assoc]
    exact ih (h.on_step s)

theorem Seals.forall_iff (h : t.Seals cs) (p : Bool → Prop) :
    (∀ c ∈ t.columns, p c.isSealed) ↔ ∀ c ∈ cs, p (c.isSealed || t.finalized) := by
  have hseals : t.columns.map Column.isSealed = cs.map fun c => c.isSealed || t.finalized := by
    simpa [Function.comp_def] using congrArg (List.map Prod.snd) h
  calc
    (∀ c ∈ t.columns, p c.isSealed)
      ↔ ∀ b ∈ t.columns.map Column.isSealed, p b := List.forall_mem_map.symm
    _ ↔ ∀ b ∈ cs.map fun c => c.isSealed || t.finalized, p b := by rw [hseals]
    _ ↔ ∀ c ∈ cs, p (c.isSealed || t.finalized) := List.forall_mem_map

theorem Seals.together_iff (h : t.Seals cs) :
    (∀ c ∈ t.columns, (c.isSealed = true ↔ t.finalized = true)) ↔
      t.finalized = true ∨ ∀ c ∈ cs, c.isSealed = false := by
  rw [h.forall_iff fun b => b = true ↔ t.finalized = true]
  cases t.finalized <;> simp

/-! ## Editing the columns of an open table -/

theorem fst_on_editColumn (ht : t.finalized = false) (hc : t.column? identifier = some c)
    (m : Edit Column Unit) : ((editColumn identifier m).on t).1 = (m.on c).1 := by
  rw [on_editColumn, ht, hc]
  rfl

/-- The columns of a table are those that were added to it, each of them sealed exactly if it was
when it was added or the table is finalized.  So they are sealed together with the table exactly if
it is finalized or no sealed column was ever added; and as long as it is open, what edits one of its
columns is refused on account of a seal exactly if this column is sealed. -/
theorem sealed_with_table (name : String) (steps : List TableStep) :
    let t := (new name).after steps
    let cs := (new name).admitted steps
    t.columns.map (fun c => (c.identifier, c.isSealed)) =
      cs.map (fun c => (c.identifier, c.isSealed || t.finalized)) ∧
    ((∀ c ∈ t.columns, (c.isSealed = true ↔ t.finalized = true)) ↔
      t.finalized = true ∨ ∀ c ∈ cs, c.isSealed = false) ∧
    ∀ identifier c, t.finalized = false → t.column? identifier = some c →
      (∀ s, ((step (.configure identifier s)).on t).1 = .error (.columnSealed identifier) ↔
        c.isSealed = true) ∧
      ∀ source, ((step (.copy identifier source)).on t).1 = .error (.columnSealed identifier) ↔
        c.isSealed = true := by
  intro t cs
  have hseals : t.Seals cs := (seals_new name).after steps
  refine ⟨hseals, hseals.together_iff, fun identifier c ht hc => ?_⟩
  obtain rfl := (mem_of_column? hc).2
  refine ⟨fun s => ?_, fun source => ?_⟩
  · rw [step, fst_on_editColumn ht hc]
    exact Column.on_step_eq_columnSealed_iff s
  · rw [step, fst_on_editColumn ht hc]
    exact Column.on_copyFrom_eq_columnSealed_iff source

/-- A sealed copy comes in between two new columns, one of which is not added a second time, and all
three are there to be configured. -/
theorem sealed_with_table_of_orders :
    let key : Column := ((Column.new "ID" .long).attach "PEOPLE").toSealed
    let steps : List TableStep :=
      [.add (.new "AMOUNT" .bigDecimal), .add key, .add (.new "AMOUNT" .long),
        .configure "AMOUNT" (.nullable true), .configure "ID" (.unique true),
        .add (.new "NOTE" .string)]
    let t := (new "ORDERS").after steps
    ∃ c, t.finalized = false ∧ t.column? "ID" = some c ∧
      t.columns.map (fun c => (c.identifier, c.isSealed)) =
        [("AMOUNT", false), ("ID", true), ("NOTE", false)] ∧
      ∀ s, ((step (.configure "ID" s)).on t).1 = .error (.columnSealed "ID") := by
  intro key steps t
  have hrun := sealed_with_table "ORDERS" steps
  have ht : t.finalized = false := by decide
  have hc : t.column? "ID" = some { key with table := some "ORDERS" } := by decide
  refine ⟨_, ht, hc, hrun.1.trans (by decide), fun s => ?_⟩
  exact ((hrun.2.2 "ID" _ ht hc).1 s).2 (by decide)

end Table

/-- A column taken from a finalized table is added to an open one, where it can no longer be
configured. -/
theorem Catalog.exists_sealed_in_open_table :
    let commands : List SchemaCommand :=
      [.newTable "a" "PEOPLE", .addNew "a" "ID" .long, .finalize "a", .take "a" "ID" "c",
        .newTable "b" "ORDERS", .addCopy "b" "c"]
    ∃ t c, (Catalog.after {} commands).table? "b" = some t ∧ t.finalized = false ∧
      c ∈ t.columns ∧ c.table = some t.name ∧ c.isSealed = true ∧
      ∀ s, ((Table.step (.configure "ID" s)).on t).1 = .error (.columnSealed "ID") := by
  intro commands
  let c : Column := { Column.new "ID" .long with table := some "ORDERS", state := .sealed }
  let t : Table := { name := "ORDERS", columns := [c] }
  refine ⟨t, c, by decide, rfl, List.mem_singleton_self c, rfl, rfl, fun s => ?_⟩
  have hc : t.column? "ID" = some c := rfl
  rw [Table.step, Table.fst_on_editColumn rfl hc]
  exact (Column.on_step_eq_columnSealed_iff s).2 rfl

end TypedSql
