import TypedSql.Proofs.ColumnSteps

/-!
# Runs of a table

Whatever steps are taken on a table, whether or not each succeeds: its columns have different
identifiers and belong to it, columns are only ever added behind those that are there, and once it
is finalized nothing in it changes.  So a reference to a column stays good.
-/

namespace TypedSql

theorem exists_of_mem_mapM {α β ε : Type} {f : α → Except ε β} {xs : List α} {ys : List β}
    (h : xs.mapM f = .ok ys) {y : β} (hy : y ∈ ys) : ∃ x ∈ xs, f x = .ok y := by
  induction xs generalizing ys with
  | nil =>
    cases h
    cases hy
  | cons x xs ih =>
    rw [List.mapM_cons] at h
    cases hx : f x with
    | error e =>
      rw [hx] at h
      cases h
    | ok z =>
      cases hxs : xs.mapM f with
      | error e =>
        rw [hx, hxs] at h
        cases h
      | ok zs =>
        rw [hx, hxs] at h
        cases h
        rcases List.mem_cons.1 hy with rfl | hy
        · exact ⟨x, List.mem_cons_self, hx⟩
        · obtain ⟨x', hx', hf⟩ := ih hxs hy
          exact ⟨x', List.mem_cons_of_mem x hx', hf⟩

namespace Table

open Edit

variable {t : Table} {c : Column} {identifier : String}

/-! ## Columns of a table -/

def identifiers (t : Table) : List String := t.columns.map (·.identifier)

def labels (t : Table) : List (String × Option String) := t.columns.map Column.label

theorem map_fst_labels (t : Table) : t.labels.map Prod.fst = t.identifiers := by
  rw [labels, identifiers, List.map_map]
  rfl

theorem mem_of_column? (h : t.column? identifier = some c) :
    c ∈ t.columns ∧ c.identifier = identifier :=
  ⟨List.mem_of_find?_eq_some h, by simpa using List.find?_some h⟩

theorem isSome_column?_iff : (t.column? identifier).isSome = true ↔ identifier ∈ t.identifiers := by
  simp [column?, identifiers, List.find?_isSome]

theorem map_replace {α : Type} {f : Column → α} {c' : Column} {cs : List Column}
    (hc : cs.find? (·.identifier == identifier) = some c) (hc' : f c' = f c) :
    (replace identifier c' cs).map f = cs.map f := by
  induction cs with
  | nil => rfl
  | cons d cs ih =>
    rw [List.find?_cons] at hc
    rw [replace]
    cases hd : d.identifier == identifier with
    | true =>
      rw [hd] at hc
      obtain rfl : d = c := Option.some.inj hc
      rw [if_pos rfl, List.map_cons, List.map_cons, hc']
    | false =>
      rw [hd] at hc
      rw [if_neg Bool.false_ne_true, List.map_cons, List.map_cons, ih hc]

theorem labels_setColumn {c' : Column} (hc : t.column? identifier = some c)
    (hc' : c'.label = c.label) : (t.setColumn identifier c').labels = t.labels :=
  map_replace hc hc'

theorem labels_finalize (t : Table) : t.finalize.labels = t.labels := by
  unfold finalize
  cases t.finalized with
  | true => rfl
  | false =>
    change (t.columns.map Column.toSealed).map Column.label = t.columns.map Column.label
    rw [List.map_map]
    rfl

/-! ## What each step does -/

theorem on_add (c : Column) (t : Table) :
    (add c).on t =
      if t.finalized then (.error (.tableFinalized t.name), t)
      else if (t.column? c.identifier).isSome then
        (.error (.duplicateColumn t.name c.identifier), t)
      else (.ok (), { t with columns := t.columns ++ [c.attach t.name] }) := by
  rw [add, on_ensureOpen_bind, on_refuseIf_bind, on_modify]

theorem on_editColumn (identifier : String) (m : Edit Column Unit) (t : Table) :
    (editColumn identifier m).on t =
      if t.finalized then (.error (.tableFinalized t.name), t)
      else
        match t.column? identifier with
        | none => (.error (.unknownColumn t.name identifier), t)
        | some c => ((m.on c).1, t.setColumn identifier (m.on c).2) := by
  rw [editColumn, on_ensureOpen_bind, on_refuseIf_bind, on_within]
  cases t.column? identifier <;> rfl

/-- What a step may do to a table: nothing but to add a column of a new identifier behind the
others, as far as names go. -/
structure Extends (t t' : Table) : Prop where
  name : t'.name = t.name
  labels : t'.labels = t.labels ∨
    ∃ i, i ∉ t.identifiers ∧ t'.labels = t.labels ++ [(i, some t.name)]

theorem Extends.refl (t : Table) : t.Extends t := ⟨rfl, .inl rfl⟩

theorem extends_add (c : Column) (t : Table) : t.Extends ((add c).on t).2 := by
  rw [on_add]
  split
  · exact .refl t
  split
  · exact .refl t
  next hnew =>
    refine ⟨rfl, .inr ⟨c.identifier, ?_, ?_⟩⟩
    · rwa [← isSome_column?_iff]
    · exact List.map_append

theorem extends_editColumn {m : Edit Column Unit} (hm : ∀ c, (m.on c).2.label = c.label)
    (identifier : String) (t : Table) : t.Extends ((editColumn identifier m).on t).2 := by
  rw [on_editColumn]
  split
  · exact .refl t
  split
  · exact .refl t
  next c hc => exact ⟨rfl, .inl (labels_setColumn hc (hm c))⟩

theorem extends_on_step (s : TableStep) (t : Table) : t.Extends ((step s).on t).2 := by
  cases s with
  | add c => exact extends_add c t
  | configure identifier s => exact extends_editColumn (Column.label_on_step s) identifier t
  | copy identifier source =>
    exact extends_editColumn (Column.label_on_copyFrom source) identifier t
  | finalize =>
    refine ⟨?_, .inl (labels_finalize t)⟩
    change t.finalize.name = t.name
    unfold finalize
    cases t.finalized <;> rfl

theorem on_step_of_finalized (ht : t.finalized = true) (s : TableStep) : ((step s).on t).2 = t := by
  cases s with
  | add c => rw [step, on_add, if_pos ht]
  | configure identifier s => rw [step, on_editColumn, if_pos ht]
  | copy identifier source => rw [step, on_editColumn, if_pos ht]
  | finalize => exact if_pos ht

theorem finalized_finalize (t : Table) : t.finalize.finalized = true := by
  unfold finalize
  split
  · assumption
  · rfl

/-! ## Runs -/

/-- The table after steps, whether or not each of them succeeds. -/
def after (t : Table) (steps : List TableStep) : Table :=
  steps.foldl (fun t s => ((step s).on t).2) t

theorem after_of_finalized (ht : t.finalized = true) (steps : List TableStep) :
    t.after steps = t := by
  induction steps with
  | nil => rfl
  | cons s steps ih =>
    rw [after, List.foldl_cons, on_step_of_finalized ht]
    exact ih

/-- The columns have different identifiers and belong to the table of this name. -/
structure Labelled (name : String) (t : Table) : Prop where
  name_eq : t.name = name
  distinct : t.identifiers.Nodup
  owner : ∀ l ∈ t.labels, l.2 = some name

theorem Extends.labelled {name : String} {t' : Table} (h : t.Extends t') (ht : t.Labelled name) :
    t'.Labelled name := by
  refine ⟨h.name.trans ht.name_eq, ?_, ?_⟩
  · rw [← map_fst_labels]
    rcases h.labels with hl | ⟨i, hi, hl⟩
    · rw [hl, map_fst_labels]
      exact ht.distinct
    · rw [hl, List.map_append, map_fst_labels]
      refine List.nodup_append.2 ⟨ht.distinct, List.pairwise_singleton _ i, ?_⟩
      intro a ha b hb hab
      obtain rfl : b = i := List.mem_singleton.1 hb
      exact hi (hab ▸ ha)
  · intro l
    rcases h.labels with hl | ⟨i, -, hl⟩
    · rw [hl]
      exact ht.owner l
    · rw [hl, List.mem_append, List.mem_singleton]
      rintro (hmem | rfl)
      · exact ht.owner l hmem
      · rw [ht.name_eq]

theorem Extends.identifiers_le {t' : Table} (h : t.Extends t') :
    t.identifiers <+: t'.identifiers := by
  rw [← map_fst_labels, ← map_fst_labels]
  rcases h.labels with hl | ⟨i, -, hl⟩
  · exact ⟨[], by rw [hl, List.append_nil]⟩
  · rw [hl, List.map_append]
    exact List.prefix_append _ _

theorem labelled_new (name : String) : (new name).Labelled name :=
  ⟨rfl, List.nodup_nil, fun _ h => absurd h List.not_mem_nil⟩

theorem Labelled.after {name : String} (ht : t.Labelled name) (steps : List TableStep) :
    (t.after steps).Labelled name := by
  induction steps generalizing t with
  | nil => exact ht
  | cons s steps ih => exact ih ((extends_on_step s t).labelled ht)

theorem identifiers_le_after (t : Table) (steps : List TableStep) :
    t.identifiers <+: (t.after steps).identifiers := by
  induction steps generalizing t with
  | nil => exact List.prefix_rfl
  | cons s steps ih => exact (extends_on_step s t).identifiers_le.trans (ih _)

/-! ## References -/

theorem columnRef_eq_ok_iff {ref : ColumnRef} :
    t.columnRef identifier = .ok ref ↔ identifier ∈ t.identifiers ∧ ref = ⟨t.name, identifier⟩ := by
  rw [← isSome_column?_iff, columnRef]
  cases hc : t.column? identifier with
  | none => simp
  | some c => simp [(mem_of_column? hc).2, eq_comm]

theorem columnRef_of_mem_bind {member : String} {type : LogicalType} {identifiers : List String}
    {m : Mapping} (h : t.bind member type identifiers = .ok m) {ref : ColumnRef}
    (href : ref ∈ m.columns) : t.columnRef ref.column = .ok ref := by
  unfold bind at h
  split at h
  · cases h
  cases hm : identifiers.mapM t.columnRef with
  | error e =>
    rw [hm] at h
    cases h
  | ok refs =>
    rw [hm] at h
    cases h
    obtain ⟨i, -, hi⟩ := exists_of_mem_mapM hm href
    obtain ⟨-, rfl⟩ := columnRef_eq_ok_iff.1 hi
    exact hi

/-- A table has columns of different identifiers, all its own; columns are only added behind those
that are there; a finalized table stays as it is; and what a mapping refers to stays there. -/
theorem run_keeps_columns (name : String) (steps later : List TableStep) :
    let t := (new name).after steps
    let u := t.after later
    t.identifiers.Nodup ∧ (∀ c ∈ t.columns, c.table = some name) ∧
    t.identifiers <+: u.identifiers ∧
    t.after (.finalize :: later) = t.after [.finalize] ∧
    ∀ (member : String) (type : LogicalType) (identifiers : List String) (m : Mapping),
      t.bind member type identifiers = .ok m →
      ∀ ref ∈ m.columns, u.columnRef ref.column = .ok ref ∧
        ∃ c ∈ u.columns, c.identifier = ref.column ∧ c.table = some ref.table := by
  intro t u
  have ht : t.Labelled name := (labelled_new name).after steps
  have hu : u.Labelled name := ht.after later
  have htu : t.identifiers <+: u.identifiers := t.identifiers_le_after later
  have howner : ∀ c ∈ u.columns, c.table = some name :=
    fun c hc => hu.owner c.label (List.mem_map_of_mem hc)
  refine ⟨ht.distinct, fun c hc => ht.owner c.label (List.mem_map_of_mem hc), htu,
    after_of_finalized (finalized_finalize t) later, ?_⟩
  intro member type identifiers m hm ref href
  obtain ⟨hmem, hname⟩ := columnRef_eq_ok_iff.1 (columnRef_of_mem_bind hm href)
  have hlater : ref.column ∈ u.identifiers := htu.subset hmem
  obtain ⟨c, hc, hi⟩ := List.mem_map.1 hlater
  refine ⟨columnRef_eq_ok_iff.2 ⟨hlater, ?_⟩, c, hc, hi, ?_⟩
  · rw [hname, ht.name_eq, hu.name_eq]
  · rw [howner c hc, hname, ht.name_eq]

/-- Two columns are bound before the table is configured further, extended and finalized, and
before it refuses a third one. -/
theorem run_keeps_columns_of_orders :
    let steps : List TableStep :=
      [.add (.new "AMOUNT" .bigDecimal), .add (.new "CURRENCY" .string),
        .add (.new "AMOUNT" .long)]
    let later : List TableStep :=
      [.configure "AMOUNT" .primaryKey,
        .copy "AMOUNT" { Column.new "NOTE" .string with nullable := true },
        .add ((Column.new "ID" .long).attach "PEOPLE"), .finalize, .add (.new "TAX" .long)]
    let t := (new "ORDERS").after steps
    ∃ m, t.bind "total" .bigDecimal ["AMOUNT", "CURRENCY"] = .ok m ∧
      m.columns = [⟨"ORDERS", "AMOUNT"⟩, ⟨"ORDERS", "CURRENCY"⟩] ∧
      ∀ ref ∈ m.columns, (t.after later).columnRef ref.column = .ok ref := by
  intro steps later t
  have hbind : t.bind "total" .bigDecimal ["AMOUNT", "CURRENCY"] =
      .ok ⟨.bigDecimal, some "total", [⟨"ORDERS", "AMOUNT"⟩, ⟨"ORDERS", "CURRENCY"⟩]⟩ := by
    rfl
  refine ⟨_, hbind, rfl, fun ref href => ?_⟩
  have hrun := run_keeps_columns "ORDERS" steps later
  exact (hrun.2.2.2.2 _ _ _ _ hbind ref href).1

end Table

end TypedSql
