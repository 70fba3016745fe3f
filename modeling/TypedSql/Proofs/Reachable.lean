import TypedSql.Proofs.TableRuns

/-!
# Reachable columns

The columns that come up while a schema is built, by any commands in any order and whether or not
each succeeds.  Columns are configured, copied onto each other, added to tables, taken out of them
and sealed in between.  What holds of new columns and is kept by every step, by being added to a
table and by being sealed holds of all of them, as far as copying keeps it too.
-/

namespace TypedSql

/-! ## What is kept -/

/-- It holds of new columns and is kept by everything but copying. -/
structure Column.Kept (P : Column → Prop) : Prop where
  new : ∀ identifier type, P (.new identifier type)
  step : ∀ {c c' s}, P c → c.Taken s c' → P c'
  attach : ∀ {c}, P c → ∀ table, P (c.attach table)
  toSealed : ∀ {c}, P c → P c.toSealed

namespace Column.Kept

variable {P : Column → Prop} (hP : Kept P) {c : Column} {t : Table}
include hP

theorem on_step (hc : P c) (s : ColumnStep) : P ((Column.step s).on c).2 := by
  rcases on_step_cases s c with h | h
  · rwa [h]
  · exact hP.step hc h

theorem on_add (ht : ∀ d ∈ t.columns, P d) (hc : P c) :
    ∀ d ∈ ((Table.add c).on t).2.columns, P d := by
  rw [Table.on_add]
  split
  · exact ht
  split
  · exact ht
  · intro d hd
    rcases List.mem_append.1 hd with hd | hd
    · exact ht d hd
    · rw [List.mem_singleton.1 hd]
      exact hP.attach hc t.name

theorem finalize (ht : ∀ d ∈ t.columns, P d) : ∀ d ∈ t.finalize.columns, P d := by
  unfold Table.finalize
  split
  · exact ht
  · intro d hd
    obtain ⟨c, hc, rfl⟩ := List.mem_map.1 hd
    exact hP.toSealed (ht c hc)

end Column.Kept

namespace Table

variable {P : Column → Prop} {t : Table}

theorem mem_replace {identifier : String} {c c' : Column} {cs : List Column}
    (h : c ∈ replace identifier c' cs) : c = c' ∨ c ∈ cs := by
  induction cs with
  | nil => exact .inr h
  | cons d cs ih =>
    rw [replace] at h
    split at h
    · rcases List.mem_cons.1 h with h | h
      · exact .inl h
      · exact .inr (List.mem_cons_of_mem d h)
    · rcases List.mem_cons.1 h with rfl | h
      · exact .inr List.mem_cons_self
      · exact (ih h).imp_right (List.mem_cons_of_mem d)

theorem forall_on_editColumn {identifier : String} {m : Edit Column Unit}
    (ht : ∀ d ∈ t.columns, P d)
    (hm : ∀ c, t.column? identifier = some c → P (m.on c).2) :
    ∀ d ∈ ((editColumn identifier m).on t).2.columns, P d := by
  rw [on_editColumn]
  split
  · exact ht
  split
  · exact ht
  next c hc =>
    intro d hd
    rcases mem_replace hd with rfl | hd
    · exact hm c hc
    · exact ht d hd

end Table

/-! ## Catalogs -/

namespace Catalog

/-- A column of the catalog, loose or in a table. -/
def Has (k : Catalog) (c : Column) : Prop :=
  (∃ handle, k.columns.get? handle = some c) ∨ ∃ handle t, k.table? handle = some t ∧ c ∈ t.columns

def All (P : Column → Prop) (k : Catalog) : Prop := ∀ c, k.Has c → P c

variable {P : Column → Prop} {k : Catalog} {c : Column} {t : Table} {handle : String} {a : Address}

theorem has_of_column? (h : k.column? a = some c) : k.Has c := by
  cases a with
  | loose handle => exact .inl ⟨handle, h⟩
  | within table identifier =>
    obtain ⟨t, ht, hc⟩ := Option.bind_eq_some_iff.1 h
    exact .inr ⟨table, t, ht, (Table.mem_of_column? hc).1⟩

theorem All.of_table? (hk : k.All P) (ht : k.table? handle = some t) : ∀ d ∈ t.columns, P d :=
  fun d hd => hk d (.inr ⟨handle, t, ht, hd⟩)

theorem All.setColumn (hk : k.All P) (hc : P c) (handle : String) : (k.setColumn handle c).All P := by
  rintro d (⟨handle', hd⟩ | hd)
  · change (k.columns.insert handle c).get? handle' = some d at hd
    rw [SortedMap.get?_insert] at hd
    split at hd
    · cases hd
      exact hc
    · exact hk d (.inl ⟨handle', hd⟩)
  · exact hk d (.inr hd)

theorem All.setTable (hk : k.All P) (ht : ∀ d ∈ t.columns, P d) (handle : String) :
    (k.setTable handle t).All P := by
  rintro d (hd | ⟨handle', t', ht', hd⟩)
  · exact hk d (.inl hd)
  · change (k.tables.insert handle t).get? handle' = some t' at ht'
    rw [SortedMap.get?_insert] at ht'
    split at ht'
    · cases ht'
      exact ht d hd
    · exact hk d (.inr ⟨handle', t', ht', hd⟩)

theorem All.editTable (hk : k.All P) {s : TableStep}
    (hs : ∀ t, k.table? handle = some t → ∀ d ∈ ((Table.step s).on t).2.columns, P d) :
    ((editTable handle s).on k).2.All P := by
  rw [Catalog.editTable, Edit.on_within]
  split
  next t ht => exact hk.setTable (hs t ht) handle
  · exact hk

theorem All.editLoose (hk : k.All P) {m : Edit Column Unit}
    (hm : ∀ c, k.columns.get? handle = some c → P (m.on c).2) :
    ((editLoose handle m).on k).2.All P := by
  rw [Catalog.editLoose, Edit.on_within]
  split
  next c hc => exact hk.setColumn (hm c hc) handle
  · exact hk

theorem All.withColumn (hk : k.All P) {f : Column → Edit Catalog Unit}
    (hf : ∀ c, k.column? a = some c → ((f c).on k).2.All P) : ((withColumn a f).on k).2.All P := by
  rw [Catalog.withColumn, Edit.on_get_bind]
  split
  next c hc => exact hf c hc
  · exact hk

/-- What is kept by everything but copying is kept by a command if it is kept by the copying that
the command does. -/
theorem All.run (hP : Column.Kept P) (hk : k.All P) (command : SchemaCommand)
    (hcopy : ∀ source target s c, command = .copy source target → k.column? source = some s →
      k.column? target = some c → P s → P c → P ((Column.copyFrom s).on c).2) :
    ((run command).on k).2.All P := by
  cases command with
  | newColumn handle identifier type => exact hk.setColumn (hP.new identifier type) handle
  | newTable handle name => exact hk.setTable (fun d hd => absurd hd List.not_mem_nil) handle
  | addNew table identifier type =>
    exact hk.editTable fun t ht => hP.on_add (hk.of_table? ht) (hP.new identifier type)
  | addCopy table handle =>
    exact hk.withColumn fun c hc =>
      hk.editTable fun t ht => hP.on_add (hk.of_table? ht) (hk c (has_of_column? hc))
  | take table identifier handle =>
    exact hk.withColumn fun c hc => hk.setColumn (hk c (has_of_column? hc)) handle
  | configure target s =>
    cases target with
    | loose handle => exact hk.editLoose fun c hc => hP.on_step (hk c (.inl ⟨handle, hc⟩)) s
    | within table identifier =>
      exact hk.editTable fun t ht => Table.forall_on_editColumn (hk.of_table? ht) fun c hc =>
        hP.on_step (hk.of_table? ht c (Table.mem_of_column? hc).1) s
  | copy source target =>
    refine hk.withColumn fun s hs => ?_
    have hPs := hk s (has_of_column? hs)
    cases target with
    | loose handle =>
      exact hk.editLoose fun c hc => hcopy source _ s c rfl hs hc hPs (hk c (.inl ⟨handle, hc⟩))
    | within table identifier =>
      refine hk.editTable fun t ht => Table.forall_on_editColumn (hk.of_table? ht) fun c hc => ?_
      have hcolumn : k.column? (.within table identifier) = some c :=
        Option.bind_eq_some_iff.2 ⟨t, ht, hc⟩
      exact hcopy source _ s c rfl hs hcolumn hPs (hk c (has_of_column? hcolumn))
  | finalize table => exact hk.editTable fun t ht => hP.finalize (hk.of_table? ht)

theorem value_exec_fst (k : Catalog) (command : SchemaCommand) :
    (k.exec command).value.1 = ((Catalog.run command).on k).2 := by
  unfold exec
  generalize (Catalog.run command).on k = r
  obtain ⟨e | _, k'⟩ := r <;> rfl

theorem all_empty (P : Column → Prop) : ({} : Catalog).All P := by
  rintro c (⟨handle, h⟩ | ⟨handle, t, h, -⟩)
  · cases h
  · cases h

/-! ## Runs -/

/-- The catalog after commands, whether or not each of them succeeds. -/
def after (k : Catalog) (commands : List SchemaCommand) : Catalog :=
  commands.foldl (fun k command => (k.exec command).value.1) k

theorem after_cons (k : Catalog) (command : SchemaCommand) (commands : List SchemaCommand) :
    k.after (command :: commands) = ((Catalog.run command).on k).2.after commands := by
  rw [after, List.foldl_cons, value_exec_fst]
  rfl

theorem All.after (hP : Column.Kept P)
    (hcopy : ∀ {s c}, P s → P c → P ((Column.copyFrom s).on c).2) (hk : k.All P)
    (commands : List SchemaCommand) : (k.after commands).All P := by
  induction commands generalizing k with
  | nil => exact hk
  | cons command commands ih =>
    rw [after_cons]
    exact ih (hk.run hP command fun _ _ _ _ _ _ _ => hcopy)

end Catalog

/-- Some commands build the column. -/
def Column.Reachable (c : Column) : Prop := ∃ commands, (Catalog.after {} commands).Has c

/-- What is kept by everything, copying included, holds of every reachable column. -/
theorem Column.Reachable.of_kept {P : Column → Prop} {c : Column} (h : c.Reachable) (hP : Kept P)
    (hcopy : ∀ {source c}, P source → P c → (source.nullable = true → c.primaryKey = false) →
      P (c.withConfiguration source)) : P c := by
  obtain ⟨commands, hc⟩ := h
  refine (Catalog.all_empty P).after hP (fun {source c} hs hc => ?_) commands c hc
  rcases on_copyFrom_cases source c with h | ⟨hk, h⟩
  · rwa [h]
  · rw [h]
    exact hcopy hs hc hk

end TypedSql
