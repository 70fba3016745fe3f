import TypedSql.Catalog

/-!
# Refused edits

An edit that makes all its checks before it writes leaves nothing behind when it is refused.  Every
edit of a column, of a table and of a whole catalog is of this kind, and a sealed column refuses
each of them.
-/

namespace TypedSql

/-! ## Checks and writes -/

namespace Edit

variable {σ τ α β : Type}

/-- The edit only looks. -/
def ReadOnly (m : Edit σ α) : Prop := ∀ s, (m.on s).2 = s

/-- The edit is never refused. -/
def Certain (m : Edit σ α) : Prop := ∀ s e, (m.on s).1 ≠ .error e

/-- If the edit is refused, all is as it was. -/
def Atomic (m : Edit σ α) : Prop := ∀ s e, (m.on s).1 = .error e → (m.on s).2 = s

variable {m : Edit σ α} {f : α → Edit σ β}

theorem readOnly_get : (get : Edit σ σ).ReadOnly := fun _ => rfl

theorem readOnly_refuseIf (p : σ → Bool) (e : σ → SchemaError) : (refuseIf p e).ReadOnly := by
  intro s
  rw [on_refuseIf]

theorem certain_get : (get : Edit σ σ).Certain := by
  intro s e h
  cases h

theorem certain_modify (g : σ → σ) : (modify g : Edit σ Unit).Certain := by
  intro s e h
  cases h

theorem certain_modifyIf (p : Bool) (g : σ → σ) : (modifyIf p g).Certain := by
  intro s e h
  rw [on_modifyIf] at h
  cases h

theorem Certain.bind (hm : m.Certain) (hf : ∀ a, (f a).Certain) : (m >>= f).Certain := by
  intro s e
  have hs := hm s
  rw [on_bind]
  generalize m.on s = r at hs ⊢
  obtain ⟨a | a, s'⟩ := r
  · exact absurd rfl (hs a)
  · exact hf a s' e

theorem Certain.after_modify {m : Edit σ α} (h : m.Certain) (g : σ → σ) :
    (modify g >>= fun _ => m : Edit σ α).Certain :=
  (certain_modify g).bind fun _ => h

theorem Certain.atomic (h : m.Certain) : m.Atomic := fun s e he => absurd he (h s e)

theorem atomic_throw (e : SchemaError) : (throw e : Edit σ α).Atomic := fun _ _ _ => rfl

/-- Checks come first. -/
theorem ReadOnly.bind_atomic (hm : m.ReadOnly) (hf : ∀ a, (f a).Atomic) : (m >>= f).Atomic := by
  intro s e
  have hs := hm s
  rw [on_bind]
  generalize m.on s = r at hs ⊢
  obtain ⟨a | a, s'⟩ := r
  · intro _
    exact hs
  · obtain rfl : s' = s := hs
    exact hf a s' e

/-- Editing a part is atomic if putting a part back where it was changes nothing. -/
theorem Atomic.within {m : Edit τ Unit} (hm : m.Atomic) {part? : σ → Option τ} {put : σ → τ → σ}
    (hput : ∀ s t, part? s = some t → put s t = s) : (within part? put m).Atomic := by
  intro s e
  rw [on_within]
  cases ht : part? s with
  | none =>
    intro h
    cases h
  | some t =>
    intro h
    change put s (m.on t).2 = s
    rw [hm t e h]
    exact hput s t ht

end Edit

/-! ## Columns -/

namespace Column

open Edit

theorem readOnly_ensureOpen : ensureOpen.ReadOnly := readOnly_refuseIf _ _

/-- Two checks, behind which nothing is refused. -/
theorem atomic_checked {p : Column → Bool} {e : Column → SchemaError} {m : Edit Column Unit}
    (hm : m.Certain) : (ensureOpen >>= fun _ => refuseIf p e >>= fun _ => m).Atomic :=
  readOnly_ensureOpen.bind_atomic fun _ => (readOnly_refuseIf p e).bind_atomic fun _ => hm.atomic

/-- One check, behind which nothing is refused. -/
theorem atomic_certain {m : Edit Column Unit} (hm : m.Certain) :
    (ensureOpen >>= fun _ => m).Atomic :=
  readOnly_ensureOpen.bind_atomic fun _ => hm.atomic

theorem atomic_step (s : ColumnStep) : (step s).Atomic := by
  cases s with
  | primaryKey => exact atomic_certain ((certain_modify _).after_modify _)
  | nullable b => exact atomic_checked (certain_modify _)
  | defaultable b => exact atomic_certain (certain_modify _)
  | unique b => exact atomic_certain (certain_modify _)
  | identity b => exact atomic_checked (certain_modify _)
  | default v => exact atomic_checked (certain_modify _)
  | declared m => exact atomic_certain (certain_modify _)
  | typeInfo info => exact atomic_certain ((certain_modify _).after_modify _)
  | constraints s => exact atomic_certain (certain_modify _)
  | wrapper mode template =>
    -- the template is read before it is stored
    refine readOnly_ensureOpen.bind_atomic fun _ => ?_
    cases Template.parse template with
    | ok t => exact (certain_modify _).atomic
    | error e => exact atomic_throw _
  | adopt info =>
    refine atomic_certain (certain_get.bind fun c => ?_)
    cases info.autoIncrement with
    | true => exact certain_modifyIf _ _
    | false => exact (certain_modifyIf _ _).bind fun _ => certain_modifyIf _ _

theorem atomic_copyFrom (source : Column) : (copyFrom source).Atomic := by
  refine atomic_checked ?_
  iterate 9 refine Certain.after_modify ?_ _
  exact certain_get.bind fun _ => certain_modifyIf _ _

/-- Behind the first check, whatever an edit would do. -/
theorem on_ensureOpen_bind_of_sealed {c : Column} (hc : c.state = .sealed)
    (f : Unit → Edit Column Unit) :
    (ensureOpen >>= f).on c = (.error (.columnSealed c.identifier), c) := by
  have hs : c.isSealed = true := decide_eq_true hc
  rw [on_ensureOpen_bind, if_pos hs]

theorem on_step_of_sealed {c : Column} (hc : c.state = .sealed) (s : ColumnStep) :
    (step s).on c = (.error (.columnSealed c.identifier), c) := by
  cases s <;> exact on_ensureOpen_bind_of_sealed hc _

theorem on_copyFrom_of_sealed {c : Column} (hc : c.state = .sealed) (source : Column) :
    (copyFrom source).on c = (.error (.columnSealed c.identifier), c) :=
  on_ensureOpen_bind_of_sealed hc _

end Column

/-! ## Tables -/

namespace Table

open Edit

theorem replace_of_find? {identifier : String} {c : Column} {cs : List Column}
    (h : cs.find? (·.identifier == identifier) = some c) : replace identifier c cs = cs := by
  induction cs with
  | nil => cases h
  | cons d cs ih =>
    rw [List.find?_cons] at h
    rw [replace]
    cases hd : d.identifier == identifier with
    | true =>
      rw [hd] at h
      cases h
      rfl
    | false =>
      rw [hd] at h
      exact congrArg (d :: ·) (ih h)

theorem setColumn_of_column? {t : Table} {identifier : String} {c : Column}
    (h : t.column? identifier = some c) : t.setColumn identifier c = t := by
  obtain ⟨name, columns, finalized⟩ := t
  exact congrArg (Table.mk name · finalized) (replace_of_find? h)

theorem readOnly_ensureOpen : ensureOpen.ReadOnly := readOnly_refuseIf _ _

theorem atomic_editColumn (identifier : String) {m : Edit Column Unit} (hm : m.Atomic) :
    (editColumn identifier m).Atomic :=
  readOnly_ensureOpen.bind_atomic fun _ => (readOnly_refuseIf _ _).bind_atomic fun _ =>
    hm.within fun _ _ => setColumn_of_column?

theorem atomic_step (s : TableStep) : (step s).Atomic := by
  cases s with
  | add c =>
    exact readOnly_ensureOpen.bind_atomic fun _ => (readOnly_refuseIf _ _).bind_atomic fun _ =>
      (certain_modify _).atomic
  | configure identifier s => exact atomic_editColumn identifier (Column.atomic_step s)
  | copy identifier source => exact atomic_editColumn identifier (Column.atomic_copyFrom source)
  | finalize => exact (certain_modify _).atomic

end Table

/-! ## Catalogs -/

namespace Catalog

open Edit

theorem atomic_editTable (handle : String) (s : TableStep) : (editTable handle s).Atomic :=
  (Table.atomic_step s).within fun k _ ht =>
    congrArg (Catalog.mk · k.columns) (SortedMap.insert_of_get?_eq_some ht)

theorem atomic_editLoose (handle : String) {m : Edit Column Unit} (hm : m.Atomic) :
    (editLoose handle m).Atomic :=
  hm.within fun k _ hc => congrArg (Catalog.mk k.tables) (SortedMap.insert_of_get?_eq_some hc)

theorem atomic_withColumn (a : Address) {f : Column → Edit Catalog Unit}
    (hf : ∀ c, (f c).Atomic) : (withColumn a f).Atomic := by
  refine readOnly_get.bind_atomic fun k => ?_
  cases k.column? a with
  | none => exact fun _ _ _ => rfl
  | some c => exact hf c

theorem atomic_run (command : SchemaCommand) : (run command).Atomic := by
  cases command with
  | newColumn handle identifier type => exact (certain_modify _).atomic
  | newTable handle name => exact (certain_modify _).atomic
  | addNew table identifier type => exact atomic_editTable table _
  | addCopy table handle => exact atomic_withColumn _ fun c => atomic_editTable table _
  | take table identifier handle =>
    exact atomic_withColumn _ fun c => (certain_modify _).atomic
  | configure target s =>
    cases target with
    | loose handle => exact atomic_editLoose handle (Column.atomic_step s)
    | within table identifier => exact atomic_editTable table _
  | copy source target =>
    refine atomic_withColumn source fun c => ?_
    cases target with
    | loose handle => exact atomic_editLoose handle (Column.atomic_copyFrom c)
    | within table identifier => exact atomic_editTable table _
  | finalize table => exact atomic_editTable table _

theorem exec_eq_self {k : Catalog} {command : SchemaCommand} {e : SchemaError}
    (h : (k.exec command).value.2 = some e) : (k.exec command).value.1 = k := by
  have hrun := atomic_run command k
  unfold exec at h ⊢
  generalize (run command).on k = r at h hrun ⊢
  obtain ⟨x | _, k'⟩ := r
  · exact hrun x rfl
  · cases h

end Catalog

/-- An edit of a column or a table that is refused leaves it as it was, a command that is refused
leaves every column and table as it was, and a sealed column refuses every edit. -/
theorem refused_edits_change_nothing :
    (∀ s, (Column.step s).Atomic) ∧ (∀ source, (Column.copyFrom source).Atomic) ∧
    (∀ s, (Table.step s).Atomic) ∧
    (∀ (k : Catalog) (command : SchemaCommand) (e : SchemaError),
      (k.exec command).value.2 = some e → (k.exec command).value.1 = k) ∧
    ∀ c : Column, c.state = .sealed →
      (∀ s, (Column.step s).on c = (.error (.columnSealed c.identifier), c)) ∧
      ∀ source, (Column.copyFrom source).on c = (.error (.columnSealed c.identifier), c) :=
  ⟨Column.atomic_step, Column.atomic_copyFrom, Table.atomic_step,
    fun _ _ _ => Catalog.exec_eq_self,
    fun _ hc => ⟨Column.on_step_of_sealed hc, Column.on_copyFrom_of_sealed hc⟩⟩

/-- A nullable loose column cannot be copied onto the primary key of a table, and a sealed key
refuses a wrapper, well-formed or not. -/
theorem refused_edits_change_nothing_on_keys :
    let source : Column := { Column.new "note" .string with nullable := true }
    let key : Column := { Column.new "id" .long with table := some "notes", primaryKey := true }
    let k : Catalog := { tables := .ofList [("t", ⟨"notes", [key], false⟩)],
                         columns := .ofList [("c", source)] }
    let command : SchemaCommand := .copy (.loose "c") (.within "t" "id")
    (k.exec command).value.2 = some (.nullablePrimaryKey "id") ∧ (k.exec command).value.1 = k ∧
      (Column.step (.wrapper .select "F(?,?)")).on key.toSealed =
        (.error (.columnSealed "id"), key.toSealed) := by
  intro source key k command
  have hrefused : (k.exec command).value.2 = some (.nullablePrimaryKey "id") := by decide
  exact ⟨hrefused, refused_edits_change_nothing.2.2.2.1 k command _ hrefused,
    (refused_edits_change_nothing.2.2.2.2 key.toSealed rfl).1 _⟩

end TypedSql
