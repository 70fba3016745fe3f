import TypedSql.SchemaError

/-!
# Edits in place

Columns and tables are set up in place. An edit may be refused, and what it has written by then
stays written; so an edit that is to leave nothing half done has to make its checks first.
-/

namespace TypedSql

/-- An edit of a `σ` in place, with a result unless it is refused. -/
abbrev Edit (σ α : Type) := ExceptT SchemaError (StateM σ) α

namespace Edit

variable {σ τ α β : Type}

/-- The result of an edit, or why it was refused, and what it leaves in place. -/
def on (m : Edit σ α) (s : σ) : Except SchemaError α × σ := m.run.run s

/-- Refuse what is in place for a reason. -/
def refuseIf (p : σ → Bool) (e : σ → SchemaError) : Edit σ Unit := do
  let s ← get
  if p s then throw (e s)

def modifyIf (p : Bool) (f : σ → σ) : Edit σ Unit := if p then modify f else pure ()

/-- Edit a part, if it is there. What the edit leaves of the part is put back even if it was
refused. -/
def within (part? : σ → Option τ) (put : σ → τ → σ) (m : Edit τ Unit) : Edit σ Unit := do
  match part? (← get) with
  | some t =>
    modify (put · (m.on t).2)
    ofExcept (m.on t).1
  | none => pure ()

/-! ## What they do -/

@[simp] theorem on_pure (a : α) (s : σ) : (pure a : Edit σ α).on s = (.ok a, s) := rfl

@[simp] theorem on_throw (e : SchemaError) (s : σ) :
    (throw e : Edit σ α).on s = (.error e, s) := rfl

@[simp] theorem on_get (s : σ) : (get : Edit σ σ).on s = (.ok s, s) := rfl

@[simp] theorem on_modify (f : σ → σ) (s : σ) : (modify f : Edit σ Unit).on s = (.ok (), f s) := rfl

theorem on_bind (m : Edit σ α) (f : α → Edit σ β) (s : σ) :
    (m >>= f).on s =
      match m.on s with
      | (.ok a, s') => (f a).on s'
      | (.error e, s') => (.error e, s') := by
  change (StateT.run (m.run >>= ExceptT.bindCont f) s) = _
  rw [StateT.run_bind]
  change (ExceptT.bindCont f (m.on s).1).run (m.on s).2 = _
  obtain ⟨a | e, s'⟩ := m.on s <;> rfl

@[simp] theorem on_get_bind (f : σ → Edit σ α) (s : σ) : (get >>= f).on s = (f s).on s := by
  rw [on_bind, on_get]

@[simp] theorem on_refuseIf (p : σ → Bool) (e : σ → SchemaError) (s : σ) :
    (refuseIf p e).on s = (if p s then .error (e s) else .ok (), s) := by
  rw [refuseIf, on_get_bind]
  cases p s <;> rfl

@[simp] theorem on_modifyIf (p : Bool) (f : σ → σ) (s : σ) :
    (modifyIf p f).on s = (.ok (), if p then f s else s) := by
  cases p <;> rfl

@[simp] theorem on_modify_bind (g : σ → σ) (f : Unit → Edit σ α) (s : σ) :
    (modify g >>= f).on s = (f ()).on (g s) := by
  rw [on_bind, on_modify]

@[simp] theorem on_modifyIf_bind (p : Bool) (g : σ → σ) (f : Unit → Edit σ α) (s : σ) :
    (modifyIf p g >>= f).on s = (f ()).on (if p then g s else s) := by
  rw [on_bind, on_modifyIf]

@[simp] theorem on_refuseIf_bind (p : σ → Bool) (e : σ → SchemaError) (f : Unit → Edit σ α)
    (s : σ) : (refuseIf p e >>= f).on s = if p s then (.error (e s), s) else (f ()).on s := by
  rw [on_bind, on_refuseIf]
  cases p s <;> rfl

theorem on_within (part? : σ → Option τ) (put : σ → τ → σ) (m : Edit τ Unit) (s : σ) :
    (within part? put m).on s =
      match part? s with
      | some t => ((m.on t).1, put s (m.on t).2)
      | none => (.ok (), s) := by
  rw [within, on_get_bind]
  cases part? s with
  | none => exact on_pure () s
  | some t =>
    dsimp only
    rw [on_modify_bind]
    cases (m.on t).1 <;> rfl

end Edit

end TypedSql
