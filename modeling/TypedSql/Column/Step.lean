import TypedSql.Column.Basic
import TypedSql.Edit
import TypedSql.Observation.Event
import TypedSql.Text.Blank
import TypedSql.Value.Default

/-!
# Configuring columns

The edits by which a column is configured. Two rules hold throughout: a primary key is not
nullable, and a column that the datastore numbers by itself carries no default. A sealed column
refuses every edit.
-/

namespace TypedSql

namespace Column

/-! ## Edits -/

/-- A sealed column can no longer be configured. -/
def ensureOpen : Edit Column Unit := Edit.refuseIf isSealed fun c => .columnSealed c.identifier

theorem on_ensureOpen_bind (f : Unit → Edit Column Unit) (c : Column) :
    (ensureOpen >>= f).on c =
      if c.isSealed then (.error (.columnSealed c.identifier), c) else (f ()).on c :=
  Edit.on_refuseIf_bind _ _ f c

def setPrimaryKey : Edit Column Unit := do
  ensureOpen
  modify ({ · with primaryKey := true })
  modify ({ · with nullable := false })

def setNullable (b : Bool) : Edit Column Unit := do
  ensureOpen
  Edit.refuseIf (fun c => b && c.primaryKey) fun c => .nullablePrimaryKey c.identifier
  modify ({ · with nullable := b })

def setDefaultable (b : Bool) : Edit Column Unit := do
  ensureOpen
  modify ({ · with defaultable := b })

def setUnique (b : Bool) : Edit Column Unit := do
  ensureOpen
  modify ({ · with unique := b })

/-- Say whether the datastore numbers the column by itself. -/
def setIdentity (b : Bool) : Edit Column Unit := do
  ensureOpen
  Edit.refuseIf (fun c => b && c.default.isSome) fun c => .identityWithDefault c.identifier
  modify ({ · with identity := b })

def setDefault (v : Value) : Edit Column Unit := do
  ensureOpen
  Edit.refuseIf (·.identity) fun c => .identityWithDefault c.identifier
  modify ({ · with default := some v })

def setDeclared (m : DeclaredMeta) : Edit Column Unit := do
  ensureOpen
  modify ({ · with declared := m })

def setTypeInfo (info : TypeInfo) : Edit Column Unit := do
  ensureOpen
  modify ({ · with typeInfo := some info })
  modify ({ · with state := .configured })

/-- Constraints of blanks alone are none. -/
def setConstraints (s : String) : Edit Column Unit := do
  ensureOpen
  modify ({ · with constraints := if Text.hasInk s then some s else none })

def setWrapper (mode : WrapperMode) (template : String) : Edit Column Unit := do
  ensureOpen
  match Template.parse template with
  | .ok t => modify fun c => { c with wrappers := c.wrappers.set mode t }
  | .error e => throw (.template e)

/-- Take over the configuration of `source`. Identifier, table, stored type and primary key stay,
so the source may not be nullable if this column is a primary key. -/
def copyFrom (source : Column) : Edit Column Unit := do
  ensureOpen
  Edit.refuseIf (fun c => source.nullable && c.primaryKey) fun c => .nullablePrimaryKey c.identifier
  modify ({ · with nullable := source.nullable })
  modify ({ · with defaultable := source.defaultable })
  modify ({ · with unique := source.unique })
  modify ({ · with identity := source.identity })
  modify ({ · with default := source.default })
  modify ({ · with declared := source.declared })
  modify ({ · with typeInfo := source.typeInfo })
  modify ({ · with constraints := source.constraints })
  modify ({ · with wrappers := source.wrappers })
  Edit.modifyIf (← get).typeInfo.isSome ({ · with state := .configured })

/-- Take over what the datastore numbers or fills in by itself. A default that is there is kept,
and such a column does not become an identity. -/
def adopt (info : Introspected) : Edit Column Unit := do
  ensureOpen
  let c ← get
  if info.autoIncrement then
    Edit.modifyIf c.default.isNone ({ · with identity := true })
  else
    Edit.modifyIf info.default.isSome ({ · with defaultable := true })
    Edit.modifyIf (c.default.isNone && !c.identity)
      ({ · with default := info.default.bind Value.ofDefault? })

/-- A default that is kept although the datastore numbers the column is worth a warning. -/
def adoptNotes (c : Column) (info : Introspected) : List Note :=
  if !c.isSealed && info.autoIncrement && c.default.isSome then
    [⟨.warn, "datastore reports auto-increment on a column with a default; keeping default",
      [("column", c.identifier)]⟩]
  else []

end Column

/-! ## Steps as data -/

/-- One step of configuring a column by itself. -/
inductive ColumnStep where
  | primaryKey
  | nullable (b : Bool)
  | defaultable (b : Bool)
  | unique (b : Bool)
  | identity (b : Bool)
  | default (v : Value)
  | declared (m : DeclaredMeta)
  | typeInfo (info : TypeInfo)
  | constraints (s : String)
  | wrapper (mode : WrapperMode) (template : String)
  | adopt (info : Introspected)

namespace Column

def step : ColumnStep → Edit Column Unit
  | .primaryKey => setPrimaryKey
  | .nullable b => setNullable b
  | .defaultable b => setDefaultable b
  | .unique b => setUnique b
  | .identity b => setIdentity b
  | .default v => setDefault v
  | .declared m => setDeclared m
  | .typeInfo info => setTypeInfo info
  | .constraints s => setConstraints s
  | .wrapper mode template => setWrapper mode template
  | .adopt info => adopt info

/-- The notes that a step leaves. -/
def stepNotes (c : Column) : ColumnStep → List Note
  | .adopt info => c.adoptNotes info
  | _ => []

end Column

end TypedSql
