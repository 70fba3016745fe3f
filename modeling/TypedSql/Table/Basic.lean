import TypedSql.Column.Step
import TypedSql.Mapping

/-!
# Tables

A table holds columns of different identifiers, in the order in which they were added. Finalizing
it seals the columns, and from then on nothing in it changes.
-/

namespace TypedSql

structure Table where
  name : String
  columns : List Column := []
  finalized : Bool := false
  deriving DecidableEq, Inhabited

namespace Table

def new (name : String) : Table := { name := name }

def column? (t : Table) (identifier : String) : Option Column :=
  t.columns.find? fun c => c.identifier == identifier

/-- The same configuration, defaults being compared as values. -/
def eqv (a b : Table) : Bool :=
  a.name == b.name && a.finalized == b.finalized && a.columns.length == b.columns.length &&
    (a.columns.zip b.columns).all fun p => p.1.eqv p.2

/-! ## Building -/

/-- A finalized table does not change. -/
def ensureOpen : Edit Table Unit := Edit.refuseIf (·.finalized) fun t => .tableFinalized t.name

theorem on_ensureOpen_bind (f : Unit → Edit Table Unit) (t : Table) :
    (ensureOpen >>= f).on t =
      if t.finalized then (.error (.tableFinalized t.name), t) else (f ()).on t :=
  Edit.on_refuseIf_bind _ _ f t

/-- Add a column of a new identifier, which then belongs to the table. -/
def add (c : Column) : Edit Table Unit := do
  ensureOpen
  Edit.refuseIf (fun t => (t.column? c.identifier).isSome) fun t =>
    .duplicateColumn t.name c.identifier
  modify fun t => { t with columns := t.columns ++ [c.attach t.name] }

/-- Replace the first column of an identifier. -/
def replace (identifier : String) (c' : Column) : List Column → List Column
  | [] => []
  | c :: cs => if c.identifier == identifier then c' :: cs else c :: replace identifier c' cs

def setColumn (t : Table) (identifier : String) (c : Column) : Table :=
  { t with columns := replace identifier c t.columns }

/-- Edit one of the columns. -/
def editColumn (identifier : String) (m : Edit Column Unit) : Edit Table Unit := do
  ensureOpen
  Edit.refuseIf (fun t => (t.column? identifier).isNone) fun t => .unknownColumn t.name identifier
  Edit.within (·.column? identifier) (·.setColumn identifier) m

/-- Seal every column. -/
def finalize (t : Table) : Table :=
  if t.finalized then t
  else { t with columns := t.columns.map Column.toSealed, finalized := true }

def finalizeNotes (t : Table) : List Note :=
  if t.finalized then []
  else
    [⟨.debug, "table finalized",
      [("table", t.name), ("columns", toString t.columns.length)]⟩]

/-! ## References -/

def columnRef (t : Table) (identifier : String) : Except SchemaError ColumnRef :=
  match t.column? identifier with
  | some c => .ok ⟨t.name, c.identifier⟩
  | none => .error (.unknownColumn t.name identifier)

/-- The mapping of a member to columns of a table, of which there must be at least one. -/
def bind (t : Table) (member : String) (type : LogicalType) (identifiers : List String) :
    Except SchemaError Mapping :=
  if identifiers.isEmpty then .error (.emptyMapping member)
  else (identifiers.mapM t.columnRef).map fun refs => ⟨type, some member, refs⟩

end Table

/-! ## Steps as data -/

/-- One step of building a table. -/
inductive TableStep where
  | add (c : Column)
  | configure (identifier : String) (step : ColumnStep)
  | copy (identifier : String) (source : Column)
  | finalize

namespace Table

def step : TableStep → Edit Table Unit
  | .add c => add c
  | .configure identifier step => editColumn identifier (Column.step step)
  | .copy identifier source => editColumn identifier (Column.copyFrom source)
  | .finalize => modify finalize

end Table

end TypedSql
