import TypedSql.SortedMap
import TypedSql.Table.Basic

/-!
# Catalogs

A catalog holds the tables and the loose columns of a schema under construction, each under a
handle. Commands build and configure them, one after the other, whether or not each succeeds.
-/

namespace TypedSql

structure Catalog where
  tables : SortedMap String Table := ∅
  columns : SortedMap String Column := ∅
  deriving DecidableEq, Inhabited

/-- Where a column is: loose under a handle, or in the table of a handle. -/
inductive Address where
  | loose (handle : String)
  | within (table identifier : String)
  deriving DecidableEq, Inhabited

/-- A step in building a schema. -/
inductive SchemaCommand where
  | newColumn (handle identifier : String) (type : LogicalType)
  | newTable (handle name : String)
  | addNew (table identifier : String) (type : LogicalType)
  | addCopy (table handle : String)
  | take (table identifier handle : String)
  | configure (target : Address) (step : ColumnStep)
  | copy (source target : Address)
  | finalize (table : String)

namespace Catalog

def table? (k : Catalog) (handle : String) : Option Table := k.tables.get? handle

def column? (k : Catalog) : Address → Option Column
  | .loose handle => k.columns.get? handle
  | .within table identifier => (k.table? table).bind (·.column? identifier)

def setTable (k : Catalog) (handle : String) (t : Table) : Catalog :=
  { k with tables := k.tables.insert handle t }

def setColumn (k : Catalog) (handle : String) (c : Column) : Catalog :=
  { k with columns := k.columns.insert handle c }

/-- Take one step on the table of a handle, if there is one. -/
def editTable (handle : String) (step : TableStep) : Edit Catalog Unit :=
  Edit.within (·.table? handle) (·.setTable handle) (Table.step step)

/-- Edit the loose column of a handle, if there is one. -/
def editLoose (handle : String) (m : Edit Column Unit) : Edit Catalog Unit :=
  Edit.within (·.columns.get? handle) (·.setColumn handle) m

/-- Configure the column at an address. -/
def configure : Address → ColumnStep → Edit Catalog Unit
  | .loose handle, step => editLoose handle (Column.step step)
  | .within table identifier, step => editTable table (.configure identifier step)

/-- Copy the configuration of `source` to the column at an address. -/
def copyTo : Address → Column → Edit Catalog Unit
  | .loose handle, source => editLoose handle (Column.copyFrom source)
  | .within table identifier, source => editTable table (.copy identifier source)

/-- Make use of a column, if it is there. -/
def withColumn (a : Address) (f : Column → Edit Catalog Unit) : Edit Catalog Unit := do
  match (← get).column? a with
  | some c => f c
  | none => pure ()

def run : SchemaCommand → Edit Catalog Unit
  | .newColumn handle identifier type => modify (·.setColumn handle (.new identifier type))
  | .newTable handle name => modify (·.setTable handle (.new name))
  | .addNew table identifier type => editTable table (.add (.new identifier type))
  | .addCopy table handle => withColumn (.loose handle) fun c => editTable table (.add c)
  | .take table identifier handle =>
    withColumn (.within table identifier) fun c => modify (·.setColumn handle c)
  | .configure target step => configure target step
  | .copy source target => withColumn source fun c => copyTo target c
  | .finalize table => editTable table .finalize

/-- The notes that a command leaves. -/
def notes (k : Catalog) : SchemaCommand → List Note
  | .configure target step =>
    match k.column? target with
    | some c => c.stepNotes step
    | none => []
  | .finalize table =>
    match k.table? table with
    | some t => t.finalizeNotes
    | none => []
  | _ => []

/-- The catalog that a command leaves, and the error if it was refused. -/
def exec (k : Catalog) (command : SchemaCommand) : Observed (Catalog × Option SchemaError) where
  value :=
    match (run command).on k with
    | (.ok _, k') => (k', none)
    | (.error e, k') => (k', some e)
  notes := k.notes command

end Catalog

end TypedSql
