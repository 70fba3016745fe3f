import TypedSql.Column.Basic
import TypedSql.Dialect.Basic
import TypedSql.SchemaError
import TypedSql.Text.Blank

/-!
# Column definitions

The text that declares a column: its name and type, then the clauses that apply.
-/

namespace TypedSql.Column

/-- The length of a text that declares none. -/
def impliedLength (info : TypeInfo) (d : Dialect) : Option Nat :=
  if info.jdbcType.isCharacter then some d.textLength else none

/-- The sizes in the declaration. A scale stands only behind a precision. -/
def sizes (c : Column) (info : TypeInfo) (d : Dialect) : List Nat :=
  match info.sizeSpec with
  | .none => []
  | .length => (c.declared.length.or (impliedLength info d)).toList
  | .precisionScale =>
    match c.declared.length with
    | some p => p :: c.declared.scale.toList
    | none => []

/-- Sizes in parentheses, if there are any. -/
def sizesText : List Nat → String
  | [] => ""
  | ns => "(" ++ ",".intercalate (ns.map toString) ++ ")"

/-- The type name with its sizes. -/
def typeSpec (c : Column) (info : TypeInfo) (d : Dialect) : String :=
  c.declared.sqlType.getD info.typeName ++ sizesText (c.sizes info d)

/-- The clauses after the default. -/
def clauses (c : Column) (d : Dialect) : String :=
  (if c.nullable then "" else " NOT NULL") ++ (if c.unique then " UNIQUE" else "") ++
    (if c.identity then " " ++ d.name.identityClause else "") ++
    match c.constraints with
    | some s => " " ++ String.ofList (Text.trimBlanks s.toList)
    | none => ""

/-- The default clause; a default without a literal cannot be declared. -/
def defaultClause (c : Column) (d : Dialect) : Except SchemaError String :=
  match c.default with
  | none => .ok ""
  | some v =>
    match d.name.literal? v with
    | some s => .ok (" DEFAULT " ++ s)
    | none => .error (.unrenderableDefault c.identifier)

/-- The declaration of a column. -/
def definition (c : Column) (d : Dialect) : Except SchemaError String :=
  match c.typeInfo with
  | none => .error (.missingTypeInfo c.identifier)
  | some info =>
    match c.defaultClause d with
    | .error e => .error e
    | .ok clause =>
      .ok (d.name.quoteIdentifier c.identifier ++ " " ++ c.typeSpec info d ++ clause ++ c.clauses d)

end TypedSql.Column
