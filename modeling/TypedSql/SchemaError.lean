import TypedSql.Template

/-!
# Errors of schema building

Why a table or a column cannot be set up as asked.
-/

namespace TypedSql

inductive SchemaError where
  | duplicateColumn (table column : String)
  | unknownColumn (table column : String)
  | tableFinalized (table : String)
  | columnSealed (column : String)
  | nullablePrimaryKey (column : String)
  | identityWithDefault (column : String)
  | missingTypeInfo (column : String)
  | unrenderableDefault (column : String)
  | emptyMapping (member : String)
  | template (error : TemplateError)
  deriving DecidableEq, Inhabited

def SchemaError.message : SchemaError → String
  | duplicateColumn table column => "table '" ++ table ++ "' already has a column '" ++ column ++ "'"
  | unknownColumn table column => "table '" ++ table ++ "' has no column '" ++ column ++ "'"
  | tableFinalized table => "table '" ++ table ++ "' is finalized"
  | columnSealed column => "column '" ++ column ++ "' is sealed and can no longer be configured"
  | nullablePrimaryKey column => "primary-key column '" ++ column ++ "' cannot be nullable"
  | identityWithDefault column =>
    "identity column '" ++ column ++ "' cannot carry a default value"
  | missingTypeInfo column => "column '" ++ column ++ "' has no type information"
  | unrenderableDefault column =>
    "default value of column '" ++ column ++ "' has no SQL literal form"
  | emptyMapping member => "type mapping for '" ++ member ++ "' binds no columns"
  | template error => error.message

end TypedSql
