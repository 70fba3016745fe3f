import TypedSql.Column.Definition
import TypedSql.Expr.Render
import TypedSql.Failure
import TypedSql.Operation.Registry

/-!
# Compilers

A compiler is a dialect with the registry built from it. It compiles operations, renders
expressions and declares columns.
-/

namespace TypedSql

structure Compiler where
  dialect : Dialect
  registry : Registry

/-! ## Errors -/

/-- Any error of the library. -/
inductive Error where
  | config (e : ConfigError)
  | registry (e : RegistryError)
  | compile (e : CompileError)
  | schema (e : SchemaError)
  | validation (failures : List Failure)
  deriving DecidableEq, Inhabited

inductive ErrorKind where
  | config
  | registry
  | arity
  | argumentType
  | unsupported
  | schema
  | validation
  deriving DecidableEq, Repr, Inhabited

def ErrorKind.name : ErrorKind → String
  | config => "Config"
  | registry => "Registry"
  | arity => "Arity"
  | argumentType => "ArgumentType"
  | unsupported => "Unsupported"
  | schema => "Schema"
  | validation => "Validation"

namespace Error

def kind : Error → ErrorKind
  | config _ => .config
  | registry _ => .registry
  | compile (.arity ..) => .arity
  | compile (.argumentType ..) | compile (.invalidRange ..) => .argumentType
  | compile (.unsupportedOperation ..) => .unsupported
  | schema _ => .schema
  | validation _ => .validation

def message? : Error → Option String
  | config e => e.message?
  | registry e => some e.message
  | compile e => some e.message
  | schema e => some e.message
  | validation fs => some (Failure.summary fs)

end Error

/-! ## Construction -/

namespace Compiler

/-- The compiler of a dialect; building it is reported. -/
def new (d : Dialect) : Observed (Except Error Compiler) := do
  match ← d.buildRegistry with
  | .error e => return .error (.registry e)
  | .ok r =>
    Observed.note
      ⟨.debug, "compiler ready", [("dialect", d.name.name), ("methods", toString r.size)]⟩
    return .ok ⟨d, r⟩

def ofConfig (c : Config) : Observed (Except Error Compiler) := new (.ofConfig c)

/-- The compiler of a configuration, or the error that reading it gave. -/
def ofResult : Except ConfigError Config → Observed (Except Error Compiler)
  | .ok c => ofConfig c
  | .error e => return .error (.config e)

def ofToml (source : String) : Observed (Except Error Compiler) := ofResult (Config.ofToml source)

def ofFile (content : Option ByteArray) : Observed (Except Error Compiler) :=
  ofResult (Config.ofFile content)

/-- The compiler of a plain dialect. -/
def plain (d : DialectName) : Compiler :=
  ⟨.plain d, (Dialect.plain d).registry.toOption.getD (.empty d)⟩

/-! ## Use -/

def compile (c : Compiler) (operation : String) (receiver : Expr) (args : List Expr) :
    Observed (Except CompileError Expr) :=
  c.registry.compile operation receiver args

def render (c : Compiler) (e : Expr) : Fragment := e.render c.dialect.name

/-- Compile an operation and render the result. -/
def compileToSql (c : Compiler) (operation : String) (receiver : Expr) (args : List Expr) :
    Observed (Except CompileError Fragment) := do
  return (← c.compile operation receiver args).map c.render

/-- A compilation gives one event, which tells how it ended. -/
theorem events_compile (c : Compiler) (operation : String) (receiver : Expr) (args : List Expr) :
    (c.compile operation receiver args).events =
      [match (c.compile operation receiver args).value with
        | .ok e => .methodCompiled operation e.isLiteral
        | .error _ => .methodRejected operation] := by
  simp only [compile, Registry.compile, Observed.value_bind, Observed.value_pure,
    Observed.events_bind, Observed.events_pure, List.append_nil]
  cases c.registry.lower operation receiver args <;> rfl

theorem events_compileToSql (c : Compiler) (operation : String) (receiver : Expr)
    (args : List Expr) :
    (c.compileToSql operation receiver args).events =
      (c.compile operation receiver args).events := by
  simp [compileToSql]

def columnDefinition (c : Compiler) (column : Column) : Except SchemaError String :=
  column.definition c.dialect

end Compiler

end TypedSql
