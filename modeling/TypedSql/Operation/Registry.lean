import TypedSql.Observation.Event
import TypedSql.Operation.Method

/-!
# Registries

A registry holds the methods of one dialect, by the logical type of the receiver and then by
operation. There is no other way to a method: a type without an entry does not have the operation.
-/

namespace TypedSql

/-- A receiver type and an operation. -/
structure MethodKey where
  receiver : LogicalType
  operation : String
  deriving DecidableEq, Inhabited

structure Registry where
  dialect : DialectName
  methods : SortedMap LogicalType (SortedMap String Method) := ∅

namespace Registry

/-- The registry without methods. -/
def empty (d : DialectName) : Registry := { dialect := d }

/-- The methods for a receiver type, by operation. -/
def operations (r : Registry) (receiver : LogicalType) : SortedMap String Method :=
  (r.methods.get? receiver).getD ∅

def setOperations (r : Registry) (receiver : LogicalType) (ops : SortedMap String Method) :
    Registry :=
  { r with methods := r.methods.insert receiver ops }

/-! ## Registration -/

/-- Register a method for a receiver type in place: the registry that is left, and the error if the
method was refused. It must accept the type, and there must be no other method for that type and
operation. -/
def add (r : Registry) (receiver : LogicalType) (m : Method) : Registry × Option RegistryError :=
  if m.accepts receiver then
    -- the type has a map of its own from here on, if only an empty one
    let r := r.setOperations receiver (r.operations receiver)
    if (r.operations receiver).contains m.operation then
      (r, some (.conflict receiver m.operation))
    else (r.setOperations receiver ((r.operations receiver).insert m.operation m), none)
  else (r, some (.receiverType receiver m.operation))

/-- The registry with a method more, or why the method was refused. -/
def register (r : Registry) (receiver : LogicalType) (m : Method) :
    Except RegistryError Registry :=
  match r.add receiver m with
  | (r', none) => .ok r'
  | (_, some e) => .error e

/-! ## Use -/

def method? (r : Registry) (receiver : LogicalType) (operation : String) : Option Method :=
  (r.operations receiver).get? operation

def resolve (r : Registry) (receiver : LogicalType) (operation : String) :
    Except CompileError Method :=
  match r.method? receiver operation with
  | some m => .ok m
  | none => .error (.unsupportedOperation receiver operation r.dialect)

def contains (r : Registry) (receiver : LogicalType) (operation : String) : Bool :=
  (r.method? receiver operation).isSome

/-- Compile an operation by the method for the receiver's type. -/
def lower (r : Registry) (operation : String) (receiver : Expr) (args : List Expr) :
    Except CompileError Expr := do
  let m ← r.resolve receiver.logicalType operation
  m.compile receiver args

/-- What is observed of a compilation: whether it succeeded, and whether the result was computed. -/
def report (r : Registry) (operation : String) (receiver : LogicalType) :
    Except CompileError Expr → Observed Unit
  | .ok e => do
    Observed.event (.methodCompiled operation e.isLiteral)
    Observed.note
      ⟨.debug, "compiled method",
        [("operation", operation), ("receiver", receiver.name), ("dialect", r.dialect.name),
          ("folded", toString e.isLiteral)]⟩
  | .error err => do
    Observed.event (.methodRejected operation)
    Observed.note
      ⟨.debug, "method rejected",
        [("operation", operation), ("receiver", receiver.name), ("dialect", r.dialect.name),
          ("error", err.message)]⟩

/-- Compile an operation and report it. -/
def compile (r : Registry) (operation : String) (receiver : Expr) (args : List Expr) :
    Observed (Except CompileError Expr) := do
  let result := r.lower operation receiver args
  r.report operation receiver.logicalType result
  return result

/-- The keys of all methods, by type and then by operation. -/
def keys (r : Registry) : List MethodKey :=
  r.methods.entries.flatMap fun e => e.2.keys.map (⟨e.1, ·⟩)

def size (r : Registry) : Nat := r.methods.entries.foldl (fun n e => n + e.2.size) 0

def isEmpty (r : Registry) : Bool := r.size == 0

end Registry

/-! ## The registry of a dialect -/

namespace Dialect

/-- The receiver types of the operations on texts. -/
def textTypes : List LogicalType := [.char, .string]

/-- The methods of the operations that are not switched off. -/
def methods (d : Dialect) : List Method :=
  Builtin.all.filterMap fun b => (d.enabledFunction? b.operation).map (Method.ofBuiltin b)

/-- Register each method for each text type. -/
def registerAll (r : Registry) (ms : List Method) : Except RegistryError Registry :=
  ms.foldlM (fun r m => textTypes.foldlM (fun r t => r.register t m) r) r

/-- The registry of a dialect, unless its configuration mentions a name that is no operation. -/
def registry (d : Dialect) : Except RegistryError Registry :=
  match d.unknownOperation? with
  | some op => .error (.unknownOperation op)
  | none => registerAll (.empty d.name) d.methods

/-- Build the registry and report its size. -/
def buildRegistry (d : Dialect) : Observed (Except RegistryError Registry) := do
  match d.registry with
  | .error err => return .error err
  | .ok r =>
    Observed.note
      ⟨.info, "method registry built",
        [("dialect", d.name.name), ("methods", toString r.size),
          ("disabled", toString d.disabled.size)]⟩
    return .ok r

end Dialect

end TypedSql
