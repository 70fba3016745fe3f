import TypedSql.Dialect.Name
import TypedSql.LogicalType

/-!
# Errors of operations

Why an operation cannot be compiled, and why a registry of operations cannot be built.
-/

namespace TypedSql

/-- How many arguments an operation takes, the receiver not counted. -/
structure Arity where
  least : Nat
  most : Nat
  deriving DecidableEq, Repr, Inhabited

namespace Arity

def exactly (n : Nat) : Arity := ⟨n, n⟩

def accepts (a : Arity) (n : Nat) : Bool := a.least ≤ n && n ≤ a.most

def text (a : Arity) : String :=
  if a.least = a.most then toString a.least else toString a.least ++ " to " ++ toString a.most

end Arity

inductive CompileError where
  | arity (operation : String) (receiver : LogicalType) (expected : Arity) (found : Nat)
  | unsupportedOperation (receiver : LogicalType) (operation : String) (dialect : DialectName)
  | argumentType (operation : String) (index : Nat) (found : LogicalType)
  | invalidRange (operation : String) (start stop : Int64)
  deriving DecidableEq, Inhabited

def CompileError.message : CompileError → String
  | arity op receiver expected found =>
    "'" ++ op ++ "' on " ++ receiver.name ++ " takes " ++ expected.text ++
      " argument(s), found " ++ toString found
  | unsupportedOperation receiver op dialect =>
    "'" ++ op ++ "' is not supported on " ++ receiver.name ++ " by the " ++ dialect.name ++
      " dialect"
  | argumentType op index found =>
    "argument " ++ toString index ++ " of '" ++ op ++ "' must be integral, found " ++ found.name
  | invalidRange op start stop =>
    "'" ++ op ++ "' range [" ++ toString start.toInt ++ ", " ++ toString stop.toInt ++
      ") ends before it begins"

inductive RegistryError where
  | conflict (receiver : LogicalType) (operation : String)
  | receiverType (receiver : LogicalType) (operation : String)
  | unknownOperation (operation : String)
  deriving DecidableEq, Inhabited

def RegistryError.message : RegistryError → String
  | conflict receiver op =>
    "a compiler for '" ++ op ++ "' on " ++ receiver.name ++ " is already registered"
  | receiverType receiver op => "'" ++ op ++ "' on " ++ receiver.name ++ " is not a string operation"
  | unknownOperation op => "config references unknown operation '" ++ op ++ "'"

end TypedSql
