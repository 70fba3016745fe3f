import TypedSql.Observation.Event
import TypedSql.SortedMap

/-!
# Counters

Counters add up events, in total and for each operation. They are 64-bit words and stop at the
largest one.
-/

namespace TypedSql

/-- The largest count. -/
def countLimit : Nat := 0xFFFFFFFFFFFFFFFF

/-- `n + k`, stopping at the largest count. -/
def addCount (n k : Nat) : Nat := min (n + k) countLimit

/-- The counts of one operation. -/
structure OperationCounts where
  compiled : Nat := 0
  folded : Nat := 0
  rejected : Nat := 0
  deriving DecidableEq, Inhabited

/-- The counts over all operations, columns and definitions. -/
structure TotalCounts where
  methodsCompiled : Nat := 0
  methodsFolded : Nat := 0
  methodsRejected : Nat := 0
  columnsValidated : Nat := 0
  columnFailures : Nat := 0
  definitionsRejected : Nat := 0
  deriving DecidableEq, Inhabited

structure Counters where
  totals : TotalCounts := {}
  operations : SortedMap String OperationCounts := ∅
  deriving DecidableEq, Inhabited

namespace OperationCounts

def compile (c : OperationCounts) (folded : Bool) : OperationCounts :=
  { c with compiled := addCount c.compiled 1, folded := addCount c.folded folded.toNat }

def reject (c : OperationCounts) : OperationCounts := { c with rejected := addCount c.rejected 1 }

end OperationCounts

namespace TotalCounts

/-- Count one event. -/
def record (t : TotalCounts) : Event → TotalCounts
  | .methodCompiled _ folded =>
    { t with
      methodsCompiled := addCount t.methodsCompiled 1
      methodsFolded := addCount t.methodsFolded folded.toNat }
  | .methodRejected _ => { t with methodsRejected := addCount t.methodsRejected 1 }
  | .columnValidated failures =>
    { t with
      columnsValidated := addCount t.columnsValidated 1
      columnFailures := addCount t.columnFailures failures }
  | .columnMissing => { t with columnFailures := addCount t.columnFailures 1 }
  | .definitionRejected => { t with definitionsRejected := addCount t.definitionsRejected 1 }

end TotalCounts

namespace Counters

/-- The counts of one operation, all zero if it was never seen. -/
def operation (c : Counters) (name : String) : OperationCounts :=
  (c.operations.get? name).getD {}

/-- Change the counts of one operation. -/
def modifyOperation (c : Counters) (name : String) (f : OperationCounts → OperationCounts) :
    SortedMap String OperationCounts :=
  c.operations.insert name (f (c.operation name))

/-- Count one event. -/
def record (c : Counters) (e : Event) : Counters where
  totals := c.totals.record e
  operations :=
    match e with
    | .methodCompiled name folded => c.modifyOperation name (·.compile folded)
    | .methodRejected name => c.modifyOperation name (·.reject)
    | _ => c.operations

end Counters

end TypedSql
