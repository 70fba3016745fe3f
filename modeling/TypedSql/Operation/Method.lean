import TypedSql.Expr.Basic
import TypedSql.Numeral.Integer
import TypedSql.Operation.Error
import TypedSql.Operation.Name
import TypedSql.Text.Blank
import TypedSql.Text.Case

/-!
# Methods

A method compiles one operation. On a literal text it computes the result at once, where it can;
on anything else it writes a call of the datastore's function. Ranges of characters are counted
from zero and end before their last place; the datastore counts from one and takes a length.
-/

namespace TypedSql

/-- The compiler of one operation. -/
structure Method where
  operation : String
  arity : Arity
  /-- The receivers that it may be registered for. -/
  accepts : LogicalType → Bool
  compile : Expr → List Expr → Except CompileError Expr

/-- What a transform makes of a text. Trimming takes off spaces and no other blanks. -/
def Transform.apply (t : Transform) (s : String) : String :=
  String.ofList <|
    match t with
    | upper => Text.toUpper s.toList
    | lower => Text.toLower s.toList
    | trim => Text.dropEndsWhile (· == ' ') s.toList
    | trimLeft => s.toList.dropWhile (· == ' ')
    | trimRight => Text.dropTailWhile (· == ' ') s.toList

namespace Method

/-- Refuse a wrong number of arguments. -/
def checkArity (operation : String) (arity : Arity) (receiver : Expr) (args : List Expr) :
    Except CompileError Unit :=
  if arity.accepts args.length then .ok ()
  else .error (.arity operation receiver.logicalType arity args.length)

/-! ## Text to text -/

/-- A call of `function` on the receiver alone, typed like the receiver. -/
def unaryCall (function : String) (receiver : Expr) (t : LogicalType) : Expr :=
  .call function [receiver] (.computed t)

def compileTransform (t : Transform) (function : String) (receiver : Expr) (args : List Expr) :
    Except CompileError Expr := do
  checkArity t.operation (.exactly 0) receiver args
  match receiver.literalText? with
  | some s => return receiver.withLiteral (.text (t.apply s))
  | none => return unaryCall function receiver receiver.logicalType

def transform (t : Transform) (function : String) : Method where
  operation := t.operation
  arity := .exactly 0
  accepts := LogicalType.isText
  compile := compileTransform t function

/-! ## Length -/

/-- The number of characters of a text. -/
def characterCount (s : String) : Int64 := Numeral.clampInt64 s.toList.length

def compileLength (function : String) (receiver : Expr) (args : List Expr) :
    Except CompileError Expr := do
  checkArity "length" (.exactly 0) receiver args
  match receiver.literalText? with
  | some s => return .typedLiteral (.int (characterCount s)) .int
  | none => return unaryCall function receiver .int

def length (function : String) : Method where
  operation := "length"
  arity := .exactly 0
  accepts := LogicalType.isText
  compile := compileLength function

/-! ## Substrings -/

/-- The first argument, counted from `index`, that is not integral. -/
def nonIntegral? (index : Nat) : List Expr → Option (Nat × LogicalType)
  | [] => none
  | a :: args =>
    if a.logicalType.isIntegral then nonIntegral? (index + 1) args
    else some (index, a.logicalType)

/-- The bounds that are known, of which the second comes before the first. -/
def invertedRange? (args : List Expr) : Option (Int64 × Int64) :=
  match args.head?.bind Expr.literalInt?, args[1]?.bind Expr.literalInt? with
  | some start, some stop => if stop < start then some (start, stop) else none
  | _, _ => none

/-- Bounds are integral, and known ones are in order. -/
def checkBounds (args : List Expr) : Except CompileError Unit :=
  match nonIntegral? 0 args with
  | some (index, t) => .error (.argumentType "substring" index t)
  | none =>
    match invertedRange? args with
    | some (start, stop) => .error (.invalidRange "substring" start stop)
    | none => .ok ()

/-- A known bound that is not negative. -/
def bound? (e : Expr) : Option Nat :=
  e.literalInt?.bind fun n => if 0 ≤ n.toInt then some n.toInt.toNat else none

/-- The characters from `start` on, before `stop`. -/
def slice (s : String) (start stop : Nat) : String :=
  String.ofList ((s.toList.drop start).take (stop - start))

/-- A part of a literal text with known bounds within it. Other bounds are left to the datastore. -/
def foldSubstring? (receiver start : Expr) (stop : Option Expr) : Option Expr := do
  let s ← receiver.literalText?
  let count := s.toList.length
  let b ← bound? start
  let e ← match stop with
    | some stop => bound? stop
    | none => some count
  if b ≤ e ∧ e ≤ count then some (receiver.withLiteral (.text (slice s b e))) else none

/-- The place, counted from one, that the datastore starts from. -/
def startArg (start : Expr) : Expr :=
  match start.literalInt? with
  | some b => .typedLiteral (.int (Numeral.addClamped b 1)) .int
  | none => .binary .plus start (.typedLiteral (.int 1) .int) (.computed .int)

/-- The number of characters between two bounds. -/
def lengthArg (start stop : Expr) : Expr :=
  match start.literalInt?, stop.literalInt? with
  | some b, some e => .typedLiteral (.int (Numeral.subClamped e b)) .int
  | _, _ => .binary .minus stop start (.computed .int)

/-- The call for a substring. -/
def substringCall (function : String) (receiver start : Expr) (stop : Option Expr) : Expr :=
  .call function (receiver :: startArg start :: (stop.map (lengthArg start)).toList)
    (.computed receiver.logicalType)

def substringArity : Arity := ⟨1, 2⟩

def compileSubstring (function : String) (receiver : Expr) (args : List Expr) :
    Except CompileError Expr := do
  checkArity "substring" substringArity receiver args
  checkBounds args
  match args with
  | [] => throw (.arity "substring" receiver.logicalType substringArity 0)
  | start :: rest =>
    match foldSubstring? receiver start rest.head? with
    | some e => return e
    | none => return substringCall function receiver start rest.head?

def substring (function : String) : Method where
  operation := "substring"
  arity := substringArity
  accepts := LogicalType.isText
  compile := compileSubstring function

/-! ## Other methods -/

/-- The method of an operation on texts. -/
def ofBuiltin (b : Builtin) (function : String) : Method :=
  match b with
  | .transform t => transform t function
  | .length => length function
  | .substring => substring function

/-- A method for every receiver that only counts its arguments and hands the receiver on. -/
def passThrough (operation : String) (arity : Arity) : Method where
  operation := operation
  arity := arity
  accepts _ := true
  compile receiver args := do
    checkArity operation arity receiver args
    return receiver

end Method

end TypedSql
