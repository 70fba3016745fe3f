import TypedSql.Toml.Value

/-!
# Building TOML tables

A document defines tables by headers and fills them by keys, in any order. A table under
construction knows how it came about, since that decides how it may be extended: a table that was
only passed through on the way to another may still be defined by a header, and one that was made
by a dotted key may still be extended by dotted keys.
-/

namespace TypedSql.Toml

/-- How a table came about. -/
inductive Origin where
  /-- By a header, or as the whole document. -/
  | defined
  /-- On the way to a table in a header. -/
  | passed
  /-- On the way to a value in a dotted key. -/
  | dotted
  deriving DecidableEq

/-- A part of a document under construction. -/
inductive Item where
  | value (v : Value)
  | table (origin : Origin) (entries : List (String × Item))
  | tables (items : List (List (String × Item)))

/-- The entries of a table under construction. -/
abbrev Entries := List (String × Item)

/-- Replace the entry of `k`, or put one at the end. -/
def Entries.set (k : String) (x : Item) : Entries → Entries
  | [] => [(k, x)]
  | e :: es => if e.1 = k then (k, x) :: es else e :: Entries.set k x es

/-- The list without its last member, and that member. -/
def splitLast? {α : Type} (l : List α) : Option (List α × α) := l.getLast?.map (l.dropLast, ·)

/-- Walk down `path` and change the table found there; tables on the way are made as needed.
A key walks only through tables that are not defined by a header. -/
def modifyAt (byKey : Bool) (change : Origin → Entries → Option Entries) :
    List String → Origin → Entries → Option Entries
  | [], origin, es => change origin es
  | k :: path, _, es =>
    let fresh : Origin := if byKey then .dotted else .passed
    match es.lookup k with
    | none =>
      (modifyAt byKey change path fresh []).map fun inner => Entries.set k (.table fresh inner) es
    | some (.table origin inner) =>
      if byKey && origin == .defined then none
      else
        (modifyAt byKey change path origin inner).map fun inner =>
          Entries.set k (.table origin inner) es
    | some (.tables items) =>
      (splitLast? items).bind fun (front, last) =>
        (modifyAt byKey change path .defined last).map fun inner =>
          Entries.set k (.tables (front ++ [inner])) es
    | some (.value _) => none

/-- Put a value under a key that is not yet there. A dotted key ends in a table made by dotted
keys, a simple one in a table that was not. -/
def putValue (k : String) (dottedKey : Bool) (v : Value) (origin : Origin) (es : Entries) :
    Option Entries :=
  if (origin == .dotted) != dottedKey then none
  else if (es.lookup k).isSome then none
  else some (es ++ [(k, .value v)])

/-- Enter a key and its value into a table. -/
def addKey (path : List String) (v : Value) (origin : Origin) (es : Entries) : Option Entries :=
  (splitLast? path).bind fun (front, k) =>
    modifyAt true (putValue k (!front.isEmpty) v) front origin es

/-- Define the table `k` by a header, unless it is there already and was not just passed through. -/
def putTable (k : String) (_ : Origin) (es : Entries) : Option Entries :=
  match es.lookup k with
  | none => some (Entries.set k (.table .defined []) es)
  | some (.table .passed inner) => some (Entries.set k (.table .defined inner) es)
  | some _ => none

/-- Add a table to the array of tables `k`. -/
def putArrayTable (k : String) (_ : Origin) (es : Entries) : Option Entries :=
  match es.lookup k with
  | none => some (Entries.set k (.tables [[]]) es)
  | some (.tables items) => some (Entries.set k (.tables (items ++ [[]])) es)
  | some _ => none

/-- Open the table of a header in the whole document. -/
def openTable (path : List String) (isArray : Bool) (es : Entries) : Option Entries :=
  (splitLast? path).bind fun (front, k) =>
    modifyAt false (if isArray then putArrayTable k else putTable k) front .defined es

mutual

/-- The finished value of an item. -/
def Item.toValue : Item → Value
  | .value v => v
  | .table _ es => .table (entriesToValues es)
  | .tables items => .array (tablesToValues items)

def entriesToValues : List (String × Item) → List (String × Value)
  | [] => []
  | (k, x) :: es => (k, x.toValue) :: entriesToValues es

def tablesToValues : List (List (String × Item)) → List Value
  | [] => []
  | es :: items => .table (entriesToValues es) :: tablesToValues items

end

end TypedSql.Toml
