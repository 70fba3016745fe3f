import TypedSql.Expr.Render
import TypedSql.Json.Basic
import TypedSql.Numeral.Nearest

/-!
# Expressions as JSON

The JSON form of expressions. A choice is written as an object with one field, named for the case,
or as the name alone if nothing comes with the case. A number that is not finite is written as
null, which is not read back. Reading ignores fields that it does not know, takes the last of fields
of one name, and takes an absent optional field for null. A record may also be an array of its
fields, at any depth; then no field may be absent.
-/

namespace TypedSql

open Json

/-! ## Writing -/

def Value.toJson : Value → Json
  | .null => .string "Null"
  | .bool b => .object [("Bool", .bool b)]
  | .int n => .object [("Int", .int n.toInt)]
  | .float x => .object [("Float", if x.isFinite then .float x else .null)]
  | .text s => .object [("Text", .string s)]
  | .bytes bs => .object [("Bytes", .array (bs.map fun b => .int b.toNat))]

def Value.toJson? : Option Value → Json
  | some v => v.toJson
  | none => .null

def ParamSlot.toJson (s : ParamSlot) : Json :=
  .object [("name", ofText? s.name), ("value", Value.toJson? s.value)]

def Template.toJson (t : Template) : Json :=
  .object [("prefix", .string t.before), ("suffix", .string t.after)]

def ColumnName.toJson (c : ColumnName) : Json :=
  .object
    [("qualifier", ofText? c.qualifier), ("column", .string c.column),
      ("select_wrapper", match c.wrapper with | some t => t.toJson | none => .null)]

def ColumnRef.toJson (c : ColumnRef) : Json :=
  .object [("table", .string c.table), ("column", .string c.column)]

def Mapping.toJson (m : Mapping) : Json :=
  .object
    [("logical_type", .string m.logicalType.name), ("member", ofText? m.member),
      ("columns", .array (m.columns.map ColumnRef.toJson))]

def Sign.name : Sign → String
  | plus => "Add"
  | minus => "Sub"

def Joint.toJson : Joint → Json
  | .call f => .object [("Function", .string f)]
  | .sum s => .object [("Binary", .string s.name)]

namespace Expr

/-- A node of one kind with its mapping. -/
def node (kind : String) (content : Json) (m : Mapping) : Json :=
  .object [("kind", .object [(kind, content)]), ("mapping", m.toJson)]

mutual

def toJson : Expr → Json
  | literal v m => node "Literal" v.toJson m
  | parameter s m => node "Parameter" s.toJson m
  | column c m => node "Column" c.toJson m
  | composed j args m =>
    node "Composed" (.object [("op", j.toJson), ("args", .array (listToJson args))]) m

def listToJson : List Expr → List Json
  | [] => []
  | e :: es => e.toJson :: listToJson es

end

end Expr

def Fragment.toJson (f : Fragment) : Json :=
  .object [("sql", .string f.sql), ("params", .array (f.params.map ParamSlot.toJson))]

/-! ## Reading -/

namespace Json

def text? : Json → Option String
  | string s => some s
  | _ => none

/-- A required field of a record. -/
def required? {α : Type} (names : List String) (k : String) (read : Json → Option α) (j : Json) :
    Option α :=
  (j.part? names k).bind read

/-- An optional field of a record: absent or null for none. -/
def optional? {α : Type} (names : List String) (k : String) (read : Json → Option α) (j : Json) :
    Option (Option α) :=
  (record? names j).bind fun r =>
    match r.field? k with
    | none | some null => some none
    | some v => (read v).map some

/-- The case of a choice and what comes with it. There is one name only, but it may be repeated. -/
def choice? : Json → Option (String × Option Json)
  | string s => some (s, none)
  | j@(object ((k, _) :: fields)) =>
    if fields.all (·.1 == k) then some (k, j.field? k) else none
  | _ => none

@[simp]
theorem choice?_singleton (k : String) (v : Json) :
    choice? (object [(k, v)]) = some (k, some v) := by
  simp [choice?, field?]

theorem sizeOf_lt_of_choice? {k : String} {v j : Json} (h : choice? j = some (k, some v)) :
    sizeOf v < sizeOf j := by
  unfold choice? at h
  split at h
  next => simp at h
  next =>
    split at h
    next =>
      obtain ⟨rfl, hv⟩ := Prod.mk.inj (Option.some.inj h)
      exact sizeOf_lt_of_field? hv
    next => cases h
  next => cases h

/-- The name of a case with which nothing comes. -/
def plainChoice? (j : Json) : Option String :=
  (choice? j).bind fun
    | (k, none) | (k, some null) => some k
    | _ => none

def byte? : Json → Option UInt8
  | int n => if 0 ≤ n ∧ n < 256 then some (UInt8.ofNat n.toNat) else none
  | _ => none

/-- Any number as a double. -/
def double? : Json → Option Numeral.Double
  | int n => some (.withSign (n < 0) (Numeral.nearestDecimal n.natAbs 0))
  | float x => some x
  | _ => none

end Json

def Value.ofJson? (j : Json) : Option Value :=
  match choice? j with
  | some ("Null", none) | some ("Null", some .null) => some .null
  | some ("Bool", some (.bool b)) => some (.bool b)
  | some ("Int", some (.int n)) => (Numeral.toInt64? n).map .int
  | some ("Float", some v) => (double? v).map .float
  | some ("Text", some (.string s)) => some (.text s)
  | some ("Bytes", some (.array bs)) => (bs.mapM byte?).map .bytes
  | _ => none

def ParamSlot.fieldNames : List String := ["name", "value"]

def ParamSlot.ofJson? (j : Json) : Option ParamSlot := do
  some
    ⟨← optional? fieldNames "name" text? j, ← optional? fieldNames "value" Value.ofJson? j⟩

def Template.fieldNames : List String := ["prefix", "suffix"]

def Template.ofJson? (j : Json) : Option Template := do
  some ⟨← required? fieldNames "prefix" text? j, ← required? fieldNames "suffix" text? j⟩

def ColumnName.fieldNames : List String := ["qualifier", "column", "select_wrapper"]

def ColumnName.ofJson? (j : Json) : Option ColumnName := do
  some
    ⟨← optional? fieldNames "qualifier" text? j, ← required? fieldNames "column" text? j,
      ← optional? fieldNames "select_wrapper" Template.ofJson? j⟩

def ColumnRef.fieldNames : List String := ["table", "column"]

def ColumnRef.ofJson? (j : Json) : Option ColumnRef := do
  some ⟨← required? fieldNames "table" text? j, ← required? fieldNames "column" text? j⟩

/-- The logical type of exactly this name. -/
def LogicalType.ofJson? (j : Json) : Option LogicalType :=
  (plainChoice? j).bind fun s => LogicalType.all.find? (·.name == s)

def Mapping.fieldNames : List String := ["logical_type", "member", "columns"]

def Mapping.ofJson? (j : Json) : Option Mapping := do
  let refs? : Json → Option (List ColumnRef)
    | .array cs => cs.mapM ColumnRef.ofJson?
    | _ => none
  some
    ⟨← required? fieldNames "logical_type" LogicalType.ofJson? j,
      ← optional? fieldNames "member" text? j, ← required? fieldNames "columns" refs? j⟩

def Sign.ofJson? (j : Json) : Option Sign :=
  (plainChoice? j).bind fun s => [Sign.plus, Sign.minus].find? (·.name == s)

def Joint.ofJson? (j : Json) : Option Joint :=
  match choice? j with
  | some ("Function", some (.string f)) => some (.call f)
  | some ("Binary", some s) => (Sign.ofJson? s).map .sum
  | _ => none

namespace Expr

def fieldNames : List String := ["kind", "mapping"]

/-- The content of a node of one kind. -/
def content? (kind : String) (j : Json) : Option Json :=
  (j.part? fieldNames "kind").bind fun k =>
    match choice? k with
    | some (name, some v) => if name = kind then some v else none
    | _ => none

/-- A node without arguments, up to its mapping. -/
def leaf? (j : Json) : Option (Mapping → Expr) :=
  ((content? "Literal" j).bind fun v => (Value.ofJson? v).map literal) <|>
    ((content? "Parameter" j).bind fun s => (ParamSlot.ofJson? s).map parameter) <|>
    ((content? "Column" j).bind fun c => (ColumnName.ofJson? c).map column)

/-- The fields of what comes with a composed node. -/
def composedNames : List String := ["op", "args"]

/-- The arguments of a composed node, as they stand. -/
def argsJson (j : Json) : List Json :=
  match (content? "Composed" j).bind (part? composedNames "args") with
  | some (.array args) => args
  | _ => []

/-- How a composed node joins its arguments, of which there must be a list. -/
def joint? (j : Json) : Option Joint :=
  (content? "Composed" j).bind fun c =>
    match c.part? composedNames "args" with
    | some (.array _) => required? composedNames "op" Joint.ofJson? c
    | _ => none

theorem sizeOf_lt_of_content? {kind : String} {v j : Json} (h : content? kind j = some v) :
    sizeOf v < sizeOf j := by
  obtain ⟨k, hk, h⟩ := Option.bind_eq_some_iff.1 h
  refine Nat.lt_trans ?_ (sizeOf_lt_of_part? hk)
  split at h
  next hchoice =>
    split at h <;> cases h
    exact sizeOf_lt_of_choice? hchoice
  next => cases h

theorem sizeOf_lt_of_mem_argsJson {a j : Json} (h : a ∈ argsJson j) : sizeOf a < sizeOf j := by
  unfold argsJson at h
  split at h
  next args he =>
    obtain ⟨c, hc, he⟩ := Option.bind_eq_some_iff.1 he
    exact Nat.lt_trans (Nat.lt_trans (sizeOf_lt_of_mem_items h) (sizeOf_lt_of_part? he))
      (sizeOf_lt_of_content? hc)
  next => simp at h

/-- The expression of a JSON form. -/
def ofJson? (j : Json) : Option Expr :=
  (required? fieldNames "mapping" Mapping.ofJson? j).bind fun m =>
    match leaf? j with
    | some f => some (f m)
    | none =>
      (joint? j).bind fun joint =>
        ((argsJson j).attach.mapM fun a => ofJson? a.1).map fun args => composed joint args m
termination_by sizeOf j
decreasing_by exact sizeOf_lt_of_mem_argsJson a.2

end Expr

end TypedSql
