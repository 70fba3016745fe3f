import TypedSql.Dialect.Name
import TypedSql.SortedMap
import TypedSql.Toml.Document

/-!
# Dialect configuration

A configuration names a dialect, the length of texts that declare none, other function names for
operations, and operations to switch off. It is read from a TOML document in which no other key
may stand.
-/

namespace TypedSql

/-- The length of a text column that declares none, where nothing else is configured. -/
def defaultTextLength : Nat := 255

structure Config where
  dialect : DialectName := .ansi
  textLength : Nat := defaultTextLength
  functions : SortedMap String String := ∅
  disabled : List String := []
  deriving DecidableEq, Inhabited

/-- Why there is no configuration. -/
inductive ConfigError where
  | unreadable
  | malformed
  | zeroTextLength
  deriving DecidableEq, Inhabited

namespace ConfigError

/-- The wording of what a reader of files or documents finds wrong is that reader's own. -/
def message? : ConfigError → Option String
  | unreadable | malformed => none
  | zeroTextLength => some "string_default_length must be positive"

end ConfigError

namespace Config

def isDisabled (c : Config) (operation : String) : Bool := c.disabled.contains operation

/-! ## Reading -/

/-- A dialect by its name, or as a table with that name as its only key and nothing under it. -/
def dialect? : Toml.Value → Option DialectName
  | .string s => DialectName.ofName? s
  | .table [(s, .table [])] | .table [(s, .array [])] => DialectName.ofName? s
  | _ => none

/-- A length within 32 bits. -/
def textLength? : Toml.Value → Option Nat
  | .integer n => if 0 ≤ n.toInt ∧ n.toInt < 0x100000000 then some n.toInt.toNat else none
  | _ => none

def text? : Toml.Value → Option String
  | .string s => some s
  | _ => none

/-- The key under which a date stands when it is taken for a table. -/
def dateKey : String := "$__toml_private_datetime"

def functions? : Toml.Value → Option (SortedMap String String)
  | .table es => (es.mapM fun e => (text? e.2).map (e.1, ·)).map .ofList
  | .dateTime t => some (.ofList [(dateKey, t)])
  | _ => none

def operations? : Toml.Value → Option (List String)
  | .array vs => vs.mapM text?
  | _ => none

/-- The operations to switch off: a table with that one key, or an array that starts with them. -/
def disabled? : Toml.Value → Option (List String)
  | .table [] | .array [] => some []
  | .table [(k, v)] => if k = "operations" then operations? v else none
  | .array (v :: _) => operations? v
  | _ => none

/-- Enter one key of a document. -/
def enter? (c : Config) (key : String) (v : Toml.Value) : Option Config :=
  match key with
  | "dialect" => (dialect? v).map fun d => { c with dialect := d }
  | "string_default_length" => (textLength? v).map fun n => { c with textLength := n }
  | "functions" => (functions? v).map fun f => { c with functions := f }
  | "disabled" => (disabled? v).map fun d => { c with disabled := d }
  | _ => none

/-- A text column without a length must have one in its declaration. -/
def check (c : Config) : Except ConfigError Config :=
  if c.textLength = 0 then .error .zeroTextLength else .ok c

/-- Enter all keys of a document. -/
def ofEntries? (es : List (String × Toml.Value)) : Option Config :=
  es.foldlM (fun (c : Config) e => c.enter? e.1 e.2) {}

def ofToml (source : String) : Except ConfigError Config :=
  match (Toml.document? source).bind ofEntries? with
  | some c => c.check
  | none => .error .malformed

/-- Read a file; `none` stands for one that cannot be read. -/
def ofFile (content : Option ByteArray) : Except ConfigError Config :=
  match content.bind String.fromUTF8? with
  | some source => ofToml source
  | none => .error .unreadable

end Config

end TypedSql
