/-!
# Wrapper templates

A template such as `SQRT(?)` wraps the text of a column. It is kept as the text before and after
its one placeholder.
-/

namespace TypedSql

/-- The placeholder of a template. -/
def placeholder : Char := '?'

/-- Why a text is no template. -/
inductive TemplateError where
  | missingPlaceholder (template : String)
  | multiplePlaceholders (template : String) (count : Nat)
  deriving DecidableEq, Inhabited

def TemplateError.message : TemplateError → String
  | missingPlaceholder t => "wrapper function '" ++ t ++ "' has no '?' placeholder"
  | multiplePlaceholders t n =>
    "wrapper function '" ++ t ++ "' has " ++ toString n ++
      " '?' placeholders, expected exactly one"

/-- What stands before and after the placeholder. -/
structure Template where
  before : String
  after : String
  deriving DecidableEq, Inhabited

namespace Template

/-- A text with exactly one placeholder is a template. -/
def parse (s : String) : Except TemplateError Template :=
  match s.toList.count placeholder with
  | 0 => .error (.missingPlaceholder s)
  | 1 =>
    let before := s.toList.takeWhile (· != placeholder)
    let after := s.toList.dropWhile (· != placeholder)
    .ok ⟨String.ofList before, String.ofList after.tail⟩
  | n => .error (.multiplePlaceholders s n)

/-- The template with `s` in place of the placeholder. -/
def apply (t : Template) (s : String) : String := t.before ++ s ++ t.after

def text (t : Template) : String := t.apply "?"

end Template

/-! ## The wrappers of a column -/

/-- The clause that a wrapper applies to. -/
inductive WrapperMode where
  | select
  | insert
  | update
  deriving DecidableEq, Repr, Inhabited

namespace WrapperMode

def all : List WrapperMode := [select, insert, update]

def name : WrapperMode → String
  | select => "Select"
  | insert => "Insert"
  | update => "Update"

def ofName? (s : String) : Option WrapperMode := all.find? (·.name == s)

end WrapperMode

/-- At most one template for each clause. -/
structure Wrappers where
  select : Option Template := none
  insert : Option Template := none
  update : Option Template := none
  deriving DecidableEq, Inhabited

namespace Wrappers

def get? (w : Wrappers) : WrapperMode → Option Template
  | .select => w.select
  | .insert => w.insert
  | .update => w.update

def set (w : Wrappers) (mode : WrapperMode) (t : Template) : Wrappers :=
  match mode with
  | .select => { w with select := some t }
  | .insert => { w with insert := some t }
  | .update => { w with update := some t }

/-- Wrap `s` for one clause; without a template it stays as it is. -/
def apply (w : Wrappers) (mode : WrapperMode) (s : String) : String :=
  match w.get? mode with
  | some t => t.apply s
  | none => s

end Wrappers

end TypedSql
