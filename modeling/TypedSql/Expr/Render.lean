import TypedSql.Dialect.Literal
import TypedSql.Expr.Basic

/-!
# Rendering

An expression is rendered as text with placeholders and the slots that these stand for, in the
order of their places. The text is written from left to right behind what is there already, so
what a tree adds does not depend on what stands before it.
-/

namespace TypedSql

/-- Text with placeholders, and the slots in the order of their placeholders. -/
structure Fragment where
  sql : String := ""
  params : List ParamSlot := []
  deriving DecidableEq, Inhabited

namespace Fragment

instance : EmptyCollection Fragment := ⟨{}⟩

instance : Append Fragment := ⟨fun f g => ⟨f.sql ++ g.sql, f.params ++ g.params⟩⟩

/-- The fragment with a text behind it. -/
def addText (f : Fragment) (s : String) : Fragment := { f with sql := f.sql ++ s }

/-- The fragment with a placeholder behind it. -/
def addSlot (f : Fragment) (s : ParamSlot) : Fragment := ⟨f.sql ++ "?", f.params ++ [s]⟩

/-! ## Fragments one after the other -/

@[ext] theorem ext {f g : Fragment} (hs : f.sql = g.sql) (hp : f.params = g.params) : f = g := by
  cases f
  cases g
  simp_all

@[simp] theorem sql_empty : (∅ : Fragment).sql = "" := rfl

@[simp] theorem params_empty : (∅ : Fragment).params = [] := rfl

@[simp] theorem sql_append (f g : Fragment) : (f ++ g).sql = f.sql ++ g.sql := rfl

@[simp] theorem params_append (f g : Fragment) : (f ++ g).params = f.params ++ g.params := rfl

theorem append_assoc (f g h : Fragment) : f ++ g ++ h = f ++ (g ++ h) := by
  ext1 <;> simp [String.append_assoc]

theorem append_addText (f g : Fragment) (s : String) : f ++ g.addText s = (f ++ g).addText s := by
  ext1 <;> simp [addText, String.append_assoc]

theorem append_addSlot (f g : Fragment) (s : ParamSlot) :
    f ++ g.addSlot s = (f ++ g).addSlot s := by
  ext1 <;> simp [addSlot, String.append_assoc]

end Fragment

/-! ## Joints -/

namespace Joint

/-- What stands before the arguments. -/
def opening : Joint → String
  | call function => function ++ "("
  | sum _ => "("

/-- What stands between two arguments. -/
def separator : Joint → String
  | call _ => ", "
  | sum sign => " " ++ sign.symbol ++ " "

/-- What stands behind the arguments. -/
def closing : Joint → String
  | call _ | sum _ => ")"

end Joint

namespace Expr

/-- The quoted name of a column, read through its template. -/
def columnText (d : DialectName) (c : ColumnName) : String :=
  let column := d.quoteIdentifier c.column
  let qualified :=
    match c.qualifier with
    | some table => d.quoteIdentifier table ++ "." ++ column
    | none => column
  match c.wrapper with
  | some t => t.apply qualified
  | none => qualified

/-! ## Trees -/

mutual

/-- Write an expression behind a fragment. -/
def renderInto (d : DialectName) : Expr → Fragment → Fragment
  | literal v _, f =>
    match d.literal? v with
    | some s => f.addText s
    | none => f.addSlot ⟨none, some v⟩
  | parameter s _, f => f.addSlot s
  | column c _, f => f.addText (columnText d c)
  | composed joint args _, f =>
    (renderArgs d joint.separator args (f.addText joint.opening)).addText joint.closing

/-- Write arguments behind a fragment, with `separator` between them. -/
def renderArgs (d : DialectName) (separator : String) : List Expr → Fragment → Fragment
  | [], f => f
  | [e], f => e.renderInto d f
  | e :: es, f => renderArgs d separator es ((e.renderInto d f).addText separator)

end

/-- The fragment of an expression in one dialect. -/
def render (d : DialectName) (e : Expr) : Fragment := e.renderInto d ∅

end Expr

end TypedSql
