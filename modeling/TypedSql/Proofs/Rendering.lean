import TypedSql.Expr.Render

/-!
# What a tree adds to a statement

Rendering writes behind what is there already.  So the fragment of a composed expression is its
opening, the fragments of its arguments with separators between them, and its closing.
-/

namespace TypedSql

/-- A text without placeholders. -/
def Fragment.ofText (s : String) : Fragment := ⟨s, []⟩

/-- One placeholder. -/
def Fragment.ofSlot (s : ParamSlot) : Fragment := ⟨"?", [s]⟩

namespace Fragment

theorem empty_append (f : Fragment) : ∅ ++ f = f := by
  ext1 <;> simp

theorem append_empty (f : Fragment) : f ++ ∅ = f := by
  ext1 <;> simp

theorem addText_eq (f : Fragment) (s : String) : f.addText s = f ++ ofText s := by
  ext1 <;> simp [addText, ofText]

theorem ofText_append (s t : String) : ofText s ++ ofText t = ofText (s ++ t) := rfl

theorem ofText_congr {s t : String} (h : s.toList = t.toList) : ofText s = ofText t := by
  rw [String.toList_inj.1 h]

theorem addSlot_eq (f : Fragment) (s : ParamSlot) : f.addSlot s = f ++ ofSlot s := rfl

end Fragment

namespace Expr

/-! ## Writing behind a fragment -/

mutual

theorem renderInto_append (d : DialectName) :
    ∀ (e : Expr) (f g : Fragment), e.renderInto d (f ++ g) = f ++ e.renderInto d g
  | literal v m, f, g => by
    simp only [renderInto]
    cases d.literal? v with
    | some s => exact (Fragment.append_addText f g s).symm
    | none => exact (Fragment.append_addSlot f g _).symm
  | parameter s m, f, g => (Fragment.append_addSlot f g s).symm
  | column c m, f, g => (Fragment.append_addText f g _).symm
  | composed j args m, f, g => by
    simp only [renderInto]
    rw [← Fragment.append_addText, renderArgs_append d j.separator args, Fragment.append_addText]

theorem renderArgs_append (d : DialectName) (separator : String) :
    ∀ (es : List Expr) (f g : Fragment),
      renderArgs d separator es (f ++ g) = f ++ renderArgs d separator es g
  | [], f, g => rfl
  | [e], f, g => renderInto_append d e f g
  | e :: e' :: es, f, g => by
    simp only [renderArgs]
    rw [renderInto_append d e, ← Fragment.append_addText,
      renderArgs_append d separator (e' :: es)]

end

variable (d : DialectName)

/-! ## Columns -/

/-- The name that a column has without its template, read through the template. -/
theorem columnText_eq (c : ColumnName) :
    columnText d c =
      c.wrapper.elim (columnText d { c with wrapper := none })
        (·.apply (columnText d { c with wrapper := none })) := by
  obtain ⟨q, n, wrapper⟩ := c
  cases wrapper <;> rfl

theorem render_column (c : ColumnName) (m : Mapping) :
    (column c m).render d = .ofText (columnText d c) := by
  rw [← Fragment.empty_append (Fragment.ofText _), ← Fragment.addText_eq]
  rfl

/-! ## Compositions -/

/-- The fragments of arguments, with separators between them. -/
def renderAll (separator : String) (es : List Expr) : Fragment := renderArgs d separator es ∅

theorem renderArgs_eq (separator : String) (es : List Expr) (f : Fragment) :
    renderArgs d separator es f = f ++ renderAll d separator es := by
  have h := renderArgs_append d separator es f ∅
  rwa [Fragment.append_empty] at h

theorem renderAll_cons_cons (separator : String) (e e' : Expr) (es : List Expr) :
    renderAll d separator (e :: e' :: es) =
      e.render d ++ Fragment.ofText separator ++ renderAll d separator (e' :: es) := by
  rw [← renderArgs_eq, ← Fragment.addText_eq]
  rfl

theorem render_composed (j : Joint) (args : List Expr) (m : Mapping) :
    (composed j args m).render d =
      Fragment.ofText j.opening ++ renderAll d j.separator args ++ Fragment.ofText j.closing := by
  rw [← Fragment.addText_eq, ← renderArgs_eq, ← Fragment.empty_append (Fragment.ofText j.opening),
    ← Fragment.addText_eq]
  rfl

theorem sql_renderAll (separator : String) (es : List Expr) :
    (renderAll d separator es).sql = separator.intercalate (es.map fun e => (e.render d).sql) := by
  induction es with
  | nil => rfl
  | cons e es ih =>
    cases es with
    | nil => rfl
    | cons e' es =>
      rw [renderAll_cons_cons, Fragment.sql_append, Fragment.sql_append, ih, List.map_cons,
        List.map_cons, List.map_cons, String.intercalate_cons_cons]
      rfl

theorem params_renderAll (separator : String) (es : List Expr) :
    (renderAll d separator es).params = es.flatMap fun e => (e.render d).params := by
  induction es with
  | nil => rfl
  | cons e es ih =>
    cases es with
    | nil => exact (List.append_nil _).symm
    | cons e' es =>
      rw [renderAll_cons_cons, Fragment.params_append, Fragment.params_append, ih,
        List.flatMap_cons]
      exact congrArg (· ++ _) (List.append_nil _)

/-- The texts of the arguments with separators between them, and their slots one after the other. -/
theorem render_composed_eq (j : Joint) (args : List Expr) (m : Mapping) :
    (composed j args m).render d =
      ⟨j.opening ++ j.separator.intercalate (args.map fun e => (e.render d).sql) ++ j.closing,
        args.flatMap fun e => (e.render d).params⟩ := by
  rw [render_composed]
  ext1
  · rw [Fragment.sql_append, Fragment.sql_append, sql_renderAll]
    rfl
  · rw [Fragment.params_append, Fragment.params_append, params_renderAll]
    simp [Fragment.ofText]

theorem render_call (f : String) (args : List Expr) (m : Mapping) :
    (call f args m).render d =
      ⟨f ++ "(" ++ ", ".intercalate (args.map fun e => (e.render d).sql) ++ ")",
        args.flatMap fun e => (e.render d).params⟩ :=
  render_composed_eq d (.call f) args m

theorem render_binary (sign : Sign) (x y : Expr) (m : Mapping) :
    (binary sign x y m).render d =
      ⟨"(" ++ (x.render d).sql ++ " " ++ sign.symbol ++ " " ++ (y.render d).sql ++ ")",
        (x.render d).params ++ (y.render d).params⟩ := by
  rw [binary, render_composed_eq]
  ext1
  · simp [Joint.opening, Joint.separator, Joint.closing, String.append_assoc]
  · simp

theorem render_typedLiteral_int (n : Int64) (t : LogicalType) :
    (typedLiteral (.int n) t).render d = .ofText (String.ofList (Numeral.int64Text n)) := by
  show (∅ : Fragment).addText (String.ofList (Numeral.int64Text n)) = _
  rw [Fragment.addText_eq, Fragment.empty_append]

end Expr

end TypedSql
