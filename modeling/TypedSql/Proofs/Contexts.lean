import TypedSql.Proofs.Rendering

/-!
# Expressions in their places

Rendering is compositional.  An expression adds the same fragment behind whatever is there, and a
tree is rendered as its arguments between fragments of its own.  So what stands at a place of a
tree, however deep, can be exchanged without a trace exactly for what has the same fragment
(`Context.render_plug_inj`).
-/

namespace TypedSql

/-! ## Cancelling fragments -/

namespace Fragment

variable {f g h : Fragment}

theorem append_right_inj : f ++ g = f ++ h ↔ g = h := by
  constructor
  · intro heq
    have hsql : f.sql ++ g.sql = f.sql ++ h.sql := congrArg sql heq
    have hparams : f.params ++ g.params = f.params ++ h.params := congrArg params heq
    ext1
    · exact (String.append_right_inj _).1 hsql
    · exact List.append_cancel_left hparams
  · rintro rfl
    rfl

theorem append_left_inj : g ++ f = h ++ f ↔ g = h := by
  constructor
  · intro heq
    have hsql : g.sql ++ f.sql = h.sql ++ f.sql := congrArg sql heq
    have hparams : g.params ++ f.params = h.params ++ f.params := congrArg params heq
    ext1
    · exact (String.append_left_inj _).1 hsql
    · exact List.append_cancel_right hparams
  · rintro rfl
    rfl

end Fragment

namespace Expr

variable (d : DialectName)

theorem renderInto_eq (e : Expr) (f : Fragment) : e.renderInto d f = f ++ e.render d := by
  have h := renderInto_append d e f ∅
  rwa [Fragment.append_empty] at h

/-! ## One argument among others -/

theorem renderAll_cons (separator : String) (e : Expr) {es : List Expr} (hes : es ≠ []) :
    renderAll d separator (e :: es) =
      e.render d ++ Fragment.ofText separator ++ renderAll d separator es := by
  obtain ⟨e', es, rfl⟩ := List.exists_cons_of_ne_nil hes
  exact renderAll_cons_cons d separator e e' es

/-- The arguments beside one of them add a fragment before it and one behind it. -/
theorem exists_renderAll_eq (separator : String) (before behind : List Expr) :
    ∃ left right : Fragment, ∀ e, renderAll d separator (before ++ e :: behind) =
      left ++ e.render d ++ right := by
  induction before with
  | nil =>
    cases behind with
    | nil => exact ⟨∅, ∅, fun e => by rw [Fragment.append_empty, Fragment.empty_append]; rfl⟩
    | cons e' es =>
      refine ⟨∅, Fragment.ofText separator ++ renderAll d separator (e' :: es), fun e => ?_⟩
      rw [Fragment.empty_append, ← Fragment.append_assoc]
      exact renderAll_cons_cons d separator e e' es
  | cons b before ih =>
    obtain ⟨left, right, h⟩ := ih
    refine ⟨b.render d ++ Fragment.ofText separator ++ left, right, fun e => ?_⟩
    have hrest : before ++ e :: behind ≠ [] := List.append_ne_nil_of_right_ne_nil _ (by simp)
    rw [List.cons_append, renderAll_cons d separator b hrest, h]
    simp only [Fragment.append_assoc]

end Expr

/-! ## Places in trees -/

/-- A place in a tree: the composed expressions on the way to it, each with the arguments before
and behind the one that leads on. -/
inductive Context where
  | hole
  | composed (joint : Joint) (before : List Expr) (inner : Context) (behind : List Expr)
      (mapping : Mapping)

namespace Context

/-- The tree with an expression at the place. -/
def plug : Context → Expr → Expr
  | hole, e => e
  | composed joint before inner behind mapping, e =>
    .composed joint (before ++ inner.plug e :: behind) mapping

variable (d : DialectName)

/-- A tree adds a fragment before the place and one behind it. -/
theorem exists_render_plug (c : Context) :
    ∃ left right : Fragment, ∀ e, (c.plug e).render d = left ++ e.render d ++ right := by
  induction c with
  | hole => exact ⟨∅, ∅, fun e => by rw [Fragment.append_empty, Fragment.empty_append]; rfl⟩
  | composed j before inner behind m ih =>
    obtain ⟨innerLeft, innerRight, hinner⟩ := ih
    obtain ⟨left, right, hargs⟩ := Expr.exists_renderAll_eq d j.separator before behind
    refine ⟨Fragment.ofText j.opening ++ left ++ innerLeft,
      innerRight ++ right ++ Fragment.ofText j.closing, fun e => ?_⟩
    rw [plug, Expr.render_composed, hargs, hinner]
    simp only [Fragment.append_assoc]

/-- Exactly what has the same fragment can be exchanged at a place without a trace. -/
theorem render_plug_inj (c : Context) {x y : Expr} :
    (c.plug x).render d = (c.plug y).render d ↔ x.render d = y.render d := by
  obtain ⟨left, right, h⟩ := c.exists_render_plug d
  rw [h, h, Fragment.append_left_inj, Fragment.append_right_inj]

end Context

/-- An expression adds its own fragment to what is there already.  A call is written as its name
and its arguments in parentheses, a sum as its arguments with the sign between them, each with the
slots of its arguments from left to right; and exactly what has the same fragment can take the
place of a part, at any depth. -/
theorem Expr.renders_by_parts (d : DialectName) :
    (∀ (e : Expr) (f : Fragment), e.renderInto d f =
      ⟨f.sql ++ (e.render d).sql, f.params ++ (e.render d).params⟩) ∧
    (∀ (name : String) (args : List Expr) (m : Mapping),
      (composed (.call name) args m).render d =
        ⟨name ++ "(" ++ ", ".intercalate (args.map fun e => (e.render d).sql) ++ ")",
          args.flatMap fun e => (e.render d).params⟩) ∧
    (∀ (sign : Sign) (args : List Expr) (m : Mapping),
      (composed (.sum sign) args m).render d =
        ⟨"(" ++ (" " ++ sign.symbol ++ " ").intercalate (args.map fun e => (e.render d).sql) ++ ")",
          args.flatMap fun e => (e.render d).params⟩) ∧
    ∀ (c : Context) (x y : Expr),
      (c.plug x).render d = (c.plug y).render d ↔ x.render d = y.render d :=
  ⟨renderInto_eq d, render_call d, fun sign => render_composed_eq d (.sum sign),
    fun c _ _ => c.render_plug_inj d⟩

end TypedSql
