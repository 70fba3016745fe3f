import Mathlib.Data.List.Forall2
import Mathlib.Data.Option.Basic
import TypedSql.Proofs.JsonRoundTrip
import TypedSql.Proofs.Reachable
import TypedSql.Proofs.Templates

/-!
# Decoded trees

A tree that is read from its JSON form has a node for each node there, with as many arguments, and
with the same texts around the placeholder of its template (`Expr.forall₂_nodes`), whether the
records of the form are objects or arrays.  So what holds by construction of trees that are built
up, two arguments for each sign and one placeholder in each template, holds of a decoded tree
exactly if it holds of its form.  A placeholder in a part of a template is one that no parameter
stands for.
-/

namespace TypedSql

open Json

/-! ## Parts that are read -/

theorem forall₂_of_mapM {α β : Type} {f : α → Option β} {as : List α} {bs : List β}
    (h : as.mapM f = some bs) : List.Forall₂ (fun a b => f a = some b) as bs := by
  induction as generalizing bs with
  | nil =>
    cases h
    exact .nil
  | cons a as ih =>
    rw [List.mapM_cons] at h
    obtain ⟨b, hb, h⟩ := Option.bind_eq_some_iff.1 h
    obtain ⟨bs, hbs, h⟩ := Option.bind_eq_some_iff.1 h
    cases h
    exact .cons hb (ih hbs)

theorem Json.optional?_cases {α : Type} {names : List String} {k : String}
    {read : Json → Option α} {j : Json} {o : Option α} (h : optional? names k read j = some o) :
    ((j.part? names k = none ∨ j.part? names k = some .null) ∧ o = none) ∨
      ∃ v a, j.part? names k = some v ∧ read v = some a ∧ o = some a := by
  obtain ⟨r, hr, h⟩ := Option.bind_eq_some_iff.1 h
  rw [part?, hr, Option.bind_some]
  split at h
  next hk =>
    cases h
    exact .inl ⟨.inl hk, rfl⟩
  next hk =>
    cases h
    exact .inl ⟨.inr hk, rfl⟩
  next v _ hk =>
    obtain ⟨a, ha, rfl⟩ := Option.map_eq_some_iff.1 h
    exact .inr ⟨v, a, hk, ha, rfl⟩

namespace Expr

variable {j : Json} {e : Expr}

/-! ## Reading one node -/

/-- What a node is read as, with its mapping `m`. -/
inductive ReadsAs (j : Json) (m : Mapping) : Expr → Prop where
  | literal {content : Json} {v : Value} (h : content? "Literal" j = some content)
      (hv : Value.ofJson? content = some v) : ReadsAs j m (literal v m)
  | parameter {content : Json} {s : ParamSlot} (h : content? "Parameter" j = some content)
      (hs : ParamSlot.ofJson? content = some s) : ReadsAs j m (parameter s m)
  | column {content : Json} {c : ColumnName} (h : content? "Column" j = some content)
      (hc : ColumnName.ofJson? content = some c) : ReadsAs j m (column c m)
  | composed {content : Json} {joint : Joint} {args : List Expr}
      (h : content? "Composed" j = some content) (hjoint : joint? j = some joint)
      (hargs : List.Forall₂ (fun a e => ofJson? a = some e) (argsJson j) args) :
      ReadsAs j m (composed joint args m)

theorem content?_of_ne {kind kind' : String} {content : Json} (h : content? kind j = some content)
    (hne : kind ≠ kind') : content? kind' j = none := by
  obtain ⟨k, hk, h⟩ := Option.bind_eq_some_iff.1 h
  rw [content?, hk, Option.bind_some]
  split at h
  next name v _ =>
    have hname : name = kind := by
      by_contra hname
      rw [if_neg hname] at h
      cases h
    exact if_neg (hname ▸ hne)
  · cases h

theorem argsJson_of_content? {kind : String} {content : Json} (h : content? kind j = some content)
    (hne : kind ≠ "Composed") : argsJson j = [] := by
  rw [argsJson, content?_of_ne h hne, Option.bind_none]

theorem joint?_of_content? {kind : String} {content : Json} (h : content? kind j = some content)
    (hne : kind ≠ "Composed") : joint? j = none := by
  rw [joint?, content?_of_ne h hne, Option.bind_none]

theorem readsAs_of_leaf? {f : Mapping → Expr} (h : leaf? j = some f) (m : Mapping) :
    ReadsAs j m (f m) := by
  rw [leaf?, Option.orElse_eq_some, Option.orElse_eq_some] at h
  rcases h with h | ⟨-, h | ⟨-, h⟩⟩
  · obtain ⟨content, hcontent, h⟩ := Option.bind_eq_some_iff.1 h
    obtain ⟨v, hv, rfl⟩ := Option.map_eq_some_iff.1 h
    exact .literal hcontent hv
  · obtain ⟨content, hcontent, h⟩ := Option.bind_eq_some_iff.1 h
    obtain ⟨s, hs, rfl⟩ := Option.map_eq_some_iff.1 h
    exact .parameter hcontent hs
  · obtain ⟨content, hcontent, h⟩ := Option.bind_eq_some_iff.1 h
    obtain ⟨c, hc, rfl⟩ := Option.map_eq_some_iff.1 h
    exact .column hcontent hc

theorem exists_readsAs (h : ofJson? j = some e) :
    ∃ m, required? fieldNames "mapping" Mapping.ofJson? j = some m ∧ ReadsAs j m e := by
  rw [ofJson?_eq] at h
  obtain ⟨m, hm, h⟩ := Option.bind_eq_some_iff.1 h
  refine ⟨m, hm, ?_⟩
  split at h
  next f hf =>
    cases h
    exact readsAs_of_leaf? hf m
  next =>
    obtain ⟨joint, hjoint, h⟩ := Option.bind_eq_some_iff.1 h
    obtain ⟨args, hargs, rfl⟩ := Option.map_eq_some_iff.1 h
    obtain ⟨content, hcontent, -⟩ := Option.bind_eq_some_iff.1 hjoint
    exact .composed hcontent hjoint (forall₂_of_mapM hargs)

/-! ## Node by node -/

mutual

/-- The nodes of a tree, each before its arguments. -/
def nodes : Expr → List Expr
  | literal v m => [literal v m]
  | parameter s m => [parameter s m]
  | column c m => [column c m]
  | composed j args m => composed j args m :: nodesAll args

def nodesAll : List Expr → List Expr
  | [] => []
  | e :: es => e.nodes ++ nodesAll es

end

theorem nodesAll_eq (es : List Expr) : nodesAll es = es.flatMap nodes := by
  induction es with
  | nil => rfl
  | cons e es ih => rw [nodesAll, ih, List.flatMap_cons]

/-- The nodes of the JSON form of a tree, each before its arguments. -/
def nodesJson (j : Json) : List Json := j :: (argsJson j).attach.flatMap fun a => nodesJson a.1
termination_by sizeOf j
decreasing_by exact sizeOf_lt_of_mem_argsJson a.2

theorem nodesJson_eq (j : Json) : nodesJson j = j :: (argsJson j).flatMap nodesJson := by
  rw [nodesJson, List.flatMap_subtype fun _ _ => rfl, List.unattach_attach]

/-- A form is read node by node. -/
theorem forall₂_nodes (j : Json) (e : Expr) (h : ofJson? j = some e) :
    List.Forall₂ (fun j e => ofJson? j = some e) (nodesJson j) e.nodes := by
  rw [nodesJson_eq]
  obtain ⟨m, -, hread⟩ := exists_readsAs h
  cases hread with
  | literal hc | parameter hc | column hc =>
    rw [argsJson_of_content? hc (by decide)]
    exact .cons h .nil
  | composed hc hjoint hargs =>
    have hmem := (List.forall₂_and_left _ _).2 ⟨fun a (ha : a ∈ argsJson j) => ha, hargs⟩
    rw [nodes, nodesAll_eq]
    exact .cons h (List.rel_flatMap hmem fun {a b} hab => forall₂_nodes a b hab.2)
termination_by sizeOf j
decreasing_by exact sizeOf_lt_of_mem_argsJson hab.1

/-- What is read off the nodes of a tree is what is read off those of its form. -/
theorem flatMap_nodes_eq {β : Type} {f : Json → List β} {g : Expr → List β}
    (hfg : ∀ {j e}, ofJson? j = some e → f j = g e) (h : ofJson? j = some e) :
    (nodesJson j).flatMap f = e.nodes.flatMap g := by
  have hf : ∀ {a b}, ofJson? a = some b → List.Forall₂ Eq (f a) (g b) := by
    intro a b hab
    rw [List.forall₂_eq_eq_eq]
    exact hfg hab
  have hrel := List.rel_flatMap (forall₂_nodes j e h) fun {a b} => hf (a := a) (b := b)
  rwa [List.forall₂_eq_eq_eq] at hrel

/-! ## Signs -/

/-- How many arguments a sign has. -/
def signArities : Expr → List Nat
  | composed (.sum _) args _ => [args.length]
  | _ => []

/-- How many arguments stand with a sign, in the form of a node. -/
def signAritiesJson (j : Json) : List Nat :=
  match joint? j with
  | some (.sum _) => [(argsJson j).length]
  | _ => []

/-- Each sign stands between two arguments. -/
def Paired (e : Expr) : Prop :=
  ∀ sign args m, composed (.sum sign) args m ∈ e.nodes → args.length = 2

theorem signAritiesJson_eq (h : ofJson? j = some e) : signAritiesJson j = e.signArities := by
  obtain ⟨m, -, hread⟩ := exists_readsAs h
  cases hread with
  | literal hc | parameter hc | column hc =>
    rw [signAritiesJson, joint?_of_content? hc (by decide)]
    rfl
  | @composed _ joint _ hc hjoint hargs =>
    rw [signAritiesJson, hjoint]
    cases joint with
    | call f => rfl
    | sum sign => exact congrArg (fun n => [n]) hargs.length_eq

theorem paired_iff : e.Paired ↔ ∀ n ∈ e.nodes.flatMap signArities, n = 2 := by
  constructor
  · intro h n hn
    obtain ⟨e', he', hn⟩ := List.mem_flatMap.1 hn
    unfold signArities at hn
    split at hn
    next sign args m =>
      rw [List.mem_singleton.1 hn]
      exact h sign args m he'
    · cases hn
  · intro h sign args m hmem
    exact h _ (List.mem_flatMap.2 ⟨_, hmem, List.mem_singleton_self _⟩)

/-! ## Templates -/

/-- The texts before and after the placeholder of a column's template. -/
def templateParts : Expr → List String
  | column c _ => c.wrapper.toList.flatMap fun t => [t.before, t.after]
  | _ => []

/-- The texts of a column's template, in the form of a node. -/
def templatePartsJson (j : Json) : List String :=
  ((content? "Column" j).bind (part? ColumnName.fieldNames "select_wrapper")).toList.flatMap
    fun w => Template.fieldNames.filterMap fun k => required? Template.fieldNames k text? w

/-- Each template is read back from its text. -/
def Parsable (e : Expr) : Prop :=
  ∀ c m t, column c m ∈ e.nodes → c.wrapper = some t → Template.parse t.text = .ok t

theorem filterMap_parts_of_ofJson? {w : Json} {t : Template} (h : Template.ofJson? w = some t) :
    Template.fieldNames.filterMap (fun k => required? Template.fieldNames k text? w) =
      [t.before, t.after] := by
  obtain ⟨before, hbefore, h⟩ := Option.bind_eq_some_iff.1 h
  obtain ⟨after, hafter, h⟩ := Option.bind_eq_some_iff.1 h
  cases h
  change ["prefix", "suffix"].filterMap _ = _
  simp [hbefore, hafter]

theorem templatePartsJson_eq (h : ofJson? j = some e) : templatePartsJson j = e.templateParts := by
  obtain ⟨m, -, hread⟩ := exists_readsAs h
  cases hread with
  | literal hc | parameter hc | composed hc =>
    rw [templatePartsJson, content?_of_ne hc (by decide)]
    rfl
  | column hc hname =>
    obtain ⟨q, -, hname⟩ := Option.bind_eq_some_iff.1 hname
    obtain ⟨n, -, hname⟩ := Option.bind_eq_some_iff.1 hname
    obtain ⟨wrapper, hw, hname⟩ := Option.bind_eq_some_iff.1 hname
    cases hname
    rw [templatePartsJson, hc, Option.bind_some]
    rcases optional?_cases hw with ⟨hfield | hfield, rfl⟩ | ⟨w, t, hfield, ht, rfl⟩
    · rw [hfield]
      rfl
    · rw [hfield]
      rfl
    · rw [hfield, templateParts, Option.toList_some, Option.toList_some, List.flatMap_singleton,
        List.flatMap_singleton, filterMap_parts_of_ofJson? ht]

theorem parsable_iff :
    e.Parsable ↔ ∀ s ∈ e.nodes.flatMap templateParts, placeholder ∉ s.toList := by
  constructor
  · intro h s hs
    obtain ⟨e', he', hs⟩ := List.mem_flatMap.1 hs
    unfold templateParts at hs
    split at hs
    next c m =>
      obtain ⟨t, ht, hs⟩ := List.mem_flatMap.1 hs
      have hparted := (Template.parse_eq_ok_iff.1 (h c m t he' (Option.mem_toList.1 ht))).1
      simp only [List.mem_cons, List.not_mem_nil, or_false] at hs
      rcases hs with rfl | rfl
      · exact hparted.1
      · exact hparted.2
    · cases hs
  · intro h c m t hmem ht
    have hparts : ∀ s ∈ [t.before, t.after], placeholder ∉ s.toList := by
      intro s hs
      refine h s (List.mem_flatMap.2 ⟨_, hmem, ?_⟩)
      rw [templateParts, ht]
      simpa using hs
    exact Template.parse_text ⟨hparts _ (by simp), hparts _ (by simp)⟩

/-! ## Placeholders of templates -/

mutual

/-- The tree without the templates of its columns. -/
def unwrapped : Expr → Expr
  | literal v m => literal v m
  | parameter s m => parameter s m
  | column c m => column { c with wrapper := none } m
  | composed j args m => composed j (unwrappedAll args) m

def unwrappedAll : List Expr → List Expr
  | [] => []
  | e :: es => e.unwrapped :: unwrappedAll es

end

/-- The number of placeholders in texts. -/
def marks (ss : List String) : Nat := (ss.flatMap String.toList).count placeholder

theorem marks_append (ss ss' : List String) : marks (ss ++ ss') = marks ss + marks ss' := by
  rw [marks, List.flatMap_append, List.count_append]
  rfl

theorem marks_eq_zero_iff {ss : List String} :
    marks ss = 0 ↔ ∀ s ∈ ss, placeholder ∉ s.toList := by
  simp [marks, List.count_eq_zero, List.mem_flatMap]

end Expr

/-- The fragments take the same slots, and there are `n` placeholders more in the first. -/
structure Fragment.Exceeds (f g : Fragment) (n : Nat) : Prop where
  params : f.params = g.params
  count : f.sql.toList.count placeholder = g.sql.toList.count placeholder + n

namespace Fragment.Exceeds

variable {f g f' g' : Fragment} {n n' : Nat}

theorem refl (f : Fragment) : f.Exceeds f 0 := ⟨rfl, rfl⟩

theorem append (h : f.Exceeds g n) (h' : f'.Exceeds g' n') :
    (f ++ f').Exceeds (g ++ g') (n + n') where
  params := by rw [params_append, params_append, h.params, h'.params]
  count := by
    rw [sql_append, sql_append, String.toList_append, String.toList_append, List.count_append,
      List.count_append, h.count, h'.count]
    omega

end Fragment.Exceeds

namespace Expr

variable (d : DialectName)

theorem exceeds_column (c : ColumnName) (m : Mapping) :
    ((column c m).render d).Exceeds ((column { c with wrapper := none } m).render d)
      (marks (templateParts (column c m))) := by
  rw [render_column, render_column, columnText_eq, templateParts]
  cases c.wrapper with
  | none => exact .refl _
  | some t =>
    refine ⟨rfl, ?_⟩
    simp only [Fragment.ofText, Option.elim_some, Template.apply, String.toList_append,
      List.count_append, marks, Option.toList_some, List.flatMap_cons, List.flatMap_nil,
      List.append_nil]
    omega

mutual

/-- What templates add to what is rendered: their own placeholders, and no slots. -/
theorem exceeds_unwrapped : ∀ e : Expr,
    (e.render d).Exceeds (e.unwrapped.render d) (marks (e.nodes.flatMap templateParts))
  | literal v m => .refl _
  | parameter s m => .refl _
  | column c m => by
    rw [unwrapped, nodes, List.flatMap_singleton]
    exact exceeds_column d c m
  | composed j args m => by
    have hparts : (composed j args m).nodes.flatMap templateParts =
        (nodesAll args).flatMap templateParts := rfl
    have h := ((Fragment.Exceeds.refl (.ofText j.opening)).append
      (exceeds_unwrappedAll j.separator args)).append (.refl (.ofText j.closing))
    rwa [unwrapped, render_composed, render_composed, hparts, ← Nat.zero_add (marks _)]

theorem exceeds_unwrappedAll (separator : String) : ∀ es : List Expr,
    (renderAll d separator es).Exceeds (renderAll d separator (unwrappedAll es))
      (marks ((nodesAll es).flatMap templateParts))
  | [] => .refl _
  | [e] => by
    rw [nodesAll, nodesAll, List.append_nil]
    exact exceeds_unwrapped e
  | e :: e' :: es => by
    have h := ((exceeds_unwrapped e).append (.refl (.ofText separator))).append
      (exceeds_unwrappedAll separator (e' :: es))
    rw [unwrappedAll, unwrappedAll, renderAll_cons_cons, renderAll_cons_cons, nodesAll,
      List.flatMap_append, marks_append]
    exact h

end

end Expr

/-! ## Built trees and decoded ones -/

/-- The templates of a column are read back from their texts. -/
def Column.Templated (c : Column) : Prop := ∀ mode t, c.wrappers.get? mode = some t → t.Parted

theorem Column.kept_templated : Kept Templated where
  new _ _ mode t h := by cases mode <;> cases h
  attach h _ := h
  toSealed h := h
  step {c c' s} h hs := by
    cases hs with
    | @wrapper mode' template t' hparse =>
      intro mode t ht
      rw [Wrappers.get?_set] at ht
      split at ht
      · cases ht
        exact (Template.parse_eq_ok_iff.1 hparse).1
      · exact h mode t ht
    | _ => exact h

theorem Column.Reachable.templated {c : Column} (h : c.Reachable) : c.Templated :=
  h.of_kept kept_templated fun hs _ _ => hs

namespace Expr

/-- The trees that are built up from values, parameters and columns. -/
inductive Built : Expr → Prop where
  | literal (v : Value) (m : Mapping) : Built (literal v m)
  | parameter (name : String) (value : Option Value) (m : Mapping) :
      Built (parameter ⟨some name, value⟩ m)
  | column {c : Column} (h : c.Reachable) : Built c.toExpr
  | call (f : String) {args : List Expr} (m : Mapping) (h : ∀ e ∈ args, Built e) :
      Built (call f args m)
  | binary (sign : Sign) {x y : Expr} (m : Mapping) (hx : Built x) (hy : Built y) :
      Built (binary sign x y m)

theorem mem_nodes_composed {joint : Joint} {args : List Expr} {m : Mapping} :
    e ∈ (composed joint args m).nodes ↔ e = composed joint args m ∨ ∃ a ∈ args, e ∈ a.nodes := by
  rw [nodes, nodesAll_eq, List.mem_cons, List.mem_flatMap]

theorem paired_composed {joint : Joint} {args : List Expr} {m : Mapping}
    (hjoint : ∀ sign, joint = .sum sign → args.length = 2) (hargs : ∀ a ∈ args, a.Paired) :
    (composed joint args m).Paired := by
  intro sign args' m' hmem
  rcases mem_nodes_composed.1 hmem with heq | ⟨a, ha, hmem⟩
  · cases heq
    exact hjoint sign rfl
  · exact hargs a ha sign args' m' hmem

theorem parsable_composed {joint : Joint} {args : List Expr} {m : Mapping}
    (hargs : ∀ a ∈ args, a.Parsable) : (composed joint args m).Parsable := by
  intro c m' t hmem ht
  rcases mem_nodes_composed.1 hmem with heq | ⟨a, ha, hmem⟩
  · cases heq
  · exact hargs a ha c m' t hmem ht

theorem Built.paired (h : Built e) : e.Paired := by
  induction h with
  | literal | parameter | column =>
    intro sign args m hmem
    cases List.mem_singleton.1 hmem
  | call f m _ ih => exact paired_composed nofun ih
  | binary sign m _ _ ihx ihy =>
    exact paired_composed (fun _ _ => rfl) (by simp [ihx, ihy])

theorem Built.parsable (h : Built e) : e.Parsable := by
  induction h with
  | literal | parameter =>
    intro c m t hmem
    cases List.mem_singleton.1 hmem
  | column hc =>
    intro c m t hmem ht
    cases List.mem_singleton.1 hmem
    exact Template.parse_text (hc.templated .select t ht)
  | call f m _ ih => exact parsable_composed ih
  | binary sign m _ _ ihx ihy => exact parsable_composed (by simp [ihx, ihy])

/-- What is built up has two arguments for each sign, and its templates are read back.  A decoded
tree has these exactly if its form does, at every node.  A template adds the placeholders in its
parts to what is rendered, and no slots for them, so nothing is added exactly if all templates are
read back. -/
theorem decoded_like_form (h : ofJson? j = some e) :
    (∀ e', Built e' → e'.Paired ∧ e'.Parsable) ∧
    (e.Paired ↔ ∀ n ∈ (nodesJson j).flatMap signAritiesJson, n = 2) ∧
    (e.Parsable ↔ ∀ s ∈ (nodesJson j).flatMap templatePartsJson, placeholder ∉ s.toList) ∧
    (∀ d, (e.render d).Exceeds (e.unwrapped.render d)
      (marks ((nodesJson j).flatMap templatePartsJson))) ∧
    (e.Parsable ↔ ∀ d, (e.render d).sql.toList.count placeholder =
      (e.unwrapped.render d).sql.toList.count placeholder) := by
  rw [flatMap_nodes_eq signAritiesJson_eq h, flatMap_nodes_eq templatePartsJson_eq h]
  refine ⟨fun _ he => ⟨he.paired, he.parsable⟩, paired_iff, parsable_iff,
    fun d => exceeds_unwrapped d e, ?_⟩
  rw [parsable_iff, ← marks_eq_zero_iff]
  constructor
  · intro hzero d
    rw [(exceeds_unwrapped d e).count, hzero, Nat.add_zero]
  · intro hcount
    have h := (exceeds_unwrapped .ansi e).count
    rw [hcount .ansi] at h
    omega

/-- The records of the first argument and those around it are arrays. -/
theorem decoded_like_form_of_wrapped :
    let m : Mapping := .computed .string
    let wrapped := column ⟨none, "A", some ⟨"F(", ")"⟩⟩ m
    let one := literal (.int 1) m
    let tree := binary .plus wrapped one m
    let mapping : Json := .array [.string "String", .null, .array []]
    let name : Json := .array [.null, .string "A", .array [.string "F(", .string ")"]]
    let args : List Json := [.array [.object [("Column", name)], mapping], one.toJson]
    let content : Json := .array [(Joint.sum .plus).toJson, .array args]
    let form : Json := .array [.object [("Composed", content)], mapping]
    ofJson? form = some tree ∧
      (∀ n ∈ (nodesJson form).flatMap signAritiesJson, n = 2) ∧
      (∀ s ∈ (nodesJson form).flatMap templatePartsJson, placeholder ∉ s.toList) ∧
      ∀ d, (tree.render d).sql.toList.count placeholder =
        (tree.unwrapped.render d).sql.toList.count placeholder := by
  intro m wrapped one tree mapping name args content form
  have hwrapped : ofJson? (.array [.object [("Column", name)], mapping]) = some wrapped := by
    rw [ofJson?_eq]
    rfl
  have hargs : args.mapM ofJson? = some [wrapped, one] := by
    rw [List.mapM_cons, List.mapM_cons, hwrapped, ofJson?_toJson one]
    rfl
  have hread : ofJson? form = some tree := by
    rw [ofJson?_eq]
    exact congrArg (Option.map fun args => composed (.sum .plus) args m) hargs
  have hpaired : tree.Paired := paired_iff.2 (by decide)
  have hparsable : tree.Parsable := parsable_iff.2 (by decide)
  obtain ⟨-, hsigns, htemplates, -, hcount⟩ := decoded_like_form hread
  exact ⟨hread, hsigns.1 hpaired, htemplates.1 hparsable, hcount.1 hparsable⟩

/-- A sign with one argument is read, and so is a template with two placeholders, one of which no
parameter stands for. -/
theorem exists_decoded_not_built :
    ∃ j e, ofJson? j = some e ∧ ¬ e.Paired ∧ ¬ e.Parsable ∧ ¬ Built e ∧
      e.render .ansi = ⟨"(F(?, \"A\"))", []⟩ := by
  let m : Mapping := .computed .string
  let tree := composed (.sum .plus) [column ⟨none, "A", some ⟨"F(?, ", ")"⟩⟩ m] m
  have hpaired : ¬ tree.Paired := by
    rw [paired_iff]
    decide
  have hparsable : ¬ tree.Parsable := by
    rw [parsable_iff]
    decide
  exact ⟨tree.toJson, tree, ofJson?_toJson tree, hpaired, hparsable, fun h => hpaired h.paired,
    by decide⟩

end Expr

end TypedSql
