import TypedSql.Proofs.Folding
import TypedSql.Proofs.Rendering

/-!
# Chains of text operations

An operation from text to text refuses no text, and hands the type of its receiver on.  So a chain
of them is compiled as a whole.  A literal text is computed along the chain and stays a literal with
the mapping it had; any other receiver is wrapped in one call for each operation, the first one
innermost, and its slots are passed on as they are.  A length may end such a chain, and nothing can
follow it.
-/

namespace TypedSql

/-! ## Functions and calls -/

namespace Dialect

/-- The function that a dialect calls for a known operation. -/
def functionOf (d : Dialect) (b : Builtin) : String :=
  (d.function? b.operation).getD (b.function d.name)

theorem function?_eq_functionOf (d : Dialect) (b : Builtin) :
    d.function? b.operation = some (d.functionOf b) := by
  rw [functionOf, function?_operation]
  rfl

/-- The functions for a chain of transforms. -/
def functionsOf (d : Dialect) (ts : List Transform) : List String :=
  ts.map fun t => d.functionOf (.transform t)

theorem functionsOf_append_singleton (d : Dialect) (ts : List Transform) (t : Transform) :
    d.functionsOf (ts ++ [t]) = d.functionsOf ts ++ [d.functionOf (.transform t)] := by
  rw [functionsOf, List.map_append]
  rfl

end Dialect

/-- A text in calls of one function after the other, the first one innermost. -/
def inCalls (fs : List String) (sql : String) : String :=
  fs.foldl (fun sql f => f ++ "(" ++ sql ++ ")") sql

theorem inCalls_append_singleton (fs : List String) (f sql : String) :
    inCalls (fs ++ [f]) sql = f ++ "(" ++ inCalls fs sql ++ ")" := by
  unfold inCalls
  rw [List.foldl_append]
  rfl

namespace Transform

/-- The call of a transform, which has no arguments. -/
def call (t : Transform) : Call := ⟨t.operation, []⟩

/-- What one transform after the other makes of a text. -/
def applyAll (ts : List Transform) (s : String) : String := ts.foldl (fun s t => t.apply s) s

theorem applyAll_append_singleton (ts : List Transform) (t : Transform) (s : String) :
    applyAll (ts ++ [t]) s = t.apply (applyAll ts s) := by
  unfold applyAll
  rw [List.foldl_append]
  rfl

end Transform

/-! ## Operations without arguments -/

namespace Builtin

theorem refusal?_nil {b : Builtin} (hb : b ≠ substring) (t : LogicalType) :
    b.refusal? t [] = none := by
  cases b with
  | transform _ => rfl
  | length => rfl
  | substring => exact absurd rfl hb

theorem fold?_of_literalText?_eq_none {b : Builtin} {e : Expr} (hb : b ≠ substring)
    (he : e.literalText? = none) : b.fold? e [] = none := by
  cases b with
  | transform _ => rw [fold?, he, Option.map_none]
  | length => rw [fold?, he, Option.map_none]
  | substring => exact absurd rfl hb

/-- What is not a literal text is put into a call. -/
theorem lowered_of_literalText?_eq_none {b : Builtin} {e : Expr} (hb : b ≠ substring)
    (he : e.literalText? = none) (f : String) :
    b.lowered f e [] = .call f [e] (.computed (b.resultType e.logicalType)) := by
  rw [lowered, fold?_of_literalText?_eq_none hb he, Option.getD_none]
  cases b with
  | transform _ => rfl
  | length => rfl
  | substring => exact absurd rfl hb

end Builtin

theorem Expr.render_call_singleton (n : DialectName) (f : String) (e : Expr) (m : Mapping) :
    (call f [e] m).render n = ⟨f ++ "(" ++ (e.render n).sql ++ ")", (e.render n).params⟩ := by
  rw [render_call]
  ext1
  · simp
  · simp

namespace Compiler

variable {d : Dialect} {c : Compiler} (hc : (new d).value = .ok c)
include hc

/-- An operation without arguments that is not switched off refuses no text. -/
theorem value_compile_nil {b : Builtin} (hb : b ≠ .substring)
    (hd : d.isDisabled b.operation = false) {e : Expr} (he : e.logicalType.isText = true) :
    (c.compile b.operation e []).value = .ok (b.lowered (d.functionOf b) e []) := by
  have hm : d.method? e.logicalType b.operation = some (.ofBuiltin b (d.functionOf b)) :=
    Dialect.method?_eq_some_iff.2 ⟨⟨⟨b, rfl⟩, hd, Dialect.isText_iff.1 he⟩, b, _, rfl,
      d.function?_eq_functionOf b, rfl⟩
  rw [value_compile hc, hm]
  show (Method.ofBuiltin b (d.functionOf b)).compile e [] = _
  rw [Method.compile_ofBuiltin, Builtin.refusal?_nil hb]
  rfl

/-- There are no operations on what is not a text. -/
theorem value_compile_of_not_isText {e : Expr} (he : ¬ e.logicalType.isText = true)
    (operation : String) (args : List Expr) :
    (c.compile operation e args).value =
      .error (.unsupportedOperation e.logicalType operation d.name) := by
  have hm : d.method? e.logicalType operation = none :=
    Dialect.method?_eq_none_iff.2 fun ho => he (Dialect.isText_iff.2 ho.2.2)
  rw [value_compile hc, hm]

end Compiler

/-! ## Runs of calls -/

namespace Compiler

variable {c : Compiler}

theorem compileAll_cons {i : Nat} {e r : Expr} (call : Call)
    (h : (c.compile call.operation e call.args).value = .ok r) (calls : List Call) :
    c.compileAll i e (call :: calls) = c.compileAll (i + 1) r calls := by
  rw [compileAll, h]

theorem compileAll_append {i : Nat} {e r : Expr} {calls : List Call}
    (h : c.compileAll i e calls = .ok r) (more : List Call) :
    c.compileAll i e (calls ++ more) = c.compileAll (i + calls.length) r more := by
  induction calls generalizing i e with
  | nil =>
    obtain rfl := Except.ok.inj h
    rfl
  | cons call calls ih =>
    cases hv : (c.compile call.operation e call.args).value with
    | error x =>
      rw [compileAll, hv] at h
      cases h
    | ok e' =>
      rw [compileAll_cons call hv] at h
      rw [List.cons_append, compileAll_cons call hv, ih h, List.length_cons, Nat.add_right_comm,
        Nat.add_assoc]

end Compiler

/-! ## Chains of transforms -/

/-- What a chain of transforms makes of the receiver `r`. -/
structure Chained (d : Dialect) (r : Expr) (ts : List Transform) (e : Expr) : Prop where
  logicalType : e.logicalType = r.logicalType
  /-- What is not a literal text is wrapped in calls, in every dialect. -/
  wrapped : r.literalText? = none → e.literalText? = none ∧ ∀ n : DialectName,
    e.render n = ⟨inCalls (d.functionsOf ts) (r.render n).sql, (r.render n).params⟩
  /-- A literal text is computed, and keeps its mapping. -/
  folded : ∀ s m, r = .literal (.text s) m → e = .literal (.text (Transform.applyAll ts s)) m

namespace Chained

variable {d : Dialect} {r e : Expr} {ts : List Transform}

theorem nil (d : Dialect) (r : Expr) : Chained d r [] r where
  logicalType := rfl
  wrapped h := ⟨h, fun _ => rfl⟩
  folded _ _ h := h

/-- One more transform. -/
theorem snoc (h : Chained d r ts e) (t : Transform) :
    Chained d r (ts ++ [t])
      ((Builtin.transform t).lowered (d.functionOf (.transform t)) e []) where
  logicalType := (Builtin.logicalType_lowered _ _ _ _).trans h.logicalType
  wrapped hr := by
    obtain ⟨he, hrender⟩ := h.wrapped hr
    rw [Builtin.lowered_of_literalText?_eq_none (by simp) he]
    -- a call is not a literal text either
    refine ⟨rfl, fun n => ?_⟩
    rw [Expr.render_call_singleton, hrender, Dialect.functionsOf_append_singleton,
      inCalls_append_singleton]
  folded s m hr := by
    rw [h.folded s m hr, Transform.applyAll_append_singleton]
    rfl

theorem isText (h : Chained d r ts e) (hr : r.logicalType.isText = true) :
    e.logicalType.isText = true :=
  h.logicalType ▸ hr

variable {c : Compiler}

theorem compileAll (hc : (Compiler.new d).value = .ok c) (hr : r.logicalType.isText = true)
    (h : Chained d r ts e) {us : List Transform}
    (hus : ∀ t ∈ us, d.isDisabled t.operation = false) (i : Nat) :
    ∃ e', c.compileAll i e (us.map Transform.call) = .ok e' ∧ Chained d r (ts ++ us) e' := by
  induction us generalizing i ts e with
  | nil => exact ⟨e, rfl, by rwa [List.append_nil]⟩
  | cons t us ih =>
    -- what the chain has made so far is a text still, so there is a method for `t`
    have hstep := Compiler.value_compile_nil hc (b := .transform t) (by simp)
      (hus t List.mem_cons_self) (h.isText hr)
    obtain ⟨e', he', hchained⟩ :=
      ih (h.snoc t) (fun u hu => hus u (List.mem_cons_of_mem t hu)) (i + 1)
    refine ⟨e', ?_, ?_⟩
    · rw [List.map_cons, Compiler.compileAll_cons t.call hstep]
      exact he'
    · rwa [List.append_assoc] at hchained

end Chained

/-! ## A length at the end -/

/-- What a length at the end of a chain of transforms makes of the receiver `r`. -/
structure Measured (d : Dialect) (r : Expr) (ts : List Transform) (l : Expr) : Prop where
  logicalType : l.logicalType = .int
  wrapped : r.literalText? = none → ∀ n : DialectName,
    l.render n = ⟨d.functionOf .length ++ "(" ++ inCalls (d.functionsOf ts) (r.render n).sql ++ ")",
      (r.render n).params⟩
  /-- The length of a literal text is computed, if there is an integer for it. -/
  folded : ∀ s m, r = .literal (.text s) m →
    (Transform.applyAll ts s).toList.length ≤ Numeral.greatestInt64 →
      ∃ k : Int64, l = .typedLiteral (.int k) .int ∧
        k.toInt = (Transform.applyAll ts s).toList.length

theorem Chained.measured {d : Dialect} {r e : Expr} {ts : List Transform}
    (h : Chained d r ts e) :
    Measured d r ts (Builtin.length.lowered (d.functionOf .length) e []) where
  logicalType := Builtin.logicalType_lowered _ _ _ _
  wrapped hr n := by
    obtain ⟨he, hrender⟩ := h.wrapped hr
    rw [Builtin.lowered_of_literalText?_eq_none (by simp) he, Expr.render_call_singleton, hrender]
  folded s m hr hle := by
    rw [h.folded s m hr]
    refine ⟨Method.characterCount (Transform.applyAll ts s), rfl, ?_⟩
    have hleast : Numeral.leastInt64 ≤ 0 := by decide
    exact Numeral.toInt_clampInt64_of_mem (by omega) hle

/-! ## Whole chains -/

/-- Whatever is configured, a chain of transforms that are not switched off compiles on every text:
a literal is computed and everything else is wrapped in calls.  So does a length behind the chain,
and whatever is called on the length is refused. -/
theorem Compiler.transforms_wrap_or_fold {d : Dialect} {c : Compiler}
    (hc : (new d).value = .ok c) {r : Expr}
    (hr : r.logicalType = .char ∨ r.logicalType = .string) {ts : List Transform}
    (hts : ∀ t ∈ ts, d.isDisabled t.operation = false) :
    (∃ e, c.compileAll 0 r (ts.map Transform.call) = .ok e ∧ Chained d r ts e) ∧
    (d.isDisabled "length" = false →
      ∃ l, c.compileAll 0 r (ts.map Transform.call ++ [⟨"length", []⟩]) = .ok l ∧
        Measured d r ts l ∧ ∀ operation args,
          (c.compile operation l args).value =
            .error (.unsupportedOperation .int operation d.name)) := by
  have htext := Dialect.isText_iff.2 hr
  obtain ⟨e, he, hchained⟩ := (Chained.nil d r).compileAll hc htext hts 0
  rw [List.nil_append] at hchained
  refine ⟨⟨e, he, hchained⟩, fun hlength => ?_⟩
  have hmeasured := hchained.measured
  refine ⟨_, ?_, hmeasured, fun operation args => ?_⟩
  · have hstep := value_compile_nil hc (b := .length) (by simp) hlength (hchained.isText htext)
    rw [compileAll_append he]
    exact compileAll_cons ⟨"length", []⟩ hstep []
  · have hrefused := value_compile_of_not_isText hc
      (by rw [hmeasured.logicalType]; decide) operation args
    rwa [hmeasured.logicalType] at hrefused

/-- A parameter with a known value, under a configured function, with another operation switched
off. -/
theorem Compiler.transforms_wrap_or_fold_parameter :
    let d : Dialect :=
      ⟨.oracle, 255, .ofList [("toUpperCase", "UCASE")], .ofList [("trimLeft", ())]⟩
    let r : Expr := .parameter ⟨some "p", some (.text " ß ")⟩ (.computed .char)
    ∃ c e l, (new d).value = .ok c ∧
      c.compileAll 0 r [⟨"trim", []⟩, ⟨"toUpperCase", []⟩] = .ok e ∧
      e.render .mySql = ⟨"UCASE(TRIM(?))", [⟨some "p", some (.text " ß ")⟩]⟩ ∧
      c.compileAll 0 r [⟨"trim", []⟩, ⟨"toUpperCase", []⟩, ⟨"length", []⟩] = .ok l ∧
      l.render .mySql = ⟨"LENGTH(UCASE(TRIM(?)))", [⟨some "p", some (.text " ß ")⟩]⟩ ∧
      (c.compile "trim" l []).value = .error (.unsupportedOperation .int "trim" .oracle) := by
  intro d r
  obtain ⟨c, hc⟩ := exists_value_new_eq_ok (d := d) (by decide)
  have hts : ∀ t ∈ [Transform.trim, Transform.upper], d.isDisabled t.operation = false := by decide
  obtain ⟨⟨e, he, hchained⟩, hlength⟩ := transforms_wrap_or_fold hc (r := r) (.inl rfl) hts
  obtain ⟨l, hl, hmeasured, hrefused⟩ := hlength (by decide)
  refine ⟨c, e, l, hc, he, ?_, hl, ?_, hrefused _ _⟩
  · rw [(hchained.wrapped rfl).2]
    decide
  · rw [hmeasured.wrapped rfl]
    decide

end TypedSql
