import TypedSql.Proofs.LiteralTokens

/-!
# Placeholders of a rendered tree

A tree has tokens of its own (`Expr.tokens`), and what is rendered is those tokens, written.  They
are orderly if the names that the tree writes as they are hold nothing reserved.  The lexer then
finds them all again: no value leaks out of its quotation, and the placeholders stand for the
parameters one by one.
-/

namespace TypedSql

/-! ## Joints -/

namespace Joint

/-- The name of the function that is called, if there is one. -/
def function? : Joint → Option String
  | call f => some f
  | sum _ => none

theorem unreserved_opening {j : Joint} (h : ∀ f ∈ j.function?, Unreserved f.toList) :
    Unreserved j.opening.toList := by
  have hparen : Unreserved "(".toList := by decide
  cases j with
  | call f =>
    rw [opening, String.toList_append]
    exact (h f rfl).append hparen
  | sum sign => exact hparen

theorem unreserved_closing (j : Joint) : Unreserved j.closing.toList := by
  have hparen : Unreserved ")".toList := by decide
  cases j <;> exact hparen

/-- A separator keeps what it stands between apart, the hyphen of a difference included. -/
theorem orderly_separator (j : Joint) {ts us : List Token} (h : Orderly ts) (h' : Orderly us) :
    Orderly (ts ++ Token.plain j.separator.toList ++ us) := by
  have hblank : ' ' ∉ reserved := by decide
  have hus := h'.cons hblank
  rw [List.append_assoc]
  cases j with
  | call f =>
    have hsep : (call f).separator.toList = [',', ' '] := by simp [separator]
    rw [hsep]
    exact h.append_cons (c := ',') (by decide) hus
  | sum sign =>
    cases sign with
    | plus =>
      have hsep : (sum .plus).separator.toList = [' ', '+', ' '] := by decide
      rw [hsep]
      exact h.append_cons hblank (hus.cons (c := '+') (by decide))
    | minus =>
      have hsep : (sum .minus).separator.toList = [' ', '-', ' '] := by decide
      rw [hsep]
      refine h.append_cons hblank (hus.hyphen fun t ht => ?_)
      obtain rfl := Option.some.inj ht
      decide

end Joint

/-! ## Trees -/

namespace Expr

/-- The tokens of a column: its identifiers, with its template around them. -/
def columnTokens (c : ColumnName) : List Token :=
  let column := Token.name c.column.toList
  let qualified :=
    match c.qualifier with
    | some table => .name table.toList :: (Token.plain ['.'] ++ [column])
    | none => [column]
  match c.wrapper with
  | some t => Token.plain t.before.toList ++ qualified ++ Token.plain t.after.toList
  | none => qualified

mutual

/-- The tokens of a tree: one for each slot and each quotation, one for every other character. -/
def tokens (d : DialectName) : Expr → List Token
  | literal v _ => d.valueTokens v
  | parameter s _ => [.slot s]
  | column c _ => columnTokens c
  | composed j args _ =>
    Token.plain j.opening.toList ++ tokensAll d j args ++ Token.plain j.closing.toList

def tokensAll (d : DialectName) (j : Joint) : List Expr → List Token
  | [] => []
  | [e] => e.tokens d
  | e :: es => e.tokens d ++ Token.plain j.separator.toList ++ tokensAll d j es

end

mutual

/-- The texts that a tree writes as they are: the names of functions, and what templates put
around a column. -/
def bareTexts : Expr → List String
  | literal _ _ | parameter _ _ => []
  | column c _ =>
    match c.wrapper with
    | some t => [t.before, t.after]
    | none => []
  | composed j args _ => j.function?.toList ++ bareTextsAll args

def bareTextsAll : List Expr → List String
  | [] => []
  | e :: es => e.bareTexts ++ bareTextsAll es

end

mutual

/-- The literals, parameters and columns of a tree, from left to right. -/
def leaves : Expr → List Expr
  | literal v m => [literal v m]
  | parameter s m => [parameter s m]
  | column c m => [column c m]
  | composed _ args _ => leavesAll args

def leavesAll : List Expr → List Expr
  | [] => []
  | e :: es => e.leaves ++ leavesAll es

end

/-- The slot that a leaf takes: a parameter its own, and a number that is not finite one without a
name. -/
def leafSlot? : Expr → Option ParamSlot
  | parameter s _ => some s
  | literal (.float x) _ => if x.isFinite then none else some ⟨none, some (.float x)⟩
  | _ => none

/-! ### The tokens are what is rendered -/

variable (d : DialectName)

theorem tokensAll_cons_cons (j : Joint) (e e' : Expr) (es : List Expr) :
    tokensAll d j (e :: e' :: es) =
      e.tokens d ++ Token.plain j.separator.toList ++ tokensAll d j (e' :: es) :=
  rfl

theorem write_columnTokens (c : ColumnName) :
    Token.write d (columnTokens c) = .ofText (columnText d c) := by
  obtain ⟨q, n, w⟩ := c
  have hname : ∀ s : String, Token.write d [.name s.toList] = .ofText (d.quoteIdentifier s) :=
    fun s => Token.write_name d s.toList
  have hqualified : Token.write d (columnTokens ⟨q, n, none⟩) =
      .ofText (columnText d ⟨q, n, none⟩) := by
    cases q with
    | none => exact hname n
    | some q =>
      have htokens : columnTokens ⟨some q, n, none⟩ =
          [.name q.toList] ++ Token.plain ['.'] ++ [.name n.toList] := rfl
      rw [htokens, Token.write_append, Token.write_append, hname, hname, Token.write_plain,
        Fragment.ofText_append, Fragment.ofText_append]
      rfl
  cases w with
  | none => exact hqualified
  | some t =>
    have htokens : columnTokens ⟨q, n, some t⟩ =
        Token.plain t.before.toList ++ columnTokens ⟨q, n, none⟩ ++
          Token.plain t.after.toList := rfl
    rw [htokens, Token.write_append, Token.write_append, hqualified, Token.write_plain,
      Token.write_plain, String.ofList_toList, String.ofList_toList, Fragment.ofText_append,
      Fragment.ofText_append]
    rfl

mutual

theorem render_eq_write_tokens : ∀ e : Expr, e.render d = Token.write d (e.tokens d)
  | literal v m => by
    have hv := d.write_valueTokens v
    rw [tokens, hv, render, renderInto]
    cases d.literal? v with
    | some s => exact (Fragment.addText_eq ∅ s).trans (Fragment.empty_append _)
    | none => exact (Fragment.addSlot_eq ∅ _).trans (Fragment.empty_append _)
  | parameter s m => (Fragment.addSlot_eq ∅ s).trans (Fragment.empty_append _)
  | column c m => by rw [tokens, write_columnTokens, render_column]
  | composed j args m => by
    rw [render_composed, renderAll_eq_write_tokensAll, tokens, Token.write_append,
      Token.write_append, Token.write_plain, Token.write_plain, String.ofList_toList,
      String.ofList_toList]

theorem renderAll_eq_write_tokensAll (j : Joint) :
    ∀ es : List Expr, renderAll d j.separator es = Token.write d (tokensAll d j es)
  | [] => rfl
  | [e] => render_eq_write_tokens e
  | e :: e' :: es => by
    rw [renderAll_cons_cons, render_eq_write_tokens e, renderAll_eq_write_tokensAll j (e' :: es),
      tokensAll_cons_cons, Token.write_append, Token.write_append, Token.write_plain,
      String.ofList_toList]

end

/-! ### The tokens are orderly -/

theorem orderly_columnTokens {c : ColumnName}
    (h : ∀ t ∈ c.wrapper, Unreserved t.before.toList ∧ Unreserved t.after.toList) :
    Orderly (columnTokens c) := by
  obtain ⟨q, n, w⟩ := c
  have hqualified : Orderly (columnTokens ⟨q, n, none⟩) := by
    cases q with
    | none => exact .name _
    | some q => exact (Orderly.name _).append_cons (c := '.') (by decide) (.name _)
  cases w with
  | none => exact hqualified
  | some t => exact (Orderly.plain_append (h t rfl).1 hqualified).append_plain (h t rfl).2

mutual

theorem orderly_tokens :
    ∀ e : Expr, (∀ s ∈ e.bareTexts, Unreserved s.toList) → Orderly (e.tokens d)
  | literal v m, _ => d.orderly_valueTokens v
  | parameter s m, _ => .slot s
  | column c m, h => by
    refine orderly_columnTokens fun t ht => ?_
    have htexts : (column c m).bareTexts = [t.before, t.after] := by
      simp only [bareTexts, Option.mem_def.1 ht]
    rw [htexts] at h
    exact ⟨h _ (by simp), h _ (by simp)⟩
  | composed j args m, h => by
    have hj : ∀ f ∈ j.function?, Unreserved f.toList := fun f hf =>
      h f (List.mem_append_left _ (by simpa using hf))
    have hargs := orderly_tokensAll j args fun s hs => h s (List.mem_append_right _ hs)
    exact (Orderly.plain_append (Joint.unreserved_opening hj) hargs).append_plain
      j.unreserved_closing

theorem orderly_tokensAll (j : Joint) :
    ∀ es : List Expr, (∀ s ∈ bareTextsAll es, Unreserved s.toList) → Orderly (tokensAll d j es)
  | [], _ => .nil
  | [e], h => orderly_tokens e fun s hs => h s (List.mem_append_left _ hs)
  | e :: e' :: es, h => by
    have he := orderly_tokens e fun s hs => h s (List.mem_append_left _ hs)
    have hes := orderly_tokensAll j (e' :: es) fun s hs => h s (List.mem_append_right _ hs)
    exact j.orderly_separator he hes

end

/-! ### The slots are those of the leaves -/

theorem filterMap_slot?_plain (s : List Char) : (Token.plain s).filterMap Token.slot? = [] := by
  simp [Token.plain, Token.slot?]

/-- A value has a slot exactly if it has no text in line. -/
theorem leafSlot?_literal (v : Value) (m : Mapping) :
    leafSlot? (literal v m) =
      match d.literal? v with
      | some _ => none
      | none => some ⟨none, some v⟩ := by
  cases v with
  | float x =>
    simp only [leafSlot?, DialectName.literal?]
    split <;> rfl
  | _ => rfl

mutual

theorem slots_tokens :
    ∀ e : Expr, (e.tokens d).filterMap Token.slot? = e.leaves.filterMap leafSlot?
  | literal v m => by
    have hslots := congrArg Fragment.params (d.write_valueTokens v)
    have hleaf := leafSlot?_literal d v m
    refine hslots.trans ?_
    rw [leaves, List.filterMap_cons, hleaf]
    cases d.literal? v <;> rfl
  | parameter s m => rfl
  | column c m => congrArg Fragment.params (write_columnTokens d c)
  | composed j args m => by
    rw [tokens, List.filterMap_append, List.filterMap_append, filterMap_slot?_plain,
      filterMap_slot?_plain, slots_tokensAll j args, List.nil_append, List.append_nil]
    rfl

theorem slots_tokensAll (j : Joint) :
    ∀ es : List Expr,
      (tokensAll d j es).filterMap Token.slot? = (leavesAll es).filterMap leafSlot?
  | [] => rfl
  | [e] => by
    rw [tokensAll, slots_tokens e, leavesAll, leavesAll, List.append_nil]
  | e :: e' :: es => by
    have hleaves : leavesAll (e :: e' :: es) = e.leaves ++ leavesAll (e' :: es) := rfl
    rw [tokensAll_cons_cons, List.filterMap_append, List.filterMap_append, filterMap_slot?_plain,
      slots_tokens e, slots_tokensAll j (e' :: es), hleaves, List.filterMap_append,
      List.append_nil]

end

end Expr

/-! ## Placeholders and parameters -/

/-- Whatever the values and identifiers of a tree hold, the lexer reads the statement to its end and
finds the tokens of the tree.  No two hyphens touch outside the quotations, and the placeholders
there stand for the parameters one by one, in the order of the leaves. -/
theorem Expr.placeholders_stand_for_params (d : DialectName) {e : Expr}
    (h : ∀ s ∈ e.bareTexts, Unreserved s.toList) :
    ∃ ls, d.lex (e.render d).sql.toList = some ls ∧ ls = (e.tokens d).map Token.read ∧
      ls.count (.plain '?') = (e.render d).params.length ∧
      ¬ [.plain '-', .plain '-'] <:+: ls ∧
      ((e.tokens d).filter (·.read = .plain '?')).map Token.slot? =
        (e.render d).params.map some ∧
      (e.render d).params = e.leaves.filterMap leafSlot? := by
  have htokens := orderly_tokens d e h
  rw [render_eq_write_tokens]
  exact ⟨_, htokens.lex_write d, rfl, htokens.count_placeholder, htokens.not_hyphens,
    htokens.slots_of_placeholders, slots_tokens d e⟩

/-- A difference in a call: a text made of quote marks, hyphens and a placeholder, a negative
number, a parameter, and a number that is not finite. -/
theorem Expr.placeholders_stand_for_params_difference :
    let e := call "COALESCE"
      [binary .minus (typedLiteral (.text "?'\\--") .string) (typedLiteral (.int (-5)) .int)
          (.computed .int),
        parameter ⟨some "p", none⟩ (.computed .int),
        column ⟨some "t]", "c\x60?", some ⟨"LOWER(", ")"⟩⟩ (.computed .string),
        typedLiteral (.float ⟨0x7FF8000000000000⟩) .double] (.computed .int)
    ∃ ls, DialectName.mySql.lex (e.render .mySql).sql.toList = some ls ∧
      ls.count (.plain '?') = 2 ∧ ¬ [.plain '-', .plain '-'] <:+: ls ∧
      (e.render .mySql).params =
        [⟨some "p", none⟩, ⟨none, some (.float ⟨0x7FF8000000000000⟩)⟩] := by
  intro e
  obtain ⟨ls, hlex, -, hcount, hhyphens, -, hparams⟩ :=
    placeholders_stand_for_params .mySql (e := e) (by decide)
  have hslots : e.leaves.filterMap leafSlot? =
      [⟨some "p", none⟩, ⟨none, some (.float ⟨0x7FF8000000000000⟩)⟩] := by decide
  rw [hslots] at hparams
  rw [hparams] at hcount
  exact ⟨ls, hlex, hcount, hhyphens, hparams⟩

end TypedSql
