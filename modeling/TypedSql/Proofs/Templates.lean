import Mathlib.Data.List.Basic
import TypedSql.Column.Expr
import TypedSql.Proofs.ColumnSteps
import TypedSql.Proofs.Rendering

/-!
# Templates

Reading a template and writing it down are inverse to each other, on the texts with exactly one
placeholder and the pairs of parts without any (`Template.parse_eq_ok_iff`).  Of the wrappers that
are set on a column one after the other, those that are no templates change nothing, and each clause
uses the last of its own (`Column.get?_wrappers_afterWrappers`).
-/

namespace TypedSql

/-! ## Texts with one placeholder -/

namespace Template

variable {s : String} {t : Template}

/-- The text with `r` in place of every placeholder. -/
def fill (s r : String) : String :=
  String.ofList (s.toList.flatMap fun c => if c = placeholder then r.toList else [c])

/-- There is no placeholder in the parts. -/
def Parted (t : Template) : Prop := placeholder ∉ t.before.toList ∧ placeholder ∉ t.after.toList

instance (t : Template) : Decidable t.Parted := inferInstanceAs (Decidable (_ ∧ _))

theorem toList_text (t : Template) :
    t.text.toList = t.before.toList ++ placeholder :: t.after.toList := by
  simp [text, apply, placeholder]

/-- The placeholders of a template's text are one and those in its parts. -/
theorem count_text (t : Template) :
    t.text.toList.count placeholder =
      t.before.toList.count placeholder + t.after.toList.count placeholder + 1 := by
  rw [toList_text, List.count_append, List.count_cons_self]
  omega

theorem parted_iff_count : t.Parted ↔ t.text.toList.count placeholder = 1 := by
  rw [count_text, Parted, ← List.count_eq_zero, ← List.count_eq_zero]
  omega

theorem parse_text (h : t.Parted) : parse t.text = .ok t := by
  have hcount := parted_iff_count.1 h
  have hpos : ∀ c ∈ t.before.toList, (c != placeholder) = true := by
    intro c hc
    rw [bne_iff_ne]
    rintro rfl
    exact h.1 hc
  have hbefore : t.text.toList.takeWhile (· != placeholder) = t.before.toList := by
    rw [toList_text, List.takeWhile_append_of_pos hpos, List.takeWhile_cons_of_neg (by simp),
      List.append_nil]
  have hafter : t.text.toList.dropWhile (· != placeholder) = placeholder :: t.after.toList := by
    rw [toList_text, List.dropWhile_append_of_pos hpos, List.dropWhile_cons_of_neg (by simp)]
  simp only [parse, hcount, hbefore, hafter, List.tail_cons, String.ofList_toList]

/-- A text with exactly one placeholder is that of parts without any. -/
theorem exists_parted_of_count (h : s.toList.count placeholder = 1) :
    ∃ t : Template, t.Parted ∧ t.text = s := by
  obtain ⟨p, q, hs, hp⟩ := List.eq_append_cons_of_mem (List.count_pos_iff.1 (by omega :
    0 < s.toList.count placeholder))
  refine ⟨⟨String.ofList p, String.ofList q⟩, ⟨by simpa using hp, ?_⟩, ?_⟩
  · rw [hs, List.count_append, List.count_cons_self, List.count_eq_zero.2 hp] at h
    simpa using List.count_eq_zero.1 (by omega : q.count placeholder = 0)
  · rw [← String.toList_inj, toList_text, hs, String.toList_ofList, String.toList_ofList]

theorem parse_of_count (h : s.toList.count placeholder ≠ 1) :
    parse s = .error (if s.toList.count placeholder = 0 then .missingPlaceholder s
      else .multiplePlaceholders s (s.toList.count placeholder)) := by
  unfold parse
  split
  next h0 => rw [if_pos h0]
  next h1 => exact absurd h1 h
  next h0 _ => rw [if_neg h0]

/-- Reading and writing templates are inverse to each other. -/
theorem parse_eq_ok_iff : parse s = .ok t ↔ t.Parted ∧ t.text = s := by
  constructor
  · intro h
    by_cases hcount : s.toList.count placeholder = 1
    · obtain ⟨t', ht', rfl⟩ := exists_parted_of_count hcount
      rw [parse_text ht', Except.ok.injEq] at h
      exact h ▸ ⟨ht', rfl⟩
    · rw [parse_of_count hcount] at h
      cases h
  · rintro ⟨ht, rfl⟩
    exact parse_text ht

theorem exists_parse_eq_ok_iff : (∃ t, parse s = .ok t) ↔ s.toList.count placeholder = 1 := by
  constructor
  · rintro ⟨t, ht⟩
    obtain ⟨hparted, rfl⟩ := parse_eq_ok_iff.1 ht
    exact parted_iff_count.1 hparted
  · intro h
    obtain ⟨t, ht, rfl⟩ := exists_parted_of_count h
    exact ⟨t, parse_text ht⟩

theorem fill_text (h : t.Parted) (r : String) : fill t.text r = t.apply r := by
  have hplain : ∀ s : List Char, placeholder ∉ s →
      s.flatMap (fun c => if c = placeholder then r.toList else [c]) = s := by
    intro s hs
    have hsingle : ∀ c ∈ s, (if c = placeholder then r.toList else [c]) = [c] := by
      intro c hc
      rw [if_neg]
      rintro rfl
      exact hs hc
    rw [List.flatMap_congr hsingle, List.flatMap_singleton']
  rw [← String.toList_inj, fill, String.toList_ofList, toList_text, List.flatMap_append,
    List.flatMap_cons, if_pos rfl, hplain _ h.1, hplain _ h.2]
  simp [apply]

/-- What reading a text as a template comes to, by the number of its placeholders. -/
structure Reading (s : String) : Prop where
  ok : (∃ t, parse s = .ok t) ↔ s.toList.count placeholder = 1
  missing : ∀ s', parse s = .error (.missingPlaceholder s') ↔
    s' = s ∧ s.toList.count placeholder = 0
  multiple : ∀ s' n, parse s = .error (.multiplePlaceholders s' n) ↔
    s' = s ∧ s.toList.count placeholder = n ∧ 2 ≤ n
  text : ∀ t, parse s = .ok t → t.text = s
  apply : ∀ t r, parse s = .ok t → t.apply r = fill s r

theorem reading (s : String) : Reading s where
  ok := exists_parse_eq_ok_iff
  missing s' := by
    by_cases h : s.toList.count placeholder = 1
    · obtain ⟨t, ht⟩ := exists_parse_eq_ok_iff.2 h
      simp [ht, h]
    · rw [parse_of_count h]
      split <;> simp_all [eq_comm]
  multiple s' n := by
    by_cases h : s.toList.count placeholder = 1
    · obtain ⟨t, ht⟩ := exists_parse_eq_ok_iff.2 h
      simp only [ht, h, reduceCtorEq, false_iff, not_and]
      omega
    · rw [parse_of_count h]
      split
      next h0 =>
        simp only [Except.error.injEq, reduceCtorEq, false_iff, not_and]
        omega
      next h0 =>
        simp only [Except.error.injEq, TemplateError.multiplePlaceholders.injEq]
        constructor
        · rintro ⟨rfl, rfl⟩
          exact ⟨rfl, rfl, by omega⟩
        · rintro ⟨rfl, rfl, -⟩
          exact ⟨rfl, rfl⟩
  text _ h := (parse_eq_ok_iff.1 h).2
  apply t r h := by
    obtain ⟨ht, rfl⟩ := parse_eq_ok_iff.1 h
    exact (fill_text ht r).symm

end Template

/-! ## Templates set one after the other -/

theorem Wrappers.get?_set (w : Wrappers) (mode mode' : WrapperMode) (t : Template) :
    (w.set mode' t).get? mode = if mode' = mode then some t else w.get? mode := by
  cases mode <;> cases mode' <;> rfl

theorem Wrappers.apply_eq (w : Wrappers) (mode : WrapperMode) (r : String) :
    w.apply mode r = (w.get? mode).elim r (·.apply r) := by
  rw [apply]
  cases w.get? mode <;> rfl

/-- The last template that is set for `mode` in a sequence of clauses and texts. -/
def lastTemplate? (mode : WrapperMode) (calls : List (WrapperMode × String)) : Option Template :=
  (calls.filterMap fun call =>
    if call.1 = mode then (Template.parse call.2).toOption else none).getLast?

theorem lastTemplate?_cons (mode : WrapperMode) (call : WrapperMode × String)
    (calls : List (WrapperMode × String)) :
    lastTemplate? mode (call :: calls) =
      (lastTemplate? mode calls).or
        (if call.1 = mode then (Template.parse call.2).toOption else none) := by
  rw [lastTemplate?, List.filterMap_cons]
  cases (if call.1 = mode then (Template.parse call.2).toOption else none) with
  | none => rw [Option.or_none, lastTemplate?]
  | some t =>
    rw [List.getLast?_cons, lastTemplate?]
    cases List.getLast? _ <;> rfl

namespace Column

variable {c : Column}

/-- The column after templates were set on it one after the other, some of which may have failed. -/
def afterWrappers (c : Column) (calls : List (WrapperMode × String)) : Column :=
  calls.foldl (fun c call => ((setWrapper call.1 call.2).on c).2) c

/-- What one text does to an open column: nothing, if it is no template. -/
theorem snd_on_setWrapper (hc : c.isSealed = false) (mode : WrapperMode) (s : String) :
    ((setWrapper mode s).on c).2 =
      { c with wrappers := (Template.parse s).toOption.elim c.wrappers (c.wrappers.set mode) } := by
  rw [on_setWrapper hc]
  cases Template.parse s <;> rfl

theorem get?_wrappers_afterWrappers (hc : c.isSealed = false) (mode : WrapperMode)
    (calls : List (WrapperMode × String)) :
    (c.afterWrappers calls).wrappers.get? mode =
      (lastTemplate? mode calls).or (c.wrappers.get? mode) := by
  induction calls generalizing c with
  | nil => rfl
  | cons call calls ih =>
    obtain ⟨mode', s⟩ := call
    have hnext : (((setWrapper mode' s).on c).2).isSealed = false := by
      rw [snd_on_setWrapper hc]
      exact hc
    have hget : (((setWrapper mode' s).on c).2).wrappers.get? mode =
        (if mode' = mode then (Template.parse s).toOption else none).or (c.wrappers.get? mode) := by
      rw [snd_on_setWrapper hc]
      cases (Template.parse s).toOption with
      | none => rw [ite_self]; rfl
      | some t =>
        refine (c.wrappers.get?_set mode mode' t).trans ?_
        split <;> rfl
    rw [lastTemplate?_cons, Option.or_assoc, ← hget]
    exact ih hnext

/-- The quoted name of a column, with that of its table before it. -/
def qualifiedName (c : Column) (d : DialectName) : String :=
  c.table.elim (d.quoteIdentifier c.identifier) fun t =>
    d.quoteIdentifier t ++ "." ++ d.quoteIdentifier c.identifier

/-- An expression reads a column as the column itself would be read. -/
theorem render_toExpr (c : Column) (d : DialectName) :
    c.toExpr.render d = .ofText (c.wrappers.apply .select (c.qualifiedName d)) := by
  have hname : Expr.columnText d ⟨c.table, c.identifier, none⟩ = c.qualifiedName d := by
    rw [qualifiedName, Expr.columnText]
    cases c.table <;> rfl
  rw [toExpr, Expr.render_column, Expr.columnText_eq, hname, Wrappers.apply_eq]

/-- Reading a template fails or succeeds by the number of placeholders, and writing it gives the
text back; parts without placeholders are read back from their text.  On an open column each clause
is wrapped by the last template that was set for it, or by what the column had, and an expression
reads the column through the template of its selection. -/
theorem wraps_through_last_template (c : Column) (hc : c.isSealed = false)
    (calls : List (WrapperMode × String)) :
    (∀ s, Template.Reading s) ∧
    (∀ p q : String, placeholder ∉ p.toList → placeholder ∉ q.toList →
      Template.parse (p ++ "?" ++ q) = .ok ⟨p, q⟩) ∧
    (∀ mode r, (c.afterWrappers calls).wrappers.apply mode r =
      ((lastTemplate? mode calls).or (c.wrappers.get? mode)).elim r (·.apply r)) ∧
    ∀ (c' : Column) d,
      c'.toExpr.render d = .ofText (c'.wrappers.apply .select (c'.qualifiedName d)) := by
  refine ⟨Template.reading, fun p q hp hq => Template.parse_text (t := ⟨p, q⟩) ⟨hp, hq⟩,
    fun mode r => ?_, render_toExpr⟩
  rw [Wrappers.apply_eq, get?_wrappers_afterWrappers hc]

theorem wraps_through_last_template_of_mixed :
    let c := Column.new "C" .string
    let calls := [(WrapperMode.select, "F(?)"), (.insert, "NOW()"), (.select, "G(?, ?)"),
      (.insert, "H(?)")]
    c.isSealed = false ∧
      (c.afterWrappers calls).wrappers.apply .select "x" = "F(x)" ∧
      (c.afterWrappers calls).wrappers.apply .insert "?" = "H(?)" ∧
      (c.afterWrappers calls).wrappers.apply .update "x" = "x" := by
  intro c calls
  have h := (wraps_through_last_template c rfl calls).2.2.1
  exact ⟨rfl, (h .select "x").trans (by decide), (h .insert "?").trans (by decide),
    (h .update "x").trans (by decide)⟩

end Column

end TypedSql
