import TypedSql.Proofs.Layers

/-!
# Defaults that are read as texts

A reported default is read as a text exactly if, its layers taken off, it starts and ends with a
quote, whatever stands in between.  So every string literal is read as its text; but what starts
with one literal and ends with another is read as a text as well.  The two differ exactly in quotes
in between that are not one of a pair (`Value.text_default_iff_quoted`).
-/

namespace TypedSql.Value

open Text

/-! ## String literals -/

/-- A body between quotes. -/
def quoted (body : List Char) : List Char := '\'' :: (body ++ ['\''])

/-- A body in which every quote is one of a pair, and the text that it stands for. -/
inductive Spells : List Char → List Char → Prop where
  | nil : Spells [] []
  | pair {s t : List Char} (h : Spells s t) : Spells ('\'' :: '\'' :: s) ('\'' :: t)
  | other {c : Char} {s t : List Char} (hc : c ≠ '\'') (h : Spells s t) : Spells (c :: s) (c :: t)

/-- The whole is one string literal for `t`, in layers of parentheses and blanks. -/
def IsTextLiteral (raw t : List Char) : Prop :=
  ∃ body, Layered (quoted body) raw ∧ Spells body t

variable {s t body : List Char}

theorem quoted_injective : Function.Injective quoted := fun _ _ h =>
  List.append_cancel_right (List.cons.inj h).2

theorem inked_quoted (body : List Char) : Inked (quoted body) :=
  inked_between (by decide) (by decide) body

theorem quoted_ne_enclose (body t : List Char) : quoted body ≠ enclose t := by
  intro h
  exact absurd (List.cons.inj h).1 (by decide)

/-! ## Reading -/

theorem undouble_pair (s : List Char) : undouble ('\'' :: '\'' :: s) = '\'' :: undouble s := rfl

theorem undouble_other {c : Char} (hc : c ≠ '\'') (s : List Char) :
    undouble (c :: s) = c :: undouble s := by
  rw [undouble]
  rintro s' rfl
  exact absurd rfl hc

theorem Spells.undouble_eq (h : Spells s t) : undouble s = t := by
  induction h with
  | nil => rfl
  | pair _ ih => rw [undouble_pair, ih]
  | other hc _ ih => rw [undouble_other hc, ih]

theorem quotedBody?_eq_some_iff : quotedBody? s = some body ↔ s = quoted body := by
  unfold quotedBody?
  constructor
  · intro h
    split at h
    next u =>
      split at h
      next hlast =>
        obtain ⟨v, rfl⟩ := List.getLast?_eq_some_iff.1 hlast
        rw [List.dropLast_concat, Option.some.injEq] at h
        rw [h, quoted]
      · cases h
    · cases h
  · rintro rfl
    simp [quoted]

/-- What is left of a default without its layers, read as a literal. -/
def bareLiteral? (s : List Char) : Option Value :=
  match quotedBody? s with
  | some body => some (.text (String.ofList (undouble body)))
  | none =>
    match keyword? s with
    | some v => some v
    | none => number? s

theorem ofDefault?_eq (raw : String) :
    ofDefault? raw = bareLiteral? (unwrapDefault raw.toList) :=
  rfl

theorem keyword?_ne_text (s : List Char) (t : String) : keyword? s ≠ some (.text t) := by
  unfold keyword?
  split <;> simp

theorem number?_ne_text (s : List Char) (t : String) : number? s ≠ some (.text t) := by
  unfold number?
  split
  · simp
  · intro h
    obtain ⟨x, -, hx⟩ := Option.bind_eq_some_iff.1 h
    split at hx
    · cases hx
    · cases hx

/-- Only what stands between quotes is read as a text. -/
theorem bareLiteral?_eq_text_iff {t : String} :
    bareLiteral? s = some (.text t) ↔ ∃ body, s = quoted body ∧ t.toList = undouble body := by
  unfold bareLiteral?
  cases hq : quotedBody? s with
  | some body =>
    obtain rfl := quotedBody?_eq_some_iff.1 hq
    show some (Value.text (String.ofList (undouble body))) = _ ↔ _
    rw [Option.some.injEq, Value.text.injEq]
    constructor
    · rintro rfl
      exact ⟨body, rfl, String.toList_ofList⟩
    · rintro ⟨body', hbody, ht⟩
      rw [quoted_injective hbody, ← ht, String.ofList_toList]
  | none =>
    constructor
    · intro h
      change (match keyword? s with
        | some v => some v
        | none => number? s) = _ at h
      split at h
      next v hv => exact absurd (hv.trans h) (keyword?_ne_text s t)
      next => exact absurd h (number?_ne_text s t)
    · rintro ⟨body, hbody, -⟩
      rw [quotedBody?_eq_some_iff.2 hbody] at hq
      cases hq

/-! ## Quoted texts in layers -/

theorem layered_quoted_iff : Layered (quoted body) s ↔ unwrapDefault s = quoted body := by
  constructor
  · exact unwrapDefault_of_layered (inked_quoted body) (quoted_ne_enclose body)
  · intro h
    exact h ▸ layered_unwrapDefault s

theorem body_unique {body' : List Char} (h : Layered (quoted body) s)
    (h' : Layered (quoted body') s) : body = body' :=
  quoted_injective ((layered_quoted_iff.1 h).symm.trans (layered_quoted_iff.1 h'))

theorem ofDefault?_eq_text_iff {raw t : String} :
    ofDefault? raw = some (.text t) ↔
      ∃ body, Layered (quoted body) raw.toList ∧ t.toList = undouble body := by
  rw [ofDefault?_eq, bareLiteral?_eq_text_iff]
  exact exists_congr fun body => and_congr_left' layered_quoted_iff.symm

/-- A literal is read as its text.  What is read as a text is a literal if its quotes are paired. -/
theorem isTextLiteral_iff {raw t : String} :
    IsTextLiteral raw.toList t.toList ↔ ofDefault? raw = some (.text t) ∧
      ∀ body, Layered (quoted body) raw.toList → ∃ u, Spells body u := by
  constructor
  · rintro ⟨body, hbody, hspells⟩
    have hread := ofDefault?_eq_text_iff.2 ⟨body, hbody, hspells.undouble_eq.symm⟩
    exact ⟨hread, fun body' hbody' => body_unique hbody hbody' ▸ ⟨t.toList, hspells⟩⟩
  · rintro ⟨hread, hpaired⟩
    obtain ⟨body, hbody, ht⟩ := ofDefault?_eq_text_iff.1 hread
    obtain ⟨u, hu⟩ := hpaired body hbody
    exact ⟨body, hbody, by rwa [ht, hu.undouble_eq]⟩

/-- A default is read as a text exactly if it stands between two quotes, and then pairs of quotes
in between are read as one.  It is a string literal for that text exactly if, besides, every quote
in between is one of a pair. -/
theorem text_default_iff_quoted (raw t : String) :
    (ofDefault? raw = some (.text t) ↔
      ∃ body, Layered (quoted body) raw.toList ∧ t.toList = undouble body) ∧
    (IsTextLiteral raw.toList t.toList ↔ ofDefault? raw = some (.text t) ∧
      ∀ body, Layered (quoted body) raw.toList → ∃ u, Spells body u) :=
  ⟨ofDefault?_eq_text_iff, isTextLiteral_iff⟩

/-! ## Expressions that are read as texts -/

theorem not_isTextLiteral (hbody : Layered (quoted body) s) (h : ∀ u, ¬ Spells body u)
    (t : List Char) : ¬ IsTextLiteral s t := by
  rintro ⟨body', hbody', hspells⟩
  exact h t (body_unique hbody hbody' ▸ hspells)

/-- The first quote stands alone. -/
theorem not_spells_append_lone {s rest : List Char} (hs : '\'' ∉ s)
    (hrest : rest.head? ≠ some '\'') (u : List Char) : ¬ Spells (s ++ '\'' :: rest) u := by
  induction s generalizing u with
  | nil =>
    intro h
    cases h with
    | pair => exact hrest rfl
    | other hq => exact hq rfl
  | cons c s ih =>
    intro h
    rw [List.mem_cons, not_or] at hs
    rw [List.cons_append] at h
    -- `cases` does not look into an append
    generalize s ++ '\'' :: rest = v at h ih
    cases h with
    | pair => exact hs.1 rfl
    | other _ h => exact ih hs.2 _ h

/-- Two literals with an operator between them, the same in parentheses, and a quote too many. -/
theorem exists_text_default_of_expression :
    (ofDefault? "'a' || 'b'" = some (.text "a' || 'b") ∧
      ∀ t, ¬ IsTextLiteral "'a' || 'b'".toList t) ∧
    (ofDefault? "('a') || ('b')" = some (.text "a') || ('b") ∧
      ∀ t, ¬ IsTextLiteral "('a') || ('b')".toList t) ∧
    (ofDefault? "'''" = some (.text "'") ∧ ∀ t, ¬ IsTextLiteral "'''".toList t) := by
  have hjoined : Layered (quoted "a' || 'b".toList) "'a' || 'b'".toList :=
    .core blank_nil blank_nil
  have henclosed : Layered (quoted "a') || ('b".toList) "('a') || ('b')".toList :=
    .enclosed (s := quoted "a') || ('b".toList) blank_nil blank_nil (.core blank_nil blank_nil)
  have hlone : Layered (quoted ['\'']) "'''".toList := .core blank_nil blank_nil
  refine ⟨⟨ofDefault?_eq_text_iff.2 ⟨_, hjoined, by decide⟩, not_isTextLiteral hjoined ?_⟩,
    ⟨ofDefault?_eq_text_iff.2 ⟨_, henclosed, by decide⟩, not_isTextLiteral henclosed ?_⟩,
    ofDefault?_eq_text_iff.2 ⟨_, hlone, by decide⟩, not_isTextLiteral hlone ?_⟩
  · exact not_spells_append_lone (s := ['a']) (by decide) (by decide)
  · exact not_spells_append_lone (s := ['a']) (by decide) (by decide)
  · exact not_spells_append_lone (s := []) (by decide) (by decide)

end TypedSql.Value
