import TypedSql.Proofs.Trimming
import TypedSql.Value.Default

/-!
# Layers of parentheses

A reported default may stand in any number of parentheses, with blanks around each pair.  Whatever
the text, what is left when these are taken off stands in layers within it
(`Value.layered_unwrapDefault`).  A text with ink at both ends and no parentheses around it is found
again under any layers (`Value.unwrapDefault_of_layered`).
-/

namespace TypedSql

namespace Text

/-! ## Trimming -/

/-- The text has blanks only. -/
def Blank (s : List Char) : Prop := ∀ c ∈ s, isBlank c = true

/-- The text begins and ends with characters that are not blank, if it has any. -/
structure Inked (s : List Char) : Prop where
  head : ∀ c ∈ s.head?, isBlank c = false
  last : ∀ c ∈ s.getLast?, isBlank c = false

theorem blank_nil : Blank [] := by
  simp [Blank]

/-- Blanks at the ends are not seen. -/
theorem trimBlanks_append {l r : List Char} (hl : Blank l) (hr : Blank r) (s : List Char) :
    trimBlanks (l ++ (s ++ r)) = trimBlanks s :=
  dropEndsWhile_append hl hr s

/-- What is taken off is blank. -/
theorem exists_eq_append_trimBlanks (s : List Char) :
    ∃ l r, Blank l ∧ Blank r ∧ s = l ++ (trimBlanks s ++ r) :=
  exists_eq_append_dropEndsWhile isBlank s

theorem Inked.trimBlanks_eq {s : List Char} (h : Inked s) : trimBlanks s = s :=
  Trimmed.dropEndsWhile_eq ⟨h.head, h.last⟩

theorem inked_of_forall {s : List Char} (h : ∀ c ∈ s, isBlank c = false) : Inked s where
  head c hc := h c (List.mem_of_mem_head? hc)
  last c hc := h c (List.mem_of_mem_getLast? hc)

/-- Between two characters that are not blank. -/
theorem inked_between {a b : Char} (ha : isBlank a = false) (hb : isBlank b = false)
    (s : List Char) : Inked (a :: (s ++ [b])) where
  head c hc := by
    obtain rfl : a = c := Option.some.inj hc
    exact ha
  last c hc := by
    rw [← List.cons_append, List.getLast?_concat] at hc
    obtain rfl : b = c := Option.some.inj hc
    exact hb

/-! ## Layers -/

/-- The text in one pair of parentheses. -/
def enclose (s : List Char) : List Char := '(' :: (s ++ [')'])

theorem inked_enclose (s : List Char) : Inked (enclose s) :=
  inked_between (by decide) (by decide) s

/-- A text is `core` in layers: in any number of parentheses, with blanks around each layer. -/
inductive Layered (core : List Char) : List Char → Prop where
  | core {l r : List Char} (hl : Blank l) (hr : Blank r) : Layered core (l ++ (core ++ r))
  | enclosed {l s r : List Char} (hl : Blank l) (hr : Blank r) (h : Layered core s) :
      Layered core (l ++ (enclose s ++ r))

end Text

namespace Value

open Text

/-! ## Taking the layers off -/

variable {core s t : List Char}

theorem unwrapDefault_of_trimBlanks_eq_enclose (h : trimBlanks s = enclose t) :
    unwrapDefault s = unwrapDefault t := by
  rw [unwrapDefault]
  split
  next body hbody =>
    obtain rfl : t ++ [')'] = body := (List.cons.inj (h.symm.trans hbody)).2
    rw [List.getLast?_concat, if_pos rfl, List.dropLast_concat]
  next hne => exact absurd h (hne _)

theorem unwrapDefault_of_ne_enclose (h : ∀ t, trimBlanks s ≠ enclose t) :
    unwrapDefault s = trimBlanks s := by
  rw [unwrapDefault]
  split
  next body hbody =>
    split
    next hlast =>
      obtain ⟨t, rfl⟩ := List.getLast?_eq_some_iff.1 hlast
      exact absurd hbody (h t)
    next => exact hbody.symm
  next => rfl

/-- A text with ink at its ends that is not itself in parentheses is found under all layers. -/
theorem unwrapDefault_of_layered (hcore : Inked core) (hne : ∀ t, core ≠ enclose t)
    (h : Layered core s) : unwrapDefault s = core := by
  induction h with
  | core hl hr =>
    have htrim := (trimBlanks_append hl hr core).trans hcore.trimBlanks_eq
    rw [unwrapDefault_of_ne_enclose (by rwa [htrim]), htrim]
  | @enclosed l s r hl hr _ ih =>
    have htrim := (trimBlanks_append hl hr (enclose s)).trans (inked_enclose s).trimBlanks_eq
    rw [unwrapDefault_of_trimBlanks_eq_enclose htrim, ih]

/-- What is left stands in layers within the whole. -/
theorem layered_unwrapDefault (s : List Char) : Layered (unwrapDefault s) s := by
  induction hn : s.length using Nat.strongRecOn generalizing s with
  | ind n ih =>
    obtain ⟨l, r, hl, hr, hs⟩ := exists_eq_append_trimBlanks s
    by_cases h : ∃ t, trimBlanks s = enclose t
    · obtain ⟨t, ht⟩ := h
      have hlt : t.length < n := by
        have hle := length_trimBlanks_le s
        simp only [ht, enclose, List.length_cons, List.length_append] at hle
        omega
      rw [unwrapDefault_of_trimBlanks_eq_enclose ht]
      rw [ht] at hs
      exact hs ▸ .enclosed hl hr (ih t.length hlt t rfl)
    · rw [unwrapDefault_of_ne_enclose (not_exists.1 h)]
      have hlayers : Layered (trimBlanks s) (l ++ (trimBlanks s ++ r)) := .core hl hr
      rwa [← hs] at hlayers

end Value

end TypedSql
