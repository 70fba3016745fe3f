import Mathlib.Data.List.DropRight
import TypedSql.Text.Blank

/-!
# Trimming

What is taken off the ends of a text, whatever the characters that are trimmed: they make up all
that is lost (`Text.exists_eq_append_dropEndsWhile`), none of them is left at an end
(`Text.trimmed_dropEndsWhile`), and it does not matter which end comes first
(`Text.dropWhile_dropTailWhile`).
-/

namespace TypedSql.Text

variable {p : Char → Bool} {l r s : List Char}

/-- Neither the first nor the last character, if there are any, is one that is trimmed. -/
structure Trimmed (p : Char → Bool) (s : List Char) : Prop where
  head : ∀ c ∈ s.head?, p c = false
  last : ∀ c ∈ s.getLast?, p c = false

/-! ## One end -/

theorem dropWhile_eq_self (h : ∀ c ∈ s.head?, p c = false) : s.dropWhile p = s := by
  cases s with
  | nil => rfl
  | cons c s => exact List.dropWhile_cons_of_neg (by rw [h c rfl]; exact Bool.false_ne_true)

theorem head?_dropWhile (p : Char → Bool) (s : List Char) :
    ∀ c ∈ (s.dropWhile p).head?, p c = false := by
  intro c hc
  have hnot := List.head?_dropWhile_not p s
  rwa [Option.mem_def.1 hc] at hnot

theorem dropTailWhile_eq_self (h : ∀ c ∈ s.getLast?, p c = false) : dropTailWhile p s = s := by
  have hreverse : ∀ c ∈ s.reverse.head?, p c = false := by
    rw [List.head?_reverse]
    exact h
  rw [dropTailWhile, dropWhile_eq_self hreverse, List.reverse_reverse]

theorem getLast?_dropTailWhile (p : Char → Bool) (s : List Char) :
    ∀ c ∈ (dropTailWhile p s).getLast?, p c = false := by
  rw [dropTailWhile, List.getLast?_reverse]
  exact head?_dropWhile p s.reverse

theorem dropTailWhile_append_of_pos (hr : ∀ c ∈ r, p c = true) (s : List Char) :
    dropTailWhile p (s ++ r) = dropTailWhile p s := by
  have hreverse : ∀ c ∈ r.reverse, p c = true := fun c hc => hr c (List.mem_reverse.1 hc)
  rw [dropTailWhile, List.reverse_append, List.dropWhile_append_of_pos hreverse, dropTailWhile]

/-! ## Both ends -/

/-- What is trimmed is not seen at the ends. -/
theorem dropEndsWhile_append (hl : ∀ c ∈ l, p c = true) (hr : ∀ c ∈ r, p c = true)
    (s : List Char) : dropEndsWhile p (l ++ (s ++ r)) = dropEndsWhile p s := by
  unfold dropEndsWhile
  rw [List.dropWhile_append_of_pos hl, List.dropWhile_append]
  split
  next h =>
    -- all of the text is trimmed
    rw [List.isEmpty_iff.1 h, List.dropWhile_eq_nil_iff.2 hr]
  next => exact dropTailWhile_append_of_pos hr _

/-- Only what is trimmed is taken off. -/
theorem exists_eq_append_dropEndsWhile (p : Char → Bool) (s : List Char) :
    ∃ l r, (∀ c ∈ l, p c = true) ∧ (∀ c ∈ r, p c = true) ∧
      s = l ++ (dropEndsWhile p s ++ r) := by
  refine ⟨s.takeWhile p, (s.dropWhile p).rtakeWhile p, fun c => List.mem_takeWhile_imp,
    fun c => List.mem_rtakeWhile_imp, ?_⟩
  change s = s.takeWhile p ++ ((s.dropWhile p).rdropWhile p ++ (s.dropWhile p).rtakeWhile p)
  rw [List.rdropWhile_append_rtakeWhile, List.takeWhile_append_dropWhile]

theorem Trimmed.dropEndsWhile_eq (h : Trimmed p s) : dropEndsWhile p s = s := by
  rw [dropEndsWhile, dropWhile_eq_self h.head, dropTailWhile_eq_self h.last]

theorem trimmed_dropEndsWhile (p : Char → Bool) (s : List Char) :
    Trimmed p (dropEndsWhile p s) where
  head c hc := by
    -- what is left is a part of the text from its first character on
    obtain ⟨r, hr⟩ := List.rdropWhile_prefix p (s.dropWhile p)
    refine head?_dropWhile p s c ?_
    rw [← hr]
    exact List.mem_head?_append_of_mem_head? hc
  last := getLast?_dropTailWhile p _

/-- The ends may be trimmed in either order. -/
theorem dropWhile_dropTailWhile (p : Char → Bool) (s : List Char) :
    (dropTailWhile p s).dropWhile p = dropEndsWhile p s := by
  obtain ⟨l, r, hl, hr, hs⟩ := exists_eq_append_dropEndsWhile p s
  have htrimmed := trimmed_dropEndsWhile p s
  generalize dropEndsWhile p s = t at hs htrimmed
  rw [hs, ← List.append_assoc, dropTailWhile_append_of_pos hr]
  rcases List.eq_nil_or_concat' t with rfl | ⟨u, c, rfl⟩
  · rw [List.append_nil, show dropTailWhile p l = [] from List.rdropWhile_eq_nil_iff.2 hl]
    rfl
  · have hlast : ∀ d ∈ (l ++ (u ++ [c])).getLast?, p d = false := by
      rw [← List.append_assoc, List.getLast?_concat]
      simpa using htrimmed.last
    rw [dropTailWhile_eq_self hlast, List.dropWhile_append_of_pos hl,
      dropWhile_eq_self htrimmed.head]

end TypedSql.Text
