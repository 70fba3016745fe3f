import TypedSql.Proofs.ByteOrder
import TypedSql.SortedMap

/-!
# Sorted maps by their bindings

A sorted map is determined by what it binds each key to.  Its keys are the bound ones, each once
and in increasing order, so the first key that has a property is the least one.
-/

namespace TypedSql.SortedMap

variable {κ α : Type} [Ord κ] {m m' : SortedMap κ α} {k : κ} {x : α}

/-! ## Order -/

theorem pairwise_keys (m : SortedMap κ α) : m.keys.Pairwise fun a b => compare a b = .lt :=
  List.pairwise_map.2 m.increasing

variable [Std.LawfulEqOrd κ]

theorem nodup_keys (m : SortedMap κ α) : m.keys.Nodup :=
  m.pairwise_keys.imp fun hlt heq => by simp [heq] at hlt

theorem nodup_entries (m : SortedMap κ α) : m.entries.Nodup :=
  m.increasing.imp fun hlt heq => by simp [heq] at hlt

variable [Std.TransOrd κ]

/-! ## Bindings -/

theorem firstOf_of_mem {es : List (κ × α)} (hes : es.Pairwise fun a b => compare a.1 b.1 = .lt)
    (h : (k, x) ∈ es) : firstOf k es = some x := by
  induction es with
  | nil => cases h
  | cons e es ih =>
    obtain ⟨he, hes⟩ := List.pairwise_cons.1 hes
    rw [firstOf_cons]
    rcases List.mem_cons.1 h with rfl | h
    · exact if_pos Std.ReflCmp.compare_self
    · have hgt : compare k e.1 = .gt := Std.OrientedCmp.gt_of_lt (he (k, x) h)
      rw [hgt, if_neg (by decide), ih hes h]

theorem mem_entries_iff : (k, x) ∈ m.entries ↔ m.get? k = some x :=
  ⟨firstOf_of_mem m.increasing, mem_of_firstOf_eq_some⟩

/-- Maps with the same bindings are equal. -/
theorem ext_get? (h : ∀ k, m.get? k = m'.get? k) : m = m' := by
  have hperm : m.entries.Perm m'.entries := by
    refine (List.perm_ext_iff_of_nodup m.nodup_entries m'.nodup_entries).2 fun e => ?_
    rw [← Prod.eta e, mem_entries_iff, mem_entries_iff, h]
  refine ext (hperm.eq_of_pairwise (fun a b _ _ hab hba => ?_) m.increasing m'.increasing)
  rw [Std.OrientedCmp.gt_of_lt hab] at hba
  cases hba

/-- Of two bindings of one key the last holds. -/
theorem insert_insert (m : SortedMap κ α) (k : κ) (x y : α) :
    (m.insert k x).insert k y = m.insert k y :=
  ext_get? fun k' => by
    simp only [get?_insert]
    split <;> rfl

/-- Sets with the same members are equal. -/
theorem ext_contains {s t : SortedMap κ Unit} (h : ∀ k, s.contains k = t.contains k) : s = t :=
  ext_get? fun k => by
    have hk : (s.get? k).isSome = (t.get? k).isSome := h k
    cases hs : s.get? k <;> cases ht : t.get? k <;> simp [hs, ht] at hk ⊢

/-! ## Keys -/

theorem mem_keys_iff : k ∈ m.keys ↔ m.contains k = true := by
  rw [contains, Option.isSome_iff_exists, keys, List.mem_map]
  constructor
  · rintro ⟨e, he, rfl⟩
    exact ⟨e.2, mem_entries_iff.1 he⟩
  · rintro ⟨x, hx⟩
    exact ⟨(k, x), mem_entries_iff.2 hx, rfl⟩

omit [Std.LawfulEqOrd κ] [Std.TransOrd κ] in
/-- The first key with a property comes before all others with it. -/
theorem le_of_find?_keys {p : κ → Bool} (h : m.keys.find? p = some k) :
    ∀ k' ∈ m.keys, p k' = true → k' = k ∨ compare k k' = .lt := by
  obtain ⟨-, before, after, hkeys, hbefore⟩ := List.find?_eq_some_iff_append.1 h
  have hsorted := m.pairwise_keys
  rw [hkeys] at hsorted
  intro k' hk' hp
  rw [hkeys] at hk'
  rcases List.mem_append.1 hk' with hk' | hk'
  · exact absurd hp (by simpa using hbefore k' hk')
  rcases List.mem_cons.1 hk' with rfl | hk'
  · exact .inl rfl
  · have hrest := (List.pairwise_append.1 hsorted).2.1
    exact .inr ((List.pairwise_cons.1 hrest).1 k' hk')

/-- The first key with a property is the least one. -/
theorem isLeast_of_find?_keys {m : SortedMap String α} {p : String → Bool} {s : String}
    (h : m.keys.find? p = some s) : Text.IsLeast (fun t => t ∈ m.keys ∧ p t = true) s := by
  refine ⟨⟨List.mem_of_find?_eq_some h, List.find?_some h⟩, fun t ⟨ht, hp⟩ => ?_⟩
  rw [Text.utf8_le_iff]
  rcases le_of_find?_keys h t ht hp with rfl | hlt
  · exact String.le_refl t
  · exact String.not_lt.1 (String.lt_asymm (compareOfLessAndEq_eq_lt.1 hlt))

theorem find?_keys_eq_some_iff {m : SortedMap String α} {p : String → Bool} {s : String} :
    m.keys.find? p = some s ↔ Text.IsLeast (fun t => t ∈ m.keys ∧ p t = true) s := by
  refine ⟨isLeast_of_find?_keys, fun h => ?_⟩
  obtain ⟨t, ht⟩ : ∃ t, m.keys.find? p = some t :=
    Option.isSome_iff_exists.1 (List.find?_isSome.2 ⟨s, h.1⟩)
  rw [ht, (isLeast_of_find?_keys ht).unique h]

/-! ## Maps of lists -/

theorem contains_insert (m : SortedMap κ α) (k k' : κ) (x : α) :
    (m.insert k x).contains k' = true ↔ k' = k ∨ m.contains k' = true := by
  rw [contains, get?_insert]
  by_cases h : k' = k
  · simp [h]
  · have hne : compare k' k ≠ .eq := fun heq => h (Std.LawfulEqOrd.eq_of_compare heq)
    simp [h, hne, contains]

theorem contains_ofList {es : List (κ × α)} :
    (ofList es).contains k = true ↔ ∃ x, (k, x) ∈ es := by
  suffices h : ∀ m : SortedMap κ α,
      (es.foldl (fun m e => m.insert e.1 e.2) m).contains k = true ↔
        (∃ x, (k, x) ∈ es) ∨ m.contains k = true by
    rw [ofList, h]
    simp [contains]
  induction es with
  | nil => simp
  | cons e es ih =>
    intro m
    obtain ⟨k', x'⟩ := e
    rw [List.foldl_cons, ih, contains_insert]
    simp only [List.mem_cons, Prod.mk.injEq, exists_or, exists_and_left, exists_eq, and_true]
    rw [← or_assoc, or_comm (b := k = k')]

end TypedSql.SortedMap
