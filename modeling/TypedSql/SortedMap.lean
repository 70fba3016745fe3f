/-!
# Sorted maps

A finite map is a list of pairs in strictly increasing order of key. The order is part of the
type, so two maps with the same bindings are equal, and listing a map lists its keys in order.
-/

namespace TypedSql

/-- A list of pairs in strictly increasing order of key. -/
structure SortedMap (κ α : Type) [Ord κ] where
  entries : List (κ × α)
  increasing : entries.Pairwise fun a b => compare a.1 b.1 = .lt

namespace SortedMap

variable {κ α : Type} [Ord κ]

/-! ## Insertion into a list -/

/-- Bind `k` to `x` in a list that is in order of key, replacing an earlier binding of `k`. -/
def insertInto (k : κ) (x : α) : List (κ × α) → List (κ × α)
  | [] => [(k, x)]
  | e :: es =>
    match compare k e.1 with
    | .lt => (k, x) :: e :: es
    | .eq => (k, x) :: es
    | .gt => e :: insertInto k x es

theorem mem_insertInto {k : κ} {x : α} {a : κ × α} {es : List (κ × α)} (h : a ∈ insertInto k x es) :
    a = (k, x) ∨ a ∈ es := by
  induction es with
  | nil => simpa [insertInto] using h
  | cons e es ih =>
    rw [insertInto] at h
    split at h
    · simpa using h
    · simp only [List.mem_cons] at h ⊢
      exact h.imp_right .inr
    · simp only [List.mem_cons] at h ⊢
      rcases h with h | h
      · exact .inr (.inl h)
      · exact (ih h).imp_right .inr

theorem insertInto_increasing [Std.TransOrd κ] [Std.LawfulEqOrd κ] (k : κ) (x : α)
    {es : List (κ × α)} (h : es.Pairwise fun a b => compare a.1 b.1 = .lt) :
    (insertInto k x es).Pairwise fun a b => compare a.1 b.1 = .lt := by
  induction es with
  | nil => simp [insertInto]
  | cons e es ih =>
    obtain ⟨he, hes⟩ := List.pairwise_cons.1 h
    rw [insertInto]
    split
    next hk =>
      refine List.pairwise_cons.2 ⟨fun a ha => ?_, h⟩
      rcases List.mem_cons.1 ha with rfl | ha
      · exact hk
      · exact Std.TransCmp.lt_trans hk (he a ha)
    next hk =>
      rw [Std.LawfulEqOrd.eq_of_compare hk]
      exact List.pairwise_cons.2 ⟨he, hes⟩
    next hk =>
      refine List.pairwise_cons.2 ⟨fun a ha => ?_, ih hes⟩
      rcases mem_insertInto ha with rfl | ha
      · exact Std.OrientedCmp.lt_of_gt hk
      · exact he a ha

/-- What a list of pairs binds `k` to first. -/
def firstOf (k : κ) (es : List (κ × α)) : Option α :=
  (es.find? fun e => compare k e.1 == .eq).map (·.2)

theorem firstOf_cons (k : κ) (e : κ × α) (es : List (κ × α)) :
    firstOf k (e :: es) = if compare k e.1 = .eq then some e.2 else firstOf k es := by
  by_cases h : compare k e.1 = .eq <;> simp [firstOf, h]

/-- An insertion is seen under its own key and leaves the other keys alone. -/
theorem firstOf_insertInto [Std.TransOrd κ] [Std.LawfulEqOrd κ] (k k' : κ) (x : α)
    (es : List (κ × α)) :
    firstOf k' (insertInto k x es) = if compare k' k = .eq then some x else firstOf k' es := by
  induction es with
  | nil => rw [insertInto, firstOf_cons]
  | cons e es ih =>
    rw [insertInto]
    split
    next => simp [firstOf_cons]
    next hk =>
      obtain rfl := Std.LawfulEqOrd.eq_of_compare hk
      by_cases h : compare k' e.1 = .eq <;> simp [firstOf_cons, h]
    next hk =>
      rw [firstOf_cons, firstOf_cons, ih]
      by_cases h : compare k' k = .eq
      · obtain rfl := Std.LawfulEqOrd.eq_of_compare h
        simp [hk]
      · simp [h]

theorem mem_of_firstOf_eq_some [Std.LawfulEqOrd κ] {k : κ} {x : α} {es : List (κ × α)}
    (h : firstOf k es = some x) : (k, x) ∈ es := by
  obtain ⟨e, he, rfl⟩ := Option.map_eq_some_iff.1 h
  have hk : k = e.1 := Std.LawfulEqOrd.eq_of_compare (by simpa using List.find?_some he)
  rw [hk]
  exact List.mem_of_find?_eq_some he

/-- Binding a key to what it is bound to changes nothing. -/
theorem insertInto_of_firstOf_eq_some [Std.TransOrd κ] [Std.LawfulEqOrd κ] {k : κ} {x : α}
    {es : List (κ × α)} (hes : es.Pairwise fun a b => compare a.1 b.1 = .lt)
    (h : firstOf k es = some x) : insertInto k x es = es := by
  induction es with
  | nil => cases h
  | cons e es ih =>
    obtain ⟨he, hes⟩ := List.pairwise_cons.1 hes
    rw [firstOf_cons] at h
    by_cases hk : compare k e.1 = .eq
    · rw [if_pos hk, Option.some.injEq] at h
      have hke : k = e.1 := Std.LawfulEqOrd.eq_of_compare hk
      simp only [insertInto, hk]
      rw [hke, ← h]
    · rw [if_neg hk] at h
      -- the key is bound further on, so it is greater than the first one
      have hlt : compare e.1 k = .lt := he (k, x) (mem_of_firstOf_eq_some h)
      have hgt : compare k e.1 = .gt := Std.OrientedCmp.gt_of_lt hlt
      simp only [insertInto, hgt]
      rw [ih hes h]

/-! ## Maps -/

@[ext] theorem ext {m m' : SortedMap κ α} (h : m.entries = m'.entries) : m = m' := by
  cases m
  cases m'
  cases h
  rfl

/-- The map without bindings. -/
def empty : SortedMap κ α := ⟨[], .nil⟩

instance : EmptyCollection (SortedMap κ α) := ⟨empty⟩
instance : Inhabited (SortedMap κ α) := ⟨empty⟩

/-- What `k` is bound to. -/
def get? (m : SortedMap κ α) (k : κ) : Option α := firstOf k m.entries

def contains (m : SortedMap κ α) (k : κ) : Bool := (m.get? k).isSome

/-- Bind `k` to `x`, replacing an earlier binding. -/
def insert [Std.TransOrd κ] [Std.LawfulEqOrd κ] (m : SortedMap κ α) (k : κ) (x : α) :
    SortedMap κ α :=
  ⟨insertInto k x m.entries, insertInto_increasing k x m.increasing⟩

@[simp] theorem get?_empty (k : κ) : (∅ : SortedMap κ α).get? k = none := rfl

theorem get?_insert [Std.TransOrd κ] [Std.LawfulEqOrd κ] (m : SortedMap κ α) (k k' : κ) (x : α) :
    (m.insert k x).get? k' = if compare k' k = .eq then some x else m.get? k' :=
  firstOf_insertInto k k' x m.entries

theorem insert_of_get?_eq_some [Std.TransOrd κ] [Std.LawfulEqOrd κ] {m : SortedMap κ α} {k : κ}
    {x : α} (h : m.get? k = some x) : m.insert k x = m :=
  ext (insertInto_of_firstOf_eq_some m.increasing h)

/-- Bind the pairs one after the other: of several bindings of one key the last holds. -/
def ofList [Std.TransOrd κ] [Std.LawfulEqOrd κ] (es : List (κ × α)) : SortedMap κ α :=
  es.foldl (fun m e => m.insert e.1 e.2) ∅

/-- The keys in increasing order. -/
def keys (m : SortedMap κ α) : List κ := m.entries.map (·.1)

def size (m : SortedMap κ α) : Nat := m.entries.length

def isEmpty (m : SortedMap κ α) : Bool := m.entries.isEmpty

instance [BEq κ] [BEq α] : BEq (SortedMap κ α) := ⟨fun a b => a.entries == b.entries⟩

instance [DecidableEq κ] [DecidableEq α] : DecidableEq (SortedMap κ α)
  | ⟨a, _⟩, ⟨b, _⟩ =>
    if h : a = b then isTrue (by subst h; rfl) else isFalse fun e => h (congrArg entries e)

end SortedMap

end TypedSql
