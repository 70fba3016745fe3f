import TypedSql.Proofs.Registration

/-!
# Runs of registrations

Whatever methods are registered in whatever order, and whether or not each registration succeeds:
for each receiver type and operation the registry holds the method that came first and was accepted
(`Registry.Stores`).  A registration that is refused leaves no trace, so the registry is that of the
registrations that succeed (`Registry.made`), and its keys are theirs, in order.
-/

namespace TypedSql

/-- The call that registers a method for a receiver type. -/
structure Registration where
  receiver : LogicalType
  method : Method

def Registration.key (g : Registration) : MethodKey := ⟨g.receiver, g.method.operation⟩

/-- One key comes before another: by type, and for one type by the bytes of the operation. -/
def MethodKey.Before (k l : MethodKey) : Prop :=
  k.receiver.rank < l.receiver.rank ∨
    k.receiver = l.receiver ∧ Text.utf8 k.operation < Text.utf8 l.operation

theorem MethodKey.Before.ne {k l : MethodKey} (h : k.Before l) : k ≠ l := by
  rintro rfl
  rcases h with h | ⟨-, h⟩
  · exact Nat.lt_irrefl _ h
  · exact List.lt_irrefl _ h

namespace Registry

variable {r : Registry} {g : Registration} {ms gs : List Registration} {k : MethodKey}

/-! ## Keys -/

theorem mem_keys_iff : k ∈ r.keys ↔ ∃ m, r.method? k.receiver k.operation = some m := by
  obtain ⟨t, op⟩ := k
  rw [keys, List.mem_flatMap]
  constructor
  · rintro ⟨⟨t', ops⟩, he, hk⟩
    obtain ⟨op', hop, hkey⟩ := List.mem_map.1 hk
    cases hkey
    obtain ⟨m, hm⟩ := Option.isSome_iff_exists.1 (SortedMap.mem_keys_iff.1 hop)
    refine ⟨m, ?_⟩
    rw [method?, operations, SortedMap.mem_entries_iff.1 he]
    exact hm
  · rintro ⟨m, hm⟩
    rw [method?, operations] at hm
    cases hops : r.methods.get? t with
    | none =>
      rw [hops] at hm
      cases hm
    | some ops =>
      rw [hops] at hm
      have hop : op ∈ ops.keys := SortedMap.mem_keys_iff.2 (Option.isSome_iff_exists.2 ⟨m, hm⟩)
      exact ⟨(t, ops), SortedMap.mem_entries_iff.2 hops, List.mem_map_of_mem hop⟩

/-- Keys are listed by type, and for one type by the bytes of the operation. -/
theorem pairwise_before_keys (r : Registry) : r.keys.Pairwise MethodKey.Before := by
  refine List.pairwise_flatMap.2 ⟨fun e _ => ?_, r.methods.increasing.imp fun {e e'} hlt => ?_⟩
  · refine List.pairwise_map.2 (e.2.pairwise_keys.imp fun {op op'} hlt => .inr ⟨rfl, ?_⟩)
    exact Text.utf8_lt_of_lt (compareOfLessAndEq_eq_lt.1 hlt)
  · rw [LogicalType.compare_eq_compare_rank, Nat.compare_eq_lt] at hlt
    intro k hk l hl
    obtain ⟨op, -, rfl⟩ := List.mem_map.1 hk
    obtain ⟨op', -, rfl⟩ := List.mem_map.1 hl
    exact .inl hlt

theorem nodup_keys (r : Registry) : r.keys.Nodup := r.pairwise_before_keys.imp MethodKey.Before.ne

theorem size_eq_length_keys (r : Registry) : r.size = r.keys.length := by
  suffices h : ∀ (es : List (LogicalType × SortedMap String Method)) (n : Nat),
      es.foldl (fun n e => n + e.2.size) n =
        n + (es.flatMap fun e => e.2.keys.map (MethodKey.mk e.1)).length by
    rw [size, h, Nat.zero_add, keys]
  intro es
  induction es with
  | nil => exact fun n => rfl
  | cons e es ih =>
    intro n
    rw [List.foldl_cons, ih, List.flatMap_cons, List.length_append, List.length_map,
      SortedMap.keys, List.length_map, SortedMap.size, Nat.add_assoc]

/-! ## One registration -/

/-- A registration is refused for its receiver, refused for a method that is there, or puts its
method in. -/
theorem add_cases (r : Registry) (g : Registration) :
    (g.method.accepts g.receiver = false ∧
      r.add g.receiver g.method = (r, some (.receiverType g.receiver g.method.operation))) ∨
    (g.method.accepts g.receiver = true ∧
      (∃ n, r.method? g.receiver g.method.operation = some n) ∧
      r.add g.receiver g.method = (r, some (.conflict g.receiver g.method.operation))) ∨
    (g.method.accepts g.receiver = true ∧ r.method? g.receiver g.method.operation = none ∧
      r.add g.receiver g.method = (r.put g.receiver g.method, none)) := by
  cases ha : g.method.accepts g.receiver with
  | false => exact .inl ⟨rfl, add_of_not_accepts ha⟩
  | true =>
    cases hn : r.method? g.receiver g.method.operation with
    | some n => exact .inr (.inl ⟨rfl, ⟨n, rfl⟩, add_of_method?_eq_some ha hn⟩)
    | none => exact .inr (.inr ⟨rfl, rfl, add_of_method?_eq_none ha hn⟩)

/-- A registration that is refused leaves no trace. -/
theorem add_fst_of_refused (h : (r.add g.receiver g.method).2 ≠ none) :
    (r.add g.receiver g.method).1 = r := by
  rcases r.add_cases g with ⟨-, hadd⟩ | ⟨-, -, hadd⟩ | ⟨-, -, hadd⟩
  · rw [hadd]
  · rw [hadd]
  · rw [hadd] at h
    exact absurd rfl h

/-! ## Runs -/

/-- The registry after registrations, whether or not each of them succeeds. -/
def after (r : Registry) (gs : List Registration) : Registry :=
  gs.foldl (fun r g => (r.add g.receiver g.method).1) r

/-- The registrations that succeed, made one after the other. -/
def made (r : Registry) : List Registration → List Registration
  | [] => []
  | g :: gs =>
    match r.add g.receiver g.method with
    | (r', none) => g :: r'.made gs
    | (r', some _) => r'.made gs

theorem after_cons (r : Registry) (g : Registration) (gs : List Registration) :
    r.after (g :: gs) = (r.add g.receiver g.method).1.after gs := rfl

theorem made_cons_of_refused (h : (r.add g.receiver g.method).2 ≠ none) (gs : List Registration) :
    r.made (g :: gs) = r.made gs := by
  have hr := add_fst_of_refused h
  rw [made]
  split
  next hadd =>
    rw [hadd] at h
    exact absurd rfl h
  next hadd =>
    rw [hadd] at hr
    rw [← hr]

theorem made_cons_of_eq_none (h : (r.add g.receiver g.method).2 = none) (gs : List Registration) :
    r.made (g :: gs) = g :: (r.add g.receiver g.method).1.made gs := by
  rw [made]
  split
  next hadd => rw [hadd]
  next hadd =>
    rw [hadd] at h
    cases h

/-- Without the registrations that are refused, the others all succeed and build the same. -/
theorem after_made (r : Registry) (gs : List Registration) :
    r.after (r.made gs) = r.after gs ∧ r.made (r.made gs) = r.made gs := by
  induction gs generalizing r with
  | nil => exact ⟨rfl, rfl⟩
  | cons g gs ih =>
    by_cases h : (r.add g.receiver g.method).2 = none
    · obtain ⟨hafter, hmade⟩ := ih (r.add g.receiver g.method).1
      rw [made_cons_of_eq_none h]
      exact ⟨hafter, by rw [made_cons_of_eq_none h, hmade]⟩
    · rw [made_cons_of_refused h, after_cons, add_fst_of_refused h]
      exact ih r

theorem dialect_after (r : Registry) (gs : List Registration) : (r.after gs).dialect = r.dialect := by
  induction gs generalizing r with
  | nil => rfl
  | cons g gs ih =>
    rw [after_cons, ih]
    rcases r.add_cases g with ⟨-, h⟩ | ⟨-, -, h⟩ | ⟨-, -, h⟩ <;> rw [h]
    rfl

/-! ## What a registry stores -/

/-- The registry holds the methods of registrations with different keys, each accepted, and no
others. -/
structure Stores (r : Registry) (ms : List Registration) : Prop where
  method?_eq_some_iff : ∀ {t op m},
    r.method? t op = some m ↔ ∃ g ∈ ms, g.key = ⟨t, op⟩ ∧ g.method = m
  distinct : (ms.map Registration.key).Nodup
  accepts : ∀ g ∈ ms, g.method.accepts g.receiver = true

namespace Stores

theorem empty (d : DialectName) : (Registry.empty d).Stores [] where
  method?_eq_some_iff := by
    intro t op m
    simp only [List.not_mem_nil, false_and, exists_false, iff_false]
    exact nofun
  distinct := .nil
  accepts := nofun

theorem exists_method?_iff (h : r.Stores ms) :
    (∃ n, r.method? k.receiver k.operation = some n) ↔ ∃ g ∈ ms, g.key = k := by
  simp only [h.method?_eq_some_iff]
  constructor
  · rintro ⟨n, g, hg, hk, -⟩
    exact ⟨g, hg, hk⟩
  · rintro ⟨g, hg, hk⟩
    exact ⟨g.method, g, hg, hk, rfl⟩

theorem method?_eq_none_iff (h : r.Stores ms) :
    r.method? k.receiver k.operation = none ↔ ∀ g ∈ ms, g.key ≠ k := by
  rw [Option.eq_none_iff_forall_ne_some, ← not_exists, h.exists_method?_iff]
  simp

/-- One more registration that succeeds. -/
theorem put (h : r.Stores ms) (ha : g.method.accepts g.receiver = true)
    (hn : r.method? g.receiver g.method.operation = none) :
    (r.put g.receiver g.method).Stores (ms ++ [g]) := by
  have hnew : ∀ g' ∈ ms, g'.key ≠ g.key := h.method?_eq_none_iff (k := g.key).1 hn
  refine ⟨fun {t op m} => ?_, ?_, fun g' hg' => ?_⟩
  · rw [method?_put]
    split
    next hkey =>
      obtain ⟨rfl, rfl⟩ := hkey
      rw [Option.some.injEq]
      constructor
      · rintro rfl
        exact ⟨g, by simp, rfl, rfl⟩
      · rintro ⟨g', hg', hk, rfl⟩
        rcases List.mem_append.1 hg' with hg' | hg'
        · exact absurd hk (hnew g' hg')
        · rw [List.mem_singleton.1 hg']
    next hkey =>
      rw [h.method?_eq_some_iff]
      constructor
      · rintro ⟨g', hg', hk⟩
        exact ⟨g', List.mem_append_left _ hg', hk⟩
      · rintro ⟨g', hg', hk⟩
        rcases List.mem_append.1 hg' with hg' | hg'
        · exact ⟨g', hg', hk⟩
        · obtain rfl := List.mem_singleton.1 hg'
          cases hk.1
          exact absurd ⟨rfl, rfl⟩ hkey
  · rw [List.map_append, List.nodup_append]
    refine ⟨h.distinct, by simp, fun k hk l hl => ?_⟩
    obtain ⟨g', hg', rfl⟩ := List.mem_map.1 hk
    obtain rfl := List.mem_singleton.1 hl
    exact hnew g' hg'
  · rcases List.mem_append.1 hg' with hg' | hg'
    · exact h.accepts g' hg'
    · rwa [List.mem_singleton.1 hg']

/-- What a registry stores after a run is what it stored and what was made. -/
theorem after (h : r.Stores ms) (gs : List Registration) :
    (r.after gs).Stores (ms ++ r.made gs) := by
  induction gs generalizing r ms with
  | nil =>
    rw [made, List.append_nil]
    exact h
  | cons g gs ih =>
    rcases r.add_cases g with ⟨-, hadd⟩ | ⟨-, -, hadd⟩ | ⟨ha, hn, hadd⟩
    · rw [made_cons_of_refused (by simp [hadd]), after_cons, hadd]
      exact ih h
    · rw [made_cons_of_refused (by simp [hadd]), after_cons, hadd]
      exact ih h
    · have happend : ms ++ g :: (r.put g.receiver g.method).made gs =
          ms ++ [g] ++ (r.put g.receiver g.method).made gs := by simp
      rw [made_cons_of_eq_none (by rw [hadd]), after_cons, hadd, happend]
      exact ih (h.put ha hn)

end Stores

/-! ## Answers -/

/-- The answer to a registration behind others that succeeded. -/
structure Answers (earlier : List Registration) (g : Registration) (answer : Option RegistryError) :
    Prop where
  receiverType : answer = some (.receiverType g.receiver g.method.operation) ↔
    g.method.accepts g.receiver = false
  conflict : answer = some (.conflict g.receiver g.method.operation) ↔
    g.method.accepts g.receiver = true ∧ ∃ h ∈ earlier, h.key = g.key
  success : answer = none ↔
    g.method.accepts g.receiver = true ∧ ∀ h ∈ earlier, h.key ≠ g.key

theorem Stores.answers_add (h : r.Stores ms) (g : Registration) :
    Answers ms g (r.add g.receiver g.method).2 := by
  have hsome := h.exists_method?_iff (k := g.key)
  have hnone := h.method?_eq_none_iff (k := g.key)
  rcases r.add_cases g with ⟨ha, hadd⟩ | ⟨ha, hn, hadd⟩ | ⟨ha, hn, hadd⟩
  · constructor <;> simp [hadd, ha]
  · have hearlier := hsome.1 hn
    constructor
    · simp [hadd, ha]
    · simpa [hadd, ha] using hearlier
    · simpa [hadd, ha] using hearlier
  · have hearlier := hnone.1 hn
    constructor
    · simp [hadd, ha]
    · simpa [hadd, ha] using hearlier
    · simpa [hadd, ha] using hearlier

/-! ## What is built -/

/-- A registry as it is looked at: it resolves what was registered and nothing else, and lists the
keys of that. -/
structure Serves (r : Registry) (d : DialectName) (ms : List Registration) : Prop where
  /-- There is one registration for each key. -/
  distinct : (ms.map Registration.key).Nodup
  resolve : ∀ g ∈ ms, r.resolve g.receiver g.method.operation = .ok g.method
  unsupported : ∀ t op, (∀ g ∈ ms, g.key ≠ ⟨t, op⟩) →
    r.resolve t op = .error (.unsupportedOperation t op d)
  keys_perm : r.keys.Perm (ms.map Registration.key)
  keys_increasing : r.keys.Pairwise MethodKey.Before
  size : r.size = ms.length
  accepted : ∀ k ∈ r.keys, ∃ m, r.resolve k.receiver k.operation = .ok m ∧
    m.accepts k.receiver = true ∧ m.operation = k.operation

theorem Stores.serves (h : r.Stores ms) : r.Serves r.dialect ms := by
  have hkeys : r.keys.Perm (ms.map Registration.key) := by
    refine (List.perm_ext_iff_of_nodup r.nodup_keys h.distinct).2 fun k => ?_
    rw [mem_keys_iff, h.exists_method?_iff, List.mem_map]
  have hresolve : ∀ g ∈ ms, r.resolve g.receiver g.method.operation = .ok g.method := by
    intro g hg
    rw [resolve, h.method?_eq_some_iff.2 ⟨g, hg, rfl, rfl⟩]
  refine ⟨h.distinct, hresolve, fun t op hnone => ?_, hkeys, r.pairwise_before_keys, ?_,
    fun k hk => ?_⟩
  · rw [resolve, h.method?_eq_none_iff (k := ⟨t, op⟩).2 hnone]
  · rw [size_eq_length_keys, hkeys.length_eq, List.length_map]
  · obtain ⟨g, hg, rfl⟩ := List.mem_map.1 (hkeys.mem_iff.1 hk)
    exact ⟨g.method, hresolve g hg, h.accepts g hg, rfl⟩

/-- A registration is refused exactly if its receiver is not accepted, or else if a registration
that succeeded before has the same key, and then it leaves no trace.  What is built serves the
methods of the registrations that succeeded, and is built by these alone as well. -/
theorem registrations_keep_first (d : DialectName) :
    (∀ before g, Answers ((empty d).made before) g
        (((empty d).after before).add g.receiver g.method).2 ∧
      ((((empty d).after before).add g.receiver g.method).2 ≠ none →
        (((empty d).after before).add g.receiver g.method).1 = (empty d).after before)) ∧
    ∀ gs, ((empty d).after gs).Serves d ((empty d).made gs) ∧
      (empty d).after ((empty d).made gs) = (empty d).after gs ∧
      (empty d).made ((empty d).made gs) = (empty d).made gs := by
  have hstores : ∀ gs, ((empty d).after gs).Stores ((empty d).made gs) := fun gs =>
    (Stores.empty d).after gs
  refine ⟨fun before g => ⟨(hstores before).answers_add g, add_fst_of_refused⟩, fun gs => ?_⟩
  have hserves := (hstores gs).serves
  rw [dialect_after] at hserves
  exact ⟨hserves, after_made (empty d) gs⟩

/-- Two methods of one operation for one type, and the second again for another type. -/
example :
    let gs : List Registration :=
      [⟨.string, .passThrough "é" (.exactly 0)⟩, ⟨.string, .passThrough "é" (.exactly 1)⟩,
        ⟨.int, .length "LEN"⟩, ⟨.char, .passThrough "é" (.exactly 1)⟩,
        ⟨.string, .passThrough "z" (.exactly 0)⟩]
    ((empty .ansi).after gs).keys = [⟨.char, "é"⟩, ⟨.string, "z"⟩, ⟨.string, "é"⟩] := by
  decide

end Registry

end TypedSql
