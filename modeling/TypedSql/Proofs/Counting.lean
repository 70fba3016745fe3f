import Mathlib.Algebra.BigOperators.Group.List.Basic
import Mathlib.Algebra.GroupWithZero.Nat
import Mathlib.Algebra.Order.BigOperators.Group.List
import Mathlib.Algebra.Order.Ring.Nat
import TypedSql.Observation.Meter
import TypedSql.Proofs.SortedMaps

/-!
# Counting events

Each count adds up what the single events contribute to it and stops at the largest count.  An
event that names an operation adds the same to the counts of that operation as to the totals, so
the counts of all operations sum up to the totals.
-/

namespace TypedSql

/-! ## Sums that stop -/

theorem addCount_assoc (n j k : Nat) : addCount (addCount n j) k = addCount n (j + k) := by
  unfold addCount
  omega

theorem addCount_le (n k : Nat) : addCount n k ≤ countLimit := Nat.min_le_right _ _

theorem addCount_zero {n : Nat} (h : n ≤ countLimit) : addCount n 0 = n := Nat.min_eq_left h

theorem zero_addCount {n : Nat} (h : n ≤ countLimit) : addCount 0 n = n := by
  rw [addCount, Nat.zero_add, Nat.min_eq_left h]

/-- If a step adds the weight of an event to some count, a run adds the sum of the weights. -/
theorem foldl_eq_addCount {σ : Type} (step : σ → Event → σ) (count : σ → Nat)
    {weight : Event → Nat}
    (hstep : ∀ s e, count s ≤ countLimit → count (step s e) = addCount (count s) (weight e))
    (es : List Event) {s : σ} (hs : count s ≤ countLimit) :
    count (es.foldl step s) = addCount (count s) (es.map weight).sum := by
  induction es generalizing s with
  | nil => exact (addCount_zero hs).symm
  | cons e es ih =>
    have hnext : count (step s e) ≤ countLimit := by
      rw [hstep s e hs]
      exact addCount_le _ _
    rw [List.foldl_cons, ih hnext, hstep s e hs, addCount_assoc, List.map_cons, List.sum_cons]

/-! ## Sums over lists -/

theorem sum_map_flatMap {α β : Type} (f : β → Nat) (g : α → List β) (as : List α) :
    ((as.flatMap g).map f).sum = (as.map fun a => ((g a).map f).sum).sum := by
  rw [List.map_flatMap, List.flatMap_def, List.sum_flatten, List.map_map]
  rfl

theorem sum_map_toNat {α : Type} (p : α → Bool) (as : List α) :
    (as.map fun a => (p a).toNat).sum = as.countP p := by
  induction as with
  | nil => rfl
  | cons a as ih => cases h : p a <;> simp [ih, h, Nat.add_comm]

/-- Sums over the classes of a classification, one class for each key, add up to the whole sum if
what belongs to no class weighs nothing. -/
theorem sum_sum_filter_eq {α : Type} {keys : List String} (hkeys : keys.Nodup)
    {key? : α → Option String} {weight : α → Nat} {as : List α}
    (hmem : ∀ a ∈ as, ∀ k, key? a = some k → k ∈ keys)
    (hnone : ∀ a ∈ as, key? a = none → weight a = 0) :
    (keys.map fun k => ((as.filter fun a => key? a = some k).map weight).sum).sum =
      (as.map weight).sum := by
  induction as with
  | nil => simp
  | cons a as ih =>
    have ih := ih (fun b hb => hmem b (List.mem_cons_of_mem a hb))
      fun b hb => hnone b (List.mem_cons_of_mem a hb)
    have hsplit : ∀ k, (((a :: as).filter fun b => key? b = some k).map weight).sum =
        (if key? a = some k then weight a else 0) +
          ((as.filter fun b => key? b = some k).map weight).sum := by
      intro k
      by_cases h : key? a = some k <;> simp [h]
    -- the keys are distinct, so just one class takes in the weight of `a`
    have hhead : (keys.map fun k => if key? a = some k then weight a else 0).sum = weight a := by
      cases ha : key? a with
      | none => simp [hnone a List.mem_cons_self ha]
      | some k =>
        have hk : k ∈ keys := hmem a List.mem_cons_self k ha
        rw [List.sum_map_eq_nsmul_single k _ fun k' hne _ => if_neg (by simpa using hne.symm),
          hkeys.count, if_pos hk, one_nsmul, if_pos rfl]
    simp only [hsplit, List.sum_map_add, ih, hhead, List.map_cons, List.sum_cons]

/-! ## What an event contributes -/

/-- The operation to which an event belongs. -/
def Event.operation? : Event → Option String
  | .methodCompiled operation _ | .methodRejected operation => some operation
  | .columnValidated _ | .columnMissing | .definitionRejected => none

namespace Counters

theorem operation_modifyOperation (c : Counters) (name s : String)
    (f : OperationCounts → OperationCounts) (t : TotalCounts) :
    (Counters.mk t (c.modifyOperation name f)).operation s =
      if s = name then f (c.operation name) else c.operation s := by
  simp only [operation, modifyOperation, SortedMap.get?_insert, Std.LawfulEqOrd.compare_eq_iff_eq]
  split <;> rfl

end Counters

/-- What is counted: the first three also for each operation. -/
inductive Quantity where
  | compiled
  | folded
  | rejected
  | validated
  | failures
  | definitions

namespace Quantity

/-- What an event adds to a count. -/
def ofEvent : Quantity → Event → Nat
  | compiled, .methodCompiled .. => 1
  | folded, .methodCompiled _ isFolded => isFolded.toNat
  | rejected, .methodRejected _ => 1
  | validated, .columnValidated _ => 1
  | failures, .columnValidated n => n
  | failures, .columnMissing => 1
  | definitions, .definitionRejected => 1
  | _, _ => 0

def ofTotals : Quantity → TotalCounts → Nat
  | compiled, t => t.methodsCompiled
  | folded, t => t.methodsFolded
  | rejected, t => t.methodsRejected
  | validated, t => t.columnsValidated
  | failures, t => t.columnFailures
  | definitions, t => t.definitionsRejected

/-- The count of one operation, zero for what is only counted in total. -/
def ofOperation : Quantity → OperationCounts → Nat
  | compiled, n => n.compiled
  | folded, n => n.folded
  | rejected, n => n.rejected
  | validated, _ | failures, _ | definitions, _ => 0

/-- Only failures come several at once. -/
theorem sum_ofEvent_le_length {q : Quantity} (hq : q ≠ .failures) (es : List Event) :
    (es.map q.ofEvent).sum ≤ es.length := by
  have hone : ∀ n ∈ es.map q.ofEvent, n ≤ 1 := by
    intro n hn
    obtain ⟨e, -, rfl⟩ := List.mem_map.1 hn
    cases q <;> cases e <;> simp_all [ofEvent, Bool.toNat_le]
  simpa using List.sum_le_card_nsmul _ 1 hone

/-- What has no operation adds nothing to what is counted for each of them. -/
theorem ofEvent_of_operation?_eq_none {q : Quantity}
    (hq : q = .compiled ∨ q = .folded ∨ q = .rejected) {e : Event} (he : e.operation? = none) :
    q.ofEvent e = 0 := by
  rcases hq with rfl | rfl | rfl <;> cases e <;> first | rfl | cases he

theorem ofTotals_record (q : Quantity) (t : TotalCounts) (e : Event)
    (h : q.ofTotals t ≤ countLimit) :
    q.ofTotals (t.record e) = addCount (q.ofTotals t) (q.ofEvent e) := by
  cases q <;> cases e <;> first | rfl | exact (addCount_zero h).symm

theorem ofOperation_modifyOperation (q : Quantity) (c : Counters) (t : TotalCounts)
    (name s : String) {f : OperationCounts → OperationCounts} {k : Nat}
    (hf : ∀ n, q.ofOperation n ≤ countLimit → q.ofOperation (f n) = addCount (q.ofOperation n) k)
    (h : q.ofOperation (c.operation s) ≤ countLimit) :
    q.ofOperation ((Counters.mk t (c.modifyOperation name f)).operation s) =
      addCount (q.ofOperation (c.operation s)) (if some name = some s then k else 0) := by
  rw [Counters.operation_modifyOperation]
  by_cases hs : s = name
  · subst hs
    rw [if_pos rfl, if_pos rfl, hf _ h]
  · rw [if_neg hs, if_neg fun heq => hs (Option.some.inj heq).symm, addCount_zero h]

/-- An event adds to the counts of its own operation and leaves all others alone. -/
theorem ofOperation_record (q : Quantity) (s : String) (c : Counters) (e : Event)
    (h : q.ofOperation (c.operation s) ≤ countLimit) :
    q.ofOperation ((c.record e).operation s) =
      addCount (q.ofOperation (c.operation s))
        (if e.operation? = some s then q.ofEvent e else 0) := by
  cases e with
  | methodCompiled name isFolded =>
    refine q.ofOperation_modifyOperation c _ name s (fun n hn => ?_) h
    cases q <;> first | rfl | exact (addCount_zero hn).symm
  | methodRejected name =>
    refine q.ofOperation_modifyOperation c _ name s (fun n hn => ?_) h
    cases q <;> first | rfl | exact (addCount_zero hn).symm
  | columnValidated | columnMissing | definitionRejected => exact (addCount_zero h).symm

end Quantity

/-! ## What a list of events leaves behind -/

namespace Counters

/-- The counters after a list of events, none having been counted before. -/
def ofEvents (es : List Event) : Counters := es.foldl record {}

theorem ofTotals_ofEvents (q : Quantity) (es : List Event)
    (h : (es.map q.ofEvent).sum ≤ countLimit) :
    q.ofTotals (ofEvents es).totals = (es.map q.ofEvent).sum := by
  have hzero : q.ofTotals ({} : Counters).totals = 0 := by cases q <;> rfl
  have hfold := foldl_eq_addCount record (fun c => q.ofTotals c.totals)
    (fun c e => q.ofTotals_record c.totals e) es (hzero.trans_le (Nat.zero_le _))
  rw [hzero, zero_addCount h] at hfold
  exact hfold

/-- The counts of one operation add up its own events. -/
theorem ofOperation_ofEvents (q : Quantity) (s : String) (es : List Event)
    (h : (es.map q.ofEvent).sum ≤ countLimit) :
    q.ofOperation ((ofEvents es).operation s) =
      ((es.filter fun e => e.operation? = some s).map q.ofEvent).sum := by
  have hpart : ((es.filter fun e => e.operation? = some s).map q.ofEvent).sum ≤ countLimit :=
    ((List.filter_sublist.map q.ofEvent).sum_le_sum fun _ _ => Nat.zero_le _).trans h
  have hzero : q.ofOperation (({} : Counters).operation s) = 0 := by cases q <;> rfl
  have hfold := foldl_eq_addCount record (fun c => q.ofOperation (c.operation s))
    (q.ofOperation_record s) es (hzero.trans_le (Nat.zero_le _))
  have hsum : (es.map fun e => if e.operation? = some s then q.ofEvent e else 0).sum =
      ((es.filter fun e => e.operation? = some s).map q.ofEvent).sum := by
    rw [List.sum_map_ite]
    simp
  rw [hzero, hsum, zero_addCount hpart] at hfold
  exact hfold

theorem contains_operations_record (c : Counters) (e : Event) (s : String) :
    (c.record e).operations.contains s = true ↔
      e.operation? = some s ∨ c.operations.contains s = true := by
  cases e with
  | methodCompiled name | methodRejected name =>
    rw [record, modifyOperation, SortedMap.contains_insert, Event.operation?, Option.some.injEq,
      eq_comm]
  | columnValidated | columnMissing | definitionRejected => simp [record, Event.operation?]

/-- The operations with counts are those of the events. -/
theorem mem_keys_ofEvents {es : List Event} {s : String} :
    s ∈ (ofEvents es).operations.keys ↔ ∃ e ∈ es, e.operation? = some s := by
  suffices h : ∀ c : Counters, (es.foldl record c).operations.contains s = true ↔
      (∃ e ∈ es, e.operation? = some s) ∨ c.operations.contains s = true by
    rw [SortedMap.mem_keys_iff, ofEvents, h]
    simp [SortedMap.contains]
  induction es with
  | nil => simp
  | cons e es ih =>
    intro c
    rw [List.foldl_cons, ih, contains_operations_record]
    simp [or_assoc, or_left_comm]

theorem sum_entries (q : Quantity) (c : Counters) :
    (c.operations.entries.map fun e => q.ofOperation e.2).sum =
      (c.operations.keys.map fun s => q.ofOperation (c.operation s)).sum := by
  rw [SortedMap.keys, List.map_map]
  refine congrArg List.sum (List.map_congr_left fun e he => ?_)
  have hget : c.operations.get? e.1 = some e.2 := SortedMap.mem_entries_iff.1 he
  simp [operation, hget]

/-- The counts of all operations add up to the total. -/
theorem sum_entries_ofEvents {q : Quantity} (hq : q = .compiled ∨ q = .folded ∨ q = .rejected)
    (es : List Event) (h : (es.map q.ofEvent).sum ≤ countLimit) :
    ((ofEvents es).operations.entries.map fun e => q.ofOperation e.2).sum =
      (es.map q.ofEvent).sum := by
  rw [sum_entries, List.map_congr_left fun s _ => ofOperation_ofEvents q s es h]
  exact sum_sum_filter_eq (SortedMap.nodup_keys _)
    (fun e he s hs => mem_keys_ofEvents.2 ⟨e, he, hs⟩)
    fun e _ => Quantity.ofEvent_of_operation?_eq_none hq

end Counters

end TypedSql
