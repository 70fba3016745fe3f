import TypedSql.Compiler
import TypedSql.Proofs.SortedMaps

/-!
# The registry of a dialect

The methods of a dialect have pairwise different operations, so registering all of them for the
text types never conflicts.  What the registry then resolves is a function of the dialect alone
(`Dialect.method?`): the compiler of an operation that is known and not switched off, for a
receiver that is a text.
-/

namespace TypedSql

/-! ## Methods of known operations -/

namespace Builtin

theorem operation_injective {a b : Builtin} (h : a.operation = b.operation) : a = b := by
  rcases a with (_ | _ | _ | _ | _) | _ | _ <;> rcases b with (_ | _ | _ | _ | _) | _ | _ <;>
    first | rfl | exact absurd h (by decide)

theorem ofOperation?_eq_some_iff {s : String} {b : Builtin} :
    ofOperation? s = some b ↔ b.operation = s := by
  unfold ofOperation?
  constructor
  · intro h
    simpa using List.find?_some h
  · rintro rfl
    obtain ⟨c, hc⟩ : ∃ c, all.find? (·.operation == b.operation) = some c := by
      rw [← Option.isSome_iff_exists, List.find?_isSome]
      exact ⟨b, mem_all b, by simp⟩
    have hop : c.operation = b.operation := by simpa using List.find?_some hc
    rw [hc, operation_injective hop]

theorem ofOperation?_operation (b : Builtin) : ofOperation? b.operation = some b :=
  ofOperation?_eq_some_iff.2 rfl

end Builtin

namespace Method

@[simp] theorem operation_ofBuiltin (b : Builtin) (f : String) :
    (ofBuiltin b f).operation = b.operation := by
  cases b <;> rfl

@[simp] theorem accepts_ofBuiltin (b : Builtin) (f : String) (t : LogicalType) :
    (ofBuiltin b f).accepts t = t.isText := by
  cases b <;> rfl

end Method

/-! ## Registering methods one after the other -/

namespace Registry

variable {r : Registry} {t : LogicalType} {m : Method}

/-- The registry with a method for a receiver type, in place of any other. -/
def put (r : Registry) (t : LogicalType) (m : Method) : Registry :=
  r.setOperations t ((r.operations t).insert m.operation m)

theorem operations_setOperations (r : Registry) (t t' : LogicalType)
    (ops : SortedMap String Method) :
    (r.setOperations t ops).operations t' = if t' = t then ops else r.operations t' := by
  rw [operations, setOperations, SortedMap.get?_insert]
  by_cases h : t' = t
  · rw [if_pos h, if_pos (h ▸ Std.ReflCmp.compare_self), Option.getD_some]
  · rw [if_neg h, if_neg fun heq => h (Std.LawfulEqOrd.eq_of_compare heq)]
    rfl

theorem setOperations_setOperations (r : Registry) (t : LogicalType)
    (ops ops' : SortedMap String Method) :
    (r.setOperations t ops).setOperations t ops' = r.setOperations t ops' := by
  simp only [setOperations, SortedMap.insert_insert]

theorem method?_put (r : Registry) (t t' : LogicalType) (op : String) (m : Method) :
    (r.put t m).method? t' op = if t' = t ∧ op = m.operation then some m else r.method? t' op := by
  rw [method?, put, operations_setOperations]
  by_cases ht : t' = t
  · subst ht
    rw [if_pos rfl, SortedMap.get?_insert]
    simp only [Std.LawfulEqOrd.compare_eq_iff_eq, true_and]
    rfl
  · rw [if_neg ht, if_neg fun h => ht h.1]
    rfl

/-! ### What a registration does -/

theorem add_of_not_accepts (ha : m.accepts t = false) :
    r.add t m = (r, some (.receiverType t m.operation)) := by
  rw [add, ha]
  rfl

/-- A method that conflicts with another leaves no trace: the map of its type was there. -/
theorem add_of_method?_eq_some (ha : m.accepts t = true) {n : Method}
    (hn : r.method? t m.operation = some n) :
    r.add t m = (r, some (.conflict t m.operation)) := by
  have hsame : r.setOperations t (r.operations t) = r := by
    cases hops : r.methods.get? t with
    | none =>
      rw [method?, operations, hops] at hn
      cases hn
    | some ops =>
      rw [operations, hops, setOperations, Option.getD_some, SortedMap.insert_of_get?_eq_some hops]
  have hcontains : (r.operations t).contains m.operation = true := by
    rw [SortedMap.contains]
    exact Option.isSome_iff_exists.2 ⟨n, hn⟩
  simp only [add, ha, if_true, hsame, hcontains]

theorem add_of_method?_eq_none (ha : m.accepts t = true) (hn : r.method? t m.operation = none) :
    r.add t m = (r.put t m, none) := by
  have hcontains : (r.operations t).contains m.operation = false := by
    rw [SortedMap.contains, show (r.operations t).get? m.operation = none from hn]
    rfl
  simp only [add, ha, if_true, operations_setOperations, hcontains, setOperations_setOperations]
  rfl

theorem register_eq_ok (ha : m.accepts t = true) (hn : r.method? t m.operation = none) :
    r.register t m = .ok (r.put t m) := by
  rw [register, add_of_method?_eq_none ha hn]

/-- The registry of dialect `d` holds the methods `ms`, each for every text type, and no others. -/
structure Holds (r : Registry) (d : DialectName) (ms : List Method) : Prop where
  dialect : r.dialect = d
  method? : ∀ t op,
    r.method? t op = if t.isText then ms.find? (·.operation == op) else none

theorem holds_empty (d : DialectName) : (empty d).Holds d [] := by
  refine ⟨rfl, fun t op => ?_⟩
  simp only [List.find?_nil, ite_self]
  rfl

/-- Registering one more method for both text types. -/
theorem Holds.register_textTypes {d : DialectName} {ms : List Method} (h : r.Holds d ms)
    (ha : ∀ t, m.accepts t = t.isText) (hm : ∀ n ∈ ms, n.operation ≠ m.operation) :
    ∃ r', Dialect.textTypes.foldlM (fun r t => r.register t m) r = .ok r' ∧
      r'.Holds d (ms ++ [m]) := by
  have hnone : ms.find? (·.operation == m.operation) = none := by
    simpa using hm
  have hchar : r.register .char m = .ok (r.put .char m) :=
    register_eq_ok (ha _) (by rw [h.method?, hnone]; rfl)
  have hstring : (r.put .char m).register .string m = .ok ((r.put .char m).put .string m) := by
    refine register_eq_ok (ha _) ?_
    rw [method?_put, h.method?, hnone]
    rfl
  refine ⟨(r.put .char m).put .string m, ?_, h.dialect, fun t op => ?_⟩
  · simp only [Dialect.textTypes, List.foldlM_cons, List.foldlM_nil, hchar, bind, Except.bind,
      hstring, pure, Except.pure]
  · simp only [method?_put, h.method?, List.find?_append, List.find?_singleton, beq_iff_eq,
      eq_comm (a := m.operation)]
    by_cases hop : op = m.operation
    · subst hop
      cases t <;> simp [hnone, LogicalType.isText]
    · cases t <;> simp [hop, LogicalType.isText]

/-- Registering methods with operations of their own, behind those that are there. -/
theorem Holds.registerAll {d : DialectName} :
    ∀ {ms ns : List Method} {r : Registry}, r.Holds d ns →
      (∀ m ∈ ms, ∀ t, m.accepts t = t.isText) →
      (ns ++ ms).Pairwise (fun m n => m.operation ≠ n.operation) →
      ∃ r', Dialect.registerAll r ms = .ok r' ∧ r'.Holds d (ns ++ ms)
  | [], ns, r, h, _, _ => ⟨r, rfl, by simpa using h⟩
  | m :: ms, ns, r, h, ha, hp => by
    have hnew : ∀ n ∈ ns, n.operation ≠ m.operation := fun n hn =>
      (List.pairwise_append.1 hp).2.2 n hn m List.mem_cons_self
    obtain ⟨r₁, h₁, hr₁⟩ := h.register_textTypes (ha m List.mem_cons_self) hnew
    have hassoc : ns ++ m :: ms = ns ++ [m] ++ ms := by simp
    rw [hassoc] at hp ⊢
    obtain ⟨r₂, h₂, hr₂⟩ := hr₁.registerAll (fun n hn => ha n (List.mem_cons_of_mem m hn)) hp
    refine ⟨r₂, ?_, hr₂⟩
    simp only [Dialect.registerAll, List.foldlM_cons, h₁, bind, Except.bind]
    exact h₂

end Registry

/-! ## What a dialect resolves -/

namespace Dialect

theorem function?_operation (d : Dialect) (b : Builtin) :
    d.function? b.operation = some ((d.functions.get? b.operation).getD (b.function d.name)) := by
  unfold function?
  rw [Builtin.ofOperation?_operation]
  cases d.functions.get? b.operation <;> rfl

theorem operations_methods (d : Dialect) :
    d.methods.Pairwise fun m n => m.operation ≠ n.operation := by
  have hall : Builtin.all.Pairwise (· ≠ ·) := by decide
  refine List.pairwise_filterMap.2 (hall.imp fun {a b} hab m hm n hn => ?_)
  obtain ⟨f, -, rfl⟩ := Option.map_eq_some_iff.1 hm
  obtain ⟨g, -, rfl⟩ := Option.map_eq_some_iff.1 hn
  simpa using fun h => hab (Builtin.operation_injective h)

theorem accepts_of_mem_methods {d : Dialect} {m : Method} (h : m ∈ d.methods) (t : LogicalType) :
    m.accepts t = t.isText := by
  obtain ⟨b, -, hb⟩ := List.mem_filterMap.1 h
  obtain ⟨f, -, rfl⟩ := Option.map_eq_some_iff.1 hb
  simp

/-- The method for a receiver type and an operation, if the dialect has one. -/
def method? (d : Dialect) (t : LogicalType) (operation : String) : Option Method :=
  if t.isText then
    (Builtin.ofOperation? operation).bind fun b =>
      (d.enabledFunction? operation).map (Method.ofBuiltin b)
  else none

theorem find?_methods (d : Dialect) (operation : String) :
    d.methods.find? (·.operation == operation) =
      (Builtin.ofOperation? operation).bind fun b =>
        (d.enabledFunction? operation).map (Method.ofBuiltin b) := by
  -- whether a known operation is found depends on its name and on nothing else about it
  have hp : ∀ b : Builtin,
      (((d.enabledFunction? b.operation).map (Method.ofBuiltin b)).any fun m =>
        m.operation == operation) =
      (b.operation == operation && (d.enabledFunction? operation).isSome) := by
    intro b
    by_cases hb : b.operation = operation
    · subst hb
      cases d.enabledFunction? b.operation <;> simp
    · cases d.enabledFunction? b.operation <;> simp [hb]
  rw [methods, List.find?_filterMap]
  simp only [hp]
  cases hf : d.enabledFunction? operation with
  | none =>
    have hnone : Builtin.all.find? (fun _ => false) = none := List.find?_eq_none.2 (by simp)
    simp [hnone]
  | some f =>
    simp only [Option.isSome_some, Bool.and_true, Option.map_some]
    change (Builtin.ofOperation? operation).bind _ = _
    cases hb : Builtin.ofOperation? operation with
    | none => rfl
    | some b =>
      obtain rfl := Builtin.ofOperation?_eq_some_iff.1 hb
      simp [hf]

/-- A registry is built exactly when all names mentioned are operations, and it holds the methods
of the dialect. -/
theorem registry_eq (d : Dialect) :
    match d.unknownOperation? with
    | some op => d.registry = .error (.unknownOperation op)
    | none => ∃ r, d.registry = .ok r ∧ r.Holds d.name d.methods := by
  unfold registry
  cases d.unknownOperation? with
  | some op => rfl
  | none =>
    exact (Registry.holds_empty d.name).registerAll
      (fun m hm t => accepts_of_mem_methods hm t) d.operations_methods

theorem holds_of_registry {d : Dialect} {r : Registry} (h : d.registry = .ok r) :
    r.Holds d.name d.methods := by
  have hd := d.registry_eq
  cases hu : d.unknownOperation? with
  | some op =>
    rw [hu] at hd
    rw [hd] at h
    cases h
  | none =>
    rw [hu] at hd
    obtain ⟨r', hr', hh⟩ := hd
    rw [hr', Except.ok.injEq] at h
    exact h ▸ hh

theorem resolve_of_registry {d : Dialect} {r : Registry} (h : d.registry = .ok r)
    (t : LogicalType) (operation : String) :
    r.resolve t operation =
      match d.method? t operation with
      | some m => .ok m
      | none => .error (.unsupportedOperation t operation d.name) := by
  have hh := holds_of_registry h
  unfold Registry.resolve method?
  rewrite [hh.method?, hh.dialect, find?_methods]
  rfl

/-! ## Operations on offer -/

/-- The operation is known and not switched off, and the receiver is a text. -/
def Offers (d : Dialect) (t : LogicalType) (operation : String) : Prop :=
  (∃ b : Builtin, b.operation = operation) ∧ d.isDisabled operation = false ∧
    (t = .char ∨ t = .string)

theorem isText_iff {t : LogicalType} : t.isText = true ↔ t = .char ∨ t = .string := by
  cases t <;> simp [LogicalType.isText]

theorem method?_eq_some_iff {d : Dialect} {t : LogicalType} {operation : String} {m : Method} :
    d.method? t operation = some m ↔
      d.Offers t operation ∧ ∃ b f, b.operation = operation ∧
        d.function? operation = some f ∧ m = Method.ofBuiltin b f := by
  unfold method? Offers
  constructor
  · intro h
    split at h
    next ht =>
      obtain ⟨b, hb, hm⟩ := Option.bind_eq_some_iff.1 h
      obtain ⟨f, hf, rfl⟩ := Option.map_eq_some_iff.1 hm
      rw [Builtin.ofOperation?_eq_some_iff] at hb
      unfold enabledFunction? at hf
      split at hf
      · cases hf
      · next hd => exact ⟨⟨⟨b, hb⟩, by simpa using hd, isText_iff.1 ht⟩, b, f, hb, hf, rfl⟩
    · cases h
  · rintro ⟨⟨-, hd, ht⟩, b, f, rfl, hf, rfl⟩
    rw [if_pos (isText_iff.2 ht), Builtin.ofOperation?_operation]
    simp [enabledFunction?, hd, hf]

theorem method?_eq_none_iff {d : Dialect} {t : LogicalType} {operation : String} :
    d.method? t operation = none ↔ ¬ d.Offers t operation := by
  constructor
  · rintro h ⟨⟨b, rfl⟩, hd, ht⟩
    have hm : d.method? t b.operation = some (Method.ofBuiltin b _) :=
      method?_eq_some_iff.2 ⟨⟨⟨b, rfl⟩, hd, ht⟩, b, _, rfl, d.function?_operation b, rfl⟩
    rw [h] at hm
    cases hm
  · intro h
    rw [Option.eq_none_iff_forall_ne_some]
    exact fun m hm => h (method?_eq_some_iff.1 hm).1

end Dialect

/-! ## Compilers -/

namespace Compiler

theorem value_new (d : Dialect) :
    (new d).value =
      match d.registry with
      | .error e => .error (.registry e)
      | .ok r => .ok ⟨d, r⟩ := by
  simp only [new, Observed.value_bind, Dialect.buildRegistry]
  cases d.registry <;> rfl

theorem value_new_eq_ok_iff {d : Dialect} {c : Compiler} :
    (new d).value = .ok c ↔ c.dialect = d ∧ d.registry = .ok c.registry := by
  rw [value_new]
  cases hr : d.registry with
  | error e => simp
  | ok r =>
    rw [Except.ok.injEq, Except.ok.injEq]
    constructor
    · rintro rfl
      exact ⟨rfl, rfl⟩
    · rintro ⟨rfl, rfl⟩
      rfl

/-- Building a compiler succeeds where all names mentioned are operations. -/
theorem exists_value_new_eq_ok {d : Dialect} (h : d.unknownOperation? = none) :
    ∃ c, (new d).value = .ok c := by
  have hd := d.registry_eq
  rw [h] at hd
  obtain ⟨r, hr, -⟩ := hd
  exact ⟨⟨d, r⟩, value_new_eq_ok_iff.2 ⟨rfl, hr⟩⟩

/-- Compiling is looking up the method of the dialect and applying it. -/
theorem value_compile {d : Dialect} {c : Compiler} (hc : (new d).value = .ok c)
    (operation : String) (receiver : Expr) (args : List Expr) :
    (c.compile operation receiver args).value =
      match d.method? receiver.logicalType operation with
      | some m => m.compile receiver args
      | none => .error (.unsupportedOperation receiver.logicalType operation d.name) := by
  obtain ⟨-, hr⟩ := value_new_eq_ok_iff.1 hc
  change c.registry.lower operation receiver args = _
  unfold Registry.lower
  rw [Dialect.resolve_of_registry hr]
  cases d.method? receiver.logicalType operation <;> rfl

end Compiler

end TypedSql
