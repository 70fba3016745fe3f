import TypedSql.Proofs.Outcome
import TypedSql.Proofs.SortedMaps

/-!
# Configurations, dialects and registries

What a configuration says of an operation is kept three times: in its lists, in the sorted sets of
the dialect, and in the registry of methods.  The three agree.  A configuration that names
something that is no operation is refused for the least such name, functions before operations that
are switched off.
-/

namespace TypedSql

/-! ## Names that are no operations -/

/-- No operation has the name. -/
def UnknownOperation (s : String) : Prop := ∀ b : Builtin, b.operation ≠ s

theorem isNone_ofOperation?_iff {s : String} :
    (Builtin.ofOperation? s).isNone = true ↔ UnknownOperation s := by
  rw [Option.isNone_iff_eq_none, Option.eq_none_iff_forall_ne_some]
  exact forall_congr' fun b => not_congr Builtin.ofOperation?_eq_some_iff

/-- The unknown name to report: the least among those given a function, else the least among those
switched off. -/
inductive FirstUnknown (named disabled : String → Prop) : String → Prop where
  | named {s : String} (h : Text.IsLeast (fun t => named t ∧ UnknownOperation t) s) :
    FirstUnknown named disabled s
  | disabled {s : String} (hnamed : ∀ t, named t → ¬ UnknownOperation t)
    (h : Text.IsLeast (fun t => disabled t ∧ UnknownOperation t) s) :
    FirstUnknown named disabled s

theorem FirstUnknown.unique {named disabled : String → Prop} {s t : String}
    (hs : FirstUnknown named disabled s) (ht : FirstUnknown named disabled t) : s = t := by
  cases hs with
  | named hs =>
    cases ht with
    | named ht => exact hs.unique ht
    | disabled hnamed => exact absurd hs.1.2 (hnamed s hs.1.1)
  | disabled hnamed hs =>
    cases ht with
    | named ht => exact absurd ht.1.2 (hnamed t ht.1.1)
    | disabled _ ht => exact hs.unique ht

/-! ## What a dialect refuses -/

namespace Dialect

theorem mem_mentioned_iff {d : Dialect} {s : String} :
    s ∈ d.mentioned ↔ s ∈ d.functions.keys ∨ d.isDisabled s = true := by
  rw [mentioned, List.mem_append]
  exact or_congr_right SortedMap.mem_keys_iff

theorem firstUnknown_of_unknownOperation? {d : Dialect} {s : String}
    (h : d.unknownOperation? = some s) :
    FirstUnknown (· ∈ d.functions.keys) (d.isDisabled · = true) s := by
  rw [unknownOperation?, mentioned, List.find?_append] at h
  cases hf : d.functions.keys.find? fun t => (Builtin.ofOperation? t).isNone with
  | some t =>
    rw [hf, Option.some_or, Option.some.injEq] at h
    subst h
    refine .named ((Text.isLeast_congr fun t => ?_).1 (SortedMap.isLeast_of_find?_keys hf))
    rw [isNone_ofOperation?_iff]
  | none =>
    rw [hf, Option.none_or] at h
    refine .disabled (fun t ht hu => ?_)
      ((Text.isLeast_congr fun t => ?_).1 (SortedMap.isLeast_of_find?_keys h))
    · exact List.find?_eq_none.1 hf t ht (isNone_ofOperation?_iff.2 hu)
    · rw [isNone_ofOperation?_iff, SortedMap.mem_keys_iff]
      rfl

theorem exists_unknownOperation?_iff {d : Dialect} :
    (∃ s, d.unknownOperation? = some s) ↔
      ∃ s, (s ∈ d.functions.keys ∨ d.isDisabled s = true) ∧ UnknownOperation s := by
  rw [← Option.isSome_iff_exists, unknownOperation?, List.find?_isSome]
  simp only [isNone_ofOperation?_iff, mem_mentioned_iff]

theorem unknownOperation?_eq_some_iff {d : Dialect} {s : String} :
    d.unknownOperation? = some s ↔
      FirstUnknown (· ∈ d.functions.keys) (d.isDisabled · = true) s := by
  refine ⟨firstUnknown_of_unknownOperation?, fun h => ?_⟩
  obtain ⟨t, ht⟩ : ∃ t, d.unknownOperation? = some t := by
    refine exists_unknownOperation?_iff.2 ⟨s, ?_⟩
    cases h with
    | named h => exact ⟨.inl h.1.1, h.1.2⟩
    | disabled _ h => exact ⟨.inr h.1.1, h.1.2⟩
  rw [ht, (firstUnknown_of_unknownOperation? ht).unique h]

/-! ## What a registry contains -/

theorem contains_of_registry {d : Dialect} {r : Registry} (h : d.registry = .ok r)
    {t : LogicalType} {operation : String} :
    r.contains t operation = true ↔ d.Offers t operation := by
  have hmethod : r.method? t operation = d.method? t operation := by
    rw [(holds_of_registry h).method?, find?_methods]
    rfl
  rw [Registry.contains, hmethod]
  cases hm : d.method? t operation with
  | none => simp [method?_eq_none_iff.1 hm]
  | some m => simp [(method?_eq_some_iff.1 hm).1]

/-! ## From a configuration -/

theorem isDisabled_ofConfig {c : Config} {operation : String} :
    (ofConfig c).isDisabled operation = true ↔ operation ∈ c.disabled := by
  change (SortedMap.ofList (c.disabled.map (·, ()))).contains operation = true ↔ _
  rw [SortedMap.contains_ofList]
  simp

/-- Order and repetition in the list of what is switched off are lost. -/
theorem ofConfig_congr {c : Config} {disabled : List String}
    (h : ∀ s, s ∈ disabled ↔ s ∈ c.disabled) :
    ofConfig { c with disabled := disabled } = ofConfig c := by
  have hset : (ofConfig { c with disabled := disabled }).disabled = (ofConfig c).disabled := by
    refine SortedMap.ext_contains fun s => ?_
    change (ofConfig { c with disabled := disabled }).isDisabled s = (ofConfig c).isDisabled s
    rw [Bool.eq_iff_iff, isDisabled_ofConfig, isDisabled_ofConfig]
    exact h s
  simpa only [ofConfig, Dialect.mk.injEq, true_and] using hset

end Dialect

/-! ## Agreement -/

/-- The operation is not refused for these arguments. -/
def Admissible (operation : String) (args : List Expr) : Prop :=
  ArgCountFits operation args.length ∧ AllIntegral args ∧ ¬ ∃ b e, Inverted args b e

/-- A compiler as its configuration says. -/
structure Config.Agrees (c : Config) (k : Compiler) : Prop where
  dialect : k.dialect = .ofConfig c
  disabled : ∀ s, (c.isDisabled s = true ↔ s ∈ c.disabled) ∧ k.dialect.isDisabled s = c.isDisabled s
  contains : ∀ t s, k.registry.contains t s = true ↔
    (∃ b : Builtin, b.operation = s) ∧ (t = .char ∨ t = .string) ∧ c.isDisabled s = false
  call : ∀ (b : Builtin) receiver args,
    k.registry.contains receiver.logicalType b.operation = true → receiver.isLiteral = false →
    Admissible b.operation args →
    (k.compile b.operation receiver args).value =
      .ok (.call ((c.functions.get? b.operation).getD (b.function c.dialect))
        (receiver :: passedOn args)
        (.computed (if b.operation = "length" then .int else receiver.logicalType)))

namespace Compiler

/-- What is on offer for a receiver that is no literal is written as a call of the dialect's
function. -/
theorem value_compile_of_not_isLiteral {d : Dialect} {c : Compiler} (hc : (new d).value = .ok c)
    {b : Builtin} {receiver : Expr} {args : List Expr}
    (ho : d.Offers receiver.logicalType b.operation) (hr : receiver.isLiteral = false)
    (ha : Admissible b.operation args) :
    (c.compile b.operation receiver args).value =
      .ok (.call ((d.functions.get? b.operation).getD (b.function d.name))
        (receiver :: passedOn args)
        (.computed (if b.operation = "length" then .int else receiver.logicalType))) := by
  have hexact := (outcome_value_compile hc b.operation receiver args).exact
  obtain ⟨e, he⟩ := hexact.ok.2 ⟨ho, ha⟩
  have hnot : e.isLiteral = false := by
    rw [← Bool.not_eq_true, hexact.literal e he]
    rintro ⟨s, hs, -⟩
    cases receiver <;> cases hr <;> cases hs
  obtain ⟨f, hf, hcall⟩ := hexact.call e he hnot
  rw [Dialect.function?_operation, Option.some.injEq] at hf
  rw [he, hcall, hf]

theorem value_new_eq_error_iff {d : Dialect} {e : Error} :
    (new d).value = .error e ↔
      ∃ s, d.unknownOperation? = some s ∧ e = .registry (.unknownOperation s) := by
  have hd := d.registry_eq
  rw [value_new]
  cases hu : d.unknownOperation? with
  | some s =>
    rw [hu] at hd
    simp [hd, eq_comm]
  | none =>
    rw [hu] at hd
    obtain ⟨r, hr, -⟩ := hd
    simp [hr]

theorem exists_value_new_eq_error_iff {d : Dialect} :
    (∃ e, (new d).value = .error e) ↔
      ∃ s, (s ∈ d.functions.keys ∨ d.isDisabled s = true) ∧ UnknownOperation s := by
  rw [← Dialect.exists_unknownOperation?_iff]
  simp only [value_new_eq_error_iff]
  exact ⟨fun ⟨_, s, hs, _⟩ => ⟨s, hs⟩, fun ⟨s, hs⟩ => ⟨_, s, hs, rfl⟩⟩

theorem agrees_of_value_ofConfig {c : Config} {k : Compiler} (hk : (ofConfig c).value = .ok k) :
    c.Agrees k := by
  obtain ⟨hd, hr⟩ := value_new_eq_ok_iff.1 hk
  have hdisabled : ∀ s, (Dialect.ofConfig c).isDisabled s = c.isDisabled s := fun s => by
    rw [Bool.eq_iff_iff, Dialect.isDisabled_ofConfig]
    exact List.contains_iff_mem.symm
  refine ⟨hd, fun s => ⟨List.contains_iff_mem, by rw [hd, hdisabled]⟩, fun t s => ?_,
    fun b receiver args hc hl ha => ?_⟩
  · rw [Dialect.contains_of_registry hr, Dialect.Offers, hdisabled, and_comm (a := _ = false)]
  · exact value_compile_of_not_isLiteral hk ((Dialect.contains_of_registry hr).1 hc) hl ha

/-- The compiler of a configuration is refused exactly if a name is mentioned that is no operation,
for the first such name and for no other reason; otherwise configuration, dialect and registry
agree.  The order of the operations that are switched off, and how often each is listed, does not
matter. -/
theorem ofConfig_agrees (c : Config) :
    ((∃ e, (ofConfig c).value = .error e) ↔
      ∃ s, (s ∈ c.functions.keys ∨ s ∈ c.disabled) ∧ UnknownOperation s) ∧
    (∀ e, (ofConfig c).value = .error e ↔
      ∃ s, FirstUnknown (· ∈ c.functions.keys) (· ∈ c.disabled) s ∧
        e = .registry (.unknownOperation s)) ∧
    (∀ k, (ofConfig c).value = .ok k → c.Agrees k) ∧
    ∀ disabled, (∀ s, s ∈ disabled ↔ s ∈ c.disabled) →
      Dialect.ofConfig { c with disabled := disabled } = .ofConfig c ∧
        (ofConfig { c with disabled := disabled }).value = (ofConfig c).value := by
  refine ⟨?_, fun e => ?_, fun k => agrees_of_value_ofConfig, fun disabled h => ?_⟩
  · rw [ofConfig, exists_value_new_eq_error_iff]
    exact exists_congr fun s => and_congr_left' (or_congr_right Dialect.isDisabled_ofConfig)
  · have hdisabled : ((Dialect.ofConfig c).isDisabled · = true) = (· ∈ c.disabled) :=
      funext fun s => propext Dialect.isDisabled_ofConfig
    rw [ofConfig, value_new_eq_error_iff, ← hdisabled]
    exact exists_congr fun s => and_congr_left' Dialect.unknownOperation?_eq_some_iff
  · have hd := Dialect.ofConfig_congr h
    exact ⟨hd, by rw [ofConfig, hd, ofConfig]⟩

/-- An operation that has another function and is switched off twice besides; and two names that are
no operations, of which the one with a function is reported although the other is the lesser. -/
theorem ofConfig_agrees_trim :
    let c : Config :=
      { dialect := .oracle
        functions := .ofList [("trim", "STRIP"), ("length", "LEN")]
        disabled := ["trim", "substring", "trim"] }
    (∃ k, (ofConfig c).value = .ok k ∧ c.Agrees k ∧
      k.registry.contains .char "length" = true ∧ k.registry.contains .char "trim" ≠ true) ∧
      Dialect.ofConfig { c with disabled := ["substring", "trim"] } = .ofConfig c ∧
      (ofConfig { functions := .ofList [("é", "E"), ("z", "Z")], disabled := ["a"] }).value =
        .error (.registry (.unknownOperation "z")) := by
  intro c
  obtain ⟨k, hk⟩ := exists_value_new_eq_ok (d := .ofConfig c) (by decide)
  have hagrees := (ofConfig_agrees c).2.2.1 k hk
  refine ⟨⟨k, hk, hagrees, ?_, ?_⟩, ((ofConfig_agrees c).2.2.2 _ ?_).1, ?_⟩
  · exact (hagrees.contains .char "length").2 ⟨⟨.length, rfl⟩, .inl rfl, by decide⟩
  · intro h
    exact absurd ((hagrees.contains .char "trim").1 h).2.2 (by decide)
  · simp [c]
  · refine ((ofConfig_agrees _).2.1 _).2 ⟨"z", .named ⟨⟨by decide, ?_⟩, fun t ht => ?_⟩, rfl⟩
    · exact isNone_ofOperation?_iff.1 (by decide)
    · have hkeys : (SortedMap.ofList [("é", "E"), ("z", "Z")]).keys = ["z", "é"] := by decide
      rw [hkeys] at ht
      simp only [List.mem_cons, List.not_mem_nil, or_false] at ht
      rw [Text.utf8_le_iff]
      rcases ht.1 with rfl | rfl <;> decide

end Compiler

end TypedSql
