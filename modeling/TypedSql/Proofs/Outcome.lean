import TypedSql.Proofs.Lowering

/-!
# What a compilation comes to

Every call ends in one of five ways, and the first that applies is taken: the operation is not on
offer for the receiver, it takes another number of arguments, an argument is not integral, two
known bounds are inverted, or there is a result.  The conditions are stated on the dialect, the
receiver and the arguments; `Compiler.compile_outcomes` says that the compiler decides exactly
them.
-/

namespace TypedSql

/-! ## The conditions -/

/-- The number of arguments that a known operation takes. -/
def operationArity (operation : String) : Arity :=
  if operation = "substring" then ⟨1, 2⟩ else ⟨0, 0⟩

/-- A substring has one bound or two; the other operations have no arguments. -/
def ArgCountFits (operation : String) (n : Nat) : Prop :=
  if operation = "substring" then n = 1 ∨ n = 2 else n = 0

def AllIntegral (args : List Expr) : Prop := ∀ a ∈ args, a.logicalType.isIntegral = true

/-- The argument at `i` has the type `t`, which is not integral, and those before it are. -/
def FirstNonIntegral (args : List Expr) (i : Nat) (t : LogicalType) : Prop :=
  (∃ a, args[i]? = some a ∧ a.logicalType = t) ∧ t.isIntegral = false ∧
    ∀ j < i, ∀ a, args[j]? = some a → a.logicalType.isIntegral = true

/-- The arguments are two known bounds, of which the second is the smaller. -/
def Inverted (args : List Expr) (start stop : Int64) : Prop :=
  ∃ x y, args = [x, y] ∧ x.literalInt? = some start ∧ y.literalInt? = some stop ∧
    stop.toInt < start.toInt

/-- The bounds are known, in order, and within a text of `n` characters. -/
def BoundsWithin (n : Nat) : List Expr → Prop
  | [x] => ∃ b : Int64, x.literalInt? = some b ∧ 0 ≤ b.toInt ∧ b.toInt ≤ n
  | [x, y] => ∃ b e : Int64, x.literalInt? = some b ∧ y.literalInt? = some e ∧
      0 ≤ b.toInt ∧ b.toInt ≤ e.toInt ∧ e.toInt ≤ n
  | _ => False

/-- The result is known when the statement is written. -/
def Foldable (operation : String) (receiver : Expr) (args : List Expr) : Prop :=
  ∃ s, receiver.literalText? = some s ∧
    (operation = "substring" → BoundsWithin s.toList.length args)

/-- What a call passes on behind the receiver: for bounds, where to start and how many
characters. -/
def passedOn : List Expr → List Expr
  | [x] => [Method.startArg x]
  | [x, y] => [Method.startArg x, Method.lengthArg x y]
  | _ => []

/-! ## Bounds that are refused -/

namespace Method

theorem nonIntegral?_eq_none_iff {args : List Expr} {i : Nat} :
    nonIntegral? i args = none ↔ AllIntegral args := by
  induction args generalizing i with
  | nil => simp [nonIntegral?, AllIntegral]
  | cons a args ih =>
    rw [nonIntegral?]
    by_cases ha : a.logicalType.isIntegral = true
    · rw [if_pos ha, ih]
      simp [AllIntegral, ha]
    · simp [AllIntegral, ha]

theorem firstNonIntegral_cons_of_isIntegral {a : Expr} {args : List Expr} {i : Nat}
    {t : LogicalType} (ha : a.logicalType.isIntegral = true) :
    FirstNonIntegral (a :: args) i t ↔ ∃ j, i = j + 1 ∧ FirstNonIntegral args j t := by
  unfold FirstNonIntegral
  constructor
  · rintro ⟨⟨x, hx, rfl⟩, ht, hlt⟩
    cases i with
    | zero =>
      obtain rfl : a = x := by simpa using hx
      rw [ha] at ht
      cases ht
    | succ j =>
      exact ⟨j, rfl, ⟨x, by simpa using hx, rfl⟩, ht,
        fun k hk y hy => hlt (k + 1) (by omega) y (by simpa using hy)⟩
  · rintro ⟨j, rfl, ⟨x, hx, rfl⟩, ht, hlt⟩
    refine ⟨⟨x, by simpa using hx, rfl⟩, ht, fun k hk y hy => ?_⟩
    cases k with
    | zero =>
      obtain rfl : a = y := by simpa using hy
      exact ha
    | succ k => exact hlt k (by omega) y (by simpa using hy)

theorem firstNonIntegral_cons_of_not_isIntegral {a : Expr} {args : List Expr} {i : Nat}
    {t : LogicalType} (ha : a.logicalType.isIntegral = false) :
    FirstNonIntegral (a :: args) i t ↔ i = 0 ∧ a.logicalType = t := by
  unfold FirstNonIntegral
  constructor
  · rintro ⟨⟨x, hx, rfl⟩, ht, hlt⟩
    cases i with
    | zero =>
      obtain rfl : a = x := by simpa using hx
      exact ⟨rfl, rfl⟩
    | succ j =>
      have := hlt 0 (by omega) a rfl
      rw [ha] at this
      cases this
  · rintro ⟨rfl, rfl⟩
    exact ⟨⟨a, rfl, rfl⟩, ha, fun j hj => absurd hj (by omega)⟩

theorem nonIntegral?_eq_some_iff {args : List Expr} {i j : Nat} {t : LogicalType} :
    nonIntegral? i args = some (j, t) ↔ ∃ k, j = i + k ∧ FirstNonIntegral args k t := by
  induction args generalizing i with
  | nil => simp [nonIntegral?, FirstNonIntegral]
  | cons a args ih =>
    rw [nonIntegral?]
    by_cases ha : a.logicalType.isIntegral = true
    · rw [if_pos ha, ih]
      constructor
      · rintro ⟨k, rfl, hk⟩
        exact ⟨k + 1, by omega, (firstNonIntegral_cons_of_isIntegral ha).2 ⟨k, rfl, hk⟩⟩
      · rintro ⟨k, rfl, hk⟩
        obtain ⟨l, rfl, hl⟩ := (firstNonIntegral_cons_of_isIntegral ha).1 hk
        exact ⟨l, by omega, hl⟩
    · rw [if_neg ha]
      have ha' : a.logicalType.isIntegral = false := by simpa using ha
      simp only [firstNonIntegral_cons_of_not_isIntegral ha', Option.some.injEq, Prod.mk.injEq]
      constructor
      · rintro ⟨rfl, rfl⟩
        exact ⟨0, rfl, rfl, rfl⟩
      · rintro ⟨k, rfl, rfl, rfl⟩
        exact ⟨rfl, rfl⟩

theorem invertedRange?_pair (x y : Expr) :
    invertedRange? [x, y] =
      match x.literalInt?, y.literalInt? with
      | some b, some e => if e < b then some (b, e) else none
      | _, _ => none :=
  rfl

theorem invertedRange?_eq_some_iff {args : List Expr} (hn : args.length ≤ 2)
    {start stop : Int64} :
    invertedRange? args = some (start, stop) ↔ Inverted args start stop := by
  unfold Inverted
  match args, hn with
  | [], _ => simp [invertedRange?]
  | [x], _ => simp [invertedRange?]
  | [x, y], _ =>
    rw [invertedRange?_pair]
    constructor
    · intro h
      split at h
      next b e hx hy =>
        split at h
        next hlt =>
          cases h
          exact ⟨x, y, rfl, hx, hy, Int64.lt_iff_toInt_lt.1 hlt⟩
        · cases h
      · cases h
    · rintro ⟨x', y', hxy, hx, hy, hlt⟩
      cases hxy
      rw [hx, hy]
      exact if_pos (Int64.lt_iff_toInt_lt.2 hlt)

/-- The bounds that are not refused, and why the others are. -/
theorem checkBounds_eq {args : List Expr} (hn : args.length ≤ 2) :
    (AllIntegral args ∧ (¬ ∃ b e, Inverted args b e) ∧ checkBounds args = .ok ()) ∨
    (AllIntegral args ∧ ∃ b e, Inverted args b e ∧
      checkBounds args = .error (.invalidRange "substring" b e)) ∨
    ∃ i t, FirstNonIntegral args i t ∧
      checkBounds args = .error (.argumentType "substring" i t) := by
  unfold checkBounds
  cases hi : nonIntegral? 0 args with
  | some p =>
    obtain ⟨k, hk, hfirst⟩ := nonIntegral?_eq_some_iff.1 hi
    exact .inr (.inr ⟨p.1, p.2, by rwa [hk, Nat.zero_add], rfl⟩)
  | none =>
    have hall := nonIntegral?_eq_none_iff.1 hi
    cases hr : invertedRange? args with
    | some p => exact .inr (.inl ⟨hall, p.1, p.2, (invertedRange?_eq_some_iff hn).1 hr, rfl⟩)
    | none =>
      refine .inl ⟨hall, ?_, rfl⟩
      rintro ⟨b, e, h⟩
      rw [(invertedRange?_eq_some_iff hn).2 h] at hr
      cases hr

end Method

/-! ## Conditions exclude each other -/

theorem FirstNonIntegral.not_allIntegral {args : List Expr} {i : Nat} {t : LogicalType}
    (h : FirstNonIntegral args i t) : ¬ AllIntegral args := by
  obtain ⟨⟨a, ha, rfl⟩, ht, -⟩ := h
  intro hall
  rw [hall a (List.mem_of_getElem? ha)] at ht
  cases ht

theorem FirstNonIntegral.unique {args : List Expr} {i j : Nat} {t u : LogicalType}
    (h : FirstNonIntegral args i t) (h' : FirstNonIntegral args j u) : i = j ∧ t = u := by
  have hi := Method.nonIntegral?_eq_some_iff.2 ⟨i, (Nat.zero_add i).symm, h⟩
  have hj := Method.nonIntegral?_eq_some_iff.2 ⟨j, (Nat.zero_add j).symm, h'⟩
  rw [hi] at hj
  cases hj
  exact ⟨rfl, rfl⟩

theorem Inverted.unique {args : List Expr} {b e c f : Int64} (h : Inverted args b e)
    (h' : Inverted args c f) : b = c ∧ e = f := by
  obtain ⟨x, y, rfl, hx, hy, -⟩ := h
  obtain ⟨x', y', hxy, hx', hy', -⟩ := h'
  cases hxy
  rw [hx] at hx'
  rw [hy] at hy'
  cases hx'
  cases hy'
  exact ⟨rfl, rfl⟩

theorem not_inverted_singleton (x : Expr) : ¬ ∃ b e, Inverted [x] b e := by
  rintro ⟨b, e, y, z, h, -⟩
  cases h

/-- Bounds are in order if those that are known are. -/
theorem not_inverted_pair {x y : Expr} (h : ∀ b e, x.literalInt? = some b →
    y.literalInt? = some e → b.toInt ≤ e.toInt) : ¬ ∃ b e, Inverted [x, y] b e := by
  rintro ⟨b, e, x', y', hargs, hb, he, hlt⟩
  cases hargs
  exact absurd (h b e hb he) (Int.not_le.2 hlt)

/-! ## Results that are known -/

namespace Method

theorem isSome_foldSubstring?_iff {receiver : Expr} {s : String}
    (hs : receiver.literalText? = some s) (start : Expr) {rest : List Expr}
    (hn : rest.length ≤ 1) :
    (foldSubstring? receiver start rest.head?).isSome = true ↔
      BoundsWithin s.toList.length (start :: rest) := by
  simp only [Option.isSome_iff_exists, foldSubstring?_eq_some_iff hs]
  match rest, hn with
  | [], _ =>
    constructor
    · rintro ⟨-, b, e, hb, he, hbe, -, -⟩
      obtain ⟨x, hx, h0, hxb⟩ := bound?_eq_some_iff.1 hb
      cases he
      exact ⟨x, hx, h0, by omega⟩
    · rintro ⟨x, hx, h0, hxn⟩
      exact ⟨_, x.toInt.toNat, _, bound?_eq_some_iff.2 ⟨x, hx, h0, by omega⟩, rfl, by omega,
        Nat.le_refl _, rfl⟩
  | [stop], _ =>
    constructor
    · rintro ⟨-, b, e, hb, he, hbe, hen, -⟩
      obtain ⟨x, hx, h0, hxb⟩ := bound?_eq_some_iff.1 hb
      obtain ⟨y, hy, -, hye⟩ := bound?_eq_some_iff.1 he
      exact ⟨x, y, hx, hy, h0, by omega, by omega⟩
    · rintro ⟨x, y, hx, hy, h0, hxy, hyn⟩
      exact ⟨_, x.toInt.toNat, y.toInt.toNat, bound?_eq_some_iff.2 ⟨x, hx, h0, by omega⟩,
        bound?_eq_some_iff.2 ⟨y, hy, by omega, by omega⟩, by omega, by omega, rfl⟩

end Method

namespace Builtin

theorem arity_eq_operationArity (b : Builtin) : b.arity = operationArity b.operation := by
  rcases b with (_ | _ | _ | _ | _) | _ | _ <;> rfl

theorem operation_eq_substring_iff {b : Builtin} : b.operation = "substring" ↔ b = substring :=
  ⟨fun h => operation_injective h, fun h => h ▸ rfl⟩

theorem accepts_arity_iff {b : Builtin} {n : Nat} :
    b.arity.accepts n = true ↔ ArgCountFits b.operation n := by
  unfold ArgCountFits
  by_cases hb : b = substring
  · rw [if_pos (operation_eq_substring_iff.2 hb), hb, accepts_arity_substring_iff]
  · rw [if_neg (mt operation_eq_substring_iff.1 hb)]
    cases b with
    | substring => exact absurd rfl hb
    | transform t => simp [arity, Arity.accepts, Arity.exactly]
    | length => simp [arity, Arity.accepts, Arity.exactly]

theorem length_le_two_of_accepts {b : Builtin} {n : Nat} (h : b.arity.accepts n = true) :
    n ≤ 2 := by
  have hfits := accepts_arity_iff.1 h
  unfold ArgCountFits at hfits
  split at hfits <;> omega

theorem isSome_fold?_iff {b : Builtin} {receiver : Expr} {args : List Expr}
    (ha : b.arity.accepts args.length = true) :
    (b.fold? receiver args).isSome = true ↔ Foldable b.operation receiver args := by
  unfold Foldable
  cases hs : receiver.literalText? with
  | none =>
    have hf : b.fold? receiver args = none := by
      cases b with
      | substring =>
        cases args with
        | nil => rfl
        | cons start rest => exact Method.foldSubstring?_of_literalText?_eq_none hs
      | transform t => simp [fold?, hs]
      | length => simp [fold?, hs]
    simp [hf]
  | some s =>
    cases b with
    | transform t => cases t <;> simp [fold?, hs, operation, Transform.operation]
    | length => simp [fold?, hs, operation]
    | substring =>
      obtain ⟨start, rest, rfl, hn⟩ : ∃ start rest, args = start :: rest ∧ rest.length ≤ 1 := by
        have hn := accepts_arity_substring_iff.1 ha
        cases args with
        | nil => exact absurd ha (by decide)
        | cons start rest =>
          rw [List.length_cons] at hn
          exact ⟨start, rest, rfl, by omega⟩
      change (Method.foldSubstring? receiver start rest.head?).isSome = true ↔ _
      rw [Method.isSome_foldSubstring?_iff hs start hn]
      simp [operation]

end Builtin

/-! ## The outcome of a call -/

/-- The ways in which a call can end, each with what it takes to get there. -/
inductive Outcome (d : Dialect) (operation : String) (receiver : Expr) (args : List Expr) :
    Except CompileError Expr → Prop where
  | unsupported (ho : ¬ d.Offers receiver.logicalType operation) :
    Outcome d operation receiver args
      (.error (.unsupportedOperation receiver.logicalType operation d.name))
  | arity (ho : d.Offers receiver.logicalType operation)
    (hn : ¬ ArgCountFits operation args.length) :
    Outcome d operation receiver args
      (.error (.arity operation receiver.logicalType (operationArity operation) args.length))
  | argumentType {i : Nat} {t : LogicalType} (ho : d.Offers receiver.logicalType operation)
    (hn : ArgCountFits operation args.length) (hi : FirstNonIntegral args i t) :
    Outcome d operation receiver args (.error (.argumentType operation i t))
  | invalidRange {b e : Int64} (ho : d.Offers receiver.logicalType operation)
    (hn : ArgCountFits operation args.length) (hi : AllIntegral args) (hr : Inverted args b e) :
    Outcome d operation receiver args (.error (.invalidRange operation b e))
  | literal {e : Expr} (ho : d.Offers receiver.logicalType operation)
    (hn : ArgCountFits operation args.length) (hi : AllIntegral args)
    (hr : ¬ ∃ b e, Inverted args b e) (hf : Foldable operation receiver args)
    (he : e.isLiteral = true) : Outcome d operation receiver args (.ok e)
  | call {f : String} (ho : d.Offers receiver.logicalType operation)
    (hn : ArgCountFits operation args.length) (hi : AllIntegral args)
    (hr : ¬ ∃ b e, Inverted args b e) (hf : ¬ Foldable operation receiver args)
    (hfun : d.function? operation = some f) :
    Outcome d operation receiver args
      (.ok (.call f (receiver :: passedOn args)
        (.computed (if operation = "length" then .int else receiver.logicalType))))

namespace Builtin

theorem callNode_eq {b : Builtin} {f : String} {receiver : Expr} {args : List Expr}
    (ha : b.arity.accepts args.length = true) :
    b.callNode f receiver args =
      .call f (receiver :: passedOn args)
        (.computed (if b.operation = "length" then .int else receiver.logicalType)) := by
  cases b with
  | transform t =>
    obtain rfl : args = [] := by simpa [arity, Arity.accepts, Arity.exactly] using ha
    cases t <;> rfl
  | length =>
    obtain rfl : args = [] := by simpa [arity, Arity.accepts, Arity.exactly] using ha
    rfl
  | substring =>
    have hn := accepts_arity_substring_iff.1 ha
    match args, hn with
    | [x], _ => rfl
    | [x, y], _ => rfl

/-- Bounds are an affair of substrings: where there are any, the operation is that one. -/
theorem operation_eq_substring {b : Builtin} {args : List Expr}
    (ha : b.arity.accepts args.length = true) (h : args ≠ []) : b.operation = "substring" := by
  cases b with
  | substring => rfl
  | transform t => exact absurd (by simpa [arity, Arity.accepts, Arity.exactly] using ha) h
  | length => exact absurd (by simpa [arity, Arity.accepts, Arity.exactly] using ha) h

end Builtin

/-- A substring that is not computed is a call, for one bound or two. -/
theorem Method.eq_call_of_compile_substring {f : String} {receiver r : Expr} {args : List Expr}
    (h : (substring f).compile receiver args = .ok r) (hr : r.isLiteral = false) :
    (args.length = 1 ∨ args.length = 2) ∧
      r = .call f (receiver :: passedOn args) (.computed receiver.logicalType) := by
  have hcompile := (compile_ofBuiltin .substring f receiver args).symm.trans h
  by_cases ha : Builtin.substring.arity.accepts args.length = true
  · refine ⟨Builtin.accepts_arity_substring_iff.1 ha, ?_⟩
    rw [Builtin.refusal?_of_accepts ha] at hcompile
    cases hb : checkBounds args with
    | error e =>
      rw [hb] at hcompile
      cases hcompile
    | ok u =>
      rw [hb] at hcompile
      obtain rfl := Except.ok.inj hcompile
      cases hf : Builtin.substring.fold? receiver args with
      | some e =>
        rw [hf, Option.getD_some, (Builtin.literal_of_fold? hf).2.1] at hr
        cases hr
      | none => exact Builtin.callNode_eq ha
  · rw [Builtin.refusal?_of_not_accepts ha] at hcompile
    cases hcompile

theorem FirstNonIntegral.ne_nil {args : List Expr} {i : Nat} {t : LogicalType}
    (h : FirstNonIntegral args i t) : args ≠ [] := by
  rintro rfl
  obtain ⟨⟨a, ha, -⟩, -⟩ := h
  cases ha

theorem Inverted.ne_nil {args : List Expr} {b e : Int64} (h : Inverted args b e) : args ≠ [] := by
  obtain ⟨x, y, rfl, -⟩ := h
  simp

/-- Every call of a compiler ends in one of these ways. -/
theorem Compiler.outcome_value_compile {d : Dialect} {c : Compiler} (hc : (new d).value = .ok c)
    (operation : String) (receiver : Expr) (args : List Expr) :
    Outcome d operation receiver args (c.compile operation receiver args).value := by
  rw [value_compile hc]
  cases hm : d.method? receiver.logicalType operation with
  | none => exact .unsupported (Dialect.method?_eq_none_iff.1 hm)
  | some m =>
    obtain ⟨ho, b, f, rfl, hfun, rfl⟩ := Dialect.method?_eq_some_iff.1 hm
    simp only [Method.compile_ofBuiltin]
    by_cases ha : b.arity.accepts args.length = true
    · rw [Builtin.refusal?_of_accepts ha]
      have hn := Builtin.accepts_arity_iff.1 ha
      obtain ⟨hi, hr, hb⟩ | ⟨hi, x, y, hr, hb⟩ | ⟨i, t, hi, hb⟩ :=
        Method.checkBounds_eq (Builtin.length_le_two_of_accepts ha)
      · rw [hb]
        cases hf : b.fold? receiver args with
        | some e =>
          exact .literal ho hn hi hr ((Builtin.isSome_fold?_iff ha).1 (by rw [hf]; rfl))
            (Builtin.literal_of_fold? hf).2.1
        | none =>
          have hnf : ¬ Foldable b.operation receiver args := by
            rw [← Builtin.isSome_fold?_iff ha, hf]
            simp
          rw [Option.getD_none, Builtin.callNode_eq ha]
          exact .call ho hn hi hr hnf hfun
      · rw [hb, ← Builtin.operation_eq_substring ha hr.ne_nil]
        exact .invalidRange ho hn hi hr
      · rw [hb, ← Builtin.operation_eq_substring ha hi.ne_nil]
        exact .argumentType ho hn hi
    · rw [Builtin.refusal?_of_not_accepts ha, Builtin.arity_eq_operationArity]
      exact .arity ho (mt Builtin.accepts_arity_iff.2 ha)

/-! ## Exactly these outcomes -/

/-- Each outcome is reached under its own conditions and under no others, errors with the data that
they name. -/
structure OutcomesExact (d : Dialect) (operation : String) (receiver : Expr) (args : List Expr)
    (result : Except CompileError Expr) : Prop where
  unsupported : ∀ t op n, result = .error (.unsupportedOperation t op n) ↔
    ¬ d.Offers receiver.logicalType operation ∧
      t = receiver.logicalType ∧ op = operation ∧ n = d.name
  arity : ∀ op t a n, result = .error (.arity op t a n) ↔
    d.Offers receiver.logicalType operation ∧ ¬ ArgCountFits operation args.length ∧
      op = operation ∧ t = receiver.logicalType ∧ a = operationArity operation ∧ n = args.length
  argumentType : ∀ op i t, result = .error (.argumentType op i t) ↔
    d.Offers receiver.logicalType operation ∧ ArgCountFits operation args.length ∧
      FirstNonIntegral args i t ∧ op = operation
  invalidRange : ∀ op b e, result = .error (.invalidRange op b e) ↔
    d.Offers receiver.logicalType operation ∧ ArgCountFits operation args.length ∧
      AllIntegral args ∧ Inverted args b e ∧ op = operation
  ok : (∃ e, result = .ok e) ↔
    d.Offers receiver.logicalType operation ∧ ArgCountFits operation args.length ∧
      AllIntegral args ∧ ¬ ∃ b e, Inverted args b e
  literal : ∀ e, result = .ok e → (e.isLiteral = true ↔ Foldable operation receiver args)
  call : ∀ e, result = .ok e → e.isLiteral = false →
    ∃ f, d.function? operation = some f ∧
      e = .call f (receiver :: passedOn args)
        (.computed (if operation = "length" then .int else receiver.logicalType))

theorem Outcome.exact {d : Dialect} {operation : String} {receiver : Expr} {args : List Expr}
    {result : Except CompileError Expr} (h : Outcome d operation receiver args result) :
    OutcomesExact d operation receiver args result := by
  cases h with
  | unsupported ho => constructor <;> grind
  | arity ho hn => constructor <;> grind
  | argumentType ho hn hi =>
    have hall := hi.not_allIntegral
    have hone := fun j u => hi.unique (j := j) (u := u)
    constructor <;> grind
  | invalidRange ho hn hi hr =>
    have hnone := fun j u (h : FirstNonIntegral args j u) => h.not_allIntegral hi
    have hone := fun x y => hr.unique (c := x) (f := y)
    constructor <;> grind
  | literal ho hn hi hr hf he =>
    have hnone := fun j u (h : FirstNonIntegral args j u) => h.not_allIntegral hi
    constructor <;> grind
  | call ho hn hi hr hf hfun =>
    have hnone := fun j u (h : FirstNonIntegral args j u) => h.not_allIntegral hi
    constructor <;> grind [Expr.isLiteral, Expr.call]

/-- Whatever is configured, a compiler comes to each outcome exactly under its conditions, taken in
this order; a result that is not computed is a call of the dialect's function on the receiver. -/
theorem Compiler.compile_outcomes {d : Dialect} {c : Compiler} (hc : (new d).value = .ok c)
    (operation : String) (receiver : Expr) (args : List Expr) :
    OutcomesExact d operation receiver args (c.compile operation receiver args).value :=
  (outcome_value_compile hc operation receiver args).exact

/-- With `trim` switched off and another function for `length`, two inverted bounds are refused. -/
theorem Compiler.compile_outcomes_inverted :
    ∃ c, (new ⟨.oracle, 255, .ofList [("length", "LEN")], .ofList [("trim", ())]⟩).value = .ok c ∧
      (c.compile "substring" (.typedLiteral (.text "abc") .string)
        [.typedLiteral (.int 3) .int, .typedLiteral (.int 1) .int]).value =
        .error (.invalidRange "substring" 3 1) := by
  obtain ⟨c, hc⟩ := exists_value_new_eq_ok
    (d := ⟨.oracle, 255, .ofList [("length", "LEN")], .ofList [("trim", ())]⟩) (by decide)
  refine ⟨c, hc, ((compile_outcomes hc _ _ _).invalidRange _ _ _).2 ⟨?_, ?_, ?_, ?_, rfl⟩⟩
  · exact ⟨⟨.substring, rfl⟩, by decide, .inr rfl⟩
  · exact .inr rfl
  · simp [AllIntegral, Expr.typedLiteral, Expr.logicalType, Expr.mapping, Mapping.computed,
      LogicalType.isIntegral]
  · exact ⟨_, _, rfl, rfl, rfl, by decide⟩

end TypedSql
