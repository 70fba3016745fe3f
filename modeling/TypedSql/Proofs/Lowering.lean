import TypedSql.Proofs.Registration

/-!
# Lowering known operations

Compiling one of the known operations takes two independent decisions.  Whether the call is refused
depends on the type of the receiver and on the arguments alone (`Builtin.refusal?`).  A call that
is not refused is computed at once where it can be (`Builtin.fold?`), and is otherwise written as a
call of the datastore's function (`Builtin.callNode`).
-/

namespace TypedSql

/-! ## The two decisions -/

namespace Builtin

def arity : Builtin → Arity
  | substring => Method.substringArity
  | transform _ | length => .exactly 0

/-- Why a call is refused, if it is. -/
def refusal? (b : Builtin) (t : LogicalType) (args : List Expr) : Option CompileError :=
  if b.arity.accepts args.length then
    match Method.checkBounds args with
    | .error e => some e
    | .ok () => none
  else some (.arity b.operation t b.arity args.length)

/-- The result that is known when the statement is written. -/
def fold? : Builtin → Expr → List Expr → Option Expr
  | transform t, receiver, _ =>
    receiver.literalText?.map fun s => receiver.withLiteral (.text (t.apply s))
  | length, receiver, _ =>
    receiver.literalText?.map fun s => .typedLiteral (.int (Method.characterCount s)) .int
  | substring, receiver, args =>
    args.head?.bind fun start => Method.foldSubstring? receiver start args.tail.head?

/-- The type of a result, from that of the receiver. -/
def resultType : Builtin → LogicalType → LogicalType
  | transform _, t | substring, t => t
  | length, _ => .int

/-- What a call passes on behind the receiver. -/
def callArgs : Builtin → List Expr → List Expr
  | substring, start :: rest =>
    Method.startArg start :: (rest.head?.map (Method.lengthArg start)).toList
  | _, _ => []

/-- The call of the function `f`. -/
def callNode (b : Builtin) (f : String) (receiver : Expr) (args : List Expr) : Expr :=
  .call f (receiver :: b.callArgs args) (.computed (b.resultType receiver.logicalType))

end Builtin

/-! ## Compiling is taking them -/

namespace Builtin

theorem accepts_arity_substring_iff {n : Nat} :
    substring.arity.accepts n = true ↔ n = 1 ∨ n = 2 := by
  change (decide (1 ≤ n) && decide (n ≤ 2)) = true ↔ _
  rw [Bool.and_eq_true, decide_eq_true_iff, decide_eq_true_iff]
  omega

theorem refusal?_of_accepts {b : Builtin} {args : List Expr}
    (h : b.arity.accepts args.length = true) (t : LogicalType) :
    b.refusal? t args =
      match Method.checkBounds args with
      | .error e => some e
      | .ok () => none :=
  if_pos h

theorem refusal?_of_not_accepts {b : Builtin} {args : List Expr}
    (h : ¬ b.arity.accepts args.length = true) (t : LogicalType) :
    b.refusal? t args = some (.arity b.operation t b.arity args.length) :=
  if_neg h

end Builtin

namespace Method

theorem checkArity_of_accepts {operation : String} {a : Arity} {args : List Expr}
    (h : a.accepts args.length = true) (receiver : Expr) :
    checkArity operation a receiver args = .ok () :=
  if_pos h

theorem checkArity_of_not_accepts {operation : String} {a : Arity} {args : List Expr}
    (h : ¬ a.accepts args.length = true) (receiver : Expr) :
    checkArity operation a receiver args =
      .error (.arity operation receiver.logicalType a args.length) :=
  if_neg h

/-- A call that is not refused for its bounds, which has bounds to begin with. -/
theorem compileSubstring_eq_ok {f : String} {receiver start : Expr} {rest : List Expr}
    (ha : substringArity.accepts (start :: rest).length = true)
    (hb : checkBounds (start :: rest) = .ok ()) :
    compileSubstring f receiver (start :: rest) =
      .ok ((foldSubstring? receiver start rest.head?).getD
        (substringCall f receiver start rest.head?)) := by
  unfold compileSubstring
  rw [checkArity_of_accepts ha, hb]
  cases hf : foldSubstring? receiver start rest.head? <;>
    simp [bind, Except.bind, pure, Except.pure, hf]

theorem compile_ofBuiltin (b : Builtin) (f : String) (receiver : Expr) (args : List Expr) :
    (ofBuiltin b f).compile receiver args =
      match b.refusal? receiver.logicalType args with
      | some e => .error e
      | none => .ok ((b.fold? receiver args).getD (b.callNode f receiver args)) := by
  cases b with
  | transform t =>
    change compileTransform t f receiver args = _
    unfold compileTransform
    cases args with
    | nil => cases hs : receiver.literalText? <;> simp only [Builtin.fold?, hs] <;> rfl
    | cons a args => rfl
  | length =>
    change compileLength f receiver args = _
    unfold compileLength
    cases args with
    | nil => cases hs : receiver.literalText? <;> simp only [Builtin.fold?, hs] <;> rfl
    | cons a args => rfl
  | substring =>
    change compileSubstring f receiver args = _
    by_cases ha : Builtin.substring.arity.accepts args.length = true
    · rw [Builtin.refusal?_of_accepts ha]
      -- no argument at all would have been refused by now
      obtain ⟨start, rest, rfl⟩ : ∃ start rest, args = start :: rest := by
        cases args with
        | nil => exact absurd ha (by decide)
        | cons start rest => exact ⟨start, rest, rfl⟩
      cases hb : checkBounds (start :: rest) with
      | error e =>
        unfold compileSubstring
        rw [checkArity_of_accepts (a := substringArity) ha, hb]
        rfl
      | ok u => exact compileSubstring_eq_ok ha hb
    · rw [Builtin.refusal?_of_not_accepts ha]
      unfold compileSubstring
      rw [checkArity_of_not_accepts (a := substringArity) ha]
      rfl

end Method

/-! ## Folding a substring -/

namespace Method

theorem bound?_eq_some_iff {e : Expr} {n : Nat} :
    bound? e = some n ↔ ∃ b : Int64, e.literalInt? = some b ∧ 0 ≤ b.toInt ∧ b.toInt = n := by
  unfold bound?
  rw [Option.bind_eq_some_iff]
  refine exists_congr fun b => and_congr_right fun _ => ?_
  split
  next h =>
    rw [Option.some.injEq]
    omega
  next h => simp [h]

/-- Where the range of a substring stops: at its second bound, else at the end of the text. -/
def stopBound? (count : Nat) (stop : Option Expr) : Option Nat := stop.elim (some count) bound?

theorem foldSubstring?_eq_some_iff {receiver start : Expr} {stop : Option Expr} {s : String}
    (hs : receiver.literalText? = some s) {r : Expr} :
    foldSubstring? receiver start stop = some r ↔
      ∃ b e, bound? start = some b ∧ stopBound? s.toList.length stop = some e ∧ b ≤ e ∧
        e ≤ s.toList.length ∧ r = receiver.withLiteral (.text (slice s b e)) := by
  have hf : foldSubstring? receiver start stop =
      (bound? start).bind fun b => (stopBound? s.toList.length stop).bind fun e =>
        if b ≤ e ∧ e ≤ s.toList.length then some (receiver.withLiteral (.text (slice s b e)))
        else none := by
    unfold foldSubstring?
    rw [hs]
    cases stop <;> rfl
  rw [hf, Option.bind_eq_some_iff]
  simp only [Option.bind_eq_some_iff, Option.ite_none_right_eq_some, Option.some.injEq]
  constructor
  · rintro ⟨b, hb, e, he, ⟨hbe, hen⟩, rfl⟩
    exact ⟨b, e, hb, he, hbe, hen, rfl⟩
  · rintro ⟨b, e, hb, he, hbe, hen, rfl⟩
    exact ⟨b, hb, e, he, ⟨hbe, hen⟩, rfl⟩

theorem foldSubstring?_of_literalText?_eq_none {receiver start : Expr} {stop : Option Expr}
    (hs : receiver.literalText? = none) : foldSubstring? receiver start stop = none := by
  unfold foldSubstring?
  rw [hs]
  rfl

end Method

/-- What is computed at once comes from a literal text, and is a literal of the type of the
result. -/
theorem Builtin.literal_of_fold? {b : Builtin} {receiver r : Expr} {args : List Expr}
    (h : b.fold? receiver args = some r) :
    (∃ s, receiver.literalText? = some s) ∧ r.isLiteral = true ∧
      r.logicalType = b.resultType receiver.logicalType := by
  cases b with
  | transform t =>
    obtain ⟨s, hs, rfl⟩ := Option.map_eq_some_iff.1 h
    exact ⟨⟨s, hs⟩, rfl, rfl⟩
  | length =>
    obtain ⟨s, hs, rfl⟩ := Option.map_eq_some_iff.1 h
    exact ⟨⟨s, hs⟩, rfl, rfl⟩
  | substring =>
    obtain ⟨start, -, hf⟩ := Option.bind_eq_some_iff.1 h
    cases hs : receiver.literalText? with
    | none =>
      rw [Method.foldSubstring?_of_literalText?_eq_none hs] at hf
      cases hf
    | some s =>
      obtain ⟨-, -, -, -, -, -, rfl⟩ := (Method.foldSubstring?_eq_some_iff hs).1 hf
      exact ⟨⟨s, rfl⟩, rfl, rfl⟩

end TypedSql
