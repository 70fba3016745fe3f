import TypedSql.Proofs.Meaning
import TypedSql.Proofs.Lowering

/-!
# Folding is only an optimisation

A chain of calls is compiled from a literal text, where results are computed as far as they can be,
and from a parameter that holds the same text, where every call is left to the datastore.  What a
call denotes depends only on the text that its receiver denotes and on the bounds, folded or not.
So both runs refuse the same call for the same reason, or end in the same meaning.
-/

namespace TypedSql

open Numeral

/-! ## Exact integers

Sums, differences and counts stop at the ends of the range of machine integers, and places within a
text stay clear of these. -/

namespace Numeral

theorem toInt_addClamped (x y : Int64) :
    (addClamped x y).toInt = max leastInt64 (min (x.toInt + y.toInt) greatestInt64) :=
  toInt_clampInt64 _

theorem toInt_subClamped (x y : Int64) :
    (subClamped x y).toInt = max leastInt64 (min (x.toInt - y.toInt) greatestInt64) :=
  toInt_clampInt64 _

/-- The next place, unless there is none. -/
theorem toInt_addClamped_one (x : Int64) :
    (addClamped x 1).toInt = min (x.toInt + 1) greatestInt64 := by
  have hleast := leastInt64_le_toInt x
  have hle : leastInt64 ≤ greatestInt64 := by decide
  have hone : (1 : Int64).toInt = 1 := by decide
  rw [toInt_addClamped, hone]
  omega

/-- The number of places from one to a later one, cut off at the greatest. -/
theorem toInt_subClamped_of_le {x y : Int64} (hxy : x.toInt ≤ y.toInt) :
    (subClamped y x).toInt = min (y.toInt - x.toInt) greatestInt64 := by
  have hleast : leastInt64 ≤ 0 := by decide
  have hgreatest : 0 ≤ greatestInt64 := by decide
  rw [toInt_subClamped]
  omega

end Numeral

namespace Method

theorem toInt_characterCount {s : String} (h : s.toList.length < greatestInt64) :
    (characterCount s).toInt = s.toList.length := by
  have hleast : leastInt64 ≤ 0 := by decide
  exact toInt_clampInt64_of_mem (by omega) (by omega)

/-- A known bound is the literal's own value. -/
theorem toInt_of_bound? {x : Int64} {m : Mapping} {n : Nat}
    (h : bound? (.literal (.int x) m) = some n) : x.toInt = n := by
  obtain ⟨y, hy, -, hn⟩ := bound?_eq_some_iff.1 h
  obtain rfl : x = y := Option.some.inj hy
  exact hn

end Method

/-! ## The result of a call -/

namespace Builtin

/-- What a call passes on for bounds that are integer literals. -/
def passed : Builtin → List Int64 → List Meaning
  | substring, b :: rest =>
    .int (addClamped b 1).toInt :: (rest.head?.map fun e => .int (subClamped e b).toInt).toList
  | _, _ => []

end Builtin

/-- Integer literals of whatever types. -/
def intLiterals (bounds : List (Int64 × Mapping)) : List Expr :=
  bounds.map fun b => .literal (.int b.1) b.2

namespace Builtin

variable {I : Interpretation} {e r : Expr} {s : String} (bounds : List (Int64 × Mapping))

theorem denoteAll?_callArgs (b : Builtin) :
    Expr.denoteAll? I (b.callArgs (intLiterals bounds)) =
      some (b.passed (bounds.map Prod.fst)) := by
  cases b with
  | transform t => rfl
  | length => rfl
  | substring =>
    match bounds with
    | [] => rfl
    | [x] => rfl
    | x :: y :: rest => rfl

/-- A call of the datastore's function denotes what that function computes. -/
theorem denote?_callNode {b : Builtin} {f : String} (hf : I.call f = b.denote?)
    (he : e.denote? I = some (.text s)) :
    (b.callNode f e (intLiterals bounds)).denote? I =
      b.denote? (.text s :: b.passed (bounds.map Prod.fst)) := by
  rw [callNode, Expr.denote?_call, Expr.denoteAll?_cons he (b.denoteAll?_callArgs bounds),
    Option.bind_some, hf]

theorem denote?_foldSubstring? {x : Int64} {m : Mapping} {rest : List (Int64 × Mapping)}
    (he : e.denote? I = some (.text s)) (hs : s.toList.length < greatestInt64)
    (h : substring.fold? e (intLiterals ((x, m) :: rest)) = some r) :
    r.denote? I = substring.denote? (.text s :: substring.passed (x :: rest.map Prod.fst)) := by
  obtain ⟨s', hs'⟩ := (literal_of_fold? h).1
  obtain rfl := Expr.eq_of_literalText? he hs'
  obtain ⟨b, n, hb, hn, hbn, hns, rfl⟩ := (Method.foldSubstring?_eq_some_iff hs').1 h
  have hx : x.toInt = b := Method.toInt_of_bound? hb
  have hstart : (addClamped x 1).toInt = b + 1 := by
    rw [toInt_addClamped_one]
    omega
  change some (Meaning.text (Method.slice s' b n)) = _
  cases rest with
  | nil =>
    obtain rfl : s'.toList.length = n := Option.some.inj hn
    have hdrop : ((b : Int) + 1 - 1).toNat = b := by omega
    rw [passed, hstart]
    change _ = some (Meaning.text (pick _ s'))
    rw [pick_le, hdrop, Method.slice, List.take_of_length_le (Nat.le_of_eq List.length_drop)]
  | cons y rest =>
    obtain ⟨y, m'⟩ := y
    have hy : y.toInt = n := Method.toInt_of_bound? (m := m') hn
    have hgreatest := toInt_le_greatestInt64 y
    have hlength : (subClamped y x).toInt = (n : Int) - b := by
      rw [toInt_subClamped_of_le (by omega)]
      omega
    have hstop : (b : Int) + 1 + ((n : Int) - b) = n + 1 := by omega
    rw [List.map_cons, passed, hstart, List.head?_cons, Option.map_some, hlength]
    change _ = some (Meaning.text (pick _ s'))
    rw [hstop, pick_eq_slice]

/-- A result that is computed at once denotes what the datastore's function would compute. -/
theorem denote?_fold? {b : Builtin} (he : e.denote? I = some (.text s))
    (hs : s.toList.length < greatestInt64) (h : b.fold? e (intLiterals bounds) = some r) :
    r.denote? I = b.denote? (.text s :: b.passed (bounds.map Prod.fst)) := by
  cases b with
  | transform t =>
    obtain ⟨s', hs', rfl⟩ := Option.map_eq_some_iff.1 h
    obtain rfl := Expr.eq_of_literalText? he hs'
    rfl
  | length =>
    obtain ⟨s', hs', rfl⟩ := Option.map_eq_some_iff.1 h
    obtain rfl := Expr.eq_of_literalText? he hs'
    change some (Meaning.int _) = some (Meaning.int _)
    rw [Method.toInt_characterCount hs]
  | substring =>
    cases bounds with
    | nil => cases h
    | cons x rest => exact denote?_foldSubstring? he hs h

/-- A call that is not refused denotes something, and a text unless it is a length. -/
theorem exists_denote? {b : Builtin} (h : b.arity.accepts bounds.length = true) (s : String)
    (t : LogicalType) :
    ∃ x, b.denote? (.text s :: b.passed (bounds.map Prod.fst)) = some x ∧
      ((b.resultType t).isText = true → ∃ s', x = .text s') := by
  cases b with
  | transform f => exact ⟨_, rfl, fun _ => ⟨_, rfl⟩⟩
  | length => exact ⟨_, rfl, fun ht => by cases ht⟩
  | substring =>
    match bounds, h with
    | [x], _ => exact ⟨_, rfl, fun _ => ⟨_, rfl⟩⟩
    | x :: y :: rest, _ => exact ⟨_, rfl, fun _ => ⟨_, rfl⟩⟩

/-- What compiling a call makes of it: computed at once, else left to the datastore. -/
def lowered (b : Builtin) (f : String) (e : Expr) (args : List Expr) : Expr :=
  (b.fold? e args).getD (b.callNode f e args)

theorem logicalType_lowered (b : Builtin) (f : String) (e : Expr) (args : List Expr) :
    (b.lowered f e args).logicalType = b.resultType e.logicalType := by
  unfold lowered
  cases hr : b.fold? e args with
  | none => rfl
  | some r => exact (literal_of_fold? hr).2.2

/-- Folded or not, a call denotes the same. -/
theorem denote?_lowered {b : Builtin} {f : String} (hf : I.call f = b.denote?)
    (he : e.denote? I = some (.text s)) (hs : s.toList.length < greatestInt64) :
    (b.lowered f e (intLiterals bounds)).denote? I =
      b.denote? (.text s :: b.passed (bounds.map Prod.fst)) := by
  unfold lowered
  cases hr : b.fold? e (intLiterals bounds) with
  | none => exact denote?_callNode bounds hf he
  | some r => exact denote?_fold? bounds he hs hr

end Builtin

/-! ## Chains of calls -/

/-- One call of a chain: an operation, and bounds that are integer literals. -/
structure Call where
  operation : String
  bounds : List (Int64 × Mapping)
  deriving DecidableEq

def Call.args (call : Call) : List Expr := intLiterals call.bounds

namespace Compiler

/-- Compile calls one after the other, each result being the next receiver.  An error comes with
the place of its call, counted from `i`. -/
def compileAll (c : Compiler) : Nat → Expr → List Call → Except (Nat × CompileError) Expr
  | _, e, [] => .ok e
  | i, e, call :: calls =>
    match (c.compile call.operation e call.args).value with
    | .error x => .error (i, x)
    | .ok r => c.compileAll (i + 1) r calls

/-- The receivers along such a run, and its result. -/
def trail (c : Compiler) : Expr → List Call → List Expr
  | e, [] => [e]
  | e, call :: calls =>
    e :: match (c.compile call.operation e call.args).value with
      | .error _ => []
      | .ok r => c.trail r calls

end Compiler

/-- Both fail for the same reason, or both give results that are related. -/
inductive Agree {ε : Type} (R : Expr → Expr → Prop) : Except ε Expr → Except ε Expr → Prop where
  | error (x : ε) : Agree R (.error x) (.error x)
  | ok {e e' : Expr} (h : R e e') : Agree R (.ok e) (.ok e')

/-- Two expressions of one type that denote the same; those of a text type denote a text. -/
structure SameMeaning (I : Interpretation) (e e' : Expr) : Prop where
  logicalType : e.logicalType = e'.logicalType
  meaning : ∃ x, e.denote? I = some x ∧ e'.denote? I = some x
  text : e.logicalType.isText = true → ∃ s, e.denote? I = some (.text s)

/-- The expression denotes no text that is as long as the greatest machine integer. -/
def Bounded (I : Interpretation) (e : Expr) : Prop :=
  ∀ s, e.denote? I = some (.text s) → s.toList.length < greatestInt64

theorem Dialect.function?_of_functions_eq_empty {d : Dialect} (hd : d.functions = ∅)
    (b : Builtin) : d.function? b.operation = some (b.function d.name) := by
  rw [function?_operation, hd, SortedMap.get?_empty]
  rfl

theorem Builtin.accepts_of_refusal?_eq_none {b : Builtin} {t : LogicalType} {args : List Expr}
    (h : b.refusal? t args = none) : b.arity.accepts args.length = true := by
  by_contra ha
  rw [refusal?_of_not_accepts ha] at h
  cases h

section Chains

variable {d : Dialect} {c : Compiler} {slot : ParamSlot → Option Meaning}
  {column : ColumnName → Option Meaning} {e e' : Expr}

/-- One more call on receivers of the same meaning. -/
theorem SameMeaning.compile (hc : (Compiler.new d).value = .ok c) (hd : d.functions = ∅)
    (h : SameMeaning (d.name.interpretation slot column) e e')
    (he : Bounded (d.name.interpretation slot column) e) (call : Call) :
    Agree (SameMeaning (d.name.interpretation slot column))
      (c.compile call.operation e call.args).value
      (c.compile call.operation e' call.args).value := by
  rw [Compiler.value_compile hc, Compiler.value_compile hc, ← h.logicalType]
  cases hm : d.method? e.logicalType call.operation with
  | none => exact .error _
  | some m =>
    obtain ⟨⟨-, -, ht⟩, b, f, hb, hf, rfl⟩ := Dialect.method?_eq_some_iff.1 hm
    rw [← hb, Dialect.function?_of_functions_eq_empty hd, Option.some.injEq] at hf
    subst hf
    simp only [Method.compile_ofBuiltin]
    rw [← h.logicalType]
    cases hr : b.refusal? e.logicalType call.args with
    | some x => exact .error x
    | none =>
      obtain ⟨s, hs⟩ := h.text (Dialect.isText_iff.2 ht)
      obtain ⟨x, hx, hx'⟩ := h.meaning
      obtain rfl : x = .text s := Option.some.inj (hx.symm.trans hs)
      have hcall := d.name.call_interpretation slot column b
      have hleft := b.denote?_lowered call.bounds hcall hs (he s hs)
      have hright := b.denote?_lowered call.bounds hcall hx' (he s hs)
      have hn : b.arity.accepts call.bounds.length = true := by
        have ha := Builtin.accepts_of_refusal?_eq_none hr
        rwa [Call.args, intLiterals, List.length_map] at ha
      obtain ⟨y, hy, htext⟩ := b.exists_denote? call.bounds hn s e.logicalType
      rw [hy] at hleft hright
      refine .ok ⟨?_, ⟨y, hleft, hright⟩, fun hr' => ?_⟩
      · exact (b.logicalType_lowered _ e _).trans
          ((congrArg b.resultType h.logicalType).trans (b.logicalType_lowered _ e' _).symm)
      · obtain ⟨s', rfl⟩ := htext (by rwa [← b.logicalType_lowered (b.function d.name) e call.args])
        exact ⟨s', hleft⟩

/-- Two runs from receivers of the same meaning. -/
theorem SameMeaning.compileAll (hc : (Compiler.new d).value = .ok c) (hd : d.functions = ∅)
    (calls : List Call) (i : Nat)
    (h : SameMeaning (d.name.interpretation slot column) e e')
    (he : ∀ r ∈ c.trail e calls, Bounded (d.name.interpretation slot column) r) :
    Agree (SameMeaning (d.name.interpretation slot column)) (c.compileAll i e calls)
      (c.compileAll i e' calls) := by
  induction calls generalizing i e e' with
  | nil => exact .ok h
  | cons call calls ih =>
    have hstep := h.compile hc hd (he e List.mem_cons_self) call
    unfold Compiler.compileAll
    generalize hv : (c.compile call.operation e call.args).value = v at hstep
    generalize (c.compile call.operation e' call.args).value = v' at hstep
    cases hstep with
    | error x => exact .error (i, x)
    | @ok r r' hrr =>
      refine ih (i + 1) hrr fun u hu => he u ?_
      rw [Compiler.trail, hv]
      exact List.mem_cons_of_mem e hu

end Chains

/-- Without functions of its own, a dialect compiles a chain from a literal and from a parameter
that holds the same text to the same meaning, or refuses the same call of it for the same
reason. -/
theorem Compiler.folding_keeps_meaning {d : Dialect} {c : Compiler} (hc : (new d).value = .ok c)
    (hd : d.functions = ∅) {slot : ParamSlot → Option Meaning}
    {column : ColumnName → Option Meaning} {p : ParamSlot} {s : String}
    (hp : slot p = some (.text s)) {m m' : Mapping} (hm : m.logicalType = m'.logicalType)
    (calls : List Call)
    (hs : ∀ e ∈ c.trail (.literal (.text s) m) calls,
      Bounded (d.name.interpretation slot column) e) :
    Agree (SameMeaning (d.name.interpretation slot column))
      (c.compileAll 0 (.literal (.text s) m) calls) (c.compileAll 0 (.parameter p m') calls) :=
  SameMeaning.compileAll hc hd calls 0 ⟨hm, ⟨.text s, rfl, hp⟩, fun _ => ⟨s, rfl⟩⟩ hs

/-- A substring beyond the end stops the folding of a chain half way. -/
theorem Compiler.folding_keeps_meaning_half_way :
    let d : Dialect := ⟨.sqlServer, 255, ∅, .ofList [("trimLeft", ())]⟩
    let I := d.name.interpretation (fun _ => some (.text " añb ")) fun _ => none
    let calls : List Call :=
      [⟨"trim", []⟩, ⟨"substring", [(1, .computed .int), (9, .computed .long)]⟩, ⟨"length", []⟩]
    ∃ c, (new d).value = .ok c ∧ Agree (SameMeaning I)
      (c.compileAll 0 (.literal (.text " añb ") (.computed .string)) calls)
      (c.compileAll 0 (.parameter ⟨some "p", none⟩ (.computed .string)) calls) := by
  intro d I calls
  obtain ⟨c, hc⟩ := exists_value_new_eq_ok (d := d) (by decide)
  refine ⟨c, hc, folding_keeps_meaning hc rfl rfl rfl calls ?_⟩
  have htrail : c.trail (.literal (.text " añb ") (.computed .string)) calls =
      let trimmed := .literal (.text "añb") (.computed .string)
      let bounds := [.typedLiteral (.int 2) .int, .typedLiteral (.int 8) .int]
      let part := .call "SUBSTRING" (trimmed :: bounds) (.computed .string)
      [.literal (.text " añb ") (.computed .string), trimmed, part,
        .call "LEN" [part] (.computed .int)] := by
    simp only [calls, trail, value_compile hc]
    rfl
  rw [htrail]
  intro e he t ht
  simp only [List.mem_cons, List.not_mem_nil, or_false] at he
  rcases he with rfl | rfl | rfl | rfl
  · cases ht
    decide
  · cases ht
    decide
  · cases ht
    decide
  · cases ht

end TypedSql
