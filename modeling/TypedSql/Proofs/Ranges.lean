import TypedSql.Proofs.Folding
import TypedSql.Proofs.Outcome

/-!
# Ranges of characters

A range is given by its bounds, counted from zero, the second of which is left out; the datastore
takes the place of the first character, counted from one, and a number of characters.  The start
`b + 1` and the length `e - b` select the range from `b` to `e`, so a substring denotes its range
however its bounds are known (`Method.substring_denotes_range`).

Known bounds are lowered to machine integers, where the start and the length are cut off at the
greatest.  The start loses nothing by that.  The length does, if the range begins so far before the
text and goes on so far within it that the difference of its bounds is no machine integer
(`Method.known_bounds_select`).
-/

namespace TypedSql

open Numeral

/-! ## Parts of a text -/

/-- The characters at the places, counted from zero, from `b` on and before `e`, if there is one. -/
def charsBetween (b : Int) (e : Option Int) (s : String) : String :=
  String.ofList
    ((s.toList.zipIdx.filter fun x => decide (b ≤ x.2 ∧ ∀ n ∈ e, ¬ n ≤ x.2)).map Prod.fst)

/-- The characters that a start, counted from one, and a length, if there is one, select. -/
def charsFrom (start : Int) (length : Option Int) (s : String) : String :=
  pick (fun i => decide (start ≤ i ∧ ∀ n ∈ length, i < start + n)) s

/-- The start and the length of a range select it. -/
theorem charsFrom_eq_charsBetween (b : Int) (e : Option Int) (s : String) :
    charsFrom (b + 1) (e.map (· - b)) s = charsBetween b e s := by
  have hfilter : (fun x : Char × Nat => decide (b + 1 ≤ (x.2 : Int) + 1 ∧
      ∀ n ∈ e.map (· - b), (x.2 : Int) + 1 < b + 1 + n)) =
      fun x => decide (b ≤ x.2 ∧ ∀ n ∈ e, ¬ n ≤ x.2) := by
    funext x
    rw [decide_eq_decide]
    cases e with
    | none => simp
    | some e =>
      simp only [Option.map_some, Option.mem_def, Option.some.injEq, forall_eq']
      omega
  rw [charsFrom, pick, List.zipIdx_succ, List.filter_map, List.map_map, charsBetween, ← hfilter]
  congr 1

theorem slice_eq_charsBetween (s : String) (b e : Nat) :
    Method.slice s b e = charsBetween b (some e) s := by
  rw [← pick_eq_slice, ← charsFrom_eq_charsBetween, charsFrom]
  refine pick_congr fun i _ _ => decide_eq_decide.2 ?_
  simp only [Option.map_some, Option.mem_def, Option.some.injEq, forall_eq']
  omega

theorem slice_length_eq_charsBetween (s : String) (b : Nat) :
    Method.slice s b s.toList.length = charsBetween b none s := by
  rw [← pick_eq_slice, ← charsFrom_eq_charsBetween, charsFrom]
  refine pick_congr fun i _ hi => decide_eq_decide.2 ?_
  simp only [Option.map_none, Option.not_mem_none, false_imp_iff, implies_true, and_true]
  omega

/-- The function selects characters by a start, counted from one, and perhaps a length. -/
def Interpretation.Selects (I : Interpretation) (f : String) : Prop :=
  ∀ s start length, I.call f (.text s :: .int start :: (length.map Meaning.int).toList) =
    some (.text (charsFrom start length s))

theorem DialectName.selects_interpretation (d : DialectName) (slot : ParamSlot → Option Meaning)
    (column : ColumnName → Option Meaning) :
    (d.interpretation slot column).Selects (Builtin.substring.function d) := by
  intro s start length
  rw [d.call_interpretation]
  cases length with
  | none => exact congrArg (some ∘ Meaning.text) (pick_congr fun i _ _ => by simp)
  | some n => exact congrArg (some ∘ Meaning.text) (pick_congr fun i _ _ => by simp)

/-! ## What bounds denote -/

/-- The bounds denote integers, of which the second does not come before the first.  Known bounds
leave room for the start and the length among the machine integers. -/
inductive DenotesRange (I : Interpretation) : List Expr → Int → Option Int → Prop where
  | single {x : Expr} {b : Int} (hx : x.denote? I = some (.int b))
    (hb : x.isLiteral = true → b < greatestInt64) : DenotesRange I [x] b none
  | pair {x y : Expr} {b e : Int} (hx : x.denote? I = some (.int b))
    (hb : x.isLiteral = true → b < greatestInt64) (hy : y.denote? I = some (.int e)) (hbe : b ≤ e)
    (he : x.isLiteral = true → y.isLiteral = true → e - b ≤ greatestInt64) :
    DenotesRange I [x, y] b (some e)

section Denotation

variable {I : Interpretation}

namespace Method

theorem denote?_startArg {x : Expr} {b : Int} (hx : x.denote? I = some (.int b))
    (hb : x.isLiteral = true → b < greatestInt64) :
    (startArg x).denote? I = some (.int (b + 1)) := by
  unfold startArg
  cases hn : x.literalInt? with
  | some n =>
    obtain rfl := Expr.toInt_of_literalInt? hx hn
    have hlt := hb (Expr.isLiteral_of_literalInt? hn)
    have hstart : (addClamped n 1).toInt = n.toInt + 1 := by
      rw [toInt_addClamped_one]
      omega
    show some (Meaning.int (addClamped n 1).toInt) = _
    rw [hstart]
  | none =>
    simp only [Expr.binary, Expr.denote?, Expr.denoteAll?, hx]
    rfl

theorem denote?_lengthArg {x y : Expr} {b e : Int} (hx : x.denote? I = some (.int b))
    (hy : y.denote? I = some (.int e)) (hbe : b ≤ e)
    (he : x.isLiteral = true → y.isLiteral = true → e - b ≤ greatestInt64) :
    (lengthArg x y).denote? I = some (.int (e - b)) := by
  unfold lengthArg
  split
  next n k hn hk =>
    obtain rfl := Expr.toInt_of_literalInt? hx hn
    obtain rfl := Expr.toInt_of_literalInt? hy hk
    have hle := he (Expr.isLiteral_of_literalInt? hn) (Expr.isLiteral_of_literalInt? hk)
    have hlength : (subClamped k n).toInt = k.toInt - n.toInt := by
      rw [toInt_subClamped_of_le hbe]
      omega
    show some (Meaning.int (subClamped k n).toInt) = _
    rw [hlength]
  · simp only [Expr.binary, Expr.denote?, Expr.denoteAll?, hx, hy]
    rfl

theorem eq_of_bound? {x : Expr} {b : Int} {k : Nat} (hx : x.denote? I = some (.int b))
    (h : bound? x = some k) : b = k := by
  obtain ⟨n, hn, -, hk⟩ := bound?_eq_some_iff.1 h
  rw [← Expr.toInt_of_literalInt? hx hn, hk]

end Method

namespace DenotesRange

variable {args : List Expr} {b : Int} {e : Option Int} {receiver r : Expr} {s f : String}

theorem length_args (h : DenotesRange I args b e) : args.length = 1 ∨ args.length = 2 := by
  cases h with
  | single => exact .inl rfl
  | pair => exact .inr rfl

theorem not_inverted (h : DenotesRange I args b e) : ¬ ∃ k n, Inverted args k n := by
  cases h with
  | single hx hb => exact not_inverted_singleton _
  | pair hx hb hy hbe he =>
    refine not_inverted_pair fun k n hk hn => ?_
    rw [Expr.toInt_of_literalInt? hx hk, Expr.toInt_of_literalInt? hy hn]
    exact hbe

theorem denoteAll?_callArgs (h : DenotesRange I args b e) :
    Expr.denoteAll? I (Builtin.substring.callArgs args) =
      some (.int (b + 1) :: ((e.map (· - b)).map Meaning.int).toList) := by
  cases h with
  | single hx hb => exact Expr.denoteAll?_cons (Method.denote?_startArg hx hb) rfl
  | pair hx hb hy hbe he =>
    exact Expr.denoteAll?_cons (Method.denote?_startArg hx hb)
      (Expr.denoteAll?_cons (Method.denote?_lengthArg hx hy hbe he) rfl)

/-- A substring that is computed at once is the range of the text. -/
theorem denote?_fold? (h : DenotesRange I args b e) (hr : receiver.denote? I = some (.text s))
    (hfold : Builtin.substring.fold? receiver args = some r) :
    r.denote? I = some (.text (charsBetween b e s)) := by
  obtain ⟨s', hs⟩ := (Builtin.literal_of_fold? hfold).1
  obtain rfl := Expr.eq_of_literalText? hr hs
  cases h with
  | @single x b hx hb =>
    have hfold : Method.foldSubstring? receiver x none = some r := hfold
    obtain ⟨k, n, hk, hn, -, -, rfl⟩ := (Method.foldSubstring?_eq_some_iff hs).1 hfold
    obtain rfl := Method.eq_of_bound? hx hk
    obtain rfl : s'.toList.length = n := Option.some.inj hn
    rw [← slice_length_eq_charsBetween]
    rfl
  | @pair x y b e hx hb hy hbe he =>
    have hfold : Method.foldSubstring? receiver x (some y) = some r := hfold
    obtain ⟨k, n, hk, hn, -, -, rfl⟩ := (Method.foldSubstring?_eq_some_iff hs).1 hfold
    obtain rfl := Method.eq_of_bound? hx hk
    obtain rfl := Method.eq_of_bound? hy hn
    rw [← slice_eq_charsBetween]
    rfl

theorem denote?_lowered (h : DenotesRange I args b e) (hr : receiver.denote? I = some (.text s))
    (hf : I.Selects f) :
    (Builtin.substring.lowered f receiver args).denote? I = some (.text (charsBetween b e s)) := by
  unfold Builtin.lowered
  cases hfold : Builtin.substring.fold? receiver args with
  | some r => exact h.denote?_fold? hr hfold
  | none =>
    rw [Option.getD_none, Builtin.callNode, Expr.denote?_call,
      Expr.denoteAll?_cons hr h.denoteAll?_callArgs, Option.bind_some, hf,
      charsFrom_eq_charsBetween]

end DenotesRange

end Denotation

/-! ## Substrings -/

namespace Method

/-- Integral bounds, which are not known to be inverted, are not refused. -/
theorem compile_substring_of_ordered (f : String) (receiver : Expr) {args : List Expr}
    (hn : args.length = 1 ∨ args.length = 2) (hi : AllIntegral args)
    (hr : ¬ ∃ b e, Inverted args b e) :
    (substring f).compile receiver args = .ok (Builtin.substring.lowered f receiver args) := by
  have hcompile := compile_ofBuiltin .substring f receiver args
  rw [Builtin.refusal?_of_accepts (Builtin.accepts_arity_substring_iff.2 hn)] at hcompile
  have htwo : args.length ≤ 2 := by omega
  obtain ⟨-, -, hb⟩ | ⟨-, b, e, hbe, -⟩ | ⟨i, t, ht, -⟩ := checkBounds_eq htwo
  · rw [hb] at hcompile
    exact hcompile
  · exact absurd ⟨b, e, hbe⟩ hr
  · exact absurd hi ht.not_allIntegral

/-- Whether its bounds are known, and whether it is computed at once or left to the datastore, a
substring with integral bounds in order denotes the characters of its range. -/
theorem substring_denotes_range {I : Interpretation} {f : String} (hf : I.Selects f)
    {receiver : Expr} {args : List Expr} {s : String} {b : Int} {e : Option Int}
    (hr : receiver.denote? I = some (.text s)) (hi : AllIntegral args)
    (h : DenotesRange I args b e) :
    ∃ r, (substring f).compile receiver args = .ok r ∧
      r.denote? I = some (.text (charsBetween b e s)) :=
  ⟨_, compile_substring_of_ordered f receiver h.length_args hi h.not_inverted,
    h.denote?_lowered hr hf⟩

/-- A known bound before the text and one that is bound later. -/
theorem substring_denotes_range_mixed :
    let I := DialectName.oracle.interpretation
      (fun p => if p.name = some "e" then some (.int 3) else some (.text "señor")) fun _ => none
    let receiver : Expr := .parameter ⟨some "s", none⟩ (.computed .string)
    let args : List Expr :=
      [.typedLiteral (.int (-2)) .long, .parameter ⟨some "e", none⟩ (.computed .short)]
    I.Selects "SUBSTR" ∧ receiver.denote? I = some (.text "señor") ∧ AllIntegral args ∧
      DenotesRange I args (-2) (some 3) ∧
      ∃ r, (substring "SUBSTR").compile receiver args = .ok r ∧
        r.denote? I = some (.text "señ") := by
  intro I receiver args
  have hf : I.Selects "SUBSTR" := DialectName.oracle.selects_interpretation _ _
  have hi : AllIntegral args := by
    simp [args, AllIntegral, Expr.typedLiteral, Expr.logicalType, Expr.mapping, Mapping.computed,
      LogicalType.isIntegral]
  have h : DenotesRange I args (-2) (some 3) :=
    .pair rfl (by decide) rfl (by decide) (by decide)
  have hr : receiver.denote? I = some (.text "señor") := rfl
  obtain ⟨r, hcompile, hd⟩ := substring_denotes_range hf hr hi h
  have hchars : charsBetween (-2) (some 3) "señor" = "señ" := by decide
  rw [hchars] at hd
  exact ⟨hf, hr, hi, h, r, hcompile, hd⟩

end Method

/-! ## Known bounds -/

/-- How many characters a start and a length select. -/
theorem length_charsFrom (start n : Int) (s : String) :
    (charsFrom start (some n) s).toList.length =
      min s.toList.length (start + n - 1).toNat - (start - 1).toNat := by
  have hpick : charsFrom start (some n) s = pick (fun i => decide (start ≤ i ∧ i < start + n)) s :=
    pick_congr fun i _ _ => by simp
  rw [hpick, pick_le_lt, String.toList_ofList, List.length_drop, List.length_take, Nat.min_comm]

/-- The start of a known bound selects the same characters as the exact one, since the places of a
text stay clear of the greatest machine integer. -/
theorem charsFrom_addClamped {s : String} (hs : s.toList.length < greatestInt64) (x : Int64) :
    charsFrom (addClamped x 1).toInt none s = charsFrom (x.toInt + 1) none s := by
  refine pick_congr fun i _ hi => decide_eq_decide.2 ?_
  rw [toInt_addClamped_one]
  simp only [Option.not_mem_none, false_imp_iff, implies_true, and_true]
  omega

/-- The start and the length of two known bounds select the same characters as the exact ones,
unless the length is cut off and the range goes on behind the place up to which it then reaches. -/
theorem charsFrom_subClamped_iff {s : String} (hs : s.toList.length < greatestInt64) {x y : Int64}
    (hxy : x.toInt ≤ y.toInt) :
    charsFrom (addClamped x 1).toInt (some (subClamped y x).toInt) s =
        charsFrom (x.toInt + 1) (some (y.toInt - x.toInt)) s ↔
      y.toInt - x.toInt ≤ greatestInt64 ∨
        min y.toInt s.toList.length < max 1 (x.toInt + 1 + greatestInt64) := by
  have hx := leastInt64_le_toInt x
  have hy := toInt_le_greatestInt64 y
  have hgreatest : greatestInt64 = 2 ^ 63 - 1 := by decide
  have hleast : leastInt64 = -2 ^ 63 := by decide
  constructor
  · intro h
    have hlength := congrArg (fun t : String => t.toList.length) h
    simp only [length_charsFrom, toInt_addClamped_one, toInt_subClamped_of_le hxy] at hlength
    omega
  · intro h
    refine pick_congr fun i h1 hi => decide_eq_decide.2 ?_
    rw [toInt_addClamped_one, toInt_subClamped_of_le hxy]
    simp only [Option.mem_def, Option.some.injEq, forall_eq']
    omega

/-- The start and the length that a call passes on as numbers. -/
def Expr.places? : Expr → Option (Int × Option Int)
  | .composed (.call _) [_, start] _ => start.literalInt?.map fun a => (a.toInt, none)
  | .composed (.call _) [_, start, length] _ =>
    start.literalInt?.bind fun a => length.literalInt?.map fun n => (a.toInt, some n.toInt)
  | _ => none

theorem allIntegral_intLiterals {bounds : List (Int64 × Mapping)}
    (h : ∀ b ∈ bounds, b.2.logicalType.isIntegral = true) : AllIntegral (intLiterals bounds) := by
  intro a ha
  obtain ⟨b, hb, rfl⟩ := List.mem_map.1 ha
  exact h b hb

theorem not_inverted_intLiterals {bounds : List (Int64 × Mapping)}
    (h : bounds.Pairwise fun b e => b.1.toInt ≤ e.1.toInt) :
    ¬ ∃ k n, Inverted (intLiterals bounds) k n := by
  rintro ⟨k, n, x, y, hargs, hk, hn, hlt⟩
  obtain ⟨b, rest, rfl, rfl, hrest⟩ := List.map_eq_cons_iff.1 hargs
  obtain ⟨e, rest, rfl, rfl, hrest⟩ := List.map_eq_cons_iff.1 hrest
  obtain rfl : b.1 = k := Option.some.inj hk
  obtain rfl : e.1 = n := Option.some.inj hn
  have hbe := (List.pairwise_cons.1 h).1 e List.mem_cons_self
  omega

namespace Method

/-- A known bound, or two in order, are not refused.  What they are lowered to selects the same
characters as the exact start and length, with the one exception of a length that is cut off. -/
theorem known_bounds_select (f : String) (receiver : Expr) {s : String}
    (hs : s.toList.length < greatestInt64) {x : Int64} {m : Mapping}
    (hm : m.logicalType.isIntegral = true) :
    (∃ r, (substring f).compile receiver (intLiterals [(x, m)]) = .ok r ∧
      (r.isLiteral = false → ∃ start, r.places? = some (start, none) ∧
        charsFrom start none s = charsFrom (x.toInt + 1) none s)) ∧
    ∀ {y : Int64} {n : Mapping}, n.logicalType.isIntegral = true → x.toInt ≤ y.toInt →
      ∃ r, (substring f).compile receiver (intLiterals [(x, m), (y, n)]) = .ok r ∧
        (r.isLiteral = false → ∃ start length, r.places? = some (start, some length) ∧
          (charsFrom start (some length) s =
              charsFrom (x.toInt + 1) (some (y.toInt - x.toInt)) s ↔
            y.toInt - x.toInt ≤ greatestInt64 ∨
              min y.toInt s.toList.length < max 1 (x.toInt + 1 + greatestInt64))) := by
  constructor
  · have hi : AllIntegral (intLiterals [(x, m)]) := allIntegral_intLiterals (by simpa using hm)
    have hordered : ¬ ∃ k n, Inverted (intLiterals [(x, m)]) k n :=
      not_inverted_intLiterals (by simp)
    have hcompile := compile_substring_of_ordered f receiver (.inl rfl) hi hordered
    refine ⟨_, hcompile, fun hr => ?_⟩
    rw [(eq_call_of_compile_substring hcompile hr).2]
    exact ⟨(addClamped x 1).toInt, rfl, charsFrom_addClamped hs x⟩
  · intro y n hn hxy
    have hi : AllIntegral (intLiterals [(x, m), (y, n)]) :=
      allIntegral_intLiterals (by simpa using ⟨hm, hn⟩)
    have hordered : ¬ ∃ j k, Inverted (intLiterals [(x, m), (y, n)]) j k :=
      not_inverted_intLiterals (by simpa using hxy)
    have hcompile := compile_substring_of_ordered f receiver (.inr rfl) hi hordered
    refine ⟨_, hcompile, fun hr => ?_⟩
    rw [(eq_call_of_compile_substring hcompile hr).2]
    exact ⟨(addClamped x 1).toInt, (subClamped y x).toInt, rfl, charsFrom_subClamped_iff hs hxy⟩

/-- A start that is cut off, and a length that is, where the range ends behind the text. -/
theorem known_bounds_select_cut_off :
    let receiver : Expr := .parameter ⟨some "s", none⟩ (.computed .string)
    let m : Mapping := .computed .long
    let x : Int64 := -9223372036854775804
    "abc".toList.length < greatestInt64 ∧ m.logicalType.isIntegral = true ∧
      (∃ r, (substring "SUBSTR").compile receiver (intLiterals [(Int64.maxValue, m)]) = .ok r ∧
        (r.isLiteral = false → ∃ start, r.places? = some (start, none) ∧
          charsFrom start none "abc" = charsFrom (Int64.maxValue.toInt + 1) none "abc")) ∧
      x.toInt ≤ (4 : Int64).toInt ∧ greatestInt64 < (4 : Int64).toInt - x.toInt ∧
      ∃ r, (substring "SUBSTR").compile receiver (intLiterals [(x, m), (4, m)]) = .ok r ∧
        (r.isLiteral = false → ∃ start length, r.places? = some (start, some length) ∧
          charsFrom start (some length) "abc" =
            charsFrom (x.toInt + 1) (some ((4 : Int64).toInt - x.toInt)) "abc") := by
  intro receiver m x
  have hs : ("abc".toList.length : Int) < greatestInt64 := by decide
  have hm : m.logicalType.isIntegral = true := rfl
  have hxy : x.toInt ≤ (4 : Int64).toInt := by decide
  obtain ⟨r, hr, hselect⟩ := (known_bounds_select "SUBSTR" receiver hs hm).2 hm hxy
  have hend : min (4 : Int64).toInt "abc".toList.length < max 1 (x.toInt + 1 + greatestInt64) := by
    decide
  refine ⟨hs, hm, (known_bounds_select "SUBSTR" receiver hs hm).1, hxy, by decide, r, hr, ?_⟩
  intro hliteral
  obtain ⟨start, length, hplaces, hiff⟩ := hselect hliteral
  exact ⟨start, length, hplaces, hiff.2 (.inr hend)⟩

/-- The range from the least machine integer to one holds the first character, which the length
that is cut off does not reach. -/
theorem exists_length_cut_off :
    let receiver : Expr := .typedLiteral (.text "abc") .string
    let bounds : List (Int64 × Mapping) :=
      [(Int64.minValue, .computed .long), (1, .computed .long)]
    Int64.minValue.toInt ≤ (1 : Int64).toInt ∧ "abc".toList.length < greatestInt64 ∧
      ∃ r start length, (substring "SUBSTRING").compile receiver (intLiterals bounds) = .ok r ∧
        r.isLiteral = false ∧ r.places? = some (start, some length) ∧
        charsFrom start (some length) "abc" = "" ∧
        charsFrom (Int64.minValue.toInt + 1) (some ((1 : Int64).toInt - Int64.minValue.toInt))
          "abc" = "a" := by
  intro receiver bounds
  have hcompile : (substring "SUBSTRING").compile receiver (intLiterals bounds) =
      .ok (.call "SUBSTRING" (receiver :: passedOn (intLiterals bounds)) (.computed .string)) := rfl
  exact ⟨by decide, by decide, _, _, _, hcompile, rfl, rfl, by decide, by decide⟩

end Method

end TypedSql
