import TypedSql.Proofs.Ranges

/-!
# Slices of literal texts

A substring of a literal text with known bounds within it is computed at once, and is the slice
between them (`Method.cuts_pair`, `Method.cuts_single`).  Slices compose: a slice of a slice is a
slice of the whole, what is before a place and what is from it on make up the whole, and the length
of a slice is the distance of its bounds (`Method.slices_compose`).
-/

namespace TypedSql.Method

open Numeral

/-! ## Slices -/

variable {s t : String} {a b c d e k : Nat}

theorem toList_slice (s : String) (b e : Nat) :
    (slice s b e).toList = (s.toList.drop b).take (e - b) := by
  rw [slice, String.toList_ofList]

theorem length_slice (he : e ≤ s.toList.length) : (slice s b e).toList.length = e - b := by
  rw [toList_slice, List.length_take, List.length_drop]
  omega

theorem slice_slice (s : String) (h : b ≤ d - c) :
    slice (slice s c d) a b = slice s (c + a) (c + b) := by
  have hcount : min (b - a) (d - c - a) = c + b - (c + a) := by omega
  rw [← String.toList_inj, toList_slice, toList_slice, toList_slice, List.drop_take,
    List.take_take, List.drop_drop, hcount]

theorem slice_append_slice (s : String) (k : Nat) :
    slice s 0 k ++ slice s k s.toList.length = s := by
  have hrest : (s.toList.drop k).take (s.toList.length - k) = s.toList.drop k :=
    List.take_of_length_le (Nat.le_of_eq List.length_drop)
  rw [← String.toList_inj, String.toList_append, toList_slice, toList_slice, hrest,
    List.drop_zero, Nat.sub_zero, List.take_append_drop]

/-! ## Substrings that are computed at once -/

/-- An integer literal of an integral type, whose value is a place. -/
structure KnownBound (x : Expr) (n : Nat) : Prop where
  value : ∃ i : Int64, x.literalInt? = some i ∧ i.toInt = n
  integral : x.logicalType.isIntegral = true

/-- The substring of the literal `s` between `bounds` is the literal `t` with the same mapping,
whatever function would be called for it. -/
def Cuts (bounds : List Expr) (s t : String) : Prop :=
  ∀ (f : String) (m : Mapping),
    (substring f).compile (.literal (.text s) m) bounds = .ok (.literal (.text t) m)

variable {x y : Expr}

theorem KnownBound.bound?_eq (h : KnownBound x b) : bound? x = some b := by
  obtain ⟨i, hi, hb⟩ := h.value
  exact bound?_eq_some_iff.2 ⟨i, hi, by omega, hb⟩

theorem KnownBound.le_greatestInt64 (h : KnownBound x b) : (b : Int) ≤ greatestInt64 := by
  obtain ⟨i, -, hb⟩ := h.value
  have hgreatest := toInt_le_greatestInt64 i
  omega

theorem KnownBound.not_inverted (hx : KnownBound x b) (hy : KnownBound y e) (hbe : b ≤ e) :
    ¬ ∃ i j, Inverted [x, y] i j := by
  obtain ⟨i', hi', hb⟩ := hx.value
  obtain ⟨j', hj', he⟩ := hy.value
  refine not_inverted_pair fun i j hi hj => ?_
  obtain rfl := Option.some.inj (hi.symm.trans hi')
  obtain rfl := Option.some.inj (hj.symm.trans hj')
  omega

/-- Folding decides a call with bounds that are not refused. -/
theorem cuts_of_foldSubstring? {rest : List Expr} (hlength : rest.length ≤ 1)
    (hi : AllIntegral (x :: rest)) (hordered : ¬ ∃ i j, Inverted (x :: rest) i j)
    (hfold : ∀ m, foldSubstring? (.literal (.text s) m) x rest.head? =
      some (.literal (.text t) m)) : Cuts (x :: rest) s t := by
  intro f m
  have hargs : (x :: rest).length = 1 ∨ (x :: rest).length = 2 := by
    rw [List.length_cons]
    omega
  rw [compile_substring_of_ordered f _ hargs hi hordered, Builtin.lowered]
  have hfold' : Builtin.substring.fold? (.literal (.text s) m) (x :: rest) = _ := hfold m
  rw [hfold', Option.getD_some]

theorem cuts_pair (hx : KnownBound x b) (hy : KnownBound y e) (hbe : b ≤ e)
    (he : e ≤ s.toList.length) : Cuts [x, y] s (slice s b e) := by
  have hi : AllIntegral [x, y] := by
    intro z hz
    rcases List.mem_pair.1 hz with rfl | rfl
    · exact hx.integral
    · exact hy.integral
  refine cuts_of_foldSubstring? (Nat.le_refl 1) hi (hx.not_inverted hy hbe) fun m => ?_
  exact (foldSubstring?_eq_some_iff rfl).2 ⟨b, e, hx.bound?_eq, hy.bound?_eq, hbe, he, rfl⟩

theorem cuts_single (hx : KnownBound x b) (hb : b ≤ s.toList.length) :
    Cuts [x] s (slice s b s.toList.length) := by
  have hi : AllIntegral [x] := by
    intro z hz
    rw [List.mem_singleton.1 hz]
    exact hx.integral
  refine cuts_of_foldSubstring? (Nat.zero_le 1) hi (not_inverted_singleton x) fun m => ?_
  exact (foldSubstring?_eq_some_iff rfl).2 ⟨b, _, hx.bound?_eq, rfl, hb, Nat.le_refl _, rfl⟩

/-- The length of a literal text is the number of its characters, if that is a machine integer. -/
theorem compile_length_literal (h : (t.toList.length : Int) ≤ greatestInt64) :
    ∃ n : Int64, n.toInt = t.toList.length ∧ ∀ (f : String) (m : Mapping),
      (length f).compile (.literal (.text t) m) [] = .ok (.typedLiteral (.int n) .int) := by
  have hleast : leastInt64 ≤ t.toList.length := by
    have hleast : leastInt64 ≤ 0 := by decide
    omega
  exact ⟨characterCount t, toInt_clampInt64_of_mem hleast h, fun f m => rfl⟩

/-- Substrings of a literal text, with known bounds in order and within the text, are literal texts
of the same mapping.  The substring from `a` to `b` of that from `c` to `d` is the one from `c + a`
to `c + b`; the substrings up to a place and from that place on make up the text; a substring
without a second bound goes up to the end; and the length of a substring is the distance of its
bounds. -/
theorem slices_compose (s : String) :
    (∀ {xa xb xc xd xca xcb : Expr} {a b c d : Nat}, KnownBound xa a → KnownBound xb b →
      KnownBound xc c → KnownBound xd d → KnownBound xca (c + a) → KnownBound xcb (c + b) →
      a ≤ b → c ≤ d → b ≤ d - c → d ≤ s.toList.length →
      ∃ t u, Cuts [xc, xd] s t ∧ Cuts [xa, xb] t u ∧ Cuts [xca, xcb] s u) ∧
    (∀ {x0 xk xn : Expr} {k : Nat}, KnownBound x0 0 → KnownBound xk k →
      KnownBound xn s.toList.length → k ≤ s.toList.length →
      ∃ t u, Cuts [x0, xk] s t ∧ Cuts [xk] s u ∧ Cuts [xk, xn] s u ∧ t ++ u = s) ∧
    ∀ {xb xe : Expr} {b e : Nat}, KnownBound xb b → KnownBound xe e → b ≤ e →
      e ≤ s.toList.length →
      ∃ t, Cuts [xb, xe] s t ∧ ∃ n : Int64, n.toInt = e - b ∧ ∀ (f : String) (m : Mapping),
        (length f).compile (.literal (.text t) m) [] = .ok (.typedLiteral (.int n) .int) := by
  refine ⟨?_, ?_, ?_⟩
  · intro xa xb xc xd xca xcb a b c d ha hb hc hd hca hcb hab hcd hbd hd'
    have hb' : b ≤ (slice s c d).toList.length := by rwa [length_slice hd']
    refine ⟨slice s c d, slice s (c + a) (c + b), cuts_pair hc hd hcd hd', ?_,
      cuts_pair hca hcb (by omega) (by omega)⟩
    rw [← slice_slice s hbd]
    exact cuts_pair ha hb hab hb'
  · intro x0 xk xn k h0 hk hn hle
    exact ⟨slice s 0 k, slice s k s.toList.length, cuts_pair h0 hk (Nat.zero_le k) hle,
      cuts_single hk hle, cuts_pair hk hn hle (Nat.le_refl _), slice_append_slice s k⟩
  · intro xb xe b e hb he hbe hle
    have hlength : (slice s b e).toList.length = e - b := length_slice hle
    have hgreatest := he.le_greatestInt64
    obtain ⟨n, hn, hcompile⟩ := compile_length_literal (t := slice s b e) (by omega)
    exact ⟨slice s b e, cuts_pair hb he hbe hle, n, by omega, hcompile⟩

/-- Characters of several bytes, an empty slice at the end and one in the middle. -/
theorem slices_compose_of_accents :
    let s := "añ😀bç"
    let bound (i : Int64) : Expr := .typedLiteral (.int i) .short
    (∀ n ∈ [0, 1, 2, 3, 4, 5], KnownBound (bound (Int64.ofNat n)) n) ∧ s.toList.length = 5 ∧
      (∃ t u, Cuts [bound 1, bound 4] s t ∧ Cuts [bound 1, bound 3] t u ∧
        Cuts [bound 2, bound 4] s u) ∧
      (∃ t u, Cuts [bound 0, bound 5] s t ∧ Cuts [bound 5] s u ∧ Cuts [bound 5, bound 5] s u ∧
        t ++ u = s) ∧
      ∃ t, Cuts [bound 3, bound 3] s t ∧ ∃ n : Int64, n.toInt = (3 : Nat) - (3 : Nat) ∧
        ∀ (f : String) (m : Mapping),
          (length f).compile (.literal (.text t) m) [] = .ok (.typedLiteral (.int n) .int) := by
  intro s bound
  have known : ∀ n ∈ [0, 1, 2, 3, 4, 5], KnownBound (bound (Int64.ofNat n)) n := by
    intro n hn
    refine ⟨⟨_, rfl, ?_⟩, rfl⟩
    revert n
    decide
  have hs : s.toList.length = 5 := by decide
  have hend : KnownBound (bound 5) s.toList.length := hs ▸ known 5 (by decide)
  obtain ⟨hcompose, hsplit, hlength⟩ := slices_compose s
  exact ⟨known, hs,
    hcompose (known 1 (by decide)) (known 3 (by decide)) (known 1 (by decide))
      (known 4 (by decide)) (known 2 (by decide)) (known 4 (by decide)) (by decide) (by decide)
      (by decide) (by decide),
    hsplit (known 0 (by decide)) (known 5 (by decide)) hend (by decide),
    hlength (known 3 (by decide)) (known 3 (by decide)) (by decide) (by decide)⟩

end TypedSql.Method
