import Mathlib.Data.List.Basic
import Mathlib.Data.Nat.Bitwise
import TypedSql.Text.Case

/-!
# Letter case of texts already in that case

No image in the case tables is itself mapped any further (`Text.disjoint_upper`,
`Text.disjoint_lower`).  So a character of a text in upper case is its own upper case, and the same
holds of lower case.  A capital sigma is lowered by the text around it; but there is none in a text
in lower case, so the rule does not come into play again.
-/

namespace TypedSql.Text

/-! ## Sets of code points -/

/-- The numbers of a list as the bits of one number. -/
def bits (ns : List Nat) : Nat := ns.foldr (fun n s => 2 ^ n ||| s) 0

theorem testBit_bits_of_mem {n : Nat} {ns : List Nat} (h : n ∈ ns) :
    (bits ns).testBit n = true := by
  induction ns with
  | nil => cases h
  | cons m ns ih =>
    change (2 ^ m ||| bits ns).testBit n = true
    rw [Nat.testBit_lor, Bool.or_eq_true]
    rcases List.mem_cons.1 h with rfl | h
    · exact .inl Nat.testBit_two_pow_self
    · exact .inr (ih h)

/-- Lists are disjoint if they have no bit in common. -/
theorem disjoint_of_bits {ms ns : List Nat} (h : bits ms &&& bits ns = 0) : ms.Disjoint ns := by
  intro n hm hn
  have hbit : (bits ms &&& bits ns).testBit n = true := by
    rw [Nat.testBit_land, testBit_bits_of_mem hm, testBit_bits_of_mem hn]
    rfl
  rw [h, Nat.zero_testBit] at hbit
  cases hbit

/-! ## Mappings -/

/-- The code points of a run. -/
def CaseRun.sources (r : CaseRun) : List Nat :=
  List.range' r.first ((r.last - r.first) / r.step + 1) r.step

/-- The code points that a run maps to. -/
def CaseRun.images (r : CaseRun) : List Nat :=
  List.range' r.image ((r.last - r.first) / r.step + 1) r.step

theorem CaseRun.mem_of_imageOf? {r : CaseRun} {n m : Nat} (h : r.imageOf? n = some m) :
    n ∈ r.sources ∧ m ∈ r.images := by
  unfold imageOf? at h
  split at h
  next hn =>
    cases h
    -- the place of the code point within its run
    have hplace : r.step * ((n - r.first) / r.step) = n - r.first := by
      have hdivide := Nat.div_add_mod (n - r.first) r.step
      omega
    have hlt : (n - r.first) / r.step < (r.last - r.first) / r.step + 1 :=
      Nat.lt_succ_of_le (Nat.div_le_div_right (by omega))
    exact ⟨List.mem_range'.2 ⟨_, hlt, by omega⟩, List.mem_range'.2 ⟨_, hlt, by omega⟩⟩
  · cases h

section Mapping

variable {runs : List CaseRun} {expansions : List (Nat × List Nat)} {c d : Char}

/-- The code points that are mapped. -/
def sources (runs : List CaseRun) (expansions : List (Nat × List Nat)) : List Nat :=
  runs.flatMap CaseRun.sources ++ expansions.map Prod.fst

/-- The code points that occur in images. -/
def images (runs : List CaseRun) (expansions : List (Nat × List Nat)) : List Nat :=
  runs.flatMap CaseRun.images ++ expansions.flatMap Prod.snd

theorem mapCase_eq_self (h : c.toNat ∉ sources runs expansions) :
    mapCase runs expansions c = [c] := by
  rw [sources, List.mem_append, not_or] at h
  have hrun : runs.findSome? (·.imageOf? c.toNat) = none := by
    refine List.findSome?_eq_none_iff.2 fun r hr => ?_
    cases hi : r.imageOf? c.toNat with
    | none => rfl
    | some m => exact absurd (List.mem_flatMap.2 ⟨r, hr, (r.mem_of_imageOf? hi).1⟩) h.1
  have hexpansion : expansions.lookup c.toNat = none := by
    refine List.lookup_eq_none_iff.2 fun e he => ?_
    rw [bne_iff_ne]
    rintro hc
    exact h.2 (List.mem_map.2 ⟨e, he, hc.symm⟩)
  rw [mapCase, hrun, hexpansion]

/-- A character stays as it is, or goes to characters that occur in images. -/
theorem mapCase_cases (runs : List CaseRun) (expansions : List (Nat × List Nat)) (c : Char) :
    mapCase runs expansions c = [c] ∨
      ∃ ns : List Nat, mapCase runs expansions c = ns.map Char.ofNat ∧
        ∀ n ∈ ns, n ∈ images runs expansions := by
  unfold mapCase
  split
  next n hn =>
    obtain ⟨r, hr, hi⟩ := List.exists_of_findSome?_eq_some hn
    refine .inr ⟨[n], rfl, fun m hm => ?_⟩
    rw [List.mem_singleton.1 hm]
    exact List.mem_append_left _ (List.mem_flatMap.2 ⟨r, hr, (r.mem_of_imageOf? hi).2⟩)
  · split
    next ns hns =>
      obtain ⟨before, after, hexpansions, -⟩ := List.lookup_eq_some_iff.1 hns
      have hmem : (c.toNat, ns) ∈ expansions := by
        rw [hexpansions]
        exact List.mem_append_right before List.mem_cons_self
      refine .inr ⟨ns, rfl, fun m hm => ?_⟩
      exact List.mem_append_right _ (List.mem_flatMap.2 ⟨_, hmem, hm⟩)
    next => exact .inl rfl

/-- A mapping does not map its images any further, if they are characters and it has none of them
among the code points that it maps. -/
theorem mapCase_eq_self_of_mem (hvalid : ∀ n ∈ images runs expansions, n.isValidChar)
    (hdisjoint : (images runs expansions).Disjoint (sources runs expansions))
    (h : d ∈ mapCase runs expansions c) : mapCase runs expansions d = [d] := by
  rcases mapCase_cases runs expansions c with hc | ⟨ns, hns, himages⟩
  · rw [hc, List.mem_singleton] at h
    rw [h, hc]
  · rw [hns] at h
    obtain ⟨n, hn, rfl⟩ := List.mem_map.1 h
    have hn := himages n hn
    have hchar : (Char.ofNat n).toNat = n := congrArg Char.toNat (dif_pos (hvalid n hn))
    refine mapCase_eq_self ?_
    rw [hchar]
    exact hdisjoint hn

end Mapping

/-! ## The tables -/

theorem isValidChar_upper : ∀ n ∈ images upperRuns upperExpansions, n.isValidChar := by
  decide +kernel

theorem isValidChar_lower : ∀ n ∈ images lowerRuns lowerExpansions, n.isValidChar := by
  decide +kernel

theorem disjoint_upper :
    (images upperRuns upperExpansions).Disjoint (sources upperRuns upperExpansions) :=
  disjoint_of_bits (by decide +kernel)

theorem disjoint_lower :
    (images lowerRuns lowerExpansions).Disjoint (sources lowerRuns lowerExpansions) :=
  disjoint_of_bits (by decide +kernel)

theorem upperChar_eq_self_of_mem {c d : Char} (h : d ∈ upperChar c) : upperChar d = [d] :=
  mapCase_eq_self_of_mem isValidChar_upper disjoint_upper h

theorem lowerChar_eq_self_of_mem {c d : Char} (h : d ∈ lowerChar c) : lowerChar d = [d] :=
  mapCase_eq_self_of_mem isValidChar_lower disjoint_lower h

/-! ## Upper case -/

theorem toUpper_toUpper (s : List Char) : toUpper (toUpper s) = toUpper s := by
  have hself : ∀ d ∈ toUpper s, upperChar d = [d] := by
    intro d hd
    obtain ⟨c, -, hc⟩ := List.mem_flatMap.1 hd
    exact upperChar_eq_self_of_mem hc
  rw [toUpper, List.flatMap_congr hself, List.flatMap_singleton']

/-! ## Lower case -/

/-- The character is its own lower case, whatever text it stands in. -/
def IsLower (c : Char) : Prop := c ≠ capitalSigma ∧ lowerChar c = [c]

theorem isLower_lowerSigma (before after : List Char) : IsLower (lowerSigma before after) := by
  unfold lowerSigma
  split
  · exact ⟨by decide, by decide +kernel⟩
  · exact ⟨by decide, by decide +kernel⟩

theorem isLower_of_mem_lowerChar {c d : Char} (h : d ∈ lowerChar c) : IsLower d := by
  have hself := lowerChar_eq_self_of_mem h
  refine ⟨?_, hself⟩
  rintro rfl
  -- the tables lower a capital sigma as well, though not by the text around it
  have hsigma : lowerChar capitalSigma = ['σ'] := by decide +kernel
  rw [hsigma] at hself
  exact absurd hself (by decide)

theorem isLower_of_mem_lowerAfter {before s : List Char} {d : Char}
    (h : d ∈ lowerAfter before s) : IsLower d := by
  induction s generalizing before with
  | nil => cases h
  | cons c s ih =>
    rcases List.mem_append.1 h with h | h
    · split at h
      · rw [List.mem_singleton.1 h]
        exact isLower_lowerSigma before s
      · exact isLower_of_mem_lowerChar h
    · exact ih h

theorem lowerAfter_eq_self (before : List Char) {s : List Char} (h : ∀ c ∈ s, IsLower c) :
    lowerAfter before s = s := by
  induction s generalizing before with
  | nil => rfl
  | cons c s ih =>
    obtain ⟨hsigma, hself⟩ := h c List.mem_cons_self
    rw [lowerAfter, if_neg hsigma, hself, ih _ fun d hd => h d (List.mem_cons_of_mem c hd)]
    rfl

theorem toLower_toLower (s : List Char) : toLower (toLower s) = toLower s :=
  lowerAfter_eq_self [] fun _ => isLower_of_mem_lowerAfter

-- the sigma at the end of a word has a form of its own, which stays
example : toLower (toLower "ΣΟΦΟΣ ΣΟΦΟΣ.".toList) = "σοφος σοφος.".toList := by
  decide +kernel

end TypedSql.Text
