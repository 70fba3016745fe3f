/-!
# The order of texts

Texts are sorted by their code points.  That is the order of their bytes in UTF-8: a character with
a greater code point has a greater first byte, or as many bytes and the first that differs is the
greater one.
-/

namespace TypedSql.Text

/-- The bytes of a text in UTF-8. -/
def utf8 (s : String) : List UInt8 := s.toUTF8.data.toList

theorem utf8_eq (s : String) : utf8 s = s.toList.flatMap String.utf8EncodeChar := by
  change s.toByteArray.data.toList = _
  rw [← String.utf8Encode_toList, List.utf8Encode, List.data_toByteArray, List.toList_toArray]

theorem toNat_ofNat_of_lt {n : Nat} (h : n < 256) : (UInt8.ofNat n).toNat = n := by
  rw [UInt8.toNat_ofNat', Nat.mod_eq_of_lt h]

/-- The bytes of the lesser character decide, whatever comes behind. -/
theorem utf8EncodeChar_append_lt {c d : Char} (h : c < d) (xs ys : List UInt8) :
    String.utf8EncodeChar c ++ xs < String.utf8EncodeChar d ++ ys := by
  have hlt : c.val.toNat < d.val.toNat := h
  have hd : d.val.toNat < 0x110000 := by
    have := d.valid
    unfold UInt32.isValidChar Nat.isValidChar at this
    omega
  -- what a continuation byte holds is a digit to the base 64
  have hdigit (v : Nat) : v / 4096 = v / 64 / 64 ∧ v / 262144 = v / 64 / 64 / 64 := by omega
  unfold String.utf8EncodeChar
  simp only [hdigit]
  (repeat' split) <;>
    simp (disch := omega) only [List.cons_append, List.nil_append, List.cons_lt_cons_iff,
      UInt8.lt_iff_toNat_lt, ← UInt8.toNat_inj, toNat_ofNat_of_lt] <;>
    omega

theorem flatMap_utf8EncodeChar_lt {cs ds : List Char} (h : cs < ds) :
    cs.flatMap String.utf8EncodeChar < ds.flatMap String.utf8EncodeChar := by
  induction cs generalizing ds with
  | nil =>
    cases ds with
    | nil => exact absurd h (List.lt_irrefl [])
    | cons d ds =>
      rw [List.flatMap_nil, List.flatMap_cons]
      obtain ⟨b, bs, hb⟩ := List.exists_cons_of_ne_nil (String.utf8EncodeChar_ne_nil (c := d))
      rw [hb]
      exact List.nil_lt_cons _ _
  | cons c cs ih =>
    cases ds with
    | nil => exact absurd h (List.not_lt_nil _)
    | cons d ds =>
      rw [List.flatMap_cons, List.flatMap_cons]
      rcases List.cons_lt_cons_iff.1 h with hc | ⟨rfl, hcs⟩
      · exact utf8EncodeChar_append_lt hc _ _
      · exact List.append_left_lt (ih hcs)

theorem utf8_lt_of_lt {s t : String} (h : s < t) : utf8 s < utf8 t := by
  rw [utf8_eq, utf8_eq]
  have hst : s.toList < t.toList := h
  exact flatMap_utf8EncodeChar_lt hst

/-- The order of texts is that of their bytes. -/
theorem utf8_le_iff {s t : String} : utf8 s ≤ utf8 t ↔ s ≤ t := by
  constructor
  · intro h
    exact String.not_lt.1 fun hlt => List.not_lt.2 h (utf8_lt_of_lt hlt)
  · intro h
    refine List.not_lt.1 fun hlt => ?_
    rcases Decidable.em (s = t) with rfl | hne
    · exact List.lt_irrefl _ hlt
    · have hst : s < t := String.not_le.1 fun hts => hne (String.le_antisymm h hts)
      exact List.lt_irrefl _ (List.lt_trans hlt (utf8_lt_of_lt hst))

/-! ## The least text with a property -/

/-- The text has the property, and of all that have it its bytes come first. -/
def IsLeast (P : String → Prop) (s : String) : Prop := P s ∧ ∀ t, P t → utf8 s ≤ utf8 t

theorem IsLeast.unique {P : String → Prop} {s t : String} (hs : IsLeast P s) (ht : IsLeast P t) :
    s = t :=
  String.le_antisymm (utf8_le_iff.1 (hs.2 t ht.1)) (utf8_le_iff.1 (ht.2 s hs.1))

theorem isLeast_congr {P Q : String → Prop} (h : ∀ t, P t ↔ Q t) {s : String} :
    IsLeast P s ↔ IsLeast Q s := by
  simp only [IsLeast, h]

end TypedSql.Text
