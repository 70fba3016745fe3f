import TypedSql.Operation.Method
import TypedSql.Proofs.LetterCase
import TypedSql.Proofs.Trimming

/-!
# Laws of the transforms

Every transform leaves alone what it has made (`Transform.apply_apply`).  Trimming both ends is
trimming one after the other, takes off spaces and nothing else, and leaves none at an end
(`Transform.transforms_settle`).
-/

namespace TypedSql.Transform

open Text

theorem toList_apply_trim (s : String) :
    (trim.apply s).toList = dropEndsWhile (· == ' ') s.toList :=
  String.toList_ofList

/-- A text that a transform has made is not changed by it. -/
theorem apply_apply (t : Transform) (s : String) : t.apply (t.apply s) = t.apply s := by
  cases t with
  | upper =>
    rw [apply, apply, String.toList_ofList, toUpper_toUpper]
  | lower =>
    rw [apply, apply, String.toList_ofList, toLower_toLower]
  | trim =>
    rw [apply, apply, String.toList_ofList, (trimmed_dropEndsWhile _ _).dropEndsWhile_eq]
  | trimLeft =>
    rw [apply, apply, String.toList_ofList, dropWhile_eq_self (head?_dropWhile _ _)]
  | trimRight =>
    rw [apply, apply, String.toList_ofList, dropTailWhile_eq_self (getLast?_dropTailWhile _ _)]

theorem apply_trim_eq_trimLeft (s : String) : trim.apply s = trimLeft.apply (trimRight.apply s) := by
  rw [apply, apply, apply, String.toList_ofList, dropWhile_dropTailWhile]

theorem apply_trim_eq_trimRight (s : String) :
    trim.apply s = trimRight.apply (trimLeft.apply s) := by
  rw [apply, apply, apply, String.toList_ofList, dropEndsWhile]

/-- Only spaces are taken off the ends. -/
theorem exists_replicate_append_trim (s : String) :
    ∃ m n, s.toList =
      List.replicate m ' ' ++ ((trim.apply s).toList ++ List.replicate n ' ') := by
  obtain ⟨l, r, hl, hr, hs⟩ := exists_eq_append_dropEndsWhile (· == ' ') s.toList
  have hleft : l = List.replicate l.length ' ' :=
    List.eq_replicate_iff.2 ⟨rfl, fun c hc => beq_iff_eq.1 (hl c hc)⟩
  have hright : r = List.replicate r.length ' ' :=
    List.eq_replicate_iff.2 ⟨rfl, fun c hc => beq_iff_eq.1 (hr c hc)⟩
  refine ⟨l.length, r.length, ?_⟩
  rw [← hleft, ← hright, toList_apply_trim]
  exact hs

/-- Trimming is trimming one end and then the other, in either order.  What is left has no space at
its ends, and only spaces are lost there.  Each transform leaves alone what it has made, and a
literal that it was folded to is folded to itself. -/
theorem transforms_settle (s : String) :
    trim.apply s = trimLeft.apply (trimRight.apply s) ∧
    trim.apply s = trimRight.apply (trimLeft.apply s) ∧
    (trim.apply s).toList.head? ≠ some ' ' ∧ (trim.apply s).toList.getLast? ≠ some ' ' ∧
    (∃ m n, s.toList =
      List.replicate m ' ' ++ ((trim.apply s).toList ++ List.replicate n ' ')) ∧
    ∀ t : Transform, t.apply (t.apply s) = t.apply s ∧ ∀ (f : String) (m : Mapping),
      (Method.transform t f).compile (.literal (.text (t.apply s)) m) [] =
        .ok (.literal (.text (t.apply s)) m) := by
  have htrimmed := trimmed_dropEndsWhile (· == ' ') s.toList
  rw [← toList_apply_trim] at htrimmed
  refine ⟨apply_trim_eq_trimLeft s, apply_trim_eq_trimRight s, fun h => ?_, fun h => ?_,
    exists_replicate_append_trim s, fun t => ⟨apply_apply t s, fun f m => ?_⟩⟩
  · exact absurd (htrimmed.head ' ' h) (by decide)
  · exact absurd (htrimmed.last ' ' h) (by decide)
  · change Except.ok (Expr.literal (.text (t.apply (t.apply s))) m) = _
    rw [apply_apply]

end TypedSql.Transform
