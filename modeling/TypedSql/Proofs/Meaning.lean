import Mathlib.Data.List.Basic
import TypedSql.Expr.Basic
import TypedSql.Operation.Method

/-!
# What expressions denote

An interpretation says what the functions of a datastore compute, and what slots and columns hold.
Under it an expression denotes a text, an integer of any size, or some other value.  The datastore
counts characters from one: a substring is the characters at the places from its start on, and
before the end of its length if it has one (`pick`).
-/

namespace TypedSql

/-- What an expression stands for.  Integers are exact. -/
inductive Meaning where
  | text (s : String)
  | int (n : Int)
  | other (v : Value)
  deriving DecidableEq

def Value.meaning : Value → Meaning
  | .text s => .text s
  | .int n => .int n.toInt
  | v => .other v

def Sign.compute : Sign → Int → Int → Int
  | plus, a, b => a + b
  | minus, a, b => a - b

/-! ## Interpretations -/

/-- What functions compute, and what slots and columns hold. -/
structure Interpretation where
  call : String → List Meaning → Option Meaning
  slot : ParamSlot → Option Meaning
  column : ColumnName → Option Meaning

/-- What a composed expression makes of what its arguments denote. -/
def Interpretation.join (I : Interpretation) : Joint → List Meaning → Option Meaning
  | .call f, xs => I.call f xs
  | .sum sign, [.int a, .int b] => some (.int (sign.compute a b))
  | .sum _, _ => none

namespace Expr

mutual

/-- What an expression denotes, if it denotes anything. -/
def denote? (I : Interpretation) : Expr → Option Meaning
  | literal v _ => some v.meaning
  | parameter s _ => I.slot s
  | column c _ => I.column c
  | composed j args _ => (denoteAll? I args).bind (I.join j)

def denoteAll? (I : Interpretation) : List Expr → Option (List Meaning)
  | [] => some []
  | e :: es => (e.denote? I).bind fun x => (denoteAll? I es).map (x :: ·)

end

variable {I : Interpretation} {e : Expr}

theorem denote?_call (f : String) (args : List Expr) (m : Mapping) :
    (call f args m).denote? I = (denoteAll? I args).bind (I.call f) :=
  rfl

theorem denoteAll?_cons {es : List Expr} {x : Meaning} {xs : List Meaning}
    (he : e.denote? I = some x) (hes : denoteAll? I es = some xs) :
    denoteAll? I (e :: es) = some (x :: xs) := by
  rw [denoteAll?, he, hes]
  rfl

theorem denote?_of_literalText? {s : String} (h : e.literalText? = some s) :
    e.denote? I = some (.text s) := by
  cases e with
  | literal v m =>
    cases v with
    | text t =>
      obtain rfl : t = s := Option.some.inj h
      rfl
    | _ => cases h
  | _ => cases h

theorem eq_of_literalText? {s s' : String} (he : e.denote? I = some (.text s))
    (h : e.literalText? = some s') : s' = s := by
  have hdenote := denote?_of_literalText? (I := I) h
  rw [he] at hdenote
  cases hdenote
  rfl

theorem isLiteral_of_literalInt? {n : Int64} (h : e.literalInt? = some n) : e.isLiteral = true := by
  cases e with
  | literal v m => rfl
  | _ => cases h

theorem denote?_of_literalInt? {n : Int64} (h : e.literalInt? = some n) :
    e.denote? I = some (.int n.toInt) := by
  cases e with
  | literal v m =>
    cases v with
    | int k =>
      obtain rfl : k = n := Option.some.inj h
      rfl
    | _ => cases h
  | _ => cases h

theorem toInt_of_literalInt? {n : Int64} {k : Int} (he : e.denote? I = some (.int k))
    (h : e.literalInt? = some n) : n.toInt = k := by
  have hdenote := denote?_of_literalInt? (I := I) h
  rw [he] at hdenote
  cases hdenote
  rfl

end Expr

/-! ## Characters by their places -/

/-- The characters at the places, counted from one, that `p` holds of. -/
def pick (p : Int → Bool) (s : String) : String :=
  String.ofList (((s.toList.zipIdx 1).filter fun x => p x.2).map Prod.fst)

theorem filter_zipIdx_lt (s : List Char) (i n : Nat) :
    (s.zipIdx i).filter (fun x => decide (x.2 < i + n)) = (s.take n).zipIdx i := by
  have hsplit : s.zipIdx i = (s.take n).zipIdx i ++ (s.drop n).zipIdx (i + (s.take n).length) := by
    rw [← List.zipIdx_append, List.take_append_drop]
  have htake : ∀ x ∈ (s.take n).zipIdx i, decide (x.2 < i + n) = true := by
    intro x hx
    have hlt := (List.mem_zipIdx hx).2.1
    have hle := List.length_take_le n s
    exact decide_eq_true (by omega)
  have hdrop : ∀ x ∈ (s.drop n).zipIdx (i + (s.take n).length),
      ¬ decide (x.2 < i + n) = true := by
    intro x hx
    obtain ⟨hge, hlt, -⟩ := List.mem_zipIdx hx
    rw [List.length_take] at hge hlt
    rw [List.length_drop] at hlt
    rw [decide_eq_true_iff]
    omega
  rw [hsplit, List.filter_append, List.filter_eq_self.2 htake, List.filter_eq_nil_iff.2 hdrop,
    List.append_nil]

theorem filter_zipIdx_le (s : List Char) (i n : Nat) :
    (s.zipIdx i).filter (fun x => decide (i + n ≤ x.2)) = (s.drop n).zipIdx (i + n) := by
  have hsplit : s.zipIdx i = (s.take n).zipIdx i ++ (s.drop n).zipIdx (i + (s.take n).length) := by
    rw [← List.zipIdx_append, List.take_append_drop]
  have htake : ∀ x ∈ (s.take n).zipIdx i, ¬ decide (i + n ≤ x.2) = true := by
    intro x hx
    have hlt := (List.mem_zipIdx hx).2.1
    have hle := List.length_take_le n s
    rw [decide_eq_true_iff]
    omega
  rw [hsplit, List.filter_append, List.filter_eq_nil_iff.2 htake, List.nil_append]
  by_cases hn : n ≤ s.length
  · have hlength : (s.take n).length = n := List.length_take_of_le hn
    rw [hlength]
    refine List.filter_eq_self.2 fun x hx => ?_
    have hge := (List.mem_zipIdx hx).1
    exact decide_eq_true hge
  · have hnil : s.drop n = [] := List.drop_eq_nil_of_le (by omega)
    rw [hnil]
    rfl

/-- Only the places within the text matter. -/
theorem pick_congr {p q : Int → Bool} {s : String}
    (h : ∀ i : Int, 1 ≤ i → i ≤ s.toList.length → p i = q i) : pick p s = pick q s := by
  have hfilter : (s.toList.zipIdx 1).filter (fun x => p x.2) =
      (s.toList.zipIdx 1).filter (fun x => q x.2) := by
    refine List.filter_congr fun x hx => ?_
    obtain ⟨hge, hlt, -⟩ := List.mem_zipIdx hx
    exact h x.2 (by omega) (by omega)
  rw [pick, hfilter, pick]

/-- The places from `a` on. -/
theorem pick_le (a : Int) (s : String) :
    pick (fun i => decide (a ≤ i)) s = String.ofList (s.toList.drop (a - 1).toNat) := by
  have hfilter : (s.toList.zipIdx 1).filter (fun x => decide (a ≤ (x.2 : Int))) =
      (s.toList.zipIdx 1).filter (fun x => decide (1 + (a - 1).toNat ≤ x.2)) := by
    refine List.filter_congr fun x hx => decide_eq_decide.2 ?_
    have hge := (List.mem_zipIdx hx).1
    omega
  rw [pick, hfilter, filter_zipIdx_le, List.zipIdx_map_fst]

/-- The places from `a` on and before `b`. -/
theorem pick_le_lt (a b : Int) (s : String) :
    pick (fun i => decide (a ≤ i ∧ i < b)) s =
      String.ofList ((s.toList.take (b - 1).toNat).drop (a - 1).toNat) := by
  have hfilter : (s.toList.zipIdx 1).filter (fun x => decide (a ≤ (x.2 : Int) ∧ (x.2 : Int) < b)) =
      ((s.toList.zipIdx 1).filter (fun x => decide (x.2 < 1 + (b - 1).toNat))).filter
        (fun x => decide (1 + (a - 1).toNat ≤ x.2)) := by
    rw [List.filter_filter]
    refine List.filter_congr fun x hx => ?_
    have hge := (List.mem_zipIdx hx).1
    rw [← Bool.decide_and, decide_eq_decide]
    omega
  rw [pick, hfilter, filter_zipIdx_lt, filter_zipIdx_le, List.zipIdx_map_fst]

/-- Between bounds counted from zero. -/
theorem pick_eq_slice (s : String) (b e : Nat) :
    pick (fun i => decide ((b : Int) + 1 ≤ i ∧ i < (e : Int) + 1)) s = Method.slice s b e := by
  have hb : ((b : Int) + 1 - 1).toNat = b := by omega
  have he : ((e : Int) + 1 - 1).toNat = e := by omega
  rw [pick_le_lt, hb, he, Method.slice, List.drop_take]

/-! ## Operations -/

namespace Builtin

/-- What the datastore's function for an operation computes.  A substring has the place of its
first character and perhaps its length. -/
def denote? : Builtin → List Meaning → Option Meaning
  | transform t, [.text s] => some (.text (t.apply s))
  | length, [.text s] => some (.int s.toList.length)
  | substring, [.text s, .int start] => some (.text (pick (fun i => decide (start ≤ i)) s))
  | substring, [.text s, .int start, .int n] =>
    some (.text (pick (fun i => decide (start ≤ i ∧ i < start + n)) s))
  | _, _ => none

theorem function_injective (d : DialectName) {a b : Builtin} (h : a.function d = b.function d) :
    a = b := by
  cases d <;> rcases a with (_ | _ | _ | _ | _) | _ | _ <;>
    rcases b with (_ | _ | _ | _ | _) | _ | _ <;> first | rfl | exact absurd h (by decide)

end Builtin

/-- The functions of a dialect compute the operations that they are called for. -/
def DialectName.interpretation (d : DialectName) (slot : ParamSlot → Option Meaning)
    (column : ColumnName → Option Meaning) : Interpretation where
  call f xs := (Builtin.all.find? (·.function d == f)).bind (·.denote? xs)
  slot := slot
  column := column

theorem DialectName.call_interpretation (d : DialectName) (slot : ParamSlot → Option Meaning)
    (column : ColumnName → Option Meaning) (b : Builtin) :
    (d.interpretation slot column).call (b.function d) = b.denote? := by
  obtain ⟨a, ha⟩ : ∃ a, Builtin.all.find? (·.function d == b.function d) = some a := by
    rw [← Option.isSome_iff_exists, List.find?_isSome]
    exact ⟨b, b.mem_all, by simp⟩
  have hname : a.function d = b.function d := by simpa using List.find?_some ha
  obtain rfl := Builtin.function_injective d hname
  funext xs
  simp only [interpretation, ha, Option.bind_some]

end TypedSql
