import TypedSql.Numeral.Double

/-!
# JSON values

JSON with integers and other numbers apart. A number that is no integer is a finite double.
-/

namespace TypedSql

inductive Json where
  | null
  | bool (b : Bool)
  | int (n : Int)
  | float (x : Numeral.Double)
  | string (s : String)
  | array (items : List Json)
  | object (fields : List (String × Json))
  deriving Inhabited

namespace Json

/-- The last field of a name. -/
def field? (k : String) : Json → Option Json
  | object fields => fields.reverse.lookup k
  | _ => none

theorem mem_of_field? {k : String} {v : Json} {fields : List (String × Json)}
    (h : (object fields).field? k = some v) : (k, v) ∈ fields := by
  obtain ⟨before, after, hfields, -⟩ := List.lookup_eq_some_iff.1 h
  rw [← List.mem_reverse, hfields]
  exact List.mem_append_cons_self

theorem sizeOf_lt_of_field? {k : String} {v j : Json} (h : j.field? k = some v) :
    sizeOf v < sizeOf j := by
  cases j with
  | object fields =>
    have := List.sizeOf_lt_of_mem (mem_of_field? h)
    simp at this ⊢
    omega
  | _ => simp [field?] at h

theorem sizeOf_lt_of_mem_items {v : Json} {items : List Json} (h : v ∈ items) :
    sizeOf v < sizeOf (array items) := by
  have := List.sizeOf_lt_of_mem h
  simp
  omega

/-- A record as an object. It may also be an array of its fields, all of them and in order. -/
def record? (names : List String) : Json → Option Json
  | object fields => some (object fields)
  | array items =>
    if items.length = names.length then some (object (names.zip items)) else none
  | _ => none

/-- A field of a record. -/
def part? (names : List String) (k : String) (j : Json) : Option Json :=
  (record? names j).bind (field? k)

theorem sizeOf_lt_of_part? {names : List String} {k : String} {v j : Json}
    (h : j.part? names k = some v) : sizeOf v < sizeOf j := by
  obtain ⟨r, hr, hv⟩ := Option.bind_eq_some_iff.1 h
  unfold record? at hr
  split at hr
  next =>
    cases hr
    exact sizeOf_lt_of_field? hv
  next items =>
    split at hr <;> cases hr
    exact sizeOf_lt_of_mem_items (List.of_mem_zip (mem_of_field? hv)).2
  next => cases hr

/-- A text, or null for none. -/
def ofText? : Option String → Json
  | some s => string s
  | none => null

end Json

end TypedSql
