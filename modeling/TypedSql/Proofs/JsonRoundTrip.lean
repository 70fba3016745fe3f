import TypedSql.Expr.Json

/-!
# Reading expressions back

An expression whose numbers are all finite is read back from its JSON form.  A number that is not
finite is written as null, and then nothing is read back, wherever in the tree the number stands.
-/

namespace TypedSql

open Json

/-! ## Fields -/

namespace Json

variable {α : Type} {names : List String} {k : String} {read : Json → Option α} {j : Json}

theorem required?_of_part? {v : Json} (h : j.part? names k = some v) :
    required? names k read j = read v := by
  rw [required?, h, Option.bind_some]

theorem optional?_of_null (h : j.part? names k = some null) :
    optional? names k read j = some none := by
  obtain ⟨r, hr, hnull⟩ := Option.bind_eq_some_iff.1 h
  rw [optional?, hr, Option.bind_some, hnull]

theorem optional?_of_ne_null {v : Json} (h : j.part? names k = some v) (hv : v ≠ null) :
    optional? names k read j = (read v).map some := by
  obtain ⟨r, hr, hk⟩ := Option.bind_eq_some_iff.1 h
  rw [optional?, hr, Option.bind_some, hk]
  cases v with
  | null => exact absurd rfl hv
  | _ => rfl

theorem optional?_ofText? {t : Option String} (h : j.part? names k = some (ofText? t)) :
    optional? names k text? j = some t := by
  cases t with
  | none => exact optional?_of_null h
  | some s => exact optional?_of_ne_null h nofun

/-- A list is read back item by item. -/
theorem mapM_map_eq_some {write : α → Json} (h : ∀ a, read (write a) = some a) (as : List α) :
    (as.map write).mapM read = some as := by
  induction as with
  | nil => rfl
  | cons a as ih => simp [h, ih]

end Json

/-! ## Parts of an expression -/

/-- Numbers are finite, all other values count as such. -/
def Value.isFinite : Value → Bool
  | .float x => x.isFinite
  | .null | .bool _ | .int _ | .text _ | .bytes _ => true

theorem byte?_toNat (b : UInt8) : byte? (.int b.toNat) = some b := by
  have h := b.toNat_lt
  simp [byte?]
  omega

theorem Value.ofJson?_toJson (v : Value) :
    Value.ofJson? v.toJson = if v.isFinite then some v else none := by
  cases v with
  | null | bool | text => rfl
  | int n => simp [ofJson?, toJson, isFinite, Numeral.toInt64?_eq_some_iff]
  | float x => cases h : x.isFinite <;> simp [ofJson?, toJson, isFinite, h, double?]
  | bytes bs =>
    simp [ofJson?, toJson, isFinite, mapM_map_eq_some byte?_toNat]

theorem Value.toJson_ne_null (v : Value) : v.toJson ≠ .null := by
  cases v <;> nofun

/-- A slot without a value has a null there, one with the null value a name. -/
theorem ParamSlot.ofJson?_toJson (s : ParamSlot) :
    ParamSlot.ofJson? s.toJson = if s.value.all Value.isFinite then some s else none := by
  obtain ⟨name, value⟩ := s
  have hname : optional? fieldNames "name" text? (ParamSlot.toJson ⟨name, value⟩) = some name :=
    optional?_ofText? rfl
  cases value with
  | none =>
    have hvalue : optional? fieldNames "value" Value.ofJson? (ParamSlot.toJson ⟨name, none⟩) =
        some none :=
      optional?_of_null rfl
    simp [ofJson?, hname, hvalue]
  | some v =>
    have hvalue : optional? fieldNames "value" Value.ofJson? (ParamSlot.toJson ⟨name, some v⟩) =
        (Value.ofJson? v.toJson).map some :=
      optional?_of_ne_null rfl v.toJson_ne_null
    rw [Value.ofJson?_toJson] at hvalue
    cases h : v.isFinite <;> simp [ofJson?, hname, hvalue, h]

theorem Template.ofJson?_toJson (t : Template) : Template.ofJson? t.toJson = some t := rfl

theorem ColumnName.ofJson?_toJson (c : ColumnName) : ColumnName.ofJson? c.toJson = some c := by
  obtain ⟨qualifier, column, wrapper⟩ := c
  have hqualifier : optional? fieldNames "qualifier" text?
      (ColumnName.toJson ⟨qualifier, column, wrapper⟩) = some qualifier :=
    optional?_ofText? rfl
  have hcolumn : required? fieldNames "column" text?
      (ColumnName.toJson ⟨qualifier, column, wrapper⟩) = some column := rfl
  have hwrapper : optional? fieldNames "select_wrapper" Template.ofJson?
      (ColumnName.toJson ⟨qualifier, column, wrapper⟩) = some wrapper := by
    cases wrapper with
    | none => exact optional?_of_null rfl
    | some t => exact optional?_of_ne_null (v := t.toJson) rfl nofun
  simp [ofJson?, hqualifier, hcolumn, hwrapper]

theorem ColumnRef.ofJson?_toJson (c : ColumnRef) : ColumnRef.ofJson? c.toJson = some c := rfl

theorem LogicalType.ofJson?_name (t : LogicalType) :
    LogicalType.ofJson? (.string t.name) = some t := by
  cases t <;> rfl

theorem Mapping.ofJson?_toJson (m : Mapping) : Mapping.ofJson? m.toJson = some m := by
  obtain ⟨type, member, columns⟩ := m
  have htype : required? fieldNames "logical_type" LogicalType.ofJson?
      (Mapping.toJson ⟨type, member, columns⟩) = some type :=
    (required?_of_part? rfl).trans (LogicalType.ofJson?_name type)
  have hmember : optional? fieldNames "member" text? (Mapping.toJson ⟨type, member, columns⟩) =
      some member :=
    optional?_ofText? rfl
  have hcolumns : (columns.map ColumnRef.toJson).mapM ColumnRef.ofJson? = some columns :=
    mapM_map_eq_some ColumnRef.ofJson?_toJson columns
  have hfield : (Mapping.toJson ⟨type, member, columns⟩).part? fieldNames "columns" =
      some (.array (columns.map ColumnRef.toJson)) := rfl
  simp only [ofJson?, htype, hmember]
  simp [required?, hfield, hcolumns]

theorem Joint.ofJson?_toJson (j : Joint) : Joint.ofJson? j.toJson = some j := by
  cases j with
  | call f => rfl
  | sum s => cases s <;> rfl

/-! ## Trees -/

namespace Expr

mutual

/-- The values that stand in a tree, those that come with parameters included. -/
def values : Expr → List Value
  | literal v _ => [v]
  | parameter s _ => s.value.toList
  | column _ _ => []
  | composed _ args _ => listValues args

def listValues : List Expr → List Value
  | [] => []
  | e :: es => e.values ++ listValues es

end

theorem content?_node (kind kind' : String) (content : Json) (m : Mapping) :
    content? kind' (node kind content m) = if kind = kind' then some content else none := by
  have hkind : (node kind content m).part? fieldNames "kind" = some (.object [(kind, content)]) :=
    rfl
  rw [content?, hkind, Option.bind_some, choice?_singleton]

theorem required?_mapping_toJson (e : Expr) :
    required? fieldNames "mapping" Mapping.ofJson? e.toJson = some e.mapping := by
  cases e <;> exact (required?_of_part? rfl).trans (Mapping.ofJson?_toJson _)

/-- The arguments come with a proof that they are smaller, which reading them does not use. -/
theorem ofJson?_eq (j : Json) :
    ofJson? j =
      (required? fieldNames "mapping" Mapping.ofJson? j).bind fun m =>
        match leaf? j with
        | some f => some (f m)
        | none =>
          (joint? j).bind fun joint =>
            ((argsJson j).mapM ofJson?).map fun args => composed joint args m := by
  have hmapM : (argsJson j).attach.mapM (fun a => ofJson? a.1) = (argsJson j).mapM ofJson? := by
    rw [List.mapM_subtype fun _ _ => rfl, List.unattach_attach]
  rw [ofJson?]
  refine congrArg (Option.bind _) (funext fun m => ?_)
  cases leaf? j with
  | some f => rfl
  | none => simp only [hmapM]

/-- Reading the form of a tree, its mapping being read back. -/
theorem ofJson?_toJson_eq (e : Expr) :
    ofJson? e.toJson =
      match leaf? e.toJson with
      | some f => some (f e.mapping)
      | none =>
        (joint? e.toJson).bind fun joint =>
          ((argsJson e.toJson).mapM ofJson?).map fun args => composed joint args e.mapping := by
  rw [ofJson?_eq, required?_mapping_toJson, Option.bind_some]

mutual

theorem ofJson?_toJson : ∀ e : Expr,
    ofJson? e.toJson = if e.values.all Value.isFinite then some e else none
  | literal v m => by
    rw [ofJson?_toJson_eq]
    cases h : v.isFinite <;>
      simp [toJson, leaf?, joint?, content?_node, Value.ofJson?_toJson, values, mapping, h]
  | parameter s m => by
    have hvalues : (parameter s m).values.all Value.isFinite = s.value.all Value.isFinite := by
      rw [values]
      cases s.value <;> simp
    rw [ofJson?_toJson_eq, hvalues]
    cases h : s.value.all Value.isFinite <;>
      simp [toJson, leaf?, joint?, content?_node, ParamSlot.ofJson?_toJson, mapping, h]
  | column c m => by
    rw [ofJson?_toJson_eq]
    simp [toJson, leaf?, content?_node, ColumnName.ofJson?_toJson, values, mapping]
  | composed j args m => by
    let content : Json := .object [("op", j.toJson), ("args", .array (listToJson args))]
    have hcontent : ∀ kind, content? kind (composed j args m).toJson =
        if "Composed" = kind then some content else none :=
      fun _ => content?_node ..
    have hop : required? composedNames "op" Joint.ofJson? content = some j :=
      (required?_of_part? rfl).trans j.ofJson?_toJson
    have hfield : content.part? composedNames "args" = some (.array (listToJson args)) := rfl
    have hleaf : leaf? (composed j args m).toJson = none := by simp [leaf?, hcontent]
    have hjoint : joint? (composed j args m).toJson = some j := by
      simp [joint?, hcontent, hfield, hop]
    have hargs : argsJson (composed j args m).toJson = listToJson args := by
      simp [argsJson, hcontent, hfield]
    rw [ofJson?_toJson_eq, hleaf, hjoint, hargs, mapM_listToJson args, values]
    cases (listValues args).all Value.isFinite <;> rfl

theorem mapM_listToJson : ∀ es : List Expr,
    (listToJson es).mapM ofJson? = if (listValues es).all Value.isFinite then some es else none
  | [] => rfl
  | e :: es => by
    rw [listToJson, List.mapM_cons, ofJson?_toJson e, mapM_listToJson es, listValues,
      List.all_append]
    cases e.values.all Value.isFinite <;> cases (listValues es).all Value.isFinite <;> rfl

end

theorem all_isFinite_iff {vs : List Value} :
    vs.all Value.isFinite = true ↔ ∀ x, .float x ∈ vs → x.isFinite = true := by
  rw [List.all_eq_true]
  constructor
  · exact fun h x hx => h (.float x) hx
  · intro h v hv
    cases v with
    | float x => exact h x hv
    | null | bool | int | text | bytes => rfl

/-- A tree of finite numbers is read back, and so are its text and its slots; a tree that holds any
other number is not read at all. -/
theorem reads_back_iff_finite (e : Expr) :
    ((∀ x, .float x ∈ e.values → x.isFinite = true) →
      ofJson? e.toJson = some e ∧
        ∀ d, (ofJson? e.toJson).map (render d) = some (e.render d)) ∧
    ((∃ x, .float x ∈ e.values ∧ x.isFinite = false) → ofJson? e.toJson = none) := by
  have hread := ofJson?_toJson e
  constructor
  · intro h
    rw [if_pos (all_isFinite_iff.2 h)] at hread
    exact ⟨hread, fun d => by rw [hread, Option.map_some]⟩
  · rintro ⟨x, hx, hinfinite⟩
    rwa [if_neg fun h => by simp [all_isFinite_iff.1 h x hx] at hinfinite] at hread

/-- A slot without a value beside one with the null value, an integer beside the number equal to it,
and the same tree around a number that is none. -/
theorem reads_back_iff_finite_nested :
    let m : Mapping := ⟨.double, some "rate", [⟨"T", "RATE"⟩, ⟨"T", "UNIT"⟩]⟩
    let one : Numeral.Double := ⟨0x3FF0000000000000⟩
    let nan : Numeral.Double := ⟨0x7FF8000000000000⟩
    let tree (x : Numeral.Double) : Expr :=
      call "F"
        [.parameter { name := some "p" } m, .parameter { value := some .null } m,
          binary .minus (.literal (.int 1) m) (.parameter { value := some (.float x) } m) m,
          .column { column := "C", wrapper := some ⟨"ABS(", ")"⟩ } m, .literal (.bytes [0, 255]) m]
        (.computed .double)
    (∀ x, .float x ∈ (tree one).values → x.isFinite = true) ∧
      ofJson? (tree one).toJson = some (tree one) ∧
      (∃ x, .float x ∈ (tree nan).values ∧ x.isFinite = false) ∧
      ofJson? (tree nan).toJson = none := by
  intro m one nan tree
  have hone : ∀ x, .float x ∈ (tree one).values → x.isFinite = true :=
    all_isFinite_iff.1 (by decide)
  have hnan : ∃ x, .float x ∈ (tree nan).values ∧ x.isFinite = false := ⟨nan, by decide, by decide⟩
  exact ⟨hone, ((reads_back_iff_finite (tree one)).1 hone).1, hnan,
    (reads_back_iff_finite (tree nan)).2 hnan⟩

end Expr

end TypedSql
