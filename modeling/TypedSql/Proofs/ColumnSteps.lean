import TypedSql.Proofs.Atomicity

/-!
# Configuring a column, step by step

What a step makes of a column that does not refuse it, as a relation with one rule for each step.
A step succeeds exactly on columns that are not sealed, and exactly by its rules; what else a step
does is nothing.
-/

namespace TypedSql.Column

open Edit

variable {c c' source : Column} {s : ColumnStep}

/-! ## The rules -/

/-- What a step makes of a column that does not refuse it. -/
inductive Taken (c : Column) : ColumnStep → Column → Prop where
  | primaryKey : Taken c .primaryKey { c with primaryKey := true, nullable := false }
  | nullable {b : Bool} (h : b = true → c.primaryKey = false) :
      Taken c (.nullable b) { c with nullable := b }
  | defaultable {b : Bool} : Taken c (.defaultable b) { c with defaultable := b }
  | unique {b : Bool} : Taken c (.unique b) { c with unique := b }
  | identity {b : Bool} (h : b = true → c.default = none) :
      Taken c (.identity b) { c with identity := b }
  | default {v : Value} (h : c.identity = false) :
      Taken c (.default v) { c with default := some v }
  | declared {m : DeclaredMeta} : Taken c (.declared m) { c with declared := m }
  | typeInfo {info : TypeInfo} :
      Taken c (.typeInfo info) { c with typeInfo := some info, state := .configured }
  | constraints {s : String} :
      Taken c (.constraints s) { c with constraints := if Text.hasInk s then some s else none }
  | wrapper {mode : WrapperMode} {template : String} {t : Template}
      (h : Template.parse template = .ok t) :
      Taken c (.wrapper mode template) { c with wrappers := c.wrappers.set mode t }
  /-- The datastore numbers the column. -/
  | adoptIdentity {info : Introspected} (h : info.autoIncrement = true) :
      Taken c (.adopt info) { c with identity := c.identity || c.default.isNone }
  /-- The datastore fills the column in, or does nothing for it. -/
  | adoptDefault {info : Introspected} (h : info.autoIncrement = false) :
      Taken c (.adopt info)
        { c with
          defaultable := c.defaultable || info.default.isSome
          default :=
            if c.default.isNone && !c.identity then info.default.bind Value.ofDefault?
            else c.default }

/-- A column with the configuration of `source` in place of its own. -/
def withConfiguration (c source : Column) : Column :=
  { source with
    identifier := c.identifier
    table := c.table
    storedType := c.storedType
    primaryKey := c.primaryKey
    state := if source.typeInfo.isSome then .configured else c.state }

/-! ## What each edit does to an open column -/

section Open

variable (hc : c.isSealed = false)
include hc

theorem on_ensureOpen_bind_of_open (f : Unit → Edit Column Unit) :
    (ensureOpen >>= f).on c = (f ()).on c := by
  rw [on_ensureOpen_bind, hc]
  rfl

theorem on_setPrimaryKey :
    setPrimaryKey.on c = (.ok (), { c with primaryKey := true, nullable := false }) := by
  rw [setPrimaryKey, on_ensureOpen_bind_of_open hc, on_modify_bind, on_modify]

theorem on_setNullable (b : Bool) :
    (setNullable b).on c =
      if b && c.primaryKey then (.error (.nullablePrimaryKey c.identifier), c)
      else (.ok (), { c with nullable := b }) := by
  rw [setNullable, on_ensureOpen_bind_of_open hc, on_refuseIf_bind, on_modify]

theorem on_setDefaultable (b : Bool) :
    (setDefaultable b).on c = (.ok (), { c with defaultable := b }) := by
  rw [setDefaultable, on_ensureOpen_bind_of_open hc, on_modify]

theorem on_setUnique (b : Bool) : (setUnique b).on c = (.ok (), { c with unique := b }) := by
  rw [setUnique, on_ensureOpen_bind_of_open hc, on_modify]

theorem on_setIdentity (b : Bool) :
    (setIdentity b).on c =
      if b && c.default.isSome then (.error (.identityWithDefault c.identifier), c)
      else (.ok (), { c with identity := b }) := by
  rw [setIdentity, on_ensureOpen_bind_of_open hc, on_refuseIf_bind, on_modify]

theorem on_setDefault (v : Value) :
    (setDefault v).on c =
      if c.identity then (.error (.identityWithDefault c.identifier), c)
      else (.ok (), { c with default := some v }) := by
  rw [setDefault, on_ensureOpen_bind_of_open hc, on_refuseIf_bind, on_modify]

theorem on_setDeclared (m : DeclaredMeta) :
    (setDeclared m).on c = (.ok (), { c with declared := m }) := by
  rw [setDeclared, on_ensureOpen_bind_of_open hc, on_modify]

theorem on_setTypeInfo (info : TypeInfo) :
    (setTypeInfo info).on c = (.ok (), { c with typeInfo := some info, state := .configured }) := by
  rw [setTypeInfo, on_ensureOpen_bind_of_open hc, on_modify_bind, on_modify]

theorem on_setConstraints (s : String) :
    (setConstraints s).on c =
      (.ok (), { c with constraints := if Text.hasInk s then some s else none }) := by
  rw [setConstraints, on_ensureOpen_bind_of_open hc, on_modify]

theorem on_setWrapper (mode : WrapperMode) (template : String) :
    (setWrapper mode template).on c =
      match Template.parse template with
      | .ok t => (.ok (), { c with wrappers := c.wrappers.set mode t })
      | .error e => (.error (.template e), c) := by
  rw [setWrapper, on_ensureOpen_bind_of_open hc]
  cases Template.parse template with
  | ok t => exact on_modify _ c
  | error e => exact on_throw _ c

theorem on_adopt (info : Introspected) :
    (adopt info).on c =
      (.ok (),
        if info.autoIncrement then { c with identity := c.identity || c.default.isNone }
        else
          { c with
            defaultable := c.defaultable || info.default.isSome
            default :=
              if c.default.isNone && !c.identity then info.default.bind Value.ofDefault?
              else c.default }) := by
  rw [adopt, on_ensureOpen_bind_of_open hc, on_get_bind]
  cases info.autoIncrement with
  | true =>
    rw [if_pos rfl, if_pos rfl, on_modifyIf]
    cases c.default.isNone <;> simp
  | false =>
    rw [if_neg Bool.false_ne_true, if_neg Bool.false_ne_true, on_modifyIf_bind, on_modifyIf]
    cases info.default.isSome <;> cases c.default.isNone && !c.identity <;> simp

theorem on_copyFrom (source : Column) :
    (copyFrom source).on c =
      if source.nullable && c.primaryKey then (.error (.nullablePrimaryKey c.identifier), c)
      else (.ok (), c.withConfiguration source) := by
  rw [copyFrom, on_ensureOpen_bind_of_open hc, on_refuseIf_bind]
  -- nine writes, then the state by what is there now
  simp only [on_modify_bind, on_get_bind, on_modifyIf, withConfiguration]
  cases source.typeInfo.isSome <;> rfl

end Open

/-! ## The steps keep to the rules -/

theorem Taken.on_step (h : Taken c s c') (hc : c.isSealed = false) :
    (step s).on c = (.ok (), c') := by
  cases h with
  | primaryKey => exact on_setPrimaryKey hc
  | @nullable b h =>
    have hb : ¬ (b && c.primaryKey) = true := by simpa using h
    rw [step, on_setNullable hc, if_neg hb]
  | defaultable => exact on_setDefaultable hc _
  | unique => exact on_setUnique hc _
  | @identity b h =>
    have hb : ¬ (b && c.default.isSome) = true := by simpa using h
    rw [step, on_setIdentity hc, if_neg hb]
  | default h => rw [step, on_setDefault hc, if_neg (Bool.not_eq_true _ ▸ h)]
  | declared => exact on_setDeclared hc _
  | typeInfo => exact on_setTypeInfo hc _
  | constraints => exact on_setConstraints hc _
  | wrapper h => rw [step, on_setWrapper hc, h]
  | adoptIdentity h => rw [step, on_adopt hc, if_pos h]
  | adoptDefault h => rw [step, on_adopt hc, if_neg (Bool.not_eq_true _ ▸ h)]

theorem taken_of_on_step (hc : c.isSealed = false) (h : (step s).on c = (.ok (), c')) :
    Taken c s c' := by
  cases s with
  | primaryKey =>
    rw [step, on_setPrimaryKey hc] at h
    cases h
    exact .primaryKey
  | nullable b =>
    rw [step, on_setNullable hc] at h
    split at h
    · cases h
    next hb =>
      cases h
      exact .nullable fun hb' => by simpa [hb'] using hb
  | defaultable b =>
    rw [step, on_setDefaultable hc] at h
    cases h
    exact .defaultable
  | unique b =>
    rw [step, on_setUnique hc] at h
    cases h
    exact .unique
  | identity b =>
    rw [step, on_setIdentity hc] at h
    split at h
    · cases h
    next hb =>
      cases h
      exact .identity fun hb' => by simpa [hb'] using hb
  | default v =>
    rw [step, on_setDefault hc] at h
    split at h
    · cases h
    next hi =>
      cases h
      exact .default (by simpa using hi)
  | declared m =>
    rw [step, on_setDeclared hc] at h
    cases h
    exact .declared
  | typeInfo info =>
    rw [step, on_setTypeInfo hc] at h
    cases h
    exact .typeInfo
  | constraints s =>
    rw [step, on_setConstraints hc] at h
    cases h
    exact .constraints
  | wrapper mode template =>
    rw [step, on_setWrapper hc] at h
    split at h
    next t ht =>
      cases h
      exact .wrapper ht
    · cases h
  | adopt info =>
    rw [step, on_adopt hc] at h
    split at h
    next hi =>
      cases h
      exact .adoptIdentity hi
    next hi =>
      cases h
      exact .adoptDefault (by simpa using hi)

/-- A step succeeds exactly by its rules, on a column that is not sealed. -/
theorem on_step_eq_ok_iff :
    (step s).on c = (.ok (), c') ↔ c.isSealed = false ∧ Taken c s c' := by
  constructor
  · intro h
    cases hc : c.isSealed with
    | true =>
      rw [on_step_of_sealed (of_decide_eq_true hc)] at h
      cases h
    | false => exact ⟨rfl, taken_of_on_step hc h⟩
  · rintro ⟨hc, h⟩
    exact h.on_step hc

/-- Refused or not, a step leaves the column alone or keeps to its rule. -/
theorem on_step_cases (s : ColumnStep) (c : Column) :
    ((step s).on c).2 = c ∨ Taken c s ((step s).on c).2 := by
  cases h : ((step s).on c).1 with
  | error e => exact .inl (atomic_step s c e h)
  | ok u => exact .inr (on_step_eq_ok_iff.1 (Prod.ext h rfl)).2

theorem on_copyFrom_eq_ok_iff :
    (copyFrom source).on c = (.ok (), c') ↔
      c.isSealed = false ∧ (source.nullable = true → c.primaryKey = false) ∧
        c' = c.withConfiguration source := by
  constructor
  · intro h
    cases hc : c.isSealed with
    | true =>
      rw [on_copyFrom_of_sealed (of_decide_eq_true hc)] at h
      cases h
    | false =>
      rw [on_copyFrom hc] at h
      split at h
      · cases h
      next hk =>
        cases h
        exact ⟨rfl, fun hn => by simpa [hn] using hk, rfl⟩
  · rintro ⟨hc, hk, rfl⟩
    have hb : ¬ (source.nullable && c.primaryKey) = true := by simpa using hk
    rw [on_copyFrom hc, if_neg hb]

theorem on_copyFrom_cases (source c : Column) :
    ((copyFrom source).on c).2 = c ∨
      (source.nullable = true → c.primaryKey = false) ∧
        (copyFrom source).on c = (.ok (), c.withConfiguration source) := by
  cases h : ((copyFrom source).on c).1 with
  | error e => exact .inl (atomic_copyFrom source c e h)
  | ok u =>
    have hok : (copyFrom source).on c = (.ok (), ((copyFrom source).on c).2) := Prod.ext h rfl
    obtain ⟨-, hk, hc'⟩ := on_copyFrom_eq_ok_iff.1 hok
    exact .inr ⟨hk, by rw [hok, hc']⟩

/-! ## Labels -/

/-- What a column is called, and the table that it belongs to. -/
def label (c : Column) : String × Option String := (c.identifier, c.table)

theorem Taken.label_eq (h : Taken c s c') : c'.label = c.label := by
  cases h <;> rfl

theorem label_on_step (s : ColumnStep) (c : Column) : ((step s).on c).2.label = c.label := by
  rcases on_step_cases s c with h | h
  · rw [h]
  · exact h.label_eq

theorem label_on_copyFrom (source c : Column) : ((copyFrom source).on c).2.label = c.label := by
  rcases on_copyFrom_cases source c with h | ⟨-, h⟩
  · rw [h]
  · rw [h]
    rfl

end TypedSql.Column
