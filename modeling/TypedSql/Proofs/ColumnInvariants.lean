import TypedSql.Column.Definition
import TypedSql.Proofs.Reachable

/-!
# Invariants of columns

A reachable column is never a nullable primary key, and never numbered by the datastore with a
default besides.  Its state tells whether it has type information, except for one step: copying
from a column without type information takes it away and leaves the state as it is.
-/

namespace TypedSql

/-! ## Keys and identities -/

namespace Column

/-- The two rules that relate fields of a column. -/
structure Consistent (c : Column) : Prop where
  key : c.primaryKey = true → c.nullable = false
  identity : c.identity = true → c.default = none

theorem kept_consistent : Kept Consistent where
  new _ _ := ⟨fun h => Bool.noConfusion h, fun h => Bool.noConfusion h⟩
  attach h _ := ⟨h.key, h.identity⟩
  toSealed h := ⟨h.key, h.identity⟩
  step {c c' s} h hs := by
    cases hs with
    | primaryKey => exact ⟨fun _ => rfl, h.identity⟩
    | @nullable b hb =>
      refine ⟨fun hk => ?_, h.identity⟩
      cases b with
      | false => rfl
      | true => exact absurd (hk.symm.trans (hb rfl)) (by decide)
    | identity hi => exact ⟨h.key, hi⟩
    | default hi => exact ⟨h.key, fun hi' => absurd (hi'.symm.trans hi) (by decide)⟩
    | @adoptIdentity info hi =>
      refine ⟨h.key, fun hid => ?_⟩
      rcases Bool.or_eq_true_iff.1 hid with hid | hid
      · exact h.identity hid
      · exact Option.isNone_iff_eq_none.1 hid
    | @adoptDefault info hi =>
      refine ⟨h.key, fun hid => ?_⟩
      have hid : c.identity = true := hid
      change (if c.default.isNone && !c.identity then _ else c.default) = none
      rw [hid, Bool.not_true, Bool.and_false, if_neg Bool.false_ne_true]
      exact h.identity hid
    | _ => exact ⟨h.key, h.identity⟩

theorem Consistent.withConfiguration {c source : Column} (hs : source.Consistent)
    (hk : source.nullable = true → c.primaryKey = false) :
    (c.withConfiguration source).Consistent := by
  refine ⟨fun hkey => ?_, hs.identity⟩
  have hkey : c.primaryKey = true := hkey
  change source.nullable = false
  cases hn : source.nullable with
  | false => rfl
  | true => exact absurd (hkey.symm.trans (hk hn)) (by decide)

/-- A reachable column is not both a primary key and nullable, nor both an identity and with a
default. -/
theorem Reachable.never_conflicting {c : Column} (h : c.Reachable) :
    ¬ (c.primaryKey = true ∧ c.nullable = true) ∧
      ¬ (c.identity = true ∧ c.default.isSome = true) := by
  have hc : c.Consistent := h.of_kept kept_consistent fun hs _ hk => hs.withConfiguration hk
  constructor
  · rintro ⟨hk, hn⟩
    rw [hc.key hk] at hn
    cases hn
  · rintro ⟨hi, hd⟩
    rw [hc.identity hi] at hd
    cases hd

/-- A key that refuses a nullable source, takes over an identity in its table, refuses a default
there, and is sealed. -/
theorem Reachable.never_conflicting_key :
    let id : Column :=
      { Column.new "ID" .long with
        table := some "PEOPLE", primaryKey := true, identity := true, state := .sealed }
    id.Reachable ∧ ¬ (id.primaryKey = true ∧ id.nullable = true) ∧
      ¬ (id.identity = true ∧ id.default.isSome = true) := by
  intro id
  have hid : id.Reachable := by
    refine ⟨[.newColumn "k" "ID" .long, .configure (.loose "k") .primaryKey,
      .newColumn "n" "NOTE" .string, .configure (.loose "n") (.nullable true),
      .configure (.loose "n") (.default (.text "-")), .copy (.loose "n") (.loose "k"),
      .newTable "t" "PEOPLE", .addCopy "t" "k",
      .newColumn "i" "SEQ" .long, .configure (.loose "i") (.identity true),
      .copy (.loose "i") (.within "t" "ID"), .configure (.within "t" "ID") (.default (.int 1)),
      .finalize "t"], .inr ⟨"t", ⟨"PEOPLE", [id], true⟩, ?_, List.mem_singleton_self id⟩⟩
    decide
  exact ⟨hid, hid.never_conflicting⟩

/-! ## States and type information -/

/-- Until the column is sealed, type information shows in its state. -/
def Announced (c : Column) : Prop :=
  c.state ≠ .sealed → c.typeInfo.isSome = true → c.state = .configured

/-- A configured column has type information. -/
def Backed (c : Column) : Prop := c.state = .configured → c.typeInfo.isSome = true

theorem kept_announced : Kept Announced where
  new _ _ _ h := by cases h
  attach h _ := h
  toSealed _ hopen := absurd rfl hopen
  step h hs := by
    cases hs with
    | typeInfo => exact fun _ _ => rfl
    | _ => exact h

theorem kept_backed : Kept Backed where
  new _ _ h := by cases h
  attach h _ := h
  toSealed _ h := by cases h
  step h hs := by
    cases hs with
    | typeInfo => exact fun _ => rfl
    | _ => exact h

theorem state_withConfiguration_of_none {c source : Column} (hs : source.typeInfo = none) :
    (c.withConfiguration source).state = c.state := by
  rw [withConfiguration, hs]
  rfl

theorem announced_withConfiguration (c source : Column) :
    (c.withConfiguration source).Announced := by
  intro _ hinfo
  have hinfo : source.typeInfo.isSome = true := hinfo
  rw [withConfiguration, hinfo]
  rfl

/-- Copying takes no type information away unless the source has none. -/
theorem Backed.withConfiguration {c source : Column} (hc : c.Backed)
    (hs : source.typeInfo = none → c.typeInfo = none) : (c.withConfiguration source).Backed := by
  intro hstate
  change source.typeInfo.isSome = true
  cases ht : source.typeInfo with
  | some info => rfl
  | none =>
    rw [state_withConfiguration_of_none ht] at hstate
    have hinfo := hc hstate
    rwa [hs ht] at hinfo

theorem defaultClause_ne_missingTypeInfo (c : Column) (d : Dialect) (i : String) :
    c.defaultClause d ≠ .error (.missingTypeInfo i) := by
  intro h
  unfold defaultClause at h
  split at h
  · cases h
  · split at h <;> cases h

theorem definition_eq_missingTypeInfo_iff {c : Column} {d : Dialect} {i : String} :
    c.definition d = .error (.missingTypeInfo i) ↔ c.typeInfo = none ∧ c.identifier = i := by
  have hclause := c.defaultClause_ne_missingTypeInfo d i
  unfold definition
  cases c.typeInfo with
  | none => simp
  | some info =>
    cases h : c.defaultClause d with
    | ok clause => simp
    | error e => simpa [h] using hclause

/-- A copy from a column without type information leaves a configured one without any. -/
theorem configured_of_copyFrom {c c' source : Column}
    (hcopy : (copyFrom source).on c = (.ok (), c')) (hs : source.typeInfo = none)
    (hc : c.state = .configured) :
    c'.state = .configured ∧ ∀ d, c'.definition d = .error (.missingTypeInfo c.identifier) := by
  obtain ⟨-, -, rfl⟩ := on_copyFrom_eq_ok_iff.1 hcopy
  refine ⟨(state_withConfiguration_of_none hs).trans hc, fun d => ?_⟩
  exact definition_eq_missingTypeInfo_iff.2 ⟨hs, rfl⟩

/-- A reachable column that is configured and cannot be declared for want of type information. -/
theorem exists_configured_without_typeInfo :
    ∃ c : Column, c.Reachable ∧ c.state = .configured ∧ c.typeInfo = none ∧
      ∀ d, c.definition d = .error (.missingTypeInfo "TITLE") := by
  let info : TypeInfo := { typeName := "VARCHAR", jdbcType := .varchar, sizeSpec := .length }
  let typed : Column :=
    { Column.new "TITLE" .string with typeInfo := some info, state := .configured }
  let plain : Column := Column.new "NOTE" .string
  have hcopy : (copyFrom plain).on typed = (.ok (), typed.withConfiguration plain) := by rfl
  obtain ⟨hstate, hdefinition⟩ := configured_of_copyFrom hcopy rfl rfl
  refine ⟨typed.withConfiguration plain, ?_, hstate, rfl, hdefinition⟩
  refine ⟨[.newColumn "t" "TITLE" .string, .configure (.loose "t") (.typeInfo info),
    .newColumn "p" "NOTE" .string, .copy (.loose "p") (.loose "t")], .inl ⟨"t", ?_⟩⟩
  decide

end Column

namespace Catalog

/-- The command copies from a column without type information to one that has some, which does not
refuse it. -/
def strips (k : Catalog) : SchemaCommand → Bool
  | .copy source target =>
    match k.column? source, k.column? target with
    | some s, some c =>
      s.typeInfo.isNone && c.typeInfo.isSome && ((Column.copyFrom s).on c).1.isOk
    | _, _ => false
  | _ => false

/-- One of the commands does so when its turn comes. -/
def everStrips : Catalog → List SchemaCommand → Bool
  | _, [] => false
  | k, command :: commands => k.strips command || everStrips (k.exec command).value.1 commands

theorem All.backed {k : Catalog} (hk : k.All Column.Backed) {command : SchemaCommand}
    (h : k.strips command = false) : ((Catalog.run command).on k).2.All Column.Backed := by
  refine hk.run Column.kept_backed command fun source target s c hcommand hs hc _ hcb => ?_
  rcases Column.on_copyFrom_cases s c with hsame | ⟨-, hcopy⟩
  · rwa [hsame]
  · rw [hcopy]
    refine hcb.withConfiguration fun hinfo => ?_
    simp only [hcommand, strips, hs, hc, hcopy, hinfo, Option.isNone_none, Bool.true_and] at h
    simpa [Except.isOk, Except.toBool] using h

theorem All.backed_after {k : Catalog} (hk : k.All Column.Backed) {commands : List SchemaCommand}
    (h : k.everStrips commands = false) : (k.after commands).All Column.Backed := by
  induction commands generalizing k with
  | nil => exact hk
  | cons command commands ih =>
    obtain ⟨hcommand, hrest⟩ := Bool.or_eq_false_iff.1 h
    rw [value_exec_fst] at hrest
    rw [after_cons]
    exact ih (hk.backed hcommand) hrest

end Catalog

/-- Until a reachable column is sealed, type information shows in its state; and if no command on
the way copied from a column without type information to one that had some, then the column is
configured exactly if it has type information, unbound exactly if it has none, and a configured
column is never refused a declaration for want of type information. -/
theorem Column.state_tells_typeInfo {commands : List SchemaCommand} {c : Column}
    (hc : (Catalog.after {} commands).Has c) (hopen : c.state ≠ .sealed) :
    (c.typeInfo.isSome = true → c.state = .configured) ∧
    (Catalog.everStrips {} commands = false →
      (c.state = .configured ↔ c.typeInfo.isSome = true) ∧
      (c.state = .unbound ↔ c.typeInfo = none) ∧
      ∀ d i, c.state = .configured → c.definition d ≠ .error (.missingTypeInfo i)) := by
  have hreachable : c.Reachable := ⟨commands, hc⟩
  have hannounced : c.typeInfo.isSome = true → c.state = .configured :=
    hreachable.of_kept kept_announced (fun {s c} _ _ _ => announced_withConfiguration c s) hopen
  refine ⟨hannounced, fun h => ?_⟩
  have hbacked : c.Backed := (Catalog.all_empty Backed).backed_after h c hc
  refine ⟨⟨hbacked, hannounced⟩, ⟨fun hstate => ?_, fun hinfo => ?_⟩, fun d i hstate hd => ?_⟩
  · cases hinfo : c.typeInfo with
    | none => rfl
    | some info =>
      have hstate' := hannounced (congrArg Option.isSome hinfo)
      exact absurd (hstate.symm.trans hstate') (by decide)
  · cases hstate : c.state with
    | unbound => rfl
    | configured =>
      have hinfo' := hbacked hstate
      rw [hinfo] at hinfo'
      cases hinfo'
    | sealed => exact absurd hstate hopen
  · have hinfo := hbacked hstate
    rw [(definition_eq_missingTypeInfo_iff.1 hd).1] at hinfo
    cases hinfo

/-- A typed column is copied onto an untyped one, which then refuses to be copied from a nullable
one as it has become a key. -/
theorem Column.state_tells_typeInfo_of_copy :
    let info : TypeInfo := { typeName := "BIGINT", jdbcType := .bigint }
    let commands : List SchemaCommand :=
      [.newColumn "a" "A" .long, .configure (.loose "a") (.typeInfo info),
        .newColumn "b" "B" .long, .copy (.loose "a") (.loose "b"),
        .configure (.loose "b") .primaryKey, .newColumn "n" "N" .long,
        .configure (.loose "n") (.nullable true), .copy (.loose "n") (.loose "b")]
    let b : Column :=
      { Column.new "B" .long with primaryKey := true, typeInfo := some info, state := .configured }
    (Catalog.after {} commands).Has b ∧ b.state ≠ .sealed ∧
      Catalog.everStrips {} commands = false ∧
      (b.state = .configured ↔ b.typeInfo.isSome = true) := by
  intro info commands b
  have hb : (Catalog.after {} commands).Has b := .inl ⟨"b", by decide⟩
  have hopen : b.state ≠ .sealed := by decide
  have hnever : Catalog.everStrips {} commands = false := by decide
  exact ⟨hb, hopen, hnever, ((state_tells_typeInfo hb hopen).2 hnever).1⟩

end TypedSql
