import TypedSql.Column.Definition
import TypedSql.Proofs.JsonRoundTrip
import TypedSql.Proofs.Reachable
import TypedSql.Proofs.TextDefaults

/-!
# Adopting from the datastore

What a column takes over from its datastore fills gaps: a default that is there stays, and nothing
that was switched on is switched off (`Column.FillsGaps`).  Taking the same report over again
changes nothing.  A default that is taken over has a literal, so a column on which no default was
ever set is never refused a declaration for its default.

A reported default makes the column defaultable, with one exception: a report that the datastore
numbers the column leaves it at that, whatever default comes with it
(`Column.defaultable_adoptAll_iff`).
-/

namespace TypedSql

/-! ## Literals of reported defaults -/

namespace Value

theorem isFinite_of_keyword? {s : List Char} {v : Value} (h : keyword? s = some v) :
    v.isFinite = true := by
  unfold keyword? at h
  split at h <;> cases h <;> rfl

theorem isFinite_of_number? {s : List Char} {v : Value} (h : number? s = some v) :
    v.isFinite = true := by
  unfold number? at h
  split at h
  · cases h
    rfl
  · obtain ⟨x, -, hx⟩ := Option.bind_eq_some_iff.1 h
    split at hx
    next hfinite =>
      cases hx
      exact hfinite
    · cases hx

/-- What is read as an infinite number, or as none, is not taken for a default. -/
theorem isFinite_of_ofDefault? {raw : String} {v : Value} (h : ofDefault? raw = some v) :
    v.isFinite = true := by
  rw [ofDefault?_eq] at h
  unfold bareLiteral? at h
  split at h
  · cases h
    rfl
  · split at h
    next hkeyword =>
      cases h
      exact isFinite_of_keyword? hkeyword
    · exact isFinite_of_number? h

end Value

theorem DialectName.exists_literal?_iff {d : DialectName} {v : Value} :
    (∃ l, d.literal? v = some l) ↔ v.isFinite = true := by
  cases v with
  | float x => cases h : x.isFinite <;> simp [literal?, Value.isFinite, h]
  | null | bool | int | text | bytes => exact ⟨fun _ => rfl, fun _ => ⟨_, rfl⟩⟩

namespace Column

variable {c c' c'' : Column} {info : Introspected}

/-! ## Gaps that are filled -/

/-- The column without what a datastore may add to it. -/
def unadopted (c : Column) : Column :=
  { c with default := none, identity := false, defaultable := false }

/-- A default that is there stays, what is switched on stays so, and all else is as it was. -/
structure FillsGaps (c c' : Column) : Prop where
  default : ∀ v, c.default = some v → c'.default = some v
  identity : c.identity = true → c'.identity = true
  defaultable : c.defaultable = true → c'.defaultable = true
  unadopted : c'.unadopted = c.unadopted

namespace FillsGaps

theorem refl (c : Column) : c.FillsGaps c := ⟨fun _ h => h, id, id, rfl⟩

theorem trans (h : c.FillsGaps c') (h' : c'.FillsGaps c'') : c.FillsGaps c'' where
  default v hv := h'.default v (h.default v hv)
  identity hi := h'.identity (h.identity hi)
  defaultable hd := h'.defaultable (h.defaultable hd)
  unadopted := h'.unadopted.trans h.unadopted

theorem isSealed_eq (h : c.FillsGaps c') : c'.isSealed = c.isSealed := by
  change c'.unadopted.isSealed = c.unadopted.isSealed
  rw [h.unadopted]

end FillsGaps

theorem Taken.fillsGaps (h : c.Taken (.adopt info) c') : c.FillsGaps c' := by
  cases h with
  | adoptIdentity hi => exact ⟨fun _ hv => hv, fun h => by simp [h], id, rfl⟩
  | adoptDefault hi => exact ⟨fun v hv => by simp [hv], id, fun h => by simp [h], rfl⟩

/-- The same report leaves nothing more to be taken over. -/
theorem Taken.adopt_again (h : c.Taken (.adopt info) c') : c'.Taken (.adopt info) c' := by
  cases h with
  | adoptIdentity hi =>
    have hagain := Taken.adoptIdentity (c := { c with identity := c.identity || c.default.isNone }) hi
    simpa using hagain
  | adoptDefault hi =>
    have hagain := Taken.adoptDefault (c := { c with
      defaultable := c.defaultable || info.default.isSome
      default :=
        if c.default.isNone && !c.identity then info.default.bind Value.ofDefault?
        else c.default }) hi
    cases hd : c.default <;> cases hid : c.identity <;> simpa [hd, hid] using hagain

/-! ## Runs of reports -/

theorem taken_adopt (hc : c.isSealed = false) (info : Introspected) :
    c.Taken (.adopt info) ((adopt info).on c).2 := by
  refine taken_of_on_step hc (Prod.ext ?_ rfl)
  change ((adopt info).on c).1 = _
  rw [on_adopt hc]

/-- The column after reports were taken over, one after the other. -/
def adoptAll (c : Column) (reports : List Introspected) : Column :=
  reports.foldl (fun c info => ((adopt info).on c).2) c

/-- What relates a column to itself, and extends along each report, relates it to the column after
all reports. -/
theorem adoptAll_induction {P : Column → List Introspected → Column → Prop}
    (nil : ∀ c, P c [] c)
    (cons : ∀ {c c' u info reports}, c.Taken (.adopt info) c' → P c' reports u →
      P c (info :: reports) u)
    (hc : c.isSealed = false) (reports : List Introspected) :
    P c reports (c.adoptAll reports) := by
  induction reports generalizing c with
  | nil => exact nil c
  | cons info reports ih =>
    have htaken := taken_adopt hc info
    exact cons htaken (ih (htaken.fillsGaps.isSealed_eq.trans hc))

theorem fillsGaps_adoptAll (hc : c.isSealed = false) (reports : List Introspected) :
    c.FillsGaps (c.adoptAll reports) :=
  adoptAll_induction (P := fun c _ u => c.FillsGaps u) FillsGaps.refl
    (fun htaken h => htaken.fillsGaps.trans h) hc reports

theorem Taken.default_of_adopt (h : c.Taken (.adopt info) c') {v : Value}
    (hv : c'.default = some v) :
    c.default = some v ∨ c.default = none ∧ info.default.bind Value.ofDefault? = some v := by
  cases h with
  | adoptIdentity hi => exact .inl hv
  | adoptDefault hi =>
    cases hd : c.default with
    | some w => exact .inl (by simpa [hd] using hv)
    | none =>
      cases hid : c.identity with
      | true => simp [hd, hid] at hv
      | false => exact .inr ⟨rfl, by simpa [hd, hid] using hv⟩

/-- A default is one that was there, or the literal of a report. -/
theorem default_adoptAll (hc : c.isSealed = false) (reports : List Introspected) {v : Value}
    (hv : (c.adoptAll reports).default = some v) :
    c.default = some v ∨
      c.default = none ∧ ∃ info ∈ reports, info.default.bind Value.ofDefault? = some v := by
  revert hv
  refine adoptAll_induction (P := fun c reports u => u.default = some v → c.default = some v ∨
    c.default = none ∧ ∃ info ∈ reports, info.default.bind Value.ofDefault? = some v)
    (fun _ hv => .inl hv) (fun {c c' u info reports} htaken ih hv => ?_) hc reports
  rcases ih hv with hc' | ⟨hc', later, hlater, hread⟩
  · exact (htaken.default_of_adopt hc').imp_right fun h => ⟨h.1, info, List.mem_cons_self, h.2⟩
  · refine .inr ⟨?_, later, List.mem_cons_of_mem info hlater, hread⟩
    cases hd : c.default with
    | none => rfl
    | some w => exact absurd ((htaken.fillsGaps.default w hd).symm.trans hc') nofun

theorem Taken.defaultable_of_adopt_iff (h : c.Taken (.adopt info) c') :
    c'.defaultable = true ↔
      c.defaultable = true ∨ info.default.isSome = true ∧ info.autoIncrement = false := by
  cases h with
  | adoptIdentity hi => simp [hi]
  | adoptDefault hi => simp [hi]

/-- Reports make a column defaultable exactly by a default that comes without numbering. -/
theorem defaultable_adoptAll_iff (hc : c.isSealed = false) (reports : List Introspected) :
    (c.adoptAll reports).defaultable = true ↔ c.defaultable = true ∨
      ∃ info ∈ reports, info.default.isSome = true ∧ info.autoIncrement = false := by
  refine adoptAll_induction (P := fun c reports u => u.defaultable = true ↔ c.defaultable = true ∨
    ∃ info ∈ reports, info.default.isSome = true ∧ info.autoIncrement = false)
    (fun c => by simp) (fun {c c' u info reports} htaken ih => ?_) hc reports
  rw [ih, htaken.defaultable_of_adopt_iff, or_assoc]
  simp

/-! ## Columns without a default of their own -/

/-- Columns on which no default was ever set.  What default one has, it took over from its
datastore, or from another such column. -/
inductive AdoptsDefaults : Column → Prop where
  | new (identifier : String) (type : LogicalType) : AdoptsDefaults (.new identifier type)
  | step {c : Column} {s : ColumnStep} (h : AdoptsDefaults c) (hs : ∀ v, s ≠ .default v) :
      AdoptsDefaults ((step s).on c).2
  | copy {c source : Column} (h : AdoptsDefaults c) (hs : AdoptsDefaults source) :
      AdoptsDefaults ((copyFrom source).on c).2
  | attach {c : Column} (h : AdoptsDefaults c) (table : String) : AdoptsDefaults (c.attach table)
  | toSealed {c : Column} (h : AdoptsDefaults c) : AdoptsDefaults c.toSealed

/-- No step but one writes a default, except for what a report says. -/
theorem Taken.default_cases {s : ColumnStep} (h : c.Taken s c') (hs : ∀ v, s ≠ .default v) {v : Value}
    (hv : c'.default = some v) :
    c.default = some v ∨ ∃ raw, Value.ofDefault? raw = some v := by
  cases h with
  | default => exact absurd rfl (hs _)
  | adoptDefault hi =>
    refine ((Taken.adoptDefault hi).default_of_adopt hv).imp_right fun h => ?_
    obtain ⟨raw, -, hraw⟩ := Option.bind_eq_some_iff.1 h.2
    exact ⟨raw, hraw⟩
  | _ => exact .inl hv

theorem AdoptsDefaults.exists_ofDefault? (h : c.AdoptsDefaults) {v : Value}
    (hv : c.default = some v) : ∃ raw, Value.ofDefault? raw = some v := by
  induction h with
  | new => cases hv
  | @step c s _ hs ih =>
    rcases on_step_cases s c with hsame | htaken
    · exact ih (hsame ▸ hv)
    · rcases htaken.default_cases hs hv with hd | hread
      · exact ih hd
      · exact hread
  | @copy c source _ _ ih ihs =>
    rcases on_copyFrom_cases source c with hsame | ⟨-, hcopy⟩
    · exact ih (hsame ▸ hv)
    · rw [hcopy] at hv
      exact ihs hv
  | attach _ _ ih => exact ih hv
  | toSealed _ ih => exact ih hv

/-- Only a default without a literal is refused as such. -/
theorem exists_default_of_definition_eq {d : Dialect} {i : String}
    (h : c.definition d = .error (.unrenderableDefault i)) :
    ∃ v, c.default = some v ∧ d.name.literal? v = none := by
  unfold definition at h
  split at h
  · cases h
  · split at h
    next e hclause =>
      unfold defaultClause at hclause
      split at hclause
      · cases hclause
      next v hv =>
        split at hclause
        · cases hclause
        next hl => exact ⟨v, hv, hl⟩
    · cases h

theorem AdoptsDefaults.definition_ne (h : c.AdoptsDefaults) (d : Dialect) (i : String) :
    c.definition d ≠ .error (.unrenderableDefault i) := by
  intro hd
  obtain ⟨v, hv, hl⟩ := exists_default_of_definition_eq hd
  obtain ⟨raw, hraw⟩ := h.exists_ofDefault? hv
  obtain ⟨l, hl'⟩ := DialectName.exists_literal?_iff.2 (Value.isFinite_of_ofDefault? hraw)
  cases hl.symm.trans hl'

/-! ## What reports come to -/

/-- Whatever was reported before, a report to an open column is accepted, fills gaps only, and
changes nothing when it comes a second time.  A default that is not one the column had is the
literal of a report, and every dialect has a literal for it; so a column on which no default was
ever set is not refused a declaration for its default. -/
theorem reports_fill_gaps (hc : c.isSealed = false) (reports : List Introspected) :
    c.FillsGaps (c.adoptAll reports) ∧
    (∀ info, ∃ u, (adopt info).on (c.adoptAll reports) = (.ok (), u) ∧
      (c.adoptAll reports).FillsGaps u ∧ (adopt info).on u = (.ok (), u)) ∧
    (∀ v, (c.adoptAll reports).default = some v → c.default = some v ∨
      c.default = none ∧ (∃ info ∈ reports, info.default.bind Value.ofDefault? = some v) ∧
        ∀ d : DialectName, ∃ l, d.literal? v = some l) ∧
    ∀ u : Column, u.AdoptsDefaults → ∀ (d : Dialect) i,
      u.definition d ≠ .error (.unrenderableDefault i) := by
  have hfills := fillsGaps_adoptAll hc reports
  have hopen : (c.adoptAll reports).isSealed = false := hfills.isSealed_eq.trans hc
  refine ⟨hfills, fun info => ?_, fun v hv => ?_, fun u hu => hu.definition_ne⟩
  · have htaken := taken_adopt hopen info
    have hopen' := htaken.fillsGaps.isSealed_eq.trans hopen
    exact ⟨_, htaken.on_step hopen, htaken.fillsGaps, htaken.adopt_again.on_step hopen'⟩
  · refine (default_adoptAll hc reports hv).imp_right fun h => ⟨h.1, h.2, fun d => ?_⟩
    obtain ⟨info, -, hread⟩ := h.2
    obtain ⟨raw, -, hraw⟩ := Option.bind_eq_some_iff.1 hread
    exact DialectName.exists_literal?_iff.2 (Value.isFinite_of_ofDefault? hraw)

/-- A default that is there outlasts another one and numbering, and one that is too great for a number
is left alone. -/
theorem reports_fill_gaps_of_conflict :
    let report : Introspected := { name := "QTY", typeCode := -5 }
    let c : Column := { Column.new "QTY" .long with default := some (.int 7) }
    let reports : List Introspected :=
      [{ report with default := some "8" }, { report with autoIncrement := true }]
    let u : Column :=
      ((step (.adopt { report with default := some "1e999" })).on (Column.new "QTY" .long)).2
    c.isSealed = false ∧ (c.adoptAll reports).default = some (.int 7) ∧ u.AdoptsDefaults ∧
      ∀ (d : Dialect) i, u.definition d ≠ .error (.unrenderableDefault i) := by
  intro report c reports u
  have hu : u.AdoptsDefaults := .step (.new "QTY" .long) nofun
  obtain ⟨hfills, -, -, hdefinition⟩ := reports_fill_gaps (c := c) rfl reports
  exact ⟨rfl, hfills.default _ rfl, hu, hdefinition u hu⟩

/-- An open column accepts every report.  It is defaultable behind reports exactly if it was before
or one of them has a default and does not say that the datastore numbers the column, and then it
stays so behind all further reports. -/
theorem defaultable_iff_reported (hc : c.isSealed = false) (reports later : List Introspected) :
    (∀ info, ((adopt info).on (c.adoptAll reports)).1 = .ok ()) ∧
    ((c.adoptAll reports).defaultable = true ↔ c.defaultable = true ∨
      ∃ info ∈ reports, info.default.isSome = true ∧ info.autoIncrement = false) ∧
    ((c.adoptAll reports).defaultable = true →
      ((c.adoptAll reports).adoptAll later).defaultable = true) := by
  have hopen : (c.adoptAll reports).isSealed = false :=
    (fillsGaps_adoptAll hc reports).isSealed_eq.trans hc
  refine ⟨fun info => ?_, defaultable_adoptAll_iff hc reports,
    (fillsGaps_adoptAll hopen later).defaultable⟩
  rw [on_adopt hopen]

/-- Numbering comes with a default before and after a default of its own. -/
theorem defaultable_iff_reported_of_sequence :
    let plain : Introspected := { name := "ID", typeCode := -5, default := some "0" }
    let numbered : Introspected := { plain with autoIncrement := true }
    let c := Column.new "ID" .long
    c.isSealed = false ∧ (c.adoptAll [numbered]).defaultable = false ∧
      (c.adoptAll [numbered, plain]).defaultable = true ∧
      ((c.adoptAll [numbered, plain]).adoptAll [numbered]).defaultable = true := by
  intro plain numbered c
  obtain ⟨-, hnumbered, -⟩ := defaultable_iff_reported (c := c) rfl [numbered] []
  obtain ⟨-, hplain, hlater⟩ := defaultable_iff_reported (c := c) rfl [numbered, plain] [numbered]
  have hmarked : (c.adoptAll [numbered, plain]).defaultable = true :=
    hplain.2 (.inr ⟨plain, by simp, rfl, rfl⟩)
  refine ⟨rfl, ?_, hmarked, hlater hmarked⟩
  rw [Bool.eq_false_iff, ne_eq, hnumbered]
  simp [c, Column.new, numbered]

/-- A sequence call on a column that the datastore numbers. -/
theorem exists_reported_default_unmarked :
    let c := Column.new "ID" .long
    let info : Introspected :=
      { name := "ID", typeCode := -5, default := some "nextval('ids')", autoIncrement := true }
    c.Reachable ∧ c.isSealed = false ∧ info.default.isSome = true ∧
      ∃ u : Column, (adopt info).on c = (.ok (), u) ∧ u.defaultable = false := by
  intro c info
  have hc : c.Reachable := ⟨[.newColumn "c" "ID" .long], .inl ⟨"c", by decide⟩⟩
  exact ⟨hc, rfl, rfl, { c with identity := true }, on_adopt rfl info, rfl⟩

end Column

end TypedSql
