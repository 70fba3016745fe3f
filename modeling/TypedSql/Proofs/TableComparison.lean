import Mathlib.Data.List.Forall2
import TypedSql.Proofs.ColumnFailures
import TypedSql.Proofs.SortedMaps
import TypedSql.Proofs.TableRuns
import TypedSql.Table.Comparison

/-!
# What is reported of a table

A column is compared with the entry of its own name, or else with the first of those whose names
differ from it in the case of letters alone (`Introspection.Chosen`).  What is reported of a table
is what its columns give one after the other (`Table.Reports`), so it depends on the entries that
some column is called like, and of these only on the chosen ones.
-/

namespace TypedSql

/-! ## Letter case -/

namespace Text

variable {s t : String}

theorem sameLetters_iff :
    sameLetters s t = true ↔ s.toList.map Char.toLower = t.toList.map Char.toLower :=
  beq_iff_eq

theorem sameLetters_self (s : String) : sameLetters s s = true := sameLetters_iff.2 rfl

/-- Names with the same letters have the same letters as any third one. -/
theorem sameLetters_congr (h : sameLetters s t = true) (u : String) :
    sameLetters s u = true ↔ sameLetters t u = true := by
  rw [sameLetters_iff, sameLetters_iff, sameLetters_iff.1 h]

end Text

/-! ## The entry for a column -/

namespace Introspection

variable {m m' : Introspection} {i key key' : String} {info : Introspected}

/-- There is an entry of the name `key`, which is `i` up to the case of letters. -/
def Offers (m : Introspection) (i key : String) : Prop :=
  m.contains key = true ∧ Text.sameLetters i key = true

/-- A column called `i` is compared with the entry of the name `key`. -/
inductive Chosen (m : Introspection) (i : String) : String → Prop where
  | own (h : m.contains i = true) : Chosen m i i
  | first {key : String} (h : m.contains i = false) (hfirst : Text.IsLeast (m.Offers i) key) :
      Chosen m i key

theorem Chosen.offers (h : m.Chosen i key) : m.Offers i key := by
  cases h with
  | own h => exact ⟨h, Text.sameLetters_self i⟩
  | first _ hfirst => exact hfirst.1

theorem Chosen.unique (h : m.Chosen i key) (h' : m.Chosen i key') : key = key' := by
  cases h with
  | own h =>
    cases h' with
    | own => rfl
    | first h' => simp [h] at h'
  | first h hfirst =>
    cases h' with
    | own h' => simp [h] at h'
    | first _ hfirst' => exact hfirst.unique hfirst'

theorem isLeast_offers_iff :
    Text.IsLeast (m.Offers i) key ↔ m.keys.find? (Text.sameLetters i) = some key := by
  rw [SortedMap.find?_keys_eq_some_iff]
  refine Text.isLeast_congr fun t => ?_
  rw [SortedMap.mem_keys_iff]
  rfl

theorem exists_chosen_or (m : Introspection) (i : String) :
    (∃ key, m.Chosen i key) ∨ ∀ key, ¬ m.Offers i key := by
  cases hi : m.contains i with
  | true => exact .inl ⟨i, .own hi⟩
  | false =>
    cases hfirst : m.keys.find? (Text.sameLetters i) with
    | some key => exact .inl ⟨key, .first hi (isLeast_offers_iff.2 hfirst)⟩
    | none =>
      refine .inr fun key h => ?_
      exact List.find?_eq_none.1 hfirst key (SortedMap.mem_keys_iff.2 h.1) h.2

theorem exists_get?_of_contains (h : m.contains key = true) : ∃ info, m.get? key = some info :=
  Option.isSome_iff_exists.1 h

theorem entry?_of_get?_eq_none (h : m.get? i = none) :
    m.entry? i = (m.keys.find? (Text.sameLetters i)).bind m.get? := by
  unfold entry?
  rw [h, SortedMap.keys, List.find?_map, Function.comp_def]
  cases he : m.entries.find? fun e => Text.sameLetters i e.1 with
  | none => rfl
  | some e => exact (SortedMap.mem_entries_iff.1 (List.mem_of_find?_eq_some he)).symm

theorem Chosen.entry?_eq (h : m.Chosen i key) : m.entry? i = m.get? key := by
  cases h with
  | own h =>
    obtain ⟨info, hinfo⟩ := exists_get?_of_contains h
    unfold entry?
    rw [hinfo]
  | first h hfirst =>
    have hnone : m.get? i = none := by simpa [SortedMap.contains] using h
    rw [entry?_of_get?_eq_none hnone, isLeast_offers_iff.1 hfirst]
    rfl

theorem entry?_eq_none (h : ∀ key, ¬ m.Offers i key) : m.entry? i = none := by
  have hnone : m.get? i = none := by
    rw [← Option.not_isSome_iff_eq_none]
    exact fun hi => h i ⟨hi, Text.sameLetters_self i⟩
  rw [entry?_of_get?_eq_none hnone]
  cases hfirst : m.keys.find? (Text.sameLetters i) with
  | none => rfl
  | some key => exact absurd (isLeast_offers_iff.2 hfirst).1 (h key)

/-! ### Two maps -/

theorem contains_congr (h : m'.get? key = m.get? key) : m'.contains key = m.contains key :=
  congrArg Option.isSome h

/-- An entry of other letters is not seen under these. -/
theorem get?_insert_of_not_sameLetters (h : Text.sameLetters i key = false) (info : Introspected) :
    ∀ key', Text.sameLetters i key' = true → (m.insert key info).get? key' = m.get? key' := by
  intro key' hkey'
  rw [SortedMap.get?_insert, if_neg]
  intro heq
  rw [Std.LawfulEqOrd.eq_of_compare heq, h] at hkey'
  cases hkey'

/-- Entries of other letters do not matter. -/
theorem entry?_congr
    (h : ∀ key, Text.sameLetters i key = true → m'.get? key = m.get? key) :
    m'.entry? i = m.entry? i := by
  have hoffers : ∀ key, m.Offers i key ↔ m'.Offers i key := fun key =>
    and_congr_left fun hkey => by rw [contains_congr (h key hkey)]
  rcases m.exists_chosen_or i with ⟨key, hkey⟩ | hnone
  · have hkey' : m'.Chosen i key := by
      have hi := contains_congr (h i (Text.sameLetters_self i))
      cases hkey with
      | own ho => exact .own (hi.trans ho)
      | first ho hfirst => exact .first (hi.trans ho) ((Text.isLeast_congr hoffers).1 hfirst)
    rw [hkey.entry?_eq, hkey'.entry?_eq, h key hkey.offers.2]
  · rw [entry?_eq_none hnone, entry?_eq_none fun key => mt (hoffers key).2 (hnone key)]

/-- Beside an entry of its own, the others do not matter for a column. -/
theorem entry?_congr_of_contains (hi : m.contains i = true) (h : m'.get? i = m.get? i) :
    m'.entry? i = m.entry? i := by
  have hi' : m'.contains i = true := (contains_congr h).trans hi
  rw [(Chosen.own hi).entry?_eq, (Chosen.own hi').entry?_eq, h]

end Introspection

/-! ## The items of a table -/

namespace Table

variable {t : Table} {m m' : Introspection} {c : Column} {fs : List Failure}

/-- What a column adds to the report: its differences from the entry that it is compared with, or
that there is none. -/
inductive Reports (t : Table) (m : Introspection) (c : Column) : List Failure → Prop where
  | compared {key : String} {info : Introspected} (hkey : m.Chosen c.identifier key)
      (hinfo : m.get? key = some info) : Reports t m c (c.validate info).value
  | missing (h : ∀ key, ¬ m.Offers c.identifier key) :
      Reports t m c [.missingColumn t.name c.identifier]

theorem reports_validateColumn (t : Table) (m : Introspection) (c : Column) :
    t.Reports m c (t.validateColumn m c).value := by
  unfold validateColumn
  rcases m.exists_chosen_or c.identifier with ⟨key, hkey⟩ | hnone
  · obtain ⟨info, hinfo⟩ := Introspection.exists_get?_of_contains hkey.offers.1
    rw [hkey.entry?_eq, hinfo]
    exact .compared hkey hinfo
  · rw [Introspection.entry?_eq_none hnone]
    exact .missing hnone

theorem reports_iff : t.Reports m c fs ↔ fs = (t.validateColumn m c).value := by
  constructor
  · intro h
    unfold validateColumn
    cases h with
    | compared hkey hinfo => rw [hkey.entry?_eq, hinfo]
    | missing h =>
      rw [Introspection.entry?_eq_none h]
      rfl
  · rintro rfl
    exact t.reports_validateColumn m c

theorem forall₂_reports (t : Table) (m : Introspection) (cs : List Column) :
    cs.Forall₂ (t.Reports m) (cs.map fun c => (t.validateColumn m c).value) := by
  induction cs with
  | nil => exact .nil
  | cons c cs ih => exact .cons (t.reports_validateColumn m c) ih

theorem validateColumn_congr (h : m'.entry? c.identifier = m.entry? c.identifier) :
    t.validateColumn m' c = t.validateColumn m c := by
  rw [validateColumn, validateColumn, h]

theorem verdict_validate_eq_ok_iff :
    Failure.verdict (t.validate m).value = .ok () ↔ ∀ c ∈ t.columns, t.Reports m c [] := by
  rw [Failure.verdict_eq_ok_iff, value_validate, List.flatMap_eq_nil_iff]
  exact forall₂_congr fun c _ => by rw [reports_iff, eq_comm]

/-- What is reported of a table is what its columns give, in their order, each for itself; the
table agrees with its datastore if no column gives anything.  Entries that no column is called
like, up to the case of letters, never matter, and for a column with an entry of its own no other
entry does. -/
theorem validate_column_by_column (t : Table) (m : Introspection) :
    (∃ items, t.columns.Forall₂ (t.Reports m) items ∧ (t.validate m).value = items.flatten) ∧
    (Failure.verdict (t.validate m).value = .ok () ↔ ∀ c ∈ t.columns, t.Reports m c []) ∧
    (∀ m' : Introspection,
      (∀ c ∈ t.columns, ∀ key, Text.sameLetters c.identifier key = true →
        m'.get? key = m.get? key) →
      (t.validate m').value = (t.validate m).value) ∧
    ∀ c ∈ t.columns, m.contains c.identifier = true → ∀ m' : Introspection,
      m'.get? c.identifier = m.get? c.identifier →
      ∀ fs, t.Reports m' c fs ↔ t.Reports m c fs := by
  refine ⟨⟨_, t.forall₂_reports m t.columns, ?_⟩, verdict_validate_eq_ok_iff, ?_, ?_⟩
  · rw [value_validate, List.flatMap_def]
  · intro m' h
    rw [value_validate, value_validate]
    exact List.flatMap_congr fun c hc => by
      rw [validateColumn_congr (Introspection.entry?_congr (h c hc))]
  · intro c _ hi m' h fs
    rw [reports_iff, reports_iff,
      validateColumn_congr (Introspection.entry?_congr_of_contains hi h)]

/-- Of three columns one has an entry of its own, one is compared with the first of two entries of
its letters, and one has none; an entry of other letters is added, and the second entry of the first
column is taken away. -/
theorem validate_column_by_column_of_orders :
    let t := (new "ORDERS").after
      [.add (.new "ID" .long), .add (.new "STATUS" .string), .add (.new "NOTE" .string)]
    let own : Introspected := { name := "ID", typeCode := -5 }
    let m : Introspection := .ofList
      [("status", { name := "status", typeCode := 12 }), ("id", { name := "id", typeCode := 12 }),
        ("Status", { name := "Status", typeCode := 4 }), ("ID", own)]
    let total : Introspected := { name := "TOTAL", typeCode := 3 }
    (t.validate m).value =
        [.typeIncompatible "STATUS" .varchar 4, .missingColumn "ORDERS" "NOTE"] ∧
      (∀ c ∈ t.columns, ∀ key, Text.sameLetters c.identifier key = true →
        (m.insert "TOTAL" total).get? key = m.get? key) ∧
      (t.validate (m.insert "TOTAL" total)).value = (t.validate m).value ∧
      ∃ c ∈ t.columns, m.contains c.identifier = true ∧
        SortedMap.get? (.ofList [("ID", own)]) c.identifier = m.get? c.identifier ∧
        ∀ fs, t.Reports (.ofList [("ID", own)]) c fs ↔ t.Reports m c fs := by
  intro t own m total
  have hother : ∀ c ∈ t.columns, Text.sameLetters c.identifier "TOTAL" = false := by decide
  have hsame : ∀ c ∈ t.columns, ∀ key, Text.sameLetters c.identifier key = true →
      (m.insert "TOTAL" total).get? key = m.get? key := fun c hc =>
    Introspection.get?_insert_of_not_sameLetters (hother c hc) total
  have hid : (Column.new "ID" .long).attach "ORDERS" ∈ t.columns := by decide
  have hown : m.contains "ID" = true := by decide
  have hget : SortedMap.get? (.ofList [("ID", own)]) "ID" = m.get? "ID" := by decide
  obtain ⟨-, -, hadd, hremove⟩ := validate_column_by_column t m
  exact ⟨by decide, hsame, hadd _ hsame, _, hid, hown, hget, hremove _ hid hown _ hget⟩

end Table

end TypedSql
