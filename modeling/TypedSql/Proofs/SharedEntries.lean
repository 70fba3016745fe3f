import TypedSql.Proofs.TableComparison

/-!
# Columns that share an entry

Each column of a table is looked up by itself, so one entry may stand for two columns.  That happens
exactly to columns whose names differ in the case of letters alone and which both go by the first
entry of these letters (`Introspection.sharesEntry_iff`); of two columns with entries of their own
it never happens.
-/

namespace TypedSql

namespace Introspection

variable {m : Introspection} {i j key : String}

/-- Two columns are compared with one and the same entry. -/
def SharesEntry (m : Introspection) (i j : String) : Prop :=
  ∃ key, m.Chosen i key ∧ m.Chosen j key

/-- A column called `i` goes by the first entry of its letters: it has none of its own, or that is
the first one. -/
structure GoesByFirst (m : Introspection) (i key : String) : Prop where
  isLeast : Text.IsLeast (m.Offers i) key
  own : m.contains i = true → i = key

theorem isLeast_offers_congr (h : Text.sameLetters i j = true) :
    Text.IsLeast (m.Offers i) key ↔ Text.IsLeast (m.Offers j) key :=
  Text.isLeast_congr fun k => and_congr_right fun _ => Text.sameLetters_congr h k

theorem GoesByFirst.chosen (h : m.GoesByFirst i key) : m.Chosen i key := by
  cases hi : m.contains i with
  | true =>
    obtain rfl := h.own hi
    exact .own hi
  | false => exact .first hi h.isLeast

theorem Chosen.own_eq (h : m.Chosen i key) (hi : m.contains i = true) : i = key :=
  (Chosen.own hi).unique h

theorem Chosen.isLeast_of_ne (h : m.Chosen i key) (hne : i ≠ key) :
    Text.IsLeast (m.Offers i) key := by
  cases h with
  | own => exact absurd rfl hne
  | first _ hfirst => exact hfirst

theorem SharesEntry.sameLetters (h : m.SharesEntry i j) : Text.sameLetters i j = true := by
  obtain ⟨key, hi, hj⟩ := h
  rw [Text.sameLetters_iff, Text.sameLetters_iff.1 hi.offers.2, Text.sameLetters_iff.1 hj.offers.2]

theorem sharesEntry_iff (hne : i ≠ j) :
    m.SharesEntry i j ↔
      Text.sameLetters i j = true ∧ ∃ key, m.GoesByFirst i key ∧ m.GoesByFirst j key := by
  constructor
  · intro h
    have hletters := h.sameLetters
    obtain ⟨key, hi, hj⟩ := h
    -- the entry is not the own one of both
    have hfirst : Text.IsLeast (m.Offers i) key := by
      by_cases hik : i = key
      · have hjk : j ≠ key := fun hjk => hne (hik.trans hjk.symm)
        exact (isLeast_offers_congr hletters).2 (hj.isLeast_of_ne hjk)
      · exact hi.isLeast_of_ne hik
    have hfirst' := (isLeast_offers_congr hletters).1 hfirst
    exact ⟨hletters, key, ⟨hfirst, hi.own_eq⟩, ⟨hfirst', hj.own_eq⟩⟩
  · rintro ⟨-, key, hi, hj⟩
    exact ⟨key, hi.chosen, hj.chosen⟩

theorem SharesEntry.not_both_own (h : m.SharesEntry i j) (hne : i ≠ j) :
    m.contains i = false ∨ m.contains j = false := by
  obtain ⟨key, hi, hj⟩ := h
  by_contra hboth
  simp only [not_or, Bool.not_eq_false] at hboth
  exact hne ((hi.own_eq hboth.1).trans (hj.own_eq hboth.2).symm)

end Introspection

/-! ## Tables -/

namespace Table

variable {t : Table} {m : Introspection} {c : Column} {name i : String}

theorem missingColumn_not_mem_failures (c : Column) (info : Introspected) (name i : String) :
    .missingColumn name i ∉ c.failures info := by
  intro h
  cases Column.mem_failures_iff.1 h

/-- A column is missing exactly if there is no entry of its letters. -/
theorem missingColumn_mem_validate_iff :
    .missingColumn name i ∈ (t.validate m).value ↔
      t.name = name ∧ ∃ c ∈ t.columns, c.identifier = i ∧ ∀ key, ¬ m.Offers i key := by
  rw [value_validate, List.mem_flatMap]
  constructor
  · rintro ⟨c, hc, hmem⟩
    have hreports := t.reports_validateColumn m c
    generalize (t.validateColumn m c).value = fs at hmem hreports
    cases hreports with
    | @compared key info _ _ =>
      rw [Column.value_validate] at hmem
      exact absurd hmem (missingColumn_not_mem_failures c info name i)
    | missing hnone =>
      cases List.mem_singleton.1 hmem
      exact ⟨rfl, c, hc, rfl, hnone⟩
  · rintro ⟨rfl, c, hc, rfl, hnone⟩
    refine ⟨c, hc, ?_⟩
    rw [← reports_iff.1 (.missing hnone)]
    exact List.mem_singleton_self _

theorem pairwise_ne_of_nodup (h : t.identifiers.Nodup) :
    t.columns.Pairwise fun c c' => c.identifier ≠ c'.identifier :=
  List.pairwise_map.1 h

/-- A column is missing exactly if there is no entry of its letters.  If none is missing, each is
compared with an entry, and two of them with the same one exactly if they have the same letters and
both go by the first entry of these, in which case one of the two has no entry of its own. -/
theorem entries_shared_by_columns (name : String) (steps : List TableStep) (m : Introspection) :
    let t := (new name).after steps
    (∀ c ∈ t.columns, .missingColumn name c.identifier ∈ (t.validate m).value ↔
      ∀ key, ¬ m.Offers c.identifier key) ∧
    ((∀ table column, .missingColumn table column ∉ (t.validate m).value) →
      (∀ c ∈ t.columns, ∃ key info, m.Chosen c.identifier key ∧ m.get? key = some info ∧
        (t.validateColumn m c).value = (c.validate info).value) ∧
      t.columns.Pairwise fun c c' =>
        (m.SharesEntry c.identifier c'.identifier ↔
          Text.sameLetters c.identifier c'.identifier = true ∧
            ∃ key, m.GoesByFirst c.identifier key ∧ m.GoesByFirst c'.identifier key) ∧
        (m.SharesEntry c.identifier c'.identifier →
          m.contains c.identifier = false ∨ m.contains c'.identifier = false)) := by
  intro t
  have ht : t.Labelled name := (labelled_new name).after steps
  have hmissing : ∀ c ∈ t.columns, .missingColumn name c.identifier ∈ (t.validate m).value ↔
      ∀ key, ¬ m.Offers c.identifier key := by
    intro c hc
    rw [missingColumn_mem_validate_iff]
    exact ⟨fun ⟨_, _, _, _, hnone⟩ => hnone, fun hnone => ⟨ht.name_eq, c, hc, rfl, hnone⟩⟩
  refine ⟨hmissing, fun h => ⟨fun c hc => ?_, ?_⟩⟩
  · rcases m.exists_chosen_or c.identifier with ⟨key, hkey⟩ | hnone
    · obtain ⟨info, hinfo⟩ := Introspection.exists_get?_of_contains hkey.offers.1
      exact ⟨key, info, hkey, hinfo, (reports_iff.1 (.compared hkey hinfo)).symm⟩
    · exact absurd ((hmissing c hc).2 hnone) (h name c.identifier)
  · refine (pairwise_ne_of_nodup ht.distinct).imp fun hne => ?_
    exact ⟨Introspection.sharesEntry_iff hne, fun hshares => hshares.not_both_own hne⟩

/-- Two columns without entries of their own share one, and two with such entries do not. -/
theorem entries_shared_by_columns_of_case :
    let steps : List TableStep :=
      [.add (.new "Id" .string), .add (.new "ID" .string), .add (.new "TAG" .string),
        .add (.new "tag" .string)]
    let m : Introspection := .ofList
      [("id", { name := "id", typeCode := 12 }), ("tag", { name := "tag", typeCode := 12 }),
        ("TAG", { name := "TAG", typeCode := 12 })]
    (∀ table column, .missingColumn table column ∉ (((new "T").after steps).validate m).value) ∧
      m.SharesEntry "Id" "ID" ∧ ¬ m.SharesEntry "TAG" "tag" := by
  intro steps m
  have hitems : (((new "T").after steps).validate m).value = [] := by decide
  have hmissing : ∀ table column,
      .missingColumn table column ∉ (((new "T").after steps).validate m).value := by
    simp [hitems]
  have hpairs := List.pairwise_iff_getElem.1
    ((entries_shared_by_columns "T" steps m).2 hmissing).2
  have hid := hpairs 0 1 (by decide) (by decide) (by decide)
  have htag := hpairs 2 3 (by decide) (by decide) (by decide)
  have hfirst : Text.IsLeast (m.Offers "Id") "id" :=
    Introspection.isLeast_offers_iff.2 (by decide)
  have hfirst' : Text.IsLeast (m.Offers "ID") "id" :=
    Introspection.isLeast_offers_iff.2 (by decide)
  refine ⟨hmissing, hid.1.2 ⟨by decide, "id", ⟨hfirst, by decide⟩, ⟨hfirst', by decide⟩⟩, ?_⟩
  intro hshares
  rcases htag.2 hshares with hown | hown
  · exact absurd hown (by decide)
  · exact absurd hown (by decide)

/-- The one entry there is stands for the column of its name and for one without an entry. -/
theorem exists_shared_entry :
    let t := (new "PEOPLE").after [.add (.new "NAME" .string), .add (.new "name" .string)]
    let m : Introspection := .ofList [("NAME", { name := "NAME", typeCode := 12 })]
    (t.validate m).value = [] ∧ t.identifiers = ["NAME", "name"] ∧
      (∀ key, m.Offers "name" key ↔ key = "NAME") ∧ m.SharesEntry "NAME" "name" := by
  intro t m
  have hfirst : Text.IsLeast (m.Offers "name") "NAME" :=
    Introspection.isLeast_offers_iff.2 (by decide)
  refine ⟨by decide, by decide, fun key => ⟨fun h => ?_, ?_⟩, "NAME", .own (by decide),
    .first (by decide) hfirst⟩
  · have hkey : key ∈ m.keys := SortedMap.mem_keys_iff.2 h.1
    exact List.mem_singleton.1 hkey
  · rintro rfl
    exact hfirst.1

end Table

end TypedSql
