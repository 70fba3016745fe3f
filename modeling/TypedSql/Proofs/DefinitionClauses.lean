import TypedSql.Proofs.DefaultRoundTrip
import TypedSql.Proofs.DefinitionText
import TypedSql.Proofs.LiteralTokens

/-!
# Definitions are unambiguous

What a definition quotes cannot pass for one of its clauses.  The name is read back in front of the
type, and what stands behind the type is read back by the lexer of the dialect (`DialectName.lex`),
to which a quotation is one lexeme, whatever it holds.  No lexeme of a literal is a space, so the
literal of a default ends at the first one (`Column.tailTokens_inj`), and the clauses behind it are
told apart by their letters.
-/

namespace TypedSql

/-- What comes before the first `a` is told from what is empty or begins with `a`. -/
theorem append_inj_of_not_mem {α : Type} [DecidableEq α] {a : α} {s s' t t' : List α}
    (hs : a ∉ s) (hs' : a ∉ s') (ht : ∀ x ∈ t.head?, x = a) (ht' : ∀ x ∈ t'.head?, x = a)
    (h : s ++ t = s' ++ t') : s = s' ∧ t = t' := by
  have htake : ∀ {s t : List α}, a ∉ s → (∀ x ∈ t.head?, x = a) →
      (s ++ t).takeWhile (· ≠ a) = s := by
    intro s t hs ht
    have hpos : ∀ x ∈ s, decide (x ≠ a) = true := by
      intro x hx
      exact decide_eq_true fun hxa => hs (hxa ▸ hx)
    rw [List.takeWhile_append_of_pos hpos]
    cases t with
    | nil => simp
    | cons x t => simp [ht x rfl]
  obtain rfl : s = s' := by rw [← htake hs ht, h, htake hs' ht']
  exact ⟨rfl, List.append_cancel_left h⟩

/-! ## Characters of numbers -/

namespace Numeral

variable {c : Char} {digits : List Char}

theorem mem_positional {p : Int} (h : c ∈ positional digits p) :
    c ∈ digits ∨ c = '0' ∨ c = '.' := by
  unfold positional at h
  split at h
  · rcases List.mem_cons.1 h with h | h
    · exact .inr (.inl h)
    rcases List.mem_cons.1 h with h | h
    · exact .inr (.inr h)
    rcases List.mem_append.1 h with h | h
    · exact .inr (.inl (List.eq_of_mem_replicate h))
    · exact .inl h
  · have hwhole : ∀ n, c ∈ digits.take n ++ List.replicate (n - digits.length) '0' →
        c ∈ digits ∨ c = '0' := by
      intro n hn
      exact (List.mem_append.1 hn).imp List.mem_of_mem_take List.eq_of_mem_replicate
    simp only at h
    split at h
    · rcases List.mem_append.1 h with h | h
      · exact (hwhole _ h).imp_right .inl
      · exact .inr (List.mem_pair.1 h).symm
    · rcases List.mem_append.1 h with h | h
      · exact (hwhole _ h).imp_right .inl
      rcases List.mem_cons.1 h with h | h
      · exact .inr (.inr h)
      · exact .inl (List.mem_of_mem_drop h)

theorem mem_scientific {x : Int} (h : c ∈ scientific digits x) :
    c ∈ digits ∨ c = '.' ∨ c = 'e' ∨ c ∈ intText x := by
  unfold scientific at h
  split at h
  all_goals
    simp only [List.mem_cons, List.mem_append] at h ⊢
    grind

/-- The text of a number has digits, a point, a sign and an exponent. -/
theorem mem_text {x : Double} (h : c ∈ x.text) : c.isDigit = true ∨ c ∈ ['-', '.', 'e'] := by
  have hwrite : ∀ (l : DecimalLayout) (d : Nat) (k : Int), c ∈ l.write d k →
      c.isDigit = true ∨ c ∈ ['-', '.', 'e'] := by
    intro l d k h
    unfold DecimalLayout.write at h
    simp only at h
    split at h
    · rcases mem_positional h with h | rfl | rfl
      · exact .inl (isDigit_of_mem_natText h)
      · exact .inl (by decide)
      · exact .inr (by decide)
    · rcases mem_scientific h with h | rfl | rfl | h
      · exact .inl (isDigit_of_mem_natText h)
      · exact .inr (by decide)
      · exact .inr (by decide)
      · rcases mem_intText h with rfl | h
        · exact .inr (by decide)
        · exact .inl h
  have hunsigned : c ∈ (if x.magnitude = 0 then literalLayout.write 0 0
      else literalLayout.write (shortestDecimal x.significand x.power).1
        (shortestDecimal x.significand x.power).2) → c.isDigit = true ∨ c ∈ ['-', '.', 'e'] := by
    split <;> exact hwrite _ _ _
  unfold Double.text at h
  simp only at h
  split at h
  · rcases List.mem_cons.1 h with rfl | h
    · exact .inr (by decide)
    · exact hunsigned h
  · exact hunsigned h

end Numeral

/-! ## Literals -/

namespace Token

theorem map_read_plain (s : List Char) : (plain s).map read = s.map .plain := by
  rw [plain, List.map_map]
  rfl

theorem mem_map_read_plain {c : Char} {s : List Char} : .plain c ∈ (plain s).map read ↔ c ∈ s := by
  simp [map_read_plain]

end Token

namespace DialectName

variable (d : DialectName)

theorem space_not_mem_hexText (bs : List UInt8) : ' ' ∉ hexText bs := fun h =>
  forall_mem_hexText (P := (· ≠ ' ')) (by decide) bs _ h rfl

/-- What the lexer takes the literal of a value for. -/
def valueLexemes (v : Value) : List Lexeme := (d.valueTokens v).map Token.read

/-- Outside the quotations of a literal there is no space. -/
theorem space_not_mem_valueLexemes (v : Value) : .plain ' ' ∉ d.valueLexemes v := by
  unfold valueLexemes
  cases v with
  | null => simp [valueTokens, Token.plain, Token.read]
  | bool b => cases d <;> cases b <;> decide
  | int n =>
    intro h
    rcases Numeral.mem_intText (Token.mem_map_read_plain.1 h) with h | h
    · exact absurd h (by decide)
    · exact absurd h (by decide)
  | float x =>
    intro h
    simp only [valueTokens] at h
    split at h
    · rcases Numeral.mem_text (Token.mem_map_read_plain.1 h) with h | h
      · exact absurd h (by decide)
      · exact absurd h (by decide)
    · exact absurd h (by simp [Token.read])
  | text s => simp [valueTokens, Token.text, Token.read]
  | bytes bs =>
    cases d with
    | postgres => simp [valueTokens, bytesTokens, Token.text, Token.read]
    | sqlServer =>
      intro h
      have hmem : ' ' ∈ '0' :: 'x' :: hexText bs := Token.mem_map_read_plain.1 h
      simp [space_not_mem_hexText] at hmem
    | oracle => simp [valueTokens, bytesTokens, Token.plain, Token.text, Token.read]
    | ansi | mySql => simp [valueTokens, bytesTokens, Token.plain, Token.text, Token.read]

/-- The lexemes of a value make up its literal. -/
theorem ofList_valueLexemes {v : Value} {l : String} (h : d.literal? v = some l) :
    String.ofList ((d.valueLexemes v).flatMap (Lexeme.write d)) = l := by
  have hwrite := congrArg Fragment.sql (d.write_valueTokens v)
  rw [h] at hwrite
  exact hwrite

/-! ## Names -/

theorem quoteIdentifier_append_inj {i i' t t' : String}
    (h : d.quoteIdentifier i ++ " " ++ t = d.quoteIdentifier i' ++ " " ++ t') :
    i = i' ∧ t = t' := by
  have hread : ∀ i t : String,
      d.nameDelimiters.read (d.quoteIdentifier i ++ " " ++ t).toList =
        some (i.toList, ' ' :: t.toList) := by
    intro i t
    have hlist : (d.quoteIdentifier i ++ " " ++ t).toList =
        (d.quoteIdentifier i).toList ++ ' ' :: t.toList := by simp
    rw [hlist]
    exact d.read_quoteIdentifier i (by cases d <;> simp [nameDelimiters])
  have hpair := hread i t
  rw [h, hread i' t', Option.some.injEq, Prod.mk.injEq] at hpair
  exact ⟨(String.toList_inj.1 hpair.1).symm, (String.toList_inj.1 (List.cons.inj hpair.2).2).symm⟩

/-! ## Clauses -/

/-- The clauses of a column without constraints. -/
def flagsText (nullable unique identity : Bool) : List Char :=
  (if nullable then [] else " NOT NULL".toList) ++ (if unique then " UNIQUE".toList else []) ++
    if identity then ' ' :: d.identityClause.toList else []

theorem flagsText_inj : ∀ {n u i n' u' i' : Bool},
    d.flagsText n u i = d.flagsText n' u' i' → n = n' ∧ u = u' ∧ i = i' := by
  cases d <;> decide

theorem unreserved_flagsText : ∀ n u i : Bool, Unreserved (d.flagsText n u i) := by
  cases d <;> decide

/-- No clause begins as that of a default does. -/
theorem head?_tail_flagsText : ∀ n u i : Bool, (d.flagsText n u i).tail.head? ≠ some 'D' := by
  cases d <;> decide

theorem head?_flagsText (n u i : Bool) : ∀ c ∈ (d.flagsText n u i).head?, c = ' ' := by
  cases n <;> cases u <;> cases i <;> simp [flagsText]

end DialectName

namespace Column

variable {c c' : Column} {d : Dialect}

theorem toList_clauses (hc : c.constraints = none) (d : Dialect) :
    (c.clauses d).toList = d.name.flagsText c.nullable c.unique c.identity := by
  rw [clauses, hc, DialectName.flagsText]
  cases c.nullable <;> cases c.unique <;> cases c.identity <;> simp

/-! ## Behind the type -/

/-- The tokens behind the type of a column without constraints. -/
def tailTokens (c : Column) (d : DialectName) : List Token :=
  c.default.elim [] (fun v => Token.plain " DEFAULT ".toList ++ d.valueTokens v) ++
    Token.plain (d.flagsText c.nullable c.unique c.identity)

theorem orderly_tailTokens (c : Column) (d : DialectName) : Orderly (c.tailTokens d) := by
  unfold tailTokens
  have hflags := d.unreserved_flagsText c.nullable c.unique c.identity
  have hdefault : Unreserved " DEFAULT ".toList := by decide
  cases c.default with
  | none => exact Orderly.nil.append_plain hflags
  | some v => exact (Orderly.plain_append hdefault (d.orderly_valueTokens v)).append_plain hflags

/-- What stands behind the type is read back. -/
theorem lex_tail {clause : String} (hc : c.constraints = none)
    (h : c.defaultClause d = .ok clause) :
    d.name.lex (clause ++ c.clauses d).toList = some ((c.tailTokens d.name).map Token.read) := by
  have hflags : String.ofList (d.name.flagsText c.nullable c.unique c.identity) = c.clauses d := by
    rw [← toList_clauses hc, String.ofList_toList]
  have hsql : (Token.write d.name (c.tailTokens d.name)).sql = clause ++ c.clauses d := by
    rw [tailTokens, Token.write_append, Token.write_plain, hflags]
    rcases defaultClause_cases h with ⟨hdefault, rfl⟩ | ⟨v, l, hdefault, hl, rfl⟩
    · rw [hdefault]
      rfl
    · rw [hdefault, Option.elim, Token.write_append, Token.write_plain,
        d.name.write_valueTokens, hl]
      rfl
  rw [← hsql]
  exact (c.orderly_tailTokens d.name).lex_write d.name

/-- A default is there exactly if a D stands behind the first space. -/
theorem isSome_default_iff (c : Column) (d : DialectName) :
    c.default.isSome = true ↔
      ((c.tailTokens d).map Token.read).tail.head? = some (.plain 'D') := by
  unfold tailTokens
  cases c.default with
  | none =>
    have hflags := d.head?_tail_flagsText c.nullable c.unique c.identity
    have hread : (([] ++ Token.plain (d.flagsText c.nullable c.unique c.identity)).map
        Token.read).tail.head? =
          (d.flagsText c.nullable c.unique c.identity).tail.head?.map .plain := by
      rw [List.nil_append, Token.map_read_plain, ← List.map_tail, List.head?_map]
    simp only [Option.elim, hread, Option.isSome_none, Bool.false_eq_true, false_iff]
    simpa using hflags
  | some v => simp [Token.plain, Token.read]

/-- Tokens behind the type that are read alike are those of one default literal and of the same
clauses. -/
theorem tailTokens_inj {d : DialectName}
    (h : (c.tailTokens d).map Token.read = (c'.tailTokens d).map Token.read) :
    c.default.map d.valueLexemes = c'.default.map d.valueLexemes ∧
      c.nullable = c'.nullable ∧ c.unique = c'.unique ∧ c.identity = c'.identity := by
  have hsome : c.default.isSome = true ↔ c'.default.isSome = true := by
    rw [isSome_default_iff c d, isSome_default_iff c' d, h]
  have hinj : Function.Injective (List.map Lexeme.plain) :=
    List.map_injective_iff.2 fun _ _ => Lexeme.plain.inj
  have hhead : ∀ n u i : Bool,
      ∀ x ∈ ((d.flagsText n u i).map Lexeme.plain).head?, x = .plain ' ' := by
    intro n u i x hx
    rw [List.head?_map] at hx
    obtain ⟨a, ha, rfl⟩ := Option.map_eq_some_iff.1 hx
    rw [d.head?_flagsText n u i a ha]
  unfold tailTokens at h
  cases hv : c.default with
  | none =>
    cases hv' : c'.default with
    | none =>
      simp only [hv, hv', Option.elim, List.nil_append, Token.map_read_plain] at h
      exact ⟨rfl, d.flagsText_inj (hinj h)⟩
    | some v' => simp [hv, hv'] at hsome
  | some v =>
    cases hv' : c'.default with
    | none => simp [hv, hv'] at hsome
    | some v' =>
      simp only [hv, hv', Option.elim, List.map_append, List.append_assoc,
        Token.map_read_plain] at h
      -- the literals end at the first space behind the word that announces them
      obtain ⟨hvalue, hflags⟩ := append_inj_of_not_mem (d.space_not_mem_valueLexemes v)
        (d.space_not_mem_valueLexemes v') (hhead _ _ _) (hhead _ _ _) (List.append_cancel_left h)
      exact ⟨congrArg some hvalue, d.flagsText_inj (hinj hflags)⟩

/-! ## Definitions -/

theorem clause_eq_of_literal {clause : String} (h : c.defaultClause d = .ok clause) :
    clause = (c.default.bind d.name.literal?).elim "" (" DEFAULT " ++ ·) := by
  rcases defaultClause_cases h with ⟨hv, rfl⟩ | ⟨v, l, hv, hl, rfl⟩
  · rw [hv]
    rfl
  · rw [hv, Option.bind_some, hl]
    rfl

theorem literal_eq_of_lexemes {clause : String} (h : c.defaultClause d = .ok clause) :
    c.default.bind d.name.literal? = (c.default.map d.name.valueLexemes).map
      fun ls => String.ofList (ls.flatMap (Lexeme.write d.name)) := by
  rcases defaultClause_cases h with ⟨hv, -⟩ | ⟨v, l, hv, hl, -⟩
  · rw [hv]
    rfl
  · rw [hv, Option.bind_some, hl, Option.map_some, Option.map_some,
      d.name.ofList_valueLexemes hl]

/-- The texts behind the type are alike exactly if the default literals and the clauses are. -/
theorem tail_eq_iff {clause clause' : String} (hc : c.constraints = none)
    (hc' : c'.constraints = none) (h : c.defaultClause d = .ok clause)
    (h' : c'.defaultClause d = .ok clause') :
    clause ++ c.clauses d = clause' ++ c'.clauses d ↔
      (c.nullable = c'.nullable ∧ c.unique = c'.unique ∧ c.identity = c'.identity) ∧
        c.default.isSome = c'.default.isSome ∧
        c.default.bind d.name.literal? = c'.default.bind d.name.literal? := by
  constructor
  · intro htail
    have hread := lex_tail hc h
    rw [htail, lex_tail hc' h', Option.some.injEq] at hread
    obtain ⟨hvalues, hflags⟩ := tailTokens_inj hread.symm
    refine ⟨hflags, ?_, ?_⟩
    · simpa using congrArg Option.isSome hvalues
    · rw [literal_eq_of_lexemes h, literal_eq_of_lexemes h', hvalues]
  · rintro ⟨⟨hn, hu, hi⟩, -, hliteral⟩
    have hclauses : c.clauses d = c'.clauses d := by
      rw [← String.toList_inj, toList_clauses hc, toList_clauses hc', hn, hu, hi]
    rw [clause_eq_of_literal h, clause_eq_of_literal h', hliteral, hclauses]

/-- Columns without constraints whose types are written alike are defined alike exactly if they
agree in name, in flags and in the literal of their default, if they have one. -/
theorem definition_eq_iff {c c' : Column} {d : Dialect} {info info' : TypeInfo} {s s' : String}
    (hinfo : c.typeInfo = some info) (hinfo' : c'.typeInfo = some info')
    (htype : c.typeSpec info d = c'.typeSpec info' d)
    (hc : c.constraints = none) (hc' : c'.constraints = none)
    (hs : c.definition d = .ok s) (hs' : c'.definition d = .ok s') :
    s = s' ↔
      c.identifier = c'.identifier ∧
      (c.nullable = c'.nullable ∧ c.unique = c'.unique ∧ c.identity = c'.identity) ∧
      c.default.isSome = c'.default.isSome ∧
      c.default.bind d.name.literal? = c'.default.bind d.name.literal? := by
  obtain ⟨clause, hclause, rfl⟩ := (definition_eq_ok_iff hinfo).1 hs
  obtain ⟨clause', hclause', rfl⟩ := (definition_eq_ok_iff hinfo').1 hs'
  have hassoc : ∀ q t u v : String, q ++ " " ++ t ++ u ++ v = q ++ " " ++ (t ++ (u ++ v)) := by
    intro q t u v
    simp only [String.append_assoc]
  rw [hassoc, hassoc, htype, ← tail_eq_iff hc hc' hclause hclause']
  constructor
  · intro h
    obtain ⟨hidentifier, hbehind⟩ := d.name.quoteIdentifier_append_inj h
    exact ⟨hidentifier, (String.append_right_inj _).1 hbehind⟩
  · rintro ⟨hidentifier, htail⟩
    rw [hidentifier, htail]

/-- A text default that imitates the end of a literal and the clauses behind it, under a name that
imitates the start of a type. -/
theorem definition_eq_iff_of_imitation :
    let info : TypeInfo := { typeName := "VARCHAR", jdbcType := .varchar }
    let c : Column :=
      { Column.new "a\" VARCHAR" .string with
        nullable := true
        default := some (.text "x' NOT NULL DEFAULT 'y")
        typeInfo := some info }
    let c' : Column :=
      { Column.new "a\" VARCHAR" .string with
        default := some (.text "x")
        typeInfo := some info }
    let d := Dialect.plain .ansi
    let s := "\"a\"\" VARCHAR\" VARCHAR DEFAULT 'x'' NOT NULL DEFAULT ''y'"
    let s' := "\"a\"\" VARCHAR\" VARCHAR DEFAULT 'x' NOT NULL"
    c.definition d = .ok s ∧ c'.definition d = .ok s' ∧ s ≠ s' := by
  intro info c c' d s s'
  have hinfo : c.typeInfo = some info := rfl
  have hinfo' : c'.typeInfo = some info := rfl
  have hs : c.definition d = .ok s := by decide
  have hs' : c'.definition d = .ok s' := by decide
  refine ⟨hs, hs', fun h => ?_⟩
  have hagree := (definition_eq_iff hinfo hinfo' rfl rfl rfl hs hs').1 h
  exact absurd hagree.2.1.1 (by decide)

end Column

end TypedSql
