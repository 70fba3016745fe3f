import TypedSql.Proofs.Folding
import TypedSql.Proofs.Outcome
import TypedSql.Proofs.Rendering

/-!
# Fragments of substrings

A first bound that is bound later stands in a call twice, in its start and in its length, and there
behind the second bound.  So its slots are passed on twice, and a known bound that is part of a
number passes on none (`Method.render_compiled_substring`).
-/

namespace TypedSql

open Numeral

/-- What is written for the place to start from: the next number after a known bound, or a sum. -/
def startFragment (d : DialectName) (x : Expr) : Fragment :=
  match x.literalInt? with
  | some b => .ofText (String.ofList (intText (min (b.toInt + 1) greatestInt64)))
  | none => ⟨"(" ++ (x.render d).sql ++ " + 1)", (x.render d).params⟩

/-- What is written for the number of characters: a number if both bounds are known, or a
difference, in which the second bound stands first. -/
def lengthFragment (d : DialectName) (x y : Expr) : Fragment :=
  match x.literalInt?, y.literalInt? with
  | some b, some e =>
    .ofText (String.ofList (intText (max leastInt64 (min (e.toInt - b.toInt) greatestInt64))))
  | _, _ =>
    ⟨"(" ++ (y.render d).sql ++ " - " ++ (x.render d).sql ++ ")",
      (y.render d).params ++ (x.render d).params⟩

namespace Method

variable (d : DialectName)

theorem render_startArg (x : Expr) : (startArg x).render d = startFragment d x := by
  unfold startArg startFragment
  cases x.literalInt? with
  | some b =>
    show (Expr.typedLiteral (.int (addClamped b 1)) .int).render d = _
    rw [Expr.render_typedLiteral_int, int64Text, toInt_addClamped_one]
  | none =>
    have hone : (Expr.typedLiteral (.int 1) .int).render d = .ofText "1" := by
      rw [Expr.render_typedLiteral_int]
      decide
    show (Expr.binary .plus x (.typedLiteral (.int 1) .int) (.computed .int)).render d = _
    rw [Expr.render_binary, hone]
    ext1
    · simp [Fragment.ofText, Sign.symbol, String.append_assoc]
    · simp [Fragment.ofText]

theorem render_lengthArg (x y : Expr) : (lengthArg x y).render d = lengthFragment d x y := by
  have hdifference : (Expr.binary .minus y x (.computed .int)).render d =
      ⟨"(" ++ (y.render d).sql ++ " - " ++ (x.render d).sql ++ ")",
        (y.render d).params ++ (x.render d).params⟩ := by
    rw [Expr.render_binary]
    ext1
    · simp [Sign.symbol, String.append_assoc]
    · rfl
  unfold lengthArg lengthFragment
  cases x.literalInt? with
  | none => exact hdifference
  | some b =>
    cases y.literalInt? with
    | none => exact hdifference
    | some e =>
      show (Expr.typedLiteral (.int (subClamped e b)) .int).render d = _
      rw [Expr.render_typedLiteral_int, int64Text, toInt_subClamped]

variable {f g : String} {receiver : Expr} {args xs : List Expr} {m : Mapping}

/-- A call that a substring is compiled to has the fragment of the receiver before the start and,
with two bounds, the length.  Its slots are those of the three, in this order. -/
theorem render_compiled_substring
    (h : (substring f).compile receiver args = .ok (.call g xs m)) :
    (∃ x, args = [x] ∧ (Expr.call g xs m).render d =
      ⟨f ++ "(" ++ (receiver.render d).sql ++ ", " ++ (startFragment d x).sql ++ ")",
        (receiver.render d).params ++ (startFragment d x).params⟩) ∨
    ∃ x y, args = [x, y] ∧ (Expr.call g xs m).render d =
      ⟨f ++ "(" ++ (receiver.render d).sql ++ ", " ++ (startFragment d x).sql ++ ", " ++
          (lengthFragment d x y).sql ++ ")",
        (receiver.render d).params ++ (startFragment d x).params ++
          (lengthFragment d x y).params⟩ := by
  obtain ⟨hn, hcall⟩ := eq_call_of_compile_substring h rfl
  rw [hcall, Expr.render_call]
  match args, hn with
  | [x], _ =>
    left
    refine ⟨x, rfl, ?_⟩
    simp [passedOn, render_startArg, String.append_assoc]
  | [x, y], _ =>
    right
    refine ⟨x, y, rfl, ?_⟩
    simp [passedOn, render_startArg, render_lengthArg, String.append_assoc]

/-- The first bound is a sum of a parameter and a number that is not finite, the second a column. -/
theorem render_compiled_substring_nested :
    let receiver : Expr := .parameter ⟨some "s", none⟩ (.computed .string)
    let nan : Numeral.Double := ⟨0x7FF8000000000000⟩
    let start : Expr := .binary .plus (.parameter ⟨some "i", none⟩ (.computed .int))
      (.typedLiteral (.float nan) .double) (.computed .long)
    let stop : Expr := .column ⟨some "t", "n", none⟩ (.computed .int)
    ∃ xs m, (substring "SUBSTRING").compile receiver [start, stop] =
        .ok (.call "SUBSTRING" xs m) ∧
      (Expr.call "SUBSTRING" xs m).render .ansi =
        ⟨"SUBSTRING(?, ((? + ?) + 1), (\"t\".\"n\" - (? + ?)))",
          [⟨some "s", none⟩, ⟨some "i", none⟩, ⟨none, some (.float nan)⟩, ⟨some "i", none⟩,
            ⟨none, some (.float nan)⟩]⟩ := by
  intro receiver nan start stop
  have hcompile : (substring "SUBSTRING").compile receiver [start, stop] =
      .ok (.call "SUBSTRING" (receiver :: passedOn [start, stop]) (.computed .string)) := rfl
  have hstart : startFragment .ansi start =
      ⟨"((? + ?) + 1)", [⟨some "i", none⟩, ⟨none, some (.float nan)⟩]⟩ := by decide
  have hlength : lengthFragment .ansi start stop =
      ⟨"(\"t\".\"n\" - (? + ?))", [⟨some "i", none⟩, ⟨none, some (.float nan)⟩]⟩ := by decide
  refine ⟨_, _, hcompile, ?_⟩
  obtain ⟨x, hargs, -⟩ | ⟨x, y, hargs, hrender⟩ := render_compiled_substring .ansi hcompile
  · cases hargs
  · cases hargs
    rw [hrender, hstart, hlength]
    decide

end Method

end TypedSql
