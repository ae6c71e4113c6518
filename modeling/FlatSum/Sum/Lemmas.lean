import FlatSum.Sum

namespace FlatSum

/-! Summing from some value on, case by case. The folds already made stay in front of those that
follow and decide nothing. -/

/-- The same sum behind folds made earlier. -/
def Sum.behind (earlier : List Fold) (sum : Sum) : Sum :=
  { sum with folds := earlier ++ sum.folds }

namespace TokenStream

variable {value : Amount} {position operands : Nat} {rest : List Token}

theorem sumOnto_append (folds earlier : List Fold) (value : Amount) (position operands : Nat)
    (tokens : List Token) :
    sumOnto (folds ++ earlier) value position operands tokens =
      (sumOnto folds value position operands tokens).behind earlier.reverse := by
  fun_induction sumOnto folds value position operands tokens with
  | case1 | case2 | case3 | case4 => simp [sumOnto, Sum.behind]
  | case5 folds value position operands operator operand rest next combined ih =>
      simpa [sumOnto, combined] using ih
  | case6 folds value position operands operator operand rest combined =>
      simp [sumOnto, combined, Sum.behind]

theorem resume_nil :
    resume ⟨position, operands, []⟩ value = ⟨[], .ok value, ⟨position, operands, []⟩⟩ := rfl

theorem resume_number {surplus : Amount} :
    resume ⟨position, operands, .number surplus :: rest⟩ value =
      ⟨[], .error (.invalidToken (.number surplus) operands), ⟨position + 1, operands, rest⟩⟩ :=
  rfl

theorem resume_end {operator : Operator} :
    resume ⟨position, operands, [.operator operator]⟩ value =
      ⟨[], .error .unexpectedEnd, ⟨position + 1, operands, []⟩⟩ := rfl

theorem resume_operator {operator second : Operator} :
    resume ⟨position, operands, .operator operator :: .operator second :: rest⟩ value =
      ⟨[], .error (.invalidToken (.operator second) operands),
        ⟨position + 2, operands, rest⟩⟩ := rfl

theorem resume_overflow {operator : Operator} {operand : Amount}
    (combined : operator.combine? value operand = none) :
    resume ⟨position, operands, .operator operator :: .number operand :: rest⟩ value =
      ⟨[], .error (.overflow operands), ⟨position + 2, operands + 1, rest⟩⟩ := by
  simp [resume, sumOnto, combined]

theorem resume_fold {operator : Operator} {operand next : Amount}
    (combined : operator.combine? value operand = some next) :
    resume ⟨position, operands, .operator operator :: .number operand :: rest⟩ value =
      (resume ⟨position + 2, operands + 1, rest⟩ next).behind [⟨operator, next⟩] := by
  simpa [resume, sumOnto, combined] using
    sumOnto_append [] [⟨operator, next⟩] next (position + 2) (operands + 1) rest

theorem sum_eq_resume {stream next : TokenStream} (first : stream.expectNumber = (.ok value, next)) :
    stream.sum = next.resume value := by
  simp [sum, first]

end TokenStream

end FlatSum
