import FlatSum.Sum.Lemmas

namespace FlatSum

/-! Summing a list of tokens, by the shapes that it can have behind the first operand. -/

/-- Summing looks at an operator together with what follows it. -/
@[elab_as_elim]
theorem TokenStream.shapes {motive : List Token → Prop} (finished : motive [])
    (surplus : ∀ value rest, motive (.number value :: rest))
    (hanging : ∀ operator, motive [.operator operator])
    (doubled : ∀ operator second rest, motive (.operator operator :: .operator second :: rest))
    (pair : ∀ operator operand rest, motive rest →
      motive (.operator operator :: .number operand :: rest))
    (tokens : List Token) : motive tokens :=
  match tokens with
  | [] => finished
  | .number value :: rest => surplus value rest
  | [.operator operator] => hanging operator
  | .operator operator :: .operator second :: rest => doubled operator second rest
  | .operator operator :: .number operand :: rest =>
      pair operator operand rest (TokenStream.shapes finished surplus hanging doubled pair rest)

namespace Sum

theorem ofTokens_nil : ofTokens [] = ⟨[], .error .unexpectedEnd, ⟨0, 0, []⟩⟩ := rfl

theorem ofTokens_operator (operator : Operator) (rest : List Token) :
    ofTokens (.operator operator :: rest) =
      ⟨[], .error (.invalidToken (.operator operator) 0), ⟨1, 0, rest⟩⟩ := rfl

theorem ofTokens_number (value : Amount) (rest : List Token) :
    ofTokens (.number value :: rest) = TokenStream.resume ⟨1, 1, rest⟩ value := rfl

end Sum

end FlatSum
