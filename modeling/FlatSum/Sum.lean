import FlatSum.TokenStream

namespace FlatSum

/-! What summing a list of tokens from left to right leaves: each operand taken in, the value or the
fault, and the place reached. -/

/-- One operand behind the first: the operator before it and the value with it taken in. -/
structure Fold where
  operator : Operator
  value : Amount
deriving DecidableEq, Repr

structure Sum where
  folds : List Fold
  result : Except SumError Amount
  stop : TokenStream

namespace TokenStream

/-- Sums on from `value`, behind the folds already made, which stand in reverse. -/
def sumOnto (folds : List Fold) (value : Amount) (position operands : Nat) : List Token → Sum
  | [] => ⟨folds.reverse, .ok value, ⟨position, operands, []⟩⟩
  | .number surplus :: rest =>
      ⟨folds.reverse, .error (.invalidToken (.number surplus) operands),
        ⟨position + 1, operands, rest⟩⟩
  | [.operator _] =>
      ⟨folds.reverse, .error .unexpectedEnd, ⟨position + 1, operands, []⟩⟩
  | .operator _ :: .operator second :: rest =>
      ⟨folds.reverse, .error (.invalidToken (.operator second) operands),
        ⟨position + 2, operands, rest⟩⟩
  | .operator operator :: .number operand :: rest =>
      match operator.combine? value operand with
      | some next =>
          sumOnto (⟨operator, next⟩ :: folds) next (position + 2) (operands + 1) rest
      | none =>
          ⟨folds.reverse, .error (.overflow operands), ⟨position + 2, operands + 1, rest⟩⟩

/-- Sums on from a value that stands for all that came before. -/
def resume (stream : TokenStream) (value : Amount) : Sum :=
  sumOnto [] value stream.position stream.operands stream.rest

def sum (stream : TokenStream) : Sum :=
  match stream.expectNumber with
  | (.ok value, next) => next.resume value
  | (.error error, stop) => ⟨[], .error error, stop⟩

end TokenStream

def Sum.ofTokens (tokens : List Token) : Sum := (TokenStream.ofList tokens).sum

end FlatSum
