import FlatSum.Failure
import FlatSum.Proofs.TokenFault

namespace FlatSum

/-! The operands that a sum takes in behind its first. Each is taken in with the operator before it
and leaves the exact sum up to it; they are all that stand before the fault, if there is one. -/

def operandCount (tokens : List Token) : Nat := tokens.countP (!·.isOperator)

/-- The operands before the fault of the sum; without one, or where tokens run out, all of them. -/
def operandsBefore (tokens : List Token) : Except Failure Amount → Nat
  | .error (.sum (.invalidToken _ slot)) | .error (.sum (.overflow slot)) => slot
  | _ => operandCount tokens

namespace Reached

variable {tokens rest : List Token} {slot place : Nat} {value operand next : Amount} {fold : Fold}
  {operator : Operator}

theorem operandCount_take (reached : Reached tokens slot value) :
    operandCount (tokens.take (2 * slot + 1)) = slot + 1 := by
  have bound := reached.bound
  have earlier : InTurn tokens (2 * slot) :=
    fun place before => reached.inTurn place (Nat.lt_succ_of_lt before)
  have number := List.getElem?_eq_getElem bound
  have even := reached.inTurn (2 * slot) (Nat.lt_succ_self _) _ number
  rw [operandCount, List.take_add_one, number, List.countP_append,
    earlier.operands_before (Nat.le_of_lt bound)]
  simp [even]

theorem operandCount_eq (reached : Reached tokens slot value)
    (ahead : tokens.drop (2 * slot + 1) = rest) :
    operandCount tokens = slot + 1 + operandCount rest := by
  rw [← reached.operandCount_take, ← ahead, operandCount, operandCount, operandCount,
    ← List.countP_append, List.take_append_drop]

/-- An operator and an operand that can be taken in lead to the next slot. -/
theorem next_of_pair (reached : Reached tokens slot value)
    (ahead : tokens.drop (2 * slot + 1) = .operator operator :: .number operand :: rest)
    (combined : operator.combine? value operand = some next) :
    tokens[2 * slot + 1]? = some (.operator operator) ∧ Reached tokens (slot + 1) next ∧
      tokens.drop (2 * (slot + 1) + 1) = rest := by
  have lookup : ∀ offset, tokens[2 * slot + 1 + offset]? =
      (Token.operator operator :: .number operand :: rest)[offset]? := by
    intro offset
    rw [← ahead, List.getElem?_drop]
  refine ⟨lookup 0, reached.step (lookup 0) (lookup 1) combined, ?_⟩
  have further : tokens.drop (2 * slot + 1 + 2) = rest := by
    rw [← List.drop_drop, ahead]
    rfl
  exact further

/-- The folds behind the operand of a slot count on from it. -/
theorem folds_length (reached : Reached tokens slot value)
    (ahead : tokens.drop (2 * slot + 1) = rest) :
    slot + 1 + (TokenStream.resume ⟨2 * slot + 1, slot + 1, rest⟩ value).folds.length =
      operandsBefore tokens
        ((TokenStream.resume ⟨2 * slot + 1, slot + 1, rest⟩ value).result.mapError
          Failure.sum) := by
  -- By what is left of the tokens; `Reached` says where the slot stands and what was summed so far.
  induction rest using TokenStream.shapes generalizing slot value with
  | finished => exact (reached.operandCount_eq ahead).symm
  | surplus => rfl
  | hanging operator => exact (reached.operandCount_eq ahead).symm
  | doubled => rfl
  | pair operator operand rest ih =>
      cases combined : operator.combine? value operand with
      | none =>
          rw [TokenStream.resume_overflow combined]
          rfl
      | some next =>
          obtain ⟨_, reached, ahead⟩ := reached.next_of_pair ahead combined
          rw [TokenStream.resume_fold combined]
          refine Eq.trans ?_ (ih reached ahead)
          simp only [Sum.behind, List.length_append, List.length_singleton]
          exact (Nat.add_assoc (slot + 1) 1 _).symm

/-- The folds behind the operand of a slot, one for each operator in its turn. -/
theorem folds_exact (reached : Reached tokens slot value)
    (ahead : tokens.drop (2 * slot + 1) = rest)
    (made : (TokenStream.resume ⟨2 * slot + 1, slot + 1, rest⟩ value).folds[place]? = some fold) :
    tokens[2 * (slot + place) + 1]? = some (.operator fold.operator) ∧
      fold.value.toInt = exactSum tokens (slot + place + 1) := by
  induction rest using TokenStream.shapes generalizing slot value place with
  | finished => contradiction
  | surplus => contradiction
  | hanging => contradiction
  | doubled => contradiction
  | pair operator operand rest ih =>
      cases combined : operator.combine? value operand with
      | none =>
          rw [TokenStream.resume_overflow combined] at made
          contradiction
      | some next =>
          obtain ⟨sign, reached, ahead⟩ := reached.next_of_pair ahead combined
          rw [TokenStream.resume_fold combined] at made
          cases place with
          | zero =>
              cases made
              exact ⟨sign, reached.exact⟩
          | succ place =>
              rw [← Nat.add_assoc, Nat.add_right_comm slot place 1]
              exact ih reached ahead made

end Reached

namespace Sum

theorem folds_length (tokens : List Token) :
    (ofTokens tokens).folds.length =
      operandsBefore tokens ((ofTokens tokens).result.mapError Failure.sum) - 1 := by
  cases tokens with
  | nil => rfl
  | cons token rest =>
      cases token with
      | operator operator => rfl
      | number value =>
          rw [ofTokens_number]
          exact Nat.eq_sub_of_add_eq' ((Reached.first value rest).folds_length rfl)

theorem folds_exact {tokens : List Token} {place : Nat} {fold : Fold}
    (made : (ofTokens tokens).folds[place]? = some fold) :
    tokens[2 * place + 1]? = some (.operator fold.operator) ∧
      fold.value.toInt = exactSum tokens (place + 1) := by
  cases tokens with
  | nil => contradiction
  | cons token rest =>
      cases token with
      | operator operator => contradiction
      | number value =>
          have folded := (Reached.first value rest).folds_exact rfl made
          rwa [Nat.zero_add] at folded

end Sum

end FlatSum
