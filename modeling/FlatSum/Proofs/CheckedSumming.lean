import FlatSum.Proofs.CheckedReading
import FlatSum.Proofs.StreamCalls

namespace FlatSum

/-! Summing makes no check fire. An operand is counted before its slot is computed, and neither the
tokens taken nor the operands counted are more than the tokens there are. -/

/-- The stream with every operand it has counted met as expected. -/
def Checked.Tally.ofStream (stream : TokenStream) : Tally := ⟨stream, stream.operands⟩

/-- Counts stay within a machine word, however many of the tokens left are taken. -/
structure TokenStream.Room (limit : Nat) (stream : TokenStream) : Prop where
  tokens : stream.position + stream.rest.length ≤ limit
  operands : stream.operands + stream.rest.length ≤ limit

theorem TokenStream.Room.of_cons {limit position operands : Nat} {token : Token} {rest : List Token}
    (room : Room limit ⟨position, operands, token :: rest⟩) :
    position + 1 ≤ limit ∧ operands + 1 ≤ limit :=
  ⟨Nat.le_trans (Nat.add_le_add_left (Nat.le_add_left 1 rest.length) position) room.tokens,
    Nat.le_trans (Nat.add_le_add_left (Nat.le_add_left 1 rest.length) operands) room.operands⟩

theorem TokenStream.Room.of_follows {limit : Nat} {stream later : TokenStream}
    (room : stream.Room limit) (follows : Follows stream later) : later.Room limit := by
  obtain ⟨taken, split, place, count⟩ := follows
  obtain ⟨tokens, operands⟩ := room
  have few : operandCount taken ≤ taken.length := List.countP_le_length
  rw [split, List.length_append] at tokens operands
  exact ⟨by omega, by omega⟩

theorem TokenStream.Room.ofList {limit : Nat} {tokens : List Token} (fits : tokens.length ≤ limit) :
    (TokenStream.ofList tokens).Room limit := by
  refine ⟨?_, ?_⟩ <;> simpa [TokenStream.ofList] using fits

namespace Checked

open TokenStream

variable {limit : Nat} {stream : TokenStream} {position operands : Nat} {rest : List Token}
  {value : Amount}

theorem next_eq (room : stream.Room limit) (met : Nat) :
    next limit ⟨stream, met⟩ = pure (stream.next.1, ⟨stream.next.2, met⟩) := by
  obtain ⟨position, operands, rest⟩ := stream
  cases rest with
  | nil => rfl
  | cons token rest =>
      simp only [next, TokenStream.next, add_of_le room.of_cons.1, pure_bind]

theorem expectNumber_eq (room : stream.Room limit) :
    expectNumber limit (.ofStream stream) =
      pure (stream.expectNumber.1, .ofStream stream.expectNumber.2) := by
  obtain ⟨position, operands, rest⟩ := stream
  rw [Tally.ofStream, expectNumber, next_eq room, pure_bind]
  cases rest with
  | nil => rfl
  | cons token rest =>
      cases token with
      | operator operator => rfl
      | number value =>
          simp only [TokenStream.next, add_of_le room.of_cons.2, pure_bind]
          rfl

/-- The slot of an operand just counted is the number of those before it. -/
theorem checkedSub_slot (operands : Nat) : of (checkedSub (operands + 1) 1) = pure operands := by
  rw [checkedSub_eq_ok_iff.mpr rfl, of_ok]

/-- Behind an operator a number is expected. -/
theorem sumOnto_operator {operator : Operator} (folds : List Fold)
    (room : Room limit ⟨position, operands, .operator operator :: rest⟩) :
    Tally.sumOnto limit folds value (.ofStream ⟨position, operands, .operator operator :: rest⟩) =
      (match TokenStream.expectNumber ⟨position + 1, operands, rest⟩ with
      | (.error error, stop) => pure (folds, .error error, .ofStream stop)
      | (.ok operand, taken) => do
          let slot ← of (checkedSub taken.operands 1)
          match operator.combine? value operand with
          | none => return (folds, .error (.overflow slot), .ofStream taken)
          | some total =>
              Tally.sumOnto limit (folds ++ [⟨operator, total⟩]) total (.ofStream taken)) := by
  have behind : Room limit ⟨position + 1, operands, rest⟩ := room.of_follows (follows_next _)
  have expected := expectNumber_eq behind
  rw [Tally.sumOnto, Tally.ofStream, next_eq room, pure_bind]
  simp only [TokenStream.next]
  rw [← Tally.ofStream, expected, pure_bind]
  rcases TokenStream.expectNumber ⟨position + 1, operands, rest⟩ with ⟨_ | operand, taken⟩ <;> rfl

theorem sumOnto_eq (room : Room limit ⟨position, operands, rest⟩) (folds : List Fold) :
    Tally.sumOnto limit folds value (.ofStream ⟨position, operands, rest⟩) =
      pure (folds ++ (resume ⟨position, operands, rest⟩ value).folds,
        (resume ⟨position, operands, rest⟩ value).result,
        .ofStream (resume ⟨position, operands, rest⟩ value).stop) := by
  induction rest using shapes generalizing position operands value folds with
  | finished =>
      rw [Tally.sumOnto, Tally.ofStream, next_eq room, pure_bind, resume_nil, List.append_nil]
      rfl
  | surplus surplus rest =>
      rw [Tally.sumOnto, Tally.ofStream, next_eq room, pure_bind, resume_number, List.append_nil]
      rfl
  | hanging operator =>
      rw [sumOnto_operator folds room, resume_end, List.append_nil]
      rfl
  | doubled operator second rest =>
      rw [sumOnto_operator folds room, resume_operator, List.append_nil]
      rfl
  | pair operator operand rest ih =>
      have taken : Room limit ⟨position + 2, operands + 1, rest⟩ :=
        (room.of_follows (follows_next _)).of_follows (follows_expectNumber _)
      rw [sumOnto_operator folds room]
      simp only [TokenStream.expectNumber, TokenStream.next, checkedSub_slot, pure_bind]
      cases combined : operator.combine? value operand with
      | none =>
          rw [resume_overflow combined, List.append_nil]
      | some total =>
          rw [resume_fold combined]
          simp only [ih taken, Sum.behind, List.append_assoc]

theorem sum_eq (room : stream.Room limit) :
    sum limit (.ofStream stream) =
      pure (stream.sum.folds, stream.sum.result, .ofStream stream.sum.stop) := by
  have behind := room.of_follows (follows_expectNumber stream)
  rw [sum, expectNumber_eq room, pure_bind]
  cases expected : stream.expectNumber with
  | mk outcome taken =>
      rw [expected] at behind
      cases outcome with
      | error error => simp only [TokenStream.sum, expected]
      | ok value =>
          rw [sum_eq_resume expected]
          exact sumOnto_eq behind []

end Checked

end FlatSum
