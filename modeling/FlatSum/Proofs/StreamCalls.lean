import FlatSum.Proofs.Folding

namespace FlatSum

/-! A stream of tokens and the calls that may be made of it, in any order and whatever came of earlier
ones. A call only takes tokens off the front, and where the stream stands decides nothing about a sum
but the places that it names. -/

/-- The same sum behind that many tokens, of which so many were taken as operands. -/
def Sum.shift (sum : Sum) (tokens operands : Nat) : Sum where
  folds := sum.folds
  result := sum.result.mapError (·.shift operands)
  stop := ⟨sum.stop.position + tokens, sum.stop.operands + operands, sum.stop.rest⟩

theorem Sum.shift_error (folds : List Fold) (error : SumError) (stop : TokenStream)
    (tokens operands : Nat) :
    Sum.shift ⟨folds, .error error, stop⟩ tokens operands =
      ⟨folds, .error (error.shift operands),
        ⟨stop.position + tokens, stop.operands + operands, stop.rest⟩⟩ := rfl

theorem Sum.shift_behind (sum : Sum) (folds : List Fold) (tokens operands : Nat) :
    (sum.behind folds).shift tokens operands = (sum.shift tokens operands).behind folds := rfl

namespace TokenStream

inductive Call where
  | next
  | expectNumber
  | sum
deriving DecidableEq, Repr

/-- The stream that a call leaves. -/
def after (stream : TokenStream) : Call → TokenStream
  | .next => stream.next.2
  | .expectNumber => stream.expectNumber.2
  | .sum => stream.sum.stop

def afterAll (stream : TokenStream) (calls : List Call) : TokenStream := calls.foldl after stream

/-- The later stream has taken some tokens, and counted no more operands than there are numbers among
them. -/
def Follows (stream later : TokenStream) : Prop :=
  ∃ taken, stream.rest = taken ++ later.rest ∧ later.position = stream.position + taken.length ∧
    later.operands ≤ stream.operands + operandCount taken

variable {stream later last : TokenStream} {position operands : Nat} {rest : List Token}
  {value : Amount}

theorem Follows.refl (stream : TokenStream) : Follows stream stream :=
  ⟨[], rfl, rfl, Nat.le_refl _⟩

theorem Follows.trans (first : Follows stream later) (second : Follows later last) :
    Follows stream last := by
  obtain ⟨front, whole, place, count⟩ := first
  obtain ⟨back, split, reached, more⟩ := second
  refine ⟨front ++ back, ?_, ?_, ?_⟩
  · rw [whole, split, List.append_assoc]
  · rw [reached, place, List.length_append, Nat.add_assoc]
  · rw [operandCount, List.countP_append, ← operandCount, ← operandCount]
    omega

/-- Tokens taken without counting an operand. -/
theorem Follows.of_take (taken : List Token) (position operands : Nat) (rest : List Token) :
    Follows ⟨position, operands, taken ++ rest⟩ ⟨position + taken.length, operands, rest⟩ :=
  ⟨taken, rfl, rfl, Nat.le_add_right _ _⟩

theorem follows_next (stream : TokenStream) : Follows stream stream.next.2 := by
  obtain ⟨position, operands, rest⟩ := stream
  cases rest with
  | nil => exact .refl _
  | cons token rest => exact .of_take [token] position operands rest

theorem operands_next (stream : TokenStream) : stream.next.2.operands = stream.operands := by
  obtain ⟨position, operands, rest⟩ := stream
  cases rest <;> rfl

theorem follows_expectNumber (stream : TokenStream) : Follows stream stream.expectNumber.2 := by
  obtain ⟨position, operands, rest⟩ := stream
  cases rest with
  | nil => exact .refl _
  | cons token rest =>
      cases token with
      | number value => exact ⟨[.number value], rfl, rfl, Nat.le_refl _⟩
      | operator operator => exact .of_take [.operator operator] position operands rest

theorem follows_resume (position operands : Nat) (rest : List Token) (value : Amount) :
    Follows ⟨position, operands, rest⟩ (resume ⟨position, operands, rest⟩ value).stop := by
  induction rest using shapes generalizing position operands value with
  | finished => exact .refl _
  | surplus surplus rest => exact .of_take [.number surplus] position operands rest
  | hanging operator => exact .of_take [.operator operator] position operands []
  | doubled operator second rest =>
      exact .of_take [.operator operator, .operator second] position operands rest
  | pair operator operand rest ih =>
      have taken : Follows ⟨position, operands, .operator operator :: .number operand :: rest⟩
          ⟨position + 2, operands + 1, rest⟩ :=
        ⟨[.operator operator, .number operand], rfl, rfl, Nat.le_refl _⟩
      cases combined : operator.combine? value operand with
      | none =>
          rw [resume_overflow combined]
          exact taken
      | some total =>
          rw [resume_fold combined]
          exact taken.trans (ih (position + 2) (operands + 1) total)

theorem follows_sum (stream : TokenStream) : Follows stream stream.sum.stop := by
  have first := follows_expectNumber stream
  cases expected : stream.expectNumber with
  | mk outcome next =>
      rw [expected] at first
      cases outcome with
      | ok value =>
          rw [sum_eq_resume expected]
          exact first.trans (follows_resume next.position next.operands next.rest value)
      | error error =>
          rw [sum, expected]
          exact first

theorem follows_after (stream : TokenStream) (call : Call) : Follows stream (stream.after call) := by
  cases call with
  | next => exact follows_next stream
  | expectNumber => exact follows_expectNumber stream
  | sum => exact follows_sum stream

theorem follows_afterAll (stream : TokenStream) (calls : List Call) :
    Follows stream (stream.afterAll calls) := by
  induction calls generalizing stream with
  | nil => exact .refl stream
  | cons call calls ih => exact (follows_after stream call).trans (ih (stream.after call))

theorem resume_shift (tokens counted position operands : Nat) (rest : List Token) (value : Amount) :
    resume ⟨position + tokens, operands + counted, rest⟩ value =
      (resume ⟨position, operands, rest⟩ value).shift tokens counted := by
  induction rest using shapes generalizing position operands value with
  | finished => rfl
  | surplus surplus rest =>
      rw [resume_number, resume_number, Nat.add_right_comm position]
      rfl
  | hanging operator =>
      rw [resume_end, resume_end, Nat.add_right_comm position]
      rfl
  | doubled operator second rest =>
      rw [resume_operator, resume_operator, Nat.add_right_comm position]
      rfl
  | pair operator operand rest ih =>
      cases combined : operator.combine? value operand with
      | none =>
          rw [resume_overflow combined, resume_overflow combined, Nat.add_right_comm position,
            Nat.add_right_comm operands]
          rfl
      | some total =>
          rw [resume_fold combined, resume_fold combined, Nat.add_right_comm position,
            Nat.add_right_comm operands, ih, Sum.shift_behind]

/-- Summing from where a stream stands is summing what it has left. -/
theorem sum_eq_shift (stream : TokenStream) :
    stream.sum = (Sum.ofTokens stream.rest).shift stream.position stream.operands := by
  obtain ⟨position, operands, rest⟩ := stream
  cases rest with
  | nil => simp [sum, expectNumber, next, Sum.ofTokens_nil, Sum.shift_error, SumError.shift]
  | cons token rest =>
      cases token with
      | operator operator =>
          simp [sum, expectNumber, next, Sum.ofTokens_operator, Sum.shift_error, SumError.shift,
            Nat.add_comm]
      | number value =>
          rw [Sum.ofTokens_number, ← resume_shift position operands 1 1 rest value,
            Nat.add_comm 1 position, Nat.add_comm 1 operands]
          rfl

theorem rest_of_resume_end (ended : ∀ error, (resume stream value).result = .error error →
      error = .unexpectedEnd) : (resume stream value).stop.rest = [] := by
  obtain ⟨position, operands, rest⟩ := stream
  induction rest using shapes generalizing position operands value with
  | finished => rfl
  | surplus surplus rest => cases ended _ rfl
  | hanging operator => rfl
  | doubled operator second rest => cases ended _ rfl
  | pair operator operand rest ih =>
      cases combined : operator.combine? value operand with
      | none =>
          rw [resume_overflow combined] at ended
          cases ended _ rfl
      | some total =>
          rw [resume_fold combined] at ended ⊢
          exact ih (position + 2) (operands + 1) ended

/-- A sum that succeeds, or fails for want of tokens, has taken them all. -/
theorem rest_of_sum_end (ended : ∀ error, stream.sum.result = .error error →
      error = .unexpectedEnd) : stream.sum.stop.rest = [] := by
  obtain ⟨position, operands, rest⟩ := stream
  cases rest with
  | nil => rfl
  | cons token rest =>
      cases token with
      | operator operator => cases ended _ rfl
      | number value => exact rest_of_resume_end ended

/-- Nothing more comes of a stream without tokens. -/
theorem exhausted_afterAll (nothing : stream.rest = []) (calls : List Call) :
    (stream.afterAll calls).sum.result = .error .unexpectedEnd ∧
      (stream.afterAll calls).next.1 = none := by
  obtain ⟨taken, split, _⟩ := follows_afterAll stream calls
  have left : (stream.afterAll calls).rest = [] := by
    rw [nothing] at split
    exact (List.append_eq_nil_iff.mp split.symm).2
  simp [sum, expectNumber, next, left]

end TokenStream

end FlatSum
