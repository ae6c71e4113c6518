import FlatSum.Proofs.CheckedSumming

namespace FlatSum

/-! A stream of tokens after any calls. Each of them passes its checks, whatever came of those before
it, and the next sum is that of the tokens left, told from where the stream stands. -/

namespace Checked

variable {limit : Nat} {stream : TokenStream}

/-- The stream that a call leaves, whatever comes of the call. -/
def call (limit : Nat) (tally : Tally) : TokenStream.Call → Checked Tally
  | .next => do return (← next limit tally).2
  | .expectNumber => do return (← expectNumber limit tally).2
  | .sum => do return (← sum limit tally).2.2

def calls (limit : Nat) (tally : Tally) (requests : List TokenStream.Call) : Checked Tally :=
  requests.foldlM (call limit) tally

/-- Whichever call comes next, no check of it fires, and it answers as the stream does. -/
structure Answers (limit : Nat) (tally : Tally) : Prop where
  next : next limit tally = pure (tally.stream.next.1, ⟨tally.stream.next.2, tally.met⟩)
  expectNumber : expectNumber limit tally =
    pure (tally.stream.expectNumber.1, .ofStream tally.stream.expectNumber.2)
  sum : sum limit tally =
    pure (tally.stream.sum.folds, tally.stream.sum.result, .ofStream tally.stream.sum.stop)

theorem Answers.of_room (room : stream.Room limit) : Answers limit (.ofStream stream) where
  next := next_eq room stream.operands
  expectNumber := expectNumber_eq room
  sum := sum_eq room

theorem call_eq (room : stream.Room limit) (request : TokenStream.Call) :
    call limit (.ofStream stream) request = pure (.ofStream (stream.after request)) := by
  have answers := Answers.of_room room
  cases request with
  | next =>
      rw [call, answers.next, pure_bind, Tally.ofStream, TokenStream.after,
        ← TokenStream.operands_next]
      rfl
  | expectNumber => rw [call, answers.expectNumber, pure_bind, TokenStream.after]; rfl
  | sum => rw [call, answers.sum, pure_bind, TokenStream.after]; rfl

theorem calls_eq (room : stream.Room limit) (requests : List TokenStream.Call) :
    calls limit (.ofStream stream) requests = pure (.ofStream (stream.afterAll requests)) := by
  induction requests generalizing stream with
  | nil => rfl
  | cons request requests ih =>
      rw [calls, List.foldlM_cons, call_eq room, pure_bind]
      exact ih (room.of_follows (TokenStream.follows_after stream request))

end Checked

namespace TokenStream

variable {tokens : List Token} {stream : TokenStream}

/-- A stream that has taken tokens off the front of `tokens`, `met` of them as operands. -/
structure On (tokens : List Token) (met : Nat) (stream : TokenStream) : Prop where
  inside : stream.position ≤ tokens.length
  ahead : stream.rest = tokens.drop stream.position
  counted : stream.operands = met
  numbers : met ≤ operandCount (tokens.take stream.position)

theorem on_of_follows (follows : Follows (ofList tokens) stream) :
    stream.On tokens stream.operands := by
  obtain ⟨taken, split, place, count⟩ := follows
  simp only [ofList, Nat.zero_add] at split place count
  subst split
  refine ⟨?_, ?_, rfl, ?_⟩
  · rw [place, List.length_append]
    exact Nat.le_add_right _ _
  · rw [place, List.drop_left]
  · rwa [place, List.take_left]

/-- Calls made in any order leave the stream on its tokens, and never behind where it stood. What a
sum makes of it then is what it makes of the tokens left, with the places moved; once a sum has found
the end nothing more comes of the stream. -/
theorem stands_after_calls {limit : Nat} (fits : tokens.length ≤ limit) (calls : List Call) :
    let stream := (ofList tokens).afterAll calls
    ∃ met, Checked.calls limit ⟨ofList tokens, 0⟩ calls = pure ⟨stream, met⟩ ∧
      stream.On tokens met ∧ (∀ more, stream.position ≤ (stream.afterAll more).position) ∧
      Checked.Answers limit ⟨stream, met⟩ ∧
      stream.sum = (Sum.ofTokens (tokens.drop stream.position)).shift stream.position met ∧
      ((∃ value, stream.sum.result = .ok value) ∨ stream.sum.result = .error .unexpectedEnd →
        ∀ more, (stream.sum.stop.afterAll more).sum.result = .error .unexpectedEnd ∧
          (stream.sum.stop.afterAll more).next.1 = none) := by
  intro stream
  have follows : Follows (ofList tokens) stream := follows_afterAll (ofList tokens) calls
  have room : (ofList tokens).Room limit := .ofList fits
  have on := on_of_follows follows
  refine ⟨stream.operands, Checked.calls_eq room calls, on, fun more => ?_,
    .of_room (room.of_follows follows), ?_, fun ended more => ?_⟩
  · obtain ⟨taken, _, place, _⟩ := follows_afterAll stream more
    rw [place]
    exact Nat.le_add_right _ _
  · rw [sum_eq_shift, on.ahead]
  · refine exhausted_afterAll (rest_of_sum_end fun error failed => ?_) more
    rcases ended with ⟨value, summed⟩ | ended
    · rw [summed] at failed
      cases failed
    · rw [ended] at failed
      cases failed
      rfl

/-- A sum that stops at the second of two numbers, and a token taken past it: of what is left the
first number is the third operand. -/
theorem stands_after_failed_sum :
    let tokens : List Token := [.number 10, .operator .plus, .number 3, .number 3, .operator .plus,
      .number 7, .number 8, .operator .minus]
    tokens.length ≤ 18446744073709551615 ∧
      Checked.calls 18446744073709551615 ⟨ofList tokens, 0⟩ [.sum, .next] =
        pure ⟨⟨5, 2, [.number 7, .number 8, .operator .minus]⟩, 2⟩ ∧
      (ofList tokens).sum.result = .error (.invalidToken (.number 3) 2) ∧
      ((ofList tokens).afterAll [.sum, .next]).sum =
        (Sum.ofTokens [.number 7, .number 8, .operator .minus]).shift 5 2 ∧
      ((ofList tokens).afterAll [.sum, .next]).sum =
        ⟨[], .error (.invalidToken (.number 8) 3), ⟨7, 3, [.operator .minus]⟩⟩ := by
  intro tokens
  have fits : tokens.length ≤ 18446744073709551615 := by decide
  have reached : (ofList tokens).afterAll [.sum, .next] =
      ⟨5, 2, [.number 7, .number 8, .operator .minus]⟩ := by rfl
  obtain ⟨met, ran, on, -, -, summed, -⟩ := stands_after_calls fits [.sum, .next]
  rw [reached] at ran on summed ⊢
  obtain rfl : 2 = met := on.counted
  exact ⟨fits, ran, rfl, summed, rfl⟩

end TokenStream

end FlatSum
